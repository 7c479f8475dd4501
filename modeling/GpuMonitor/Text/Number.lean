/-!
# Natural numbers in text

Decimal and hexadecimal digits, padding on the left, and the fraction digits of a
decimal number with its closing zeros dropped.
-/

namespace GpuMonitor.Text

/-- The decimal digits of a number. -/
def decimal (n : Nat) : String := String.ofList (Nat.toDigits 10 n)

/-- The digits with zeros put before them up to a width. -/
def zeroPadded (width : Nat) (digits : List Char) : List Char :=
  List.replicate (width - digits.length) '0' ++ digits

/-- The hexadecimal digits with capital letters. -/
def hexUpper (n : Nat) : String := String.ofList ((Nat.toDigits 16 n).map Char.toUpper)

/-- The hexadecimal digits with small letters, at least four of them. -/
def hexFour (n : Nat) : String := String.ofList (zeroPadded 4 (Nat.toDigits 16 n))

/-- A list of digits without its closing zeros. -/
def dropClosingZeros (digits : List Char) : List Char :=
  digits.foldr (fun c rest => if c = '0' ∧ rest = [] then [] else c :: rest) []

/-- `whole + part / 10^width` in decimal, without closing zeros, and without a point
when no digit follows it. -/
def decimalFraction (whole part width : Nat) : List Char :=
  let digits := dropClosingZeros (zeroPadded width (Nat.toDigits 10 part))
  Nat.toDigits 10 whole ++ if digits = [] then [] else '.' :: digits

end GpuMonitor.Text
