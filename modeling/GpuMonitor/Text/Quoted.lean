import GpuMonitor.Text.Number
import GpuMonitor.Text.Shown
import GpuMonitor.Text.Utf8

/-!
# Bytes in quotation marks

A string of bytes written so that every byte of it can be told: what would not show is
written with a backslash, a character by its code point and a byte that belongs to no
character by its value.

* `quotedChar`, `quotedByte`: one character, one byte.
* `quoted`: a string of bytes.
-/

namespace GpuMonitor.Text

/-- A character between quotation marks. -/
def quotedChar (c : Char) : List Char :=
  if c = '\x00' then ['\\', '0']
  else if c = '\t' then ['\\', 't']
  else if c = '\n' then ['\\', 'n']
  else if c = '\r' then ['\\', 'r']
  else if c = '"' ∨ c = '\\' then ['\\', c]
  else if shows c then [c]
  else ['\\', 'u', '\x7b'] ++ Nat.toDigits 16 c.toNat ++ ['\x7d']

/-- A byte that belongs to no character. -/
def quotedByte (b : UInt8) : List Char :=
  ['\\', 'x'] ++ (zeroPadded 2 (Nat.toDigits 16 b.toNat)).map Char.toUpper

/-- A string of bytes without its quotation marks, at most so many characters of it. -/
def quotedChars : Nat → Bytes → List Char
  | _, [] => []
  | 0, _ => []
  | n + 1, b :: rest =>
    match firstChar? (b :: rest) with
    | some (c, rest) => quotedChar c ++ quotedChars n rest
    | none => quotedByte b ++ quotedChars n rest

/-- A string of bytes in quotation marks. -/
def quoted (bytes : Bytes) : String :=
  String.ofList ('"' :: quotedChars bytes.length bytes ++ ['"'])

end GpuMonitor.Text
