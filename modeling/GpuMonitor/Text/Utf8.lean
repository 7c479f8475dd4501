/-!
# Bytes read as UTF-8, with replacement

A name or a path is a string of bytes that need not be UTF-8. `decodeLossy` reads
it with a machine that looks at one byte at a time: a byte that continues the
character begun is taken in, and any other byte closes the bad start with one
U+FFFD and is read afresh. So each longest run of bytes that begins a character
and stays unfinished (a *maximal invalid part*) becomes one U+FFFD.

* `Partial.ready`: no character is begun; `Partial.within`: one is.
* `decodeLossy`: all bytes, from `ready`.
* `Bytes.cString`: the part of a buffer before its first zero byte.
-/

namespace GpuMonitor

/-- A string of bytes of any encoding. -/
abbrev Bytes := List UInt8

namespace Text

/-- What stands for bytes that are not UTF-8. -/
def replacement : Char := '\uFFFD'

/-- How far the character being read has come. -/
inductive Partial where
  /-- No character is begun. -/
  | ready
  /-- The bits read so far, how many bytes follow the next one, and the bounds of the next one. -/
  | within (bits : Nat) (left : Nat) (low high : UInt8)
  deriving DecidableEq

/-- Reads a byte at the start of a character. -/
def begin (b : UInt8) : List Char × Partial :=
  if b < 0x80 then ([Char.ofNat b.toNat], .ready)
  else if b < 0xC2 then ([replacement], .ready)
  else if b < 0xE0 then ([], .within (b.toNat - 0xC0) 0 0x80 0xBF)
  else if b = 0xE0 then ([], .within 0 1 0xA0 0xBF)
  else if b = 0xED then ([], .within 0xD 1 0x80 0x9F)
  else if b < 0xF0 then ([], .within (b.toNat - 0xE0) 1 0x80 0xBF)
  else if b = 0xF0 then ([], .within 0 2 0x90 0xBF)
  else if b < 0xF4 then ([], .within (b.toNat - 0xF0) 2 0x80 0xBF)
  else if b = 0xF4 then ([], .within 4 2 0x80 0x8F)
  else ([replacement], .ready)

/-- Reads one byte: the characters that it settles, and how far reading has come. -/
def Partial.advance : Partial → UInt8 → List Char × Partial
  | .ready, b => begin b
  | .within bits left low high, b =>
    if low ≤ b ∧ b ≤ high then
      let bits := bits * 64 + (b.toNat - 0x80)
      match left with
      | 0 => ([Char.ofNat bits], .ready)
      | left + 1 => ([], .within bits left 0x80 0xBF)
    else
      let (settled, next) := begin b
      (replacement :: settled, next)

/-- Reads all bytes; a character left unfinished at the end is replaced. -/
def Partial.decode : Partial → Bytes → List Char
  | .ready, [] => []
  | .within .., [] => [replacement]
  | p, b :: rest => (p.advance b).1 ++ (p.advance b).2.decode rest

/-- The characters of a string of bytes, with U+FFFD for each maximal invalid part. -/
def decodeLossy (bytes : Bytes) : List Char := Partial.ready.decode bytes

end Text

/-- The text of a string of bytes, with U+FFFD for each maximal invalid part. -/
def Bytes.text (bytes : Bytes) : String := String.ofList (Text.decodeLossy bytes)

/-- The bytes of a text. -/
def Bytes.ofText (text : String) : Bytes := text.toUTF8.toList

/-- What a reader of zero-terminated strings sees of a buffer. -/
def Bytes.cString (bytes : Bytes) : Bytes := bytes.takeWhile (· != 0)

namespace Text

/-- The character that a string of bytes begins with, and what is left. -/
def firstChar? (bytes : Bytes) : Option (Char × Bytes) :=
  [1, 2, 3, 4].findSome? fun n =>
    match decodeLossy (bytes.take n) with
    | [c] =>
      if Bytes.ofText (String.singleton c) = bytes.take n then some (c, bytes.drop n) else none
    | _ => none

/-- The characters that a string of bytes begins with, at most so many, and what is left. -/
def leadingChars : Nat → Bytes → List Char × Bytes
  | 0, bytes => ([], bytes)
  | n + 1, bytes =>
    match firstChar? bytes with
    | none => ([], bytes)
    | some (c, rest) =>
      let (chars, rest) := leadingChars n rest
      (c :: chars, rest)

end Text
end GpuMonitor
