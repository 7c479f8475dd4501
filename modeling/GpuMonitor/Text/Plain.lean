import GpuMonitor.Text.Utf8

/-!
# Text without control sequences

A text that may go to a file and not to a terminal is written without the sequences that
steer a terminal: escape sequences, control sequences, strings for the terminal, and
control characters other than blanks. A machine reads the text character by character.

A blank within an escape or control sequence is one for the terminal to write at once. It
stays, and so does what follows it, up to the next character that would not stay outside
of any sequence. There the sequence goes on, unless a character beyond ASCII has ended it.

* `Sequence.step`: where reading goes on after a character that is no blank.
* `Reader.step`: where reading goes on after any character, and whether it stays.
* `plain`: the characters that stay.
-/

namespace GpuMonitor.Text

/-- What the next character belongs to. -/
inductive Sequence where
  | ground
  /-- After an escape character. -/
  | escape
  /-- After an escape character and at least one intermediate character. -/
  | escapeMiddle
  /-- In a control sequence. -/
  | control
  /-- In a string that a bell ends. -/
  | command
  /-- In a string that only its terminator ends, as is the body of a device string. -/
  | quiet
  /-- Among the parameters of a device string; at first, and after a parameter. -/
  | deviceFirst
  | deviceParameters
  /-- After the parameters of a device string. -/
  | deviceMiddle
  deriving DecidableEq, Repr

/-- The character is a blank. -/
def isBlank (c : Char) : Bool := c = '\t' || c = '\n' || c = '\x0c' || c = '\r'

/-- The character stays outside of any sequence. -/
def stays (c : Char) : Bool := isBlank c || (' ' ≤ c && c ≠ '\x7f')

/-- The character lies between two others, or is one of them. -/
def between (first last : Char) (c : Char) : Bool := first ≤ c && c ≤ last

/-- One of the bytes of the character is the terminator of strings. -/
def holdsTerminator (c : Char) : Bool := 0x9C ∈ Bytes.ofText (String.singleton c)

namespace Sequence

/-- Where an escape character leads together with the character after it. -/
def afterEscape (c : Char) : Sequence :=
  if between ' ' '/' c then escapeMiddle
  else if c = '[' then control
  else if c = ']' then command
  else if c = 'P' then deviceFirst
  else if c = 'X' ∨ c = '^' ∨ c = '_' then quiet
  else if between '0' '~' c then ground
  else escape

/-- Where the head of a device string leads together with the character after it. What is
out of place there makes the whole string void, which ends it no sooner. -/
def afterDevice (here : Sequence) (c : Char) : Sequence :=
  if between ' ' '/' c then deviceMiddle
  else if between '@' '~' c then quiet
  else if between '0' ';' c then
    if here = deviceMiddle then quiet else deviceParameters
  else if between '<' '?' c then
    -- A private mark comes first, if anywhere.
    if here = deviceFirst then deviceParameters else quiet
  else here

/-- Where reading goes on after a character that is not to be written at once. -/
def step (here : Sequence) (c : Char) : Sequence :=
  if c = '\x1b' then escape
  else if c = '\x18' ∨ c = '\x1a' then ground
  else
    match here with
    | ground => ground
    | escape => afterEscape c
    | escapeMiddle => if between '0' '~' c then ground else escapeMiddle
    | control => if between '@' '~' c then ground else control
    | command => if c = '\x07' then ground else command
    | quiet => if holdsTerminator c then ground else quiet
    | deviceFirst | deviceParameters | deviceMiddle => afterDevice here c

/-- A blank within the sequence is written at once. -/
def admitsBlank : Sequence → Bool
  | ground | escape | escapeMiddle | control => true
  | _ => false

end Sequence

/-- How far reading has come. -/
structure Reader where
  place : Sequence := .ground
  /-- Characters are being written at once, whatever sequence they stand in. -/
  writing : Bool := false
  deriving DecidableEq, Repr

/-- Where reading goes on after a character, and whether the character stays. -/
def Reader.step (r : Reader) (c : Char) : Reader × Bool :=
  -- Within a sequence only a blank can begin a run of characters that stay.
  let begins := if r.place = .ground then stays c else isBlank c && r.place.admitsBlank
  if begins || (r.writing && stays c) then
    -- A character of several bytes leaves the sequence behind.
    (⟨if c.toNat < 0x80 then r.place else .ground, true⟩, true)
  else (⟨r.place.step c, false⟩, false)

/-- The characters that stay. -/
def Reader.read (r : Reader) : List Char → List Char
  | [] => []
  | c :: rest =>
    let (next, kept) := r.step c
    if kept then c :: next.read rest else next.read rest

/-- A text without control sequences. -/
def plain (text : String) : String := String.ofList (Reader.read {} text.toList)

end GpuMonitor.Text
