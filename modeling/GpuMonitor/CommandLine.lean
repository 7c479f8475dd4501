import GpuMonitor.CommandLine.Options
import GpuMonitor.Text.Similarity

/-!
# The command line

What the arguments of the monitor ask for. Arguments are strings of bytes. An argument
with two hyphens names a switch, one with a single hyphen is a cluster of switches of
one letter each, and after `--` there are no switches any more. The switch for a
library takes a value, which is looked at only when the next switch comes or the
arguments end.

* `Switch`: what can be given.
* `Complaint`: why arguments are refused. `Request`: what arguments ask for.
* `Reading`: how far reading has come; `Reading.take` reads one argument.
* `parse`: reads all arguments. A variable of the environment stands in for a library
  that is not given.
-/

namespace GpuMonitor.CommandLine

/-- What can be given on the command line. -/
inductive Switch where
  | snapshot
  | library
  | verbose
  | help
  deriving DecidableEq, Repr

namespace Switch

/-- Every switch, in the order of the help text. -/
def all : List Switch := [snapshot, library, verbose, help]

/-- The name after two hyphens. -/
def name : Switch → String
  | snapshot => "snapshot"
  | library => "library"
  | verbose => "verbose"
  | help => "help"

/-- The letter after one hyphen. -/
def letter? : Switch → Option Char
  | snapshot => some 's'
  | library => none
  | verbose => some 'v'
  | help => some 'h'

/-- The switch of a name. -/
def ofName? (name : Bytes) : Option Switch := all.find? fun s => Bytes.ofText s.name = name

/-- The switch of a letter. -/
def ofLetter? (c : Char) : Option Switch := all.find? fun s => s.letter? = some c

/-- How alike a word and the name of a switch must be for a suggestion: above 0.7. -/
def likeness : Binary64 := .ofBits 0x3FE6666666666666

/-- The switch whose name is most like a word, if one is like it at all. Of two that are
equally alike the later one is taken. -/
def similarTo (word : String) : Option Switch :=
  let rated := all.map fun s => (s, Text.similarity word.toList s.name.toList)
  let alike := rated.filter fun r => r.2.above likeness
  (alike.foldl (fun best r =>
    match best with
    | some b => if b.2.above r.2 then some b else some r
    | none => some r) none).map (·.1)

end Switch

/-- Why arguments are refused. -/
inductive Complaint where
  /-- Nothing known; `used` are the switches that the wording lists. -/
  | unexpected (argument : String) (similar : Option Switch) (used : List Switch)
  /-- A switch that takes no value is given one; `late` when some switch had been accepted. -/
  | unexpectedValue (switch : Switch) (value : String) (late : Bool)
  | repeated (switch : Switch)
  /-- The switch for a library has no value, or an empty one. -/
  | valueRequired
  deriving DecidableEq, Repr

/-- What arguments ask for. -/
inductive Request where
  | run (options : Options)
  | help
  | refuse (complaint : Complaint)
  deriving DecidableEq, Repr

/-- A switch for a library that has not been looked at. -/
inductive Pending where
  | nothing
  /-- The switch has come without its value. -/
  | awaiting
  /-- The switch has come with a value. -/
  | holding (value : Bytes)
  deriving DecidableEq, Repr

/-- How far reading has come. -/
structure Reading where
  /-- The switches that have been accepted, in order. -/
  accepted : List Switch := []
  library : Option Path := none
  pending : Pending := .nothing
  /-- No switch can come any more. -/
  closed : Bool := false
  deriving DecidableEq, Repr

namespace Reading

/-- Accepts the switch for a library with its value. What is wrong with it comes with what
it leaves behind: a repeated switch takes the first one with it. -/
def acceptLibrary (r : Reading) (value : Bytes) : Reading × Option Complaint :=
  if .library ∈ r.accepted then
    ({ r with accepted := r.accepted.erase .library, library := none }, some (.repeated .library))
  else
    let r := { r with accepted := r.accepted ++ [.library] }
    if value = [] then (r, some .valueRequired)
    else ({ r with library := some ⟨value⟩ }, none)

/-- Looks at the switch for a library that has come, if one has. -/
def settle (r : Reading) : Reading × Option Complaint :=
  let settled := { r with pending := .nothing }
  match r.pending with
  | .nothing => (r, none)
  | .awaiting => (settled, some .valueRequired)
  | .holding value => settled.acceptLibrary value

/-- Goes on unless there is a complaint. -/
def proceed : Reading × Option Complaint → Except Request Reading
  | (_, some complaint) => .error (.refuse complaint)
  | (r, none) => .ok r

/-- Accepts a switch without a value. -/
def accept (r : Reading) (s : Switch) : Except Request Reading := do
  let r ← proceed r.settle
  if s = .help then .error .help
  else if s ∈ r.accepted then .error (.refuse (.repeated s))
  else .ok { r with accepted := r.accepted ++ [s] }

/-- Refuses an argument that is nothing known. -/
def refuse (argument : String) : Except Request Reading :=
  .error (.refuse (.unexpected argument none []))

/-- Refuses a name that no switch has, and suggests a switch with a similar one. -/
def refuseName (r : Reading) (name : String) : Except Request Reading :=
  let similar := Switch.similarTo name
  -- A library that waits is settled first; what is wrong with it goes unsaid.
  let used := r.settle.1.accepted
  .error (.refuse (.unexpected ("--" ++ name) similar
    (used ++ similar.toList.filter (· ∉ used))))

/-- Reads what comes after two hyphens: a name, and a value when there is an `=`. -/
def takeName (r : Reading) (name : Bytes) (value : Option Bytes) : Except Request Reading :=
  match Switch.ofName? name, value with
  | none, _ => r.refuseName name.text
  | some .library, none => do
    let r ← proceed r.settle
    .ok { r with pending := .awaiting }
  | some .library, some value => do
    let r ← proceed r.settle
    proceed (r.acceptLibrary value)
  | some s, none => r.accept s
  | some s, some value =>
    .error (.refuse (.unexpectedValue s value.text (!r.accepted.isEmpty)))

/-- Reads the letters of a cluster. -/
def takeLetters (r : Reading) : List Char → Except Request Reading
  | [] => .ok r
  | c :: rest => do
    match Switch.ofLetter? c with
    | none => refuse (String.ofList ['-', c])
    | some s => (← r.accept s).takeLetters rest

/-- Reads what comes after one hyphen. -/
def takeCluster (r : Reading) (bytes : Bytes) : Except Request Reading := do
  let (letters, rest) := Text.leadingChars bytes.length bytes
  let r ← r.takeLetters letters
  if rest = [] then .ok r else refuse ("-" ++ rest.text)

/-- Cuts what comes after two hyphens at its first `=`. -/
def cut (bytes : Bytes) : Bytes × Option Bytes :=
  let name := bytes.takeWhile (· != 0x3D)
  match bytes.drop name.length with
  | [] => (name, none)
  | _ :: value => (name, some value)

/-- Reads an argument that is no switch: a value that is awaited, or nothing known. -/
def takePlain (r : Reading) (argument : Bytes) : Except Request Reading :=
  match r.closed, r.pending with
  | false, .awaiting => .ok { r with pending := .holding argument }
  | _, _ => refuse argument.text

/-- Reads one argument. -/
def take (r : Reading) (argument : Bytes) : Except Request Reading :=
  if r.closed then r.takePlain argument
  else
    match argument with
    | [0x2D, 0x2D] => .ok { r with closed := true }
    | 0x2D :: 0x2D :: rest => r.takeName (cut rest).1 (cut rest).2
    | [0x2D] => r.takePlain argument
    | 0x2D :: rest => r.takeCluster rest
    | _ => r.takePlain argument

/-- Looks at what is left when the arguments have ended, and at the value of the variable. -/
def finish (r : Reading) (preset : Option Bytes) : Except Request Reading := do
  let r ← proceed r.settle
  match preset with
  | none => .ok r
  | some value => if .library ∈ r.accepted then .ok r else proceed (r.acceptLibrary value)

/-- The options that were read. -/
def options (r : Reading) : Options where
  snapshot := .snapshot ∈ r.accepted
  library := r.library
  verbose := .verbose ∈ r.accepted

end Reading

/-- What some arguments ask for, with the value of the variable if it is set. -/
def parse (arguments : List Bytes) (preset : Option Bytes) : Request :=
  let read := do
    let r ← arguments.foldlM Reading.take {}
    r.finish preset
  match read with
  | .ok r => .run r.options
  | .error request => request

end GpuMonitor.CommandLine
