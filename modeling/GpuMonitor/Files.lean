import GpuMonitor.Library

/-!
# Loading libraries from files

A loader that looks a path up in a tree of directories and says what loading the file
found there comes to.

* `resolve`: what a list of names leads to. `Place.locate`: what a path leads to.
* `sought`: the paths that are tried for a path. One without a slash is looked up where
  the system keeps its libraries.
* `Place.loader`: the loader over a place.
-/

namespace GpuMonitor.Files

/-- What a file holds, as far as loading it goes. -/
inductive Content where
  /-- A metrics library. -/
  | metricsLibrary
  /-- A library of another kind. -/
  | otherLibrary
  /-- Something that is no library. -/
  | foreign
  /-- Less than the header of a library. -/
  | truncated
  deriving DecidableEq, Repr

/-- A file or a directory. -/
inductive Node where
  | file (content : Content)
  | directory (entries : List (Bytes × Node))

/-- Why a path does not lead to a file. -/
inductive Dead where
  | noEntry
  | notDirectory
  | nameTooLong
  | isDirectory
  deriving DecidableEq, Repr

/-- The reason in words. -/
def Dead.text : Dead → String
  | noEntry => "cannot open shared object file: No such file or directory"
  | notDirectory => "cannot open shared object file: Not a directory"
  | nameTooLong => "cannot open shared object file: File name too long"
  | isDirectory => "cannot read file data: Is a directory"

/-- The most bytes that a name in a directory can have. -/
def longestName : Nat := 255

/-- The most bytes that a path can have. -/
def longestPath : Nat := 4095

/-- What lies under a name in a list of entries. -/
def under (name : Bytes) : List (Bytes × Node) → Option Node
  | [] => none
  | (other, node) :: rest => if other = name then some node else under name rest

/-- Follows some names from a node; `outer` are the directories around it, from inside. The
outermost one lies in itself. -/
def resolve (outer : List Node) : Node → List Bytes → Except Dead Content
  | .file content, [] => .ok content
  | .file _, _ :: _ => .error .notDirectory
  | .directory _, [] => .error .isDirectory
  | .directory entries, name :: names =>
    -- Two slashes in a row and a single dot stay where they are.
    if name = [] ∨ name = Bytes.ofText "." then resolve outer (.directory entries) names
    else if name = Bytes.ofText ".." then
      match outer with
      | [] => resolve [] (.directory entries) names
      | parent :: outer => resolve outer parent names
    else if longestName < name.length then .error .nameTooLong
    else
      match under name entries with
      | none => .error .noEntry
      | some node => resolve (.directory entries :: outer) node names

/-- Cuts a path at its slashes. -/
def components : Bytes → List Bytes
  | [] => [[]]
  | b :: rest =>
    if b = 0x2F then [] :: components rest
    else
      match components rest with
      | [] => [[b]]
      | name :: names => (b :: name) :: names

/-- Where the system keeps its libraries. -/
def libraryDirectories : List String :=
  ["/lib/x86_64-linux-gnu/", "/usr/lib/x86_64-linux-gnu/", "/lib/", "/usr/lib/"]

/-- The paths that are tried for a path, in order. The empty path leads nowhere. -/
def sought (bytes : Bytes) : List Bytes :=
  if bytes = [] then []
  else if 0x2F ∈ bytes then [bytes]
  else libraryDirectories.map fun d => Bytes.ofText d ++ bytes

/-- A working directory, and the directories around it from inside. -/
structure Place where
  here : Node
  outer : List Node := []

namespace Place

/-- The outermost directory. -/
def root (p : Place) : Node := p.outer.getLast?.getD p.here

/-- What a path leads to. -/
def locate (p : Place) (bytes : Bytes) : Except Dead Content :=
  if longestPath < bytes.length then .error .nameTooLong
  else
    match components bytes with
    | [] :: names => resolve [] p.root names
    | names => resolve p.outer p.here names

/-- A path leads somewhere, or cannot be followed. -/
def reaches (p : Place) (bytes : Bytes) : Bool :=
  match p.locate bytes with
  | .error .noEntry => false
  | _ => true

/-- Loading a path that holds no zero byte. What is wrong with a file that was found is told
of the path that it was found at. -/
def attempt (p : Place) (script : Vendor.Script) (path : Path) : Loading :=
  let because (path : Path) (reason : String) := path.text ++ ": " ++ reason
  match (sought path.bytes).find? p.reaches with
  | none => .fails (because path Dead.noEntry.text)
  | some found =>
    match p.locate found with
    | .error .isDirectory => .fails (because ⟨found⟩ Dead.isDirectory.text)
    | .error dead => .fails (because path dead.text)
    | .ok .truncated => .fails (because ⟨found⟩ "file too short")
    | .ok .foreign => .fails (because ⟨found⟩ "invalid ELF header")
    | .ok .otherLibrary => .lacksEntry (because ⟨found⟩ ("undefined symbol: " ++ entryPoint))
    | .ok .metricsLibrary => .opens script

/-- Loads what a path leads to; every metrics library found serves `script`. A zero byte
may close a path but not stand in it. -/
def loader (p : Place) (script : Vendor.Script) : Loader := fun path =>
  if path.bytes.getLast? = some 0 then
    if 0 ∈ path.bytes.dropLast then
      .fails "could not create a C string from bytes with trailing null"
    else p.attempt script ⟨path.bytes.dropLast⟩
  else if 0 ∈ path.bytes then .fails "could not create a C string from bytes"
  else p.attempt script path

end Place
end GpuMonitor.Files
