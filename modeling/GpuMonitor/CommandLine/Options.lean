import GpuMonitor.Path

/-!
# What a run is told

The arguments of the monitor are read by a parser that is given from outside, together with the
value of the variable of the environment that can name a library.

* `Options`: what a run is told.
* `Parsing`: what comes of reading a command line. `Parser`: how it is read.
* `Parser.RefusesEmptyPath`: what the monitor relies on.
-/

namespace GpuMonitor.CommandLine

/-- What a run is told. -/
structure Options where
  snapshot : Bool := false
  /-- A library to try before the default places. -/
  library : Option Path := none
  verbose : Bool := false
  deriving DecidableEq, Repr

/-- What comes of reading a command line. -/
inductive Parsing where
  /-- The arguments are accepted. -/
  | accepted (options : Options)
  /-- Help is asked for, and this is its text. -/
  | help (text : String)
  /-- The arguments are refused, with this complaint. -/
  | refused (text : String)
  deriving DecidableEq, Repr

/-- How a command line is read: its arguments, and the value of the variable if it is set. -/
abbrev Parser := List Bytes → Option Bytes → Parsing

/-- No library is accepted whose path is empty, be it an argument or the value of the variable. -/
def Parser.RefusesEmptyPath (parser : Parser) : Prop :=
  ∀ arguments preset options, parser arguments preset = .accepted options →
    ∀ path ∈ options.library, path.bytes ≠ []

end GpuMonitor.CommandLine
