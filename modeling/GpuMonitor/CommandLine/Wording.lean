import GpuMonitor.CommandLine
import GpuMonitor.Config
import GpuMonitor.Text.Plain

/-!
# The wording of the command line

All of it is meant for a terminal, where words of interest stand out. What a user has
given is therefore freed from control sequences, each piece up to where the style changes.

* `usage`: the usage line. `help`: the help text. `Complaint.text`: a complaint.
* `parser`: the parser that answers with these texts.
-/

namespace GpuMonitor.CommandLine

/-- The name of the program. -/
def programName : String := "gpu_usage"

/-- A switch as it is written, with a place for its value. -/
def Switch.text : Switch → String
  | library => "--library <PATH>"
  | s => "--" ++ s.name

/-- The usage line, listing some words. -/
def usage (words : List String) : String :=
  let what := if words = [] then "[OPTIONS]" else String.intercalate " " words
  "Usage: " ++ programName ++ " " ++ what

/-- The choice among the switches that a run can be told. -/
def choice : String :=
  "<" ++ String.intercalate "|" ((Switch.all.filter (· ≠ .help)).map Switch.text) ++ ">"

/-- A value in the help text; the lines after the first stand under the descriptions. -/
def indented (value : String) : String :=
  String.join (value.toList.map fun c =>
    if c = '\n' then "\n" ++ String.ofList (List.replicate 24 ' ') else c.toString)

/-- The help text, which shows the value of the variable. -/
def help (preset : Option Bytes) : String :=
  "GPU Usage Monitor - Intel Metrics Discovery\n\n" ++ usage [] ++ "\n\n"
    ++ "Options:\n"
    ++ "  -s, --snapshot        Take a single snapshot instead of updating every second\n"
    ++ "      --library <PATH>  Metrics Discovery library to try before the built-in locations "
    ++ "[env: " ++ libraryVariable ++ "="
    ++ Text.plain (indented (preset.getD []).text ++ "]\n  ")
    ++ "-v, --verbose         Enable debug logging\n"
    ++ "  -h, --help            Print help\n\n"
    ++ "Output format:\n"
    ++ "  Render: 23.5%  Blitter: 0.0%  Video: 12.3%  Enhance: 0.0%  | Total: 35.8%\n\n"
    ++ "Note: This program requires Intel GPU and appropriate permissions.\n"
    ++ "      Run with root privileges if you encounter access denied errors.\n"

namespace Complaint

/-- What is wrong. -/
def message : Complaint → String
  | unexpected argument _ _ => "unexpected argument '" ++ Text.plain argument ++ "' found"
  | unexpectedValue switch value _ =>
    "unexpected value '" ++ Text.plain value ++ "' for '" ++ switch.text
      ++ "' found; no more were expected"
  | repeated switch => "the argument '" ++ switch.text ++ "' cannot be used multiple times"
  | valueRequired =>
    "a value is required for '" ++ Switch.library.text ++ "' but none was supplied"

/-- A suggestion, if there is one. -/
def tip : Complaint → String
  | unexpected _ (some similar) _ =>
    "  tip: a similar argument exists: '--" ++ similar.name ++ "'\n\n"
  | _ => ""

/-- What the usage line of a complaint lists, if it shows one. Once a switch has been accepted,
a value out of place brings up the whole choice. -/
def usage? : Complaint → Option (List String)
  | unexpected _ _ used => some (used.map Switch.text)
  | unexpectedValue switch _ false => some [switch.text]
  | unexpectedValue .help _ true => some [Switch.help.text, choice]
  | unexpectedValue _ _ true => some [choice]
  | repeated _ => some []
  | valueRequired => none

/-- The usage line of a complaint, if it shows one. -/
def usageText (c : Complaint) : String :=
  match c.usage? with
  | some words => usage words ++ "\n\n"
  | none => ""

/-- A complaint in full. -/
def text (c : Complaint) : String :=
  "error: " ++ c.message ++ "\n\n" ++ c.tip ++ c.usageText
    ++ "For more information, try '--help'.\n"

end Complaint

/-- The parser of the monitor. -/
def parser : Parser := fun arguments preset =>
  match parse arguments preset with
  | .run options => .accepted options
  | .help => .help (help preset)
  | .refuse complaint => .refused complaint.text

end GpuMonitor.CommandLine
