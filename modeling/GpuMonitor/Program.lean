import GpuMonitor.CommandLine.Wording
import GpuMonitor.Library
import GpuMonitor.Monitor
import GpuMonitor.Session

/-!
# The monitoring program

The whole program as a function of its arguments, of the loader, and of the moment at
which it is told to stop. It loads the library, starts a session, selects a metric set,
reports what it has found, and runs the monitoring loop.

* `prepare`: everything up to a session with a selected set, or what went wrong.
* `attend`: the report, the loop, and the release.
* `monitor`: a run with given options. `execute`: a run with given arguments, which a parser
  reads. `run`: the same with the parser of the monitor.
-/

namespace GpuMonitor.Program

/-- How a run has ended. -/
inductive Status where
  | success
  | failure
  /-- It has not: its loop has met its bound. -/
  | running
  deriving DecidableEq, Repr

/-- What a run takes from around it. -/
structure Surroundings where
  loader : Loader
  /-- The rest, counted from 1, during which the program is told to stop. -/
  stop : Option Nat := none
  /-- A bound on the rounds of the loop. -/
  bound : Nat

/-- What went wrong, and during what. -/
structure Trouble where
  during : List String := []
  failure : Failure
  deriving DecidableEq, Repr

/-- The error line: what was being done, the failure, and what lies beneath it. -/
def Trouble.text (t : Trouble) : String :=
  "Error: " ++ String.intercalate ": " (t.during ++ t.failure.message :: t.failure.causes)

/-- A hint for the user. -/
def hint? (f : Failure) : Option String :=
  if f.isLoad then some "Make sure the library is built and accessible"
  else if f.isDiscovery then some "This may be normal on some platforms or drivers"
  else if f.isPermission then
    some "Run with root privileges if you encounter access denied errors"
  else none

/-- Reports trouble and gives a hint. -/
def complain (t : Trouble) : Traced Unit := do
  Traced.printLine .errors t.text
  match hint? t.failure with
  | none => pure ()
  | some hint => Traced.printLine .errors hint

/-! ## Before the loop -/

/-- Loads the library and starts a session. -/
def setUp (loader : Loader) (config : Config) :
    Traced (Except Failure (Session Library)) := do
  match ← Library.load loader config.candidates with
  | .error f => return .error f
  | .ok library => Session.start library

/-- Selects a metric set; on failure the session is ended. -/
def choose (session : Session Library) : Traced (Except Failure (Session Library)) := do
  let (result, session) ← Session.select session
  match result with
  | .ok _ => return .ok session
  | .error f =>
    let _ ← Session.finish session
    return .error f

/-- A session with a selected metric set. -/
def prepare (loader : Loader) (config : Config) :
    Traced (Except Trouble (Session Library)) := do
  match ← setUp loader config with
  | .error f => return .error ⟨["Failed to initialize Metrics Discovery API"], f⟩
  | .ok session =>
    match ← choose { session with window := config.window } with
    | .error f => return .error ⟨["Failed to find GPU utilization metrics"], f⟩
    | .ok session => return .ok session

/-! ## The loop -/

/-- A session, and how many rests there have been. -/
structure Watch where
  session : Session Library
  rested : Nat := 0

namespace Watch

/-- Takes a sample and counts the rests in it. -/
def sample : Action Watch (Except Failure Utilization) := fun w =>
  let r := Session.sample w.session
  { value := (r.value.1, ⟨r.value.2, w.rested + r.trace.restCount⟩), trace := r.trace }

/-- Lets time pass and counts the rests. -/
def pause (length : Duration) : Action Watch Unit := do
  emit (.wait length)
  modify fun w => { w with rested := w.rested + length.rests.length }

/-- The program has not been told to stop. -/
def running (stop : Option Nat) (w : Watch) : Bool :=
  match stop with
  | none => true
  | some n => n = 0 || w.rested < n

/-- The setting of the program: what is written is printed. -/
def setting (stop : Option Nat) : Monitor.Setting Watch where
  sample := sample
  write text := do
    print .output (String.ofList text)
    return .accepted text.length
  flush := return .ok ()
  pause := pause
  running := running stop

end Watch

/-- Runs the loop on a session. -/
def observe (config : Config) (stop : Option Nat) (bound : Nat) :
    Action (Session Library) (Except Monitor.Halt Monitor.Summary) := fun session =>
  let r := Monitor.run (Watch.setting stop) config.mode config.interval bound { session }
  { value := (r.value.1, r.value.2.session), trace := r.trace }

/-! ## The report -/

/-- Reports what has been found; the adapters are listed before the first line. -/
def report : Action (Session Library) Unit := do
  let session ← get
  let adapters ← Session.adapters
  printLine .output ("Loaded library from: " ++ session.gateway.path.text)
  printLine .output ("Found " ++ Text.decimal adapters.length ++ " adapter(s)")
  match session.adapter with
  | none => pure ()
  | some adapter => printLine .output (Session.foundText adapter)
  match session.selection.bind Selection.name with
  | none => pure ()
  | some name => printLine .output ("Selected metric set: " ++ name)

/-- The line that tells the mode. -/
def modeLine : Mode → String
  | .snapshot => "Mode: Single snapshot"
  | .continuous => "Mode: Continuous (press Ctrl+C to stop)"

/-- Tells that the loop begins. -/
def announce (mode : Mode) : Action σ Unit := do
  printLine .output ""
  printLine .output "Monitoring GPU usage..."
  printLine .output (modeLine mode)
  printLine .output ""

/-- Ends a session after its loop has ended. -/
def conclude (summary : Monitor.Summary) : Action (Session Library) Unit := do
  log .info ("Stopped after " ++ Text.decimal summary.samples ++ " sample(s): "
    ++ summary.reason.name)
  Session.release
  printLine .output "GPU monitoring completed"
  Session.finish

/-- Everything from a session with a selected set to the end. -/
def attend (config : Config) (stop : Option Nat) (bound : Nat) :
    Action (Session Library) Status := do
  report
  announce config.mode
  match ← observe config stop bound with
  | .error .unfinished => return .running
  | .error (.failed failure) =>
    Session.finish
    printLine .errors ("Error: " ++ failure.text)
    return .failure
  | .ok summary =>
    conclude summary
    return .success

/-! ## A run -/

/-- The configuration that options stand for. -/
def configOf (options : CommandLine.Options) : Config where
  mode := if options.snapshot then .snapshot else .continuous
  library := options.library

/-- A run with a valid configuration. -/
def runWith (around : Surroundings) (config : Config) : Traced Status := do
  Traced.printLine .output "Intel GPU Usage Monitor"
  Traced.printLine .output "======================"
  Traced.log .info "Initializing Intel Metrics Discovery API..."
  match ← prepare around.loader config with
  | .error trouble =>
    complain trouble
    return .failure
  | .ok session =>
    let (status, _) ← attend config around.stop around.bound session
    return status

/-- A run with some options. -/
def monitor (around : Surroundings) (options : CommandLine.Options) : Traced Status := do
  let config := configOf options
  match config.validate with
  | .error f =>
    complain { failure := f }
    return .failure
  | .ok () => runWith around config

/-- The log records that a run shows. -/
def finest (options : CommandLine.Options) : Level := if options.verbose then .debug else .info

/-- A run with some arguments, and the value of the variable if it is set, as a parser reads
them. -/
def execute (parser : CommandLine.Parser) (around : Surroundings) (arguments : List Bytes)
    (preset : Option Bytes) : Traced Status :=
  match parser arguments preset with
  | .help text => do
    Traced.emit (.print .output text)
    return .success
  | .refused text => do
    Traced.emit (.print .errors text)
    return .failure
  | .accepted options =>
    let r := monitor around options
    { r with trace := r.trace.echoed (finest options) }

/-- A run with the parser of the monitor. -/
def run : Surroundings → List Bytes → Option Bytes → Traced Status := execute CommandLine.parser

end GpuMonitor.Program
