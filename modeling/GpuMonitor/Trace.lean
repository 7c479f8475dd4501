import GpuMonitor.Duration
import GpuMonitor.Vendor.Call

/-!
# Actions and what happens in them

An `Action σ α` starts in a state, ends in a state with an answer, and leaves a
trace: the list of events that happened meanwhile, in order. The trace of two
actions in a row is the one trace followed by the other, so a statement about a run
is a statement about a list.

* `Event`: a log record, a call into the metrics library, a wait, a text printed.
* `Traced`: an answer with a trace; `Action` adds a state.
* `emit`, `log`, `print`: one event. `emitAll`: some events.
* `within`: an action on a part of the state.
* `Trace.calls`, `Trace.logs`, `Trace.printed`: views of a trace.
* `Trace.echoed`: log records become lines on the error stream.
-/

namespace GpuMonitor

/-- How much a log record matters. -/
inductive Level where
  | error
  | warn
  | info
  | debug
  | trace
  deriving DecidableEq, Repr

namespace Level

/-- The name in capital letters. -/
def name : Level → String
  | error => "ERROR"
  | warn => "WARN"
  | info => "INFO"
  | debug => "DEBUG"
  | trace => "TRACE"

/-- The rank, from what matters most. -/
def rank : Level → Nat
  | error => 0
  | warn => 1
  | info => 2
  | debug => 3
  | trace => 4

end Level

/-- Where a text is printed. -/
inductive Stream where
  | output
  | errors
  deriving DecidableEq, Repr

/-- Something that happens during an action. -/
inductive Event where
  | log (level : Level) (text : String)
  | vendor (call : Vendor.Call)
  | wait (length : Duration)
  | print (stream : Stream) (text : String)
  deriving DecidableEq

/-- What happened, in order. -/
abbrev Trace := List Event

namespace Event

/-- The call that an event is. -/
def call? : Event → Option Vendor.Call
  | vendor call => some call
  | _ => none

/-- The log record that an event is. -/
def record? : Event → Option (Level × String)
  | log level text => some (level, text)
  | _ => none

/-- The texts of the lifecycle: of a call, and of the rests that a wait is made of. -/
def lifecycleTexts : Event → List String
  | vendor call => call.text?.toList
  | wait length => length.rests.map fun rest => "sleep " ++ rest.fixedText
  | _ => []

end Event

namespace Trace

/-- A trace followed by another one. A long trace that nothing follows is left as it is. -/
def followedBy (t u : Trace) : Trace :=
  match u with
  | [] => t
  | _ => t ++ u

@[simp] theorem followedBy_eq (t u : Trace) : t.followedBy u = t ++ u := by
  cases u <;> simp [followedBy]

/-- The calls into the metrics library. -/
def calls (t : Trace) : List Vendor.Call := t.filterMap Event.call?

/-- The log records. -/
def logs (t : Trace) : List (Level × String) := t.filterMap Event.record?

/-- The texts of the lifecycle. -/
def lifecycleTexts (t : Trace) : List String := t.flatMap Event.lifecycleTexts

/-- How many rests the waits are made of. -/
def restCount (t : Trace) : Nat :=
  (t.flatMap fun | .wait length => length.rests | _ => []).length

/-- What was printed on a stream. -/
def printed (stream : Stream) (t : Trace) : String :=
  String.join (t.map fun | .print s text => if s = stream then text else "" | _ => "")

/-- The trace with a line on the error stream after every log record that matters as much
as `finest` or more. -/
def echoed (finest : Level) (t : Trace) : Trace :=
  t.flatMap fun
    | .log level text =>
      let line := .print .errors ("[" ++ level.name ++ "] " ++ text ++ "\n")
      if level.rank ≤ finest.rank then [.log level text, line] else [.log level text]
    | e => [e]

end Trace

/-- An answer and what happened before it was given. -/
structure Traced (α : Type) where
  value : α
  trace : Trace := []

namespace Traced

instance : Monad Traced where
  pure a := { value := a }
  bind x f :=
    let y := f x.value
    { value := y.value, trace := Trace.followedBy x.trace y.trace }

@[simp] theorem value_pure (a : α) : (pure a : Traced α).value = a := rfl
@[simp] theorem trace_pure (a : α) : (pure a : Traced α).trace = [] := rfl

@[simp] theorem value_bind (x : Traced α) (f : α → Traced β) :
    (x >>= f).value = (f x.value).value := rfl

@[simp] theorem trace_bind (x : Traced α) (f : α → Traced β) :
    (x >>= f).trace = x.trace ++ (f x.value).trace := Trace.followedBy_eq _ _

@[ext] theorem ext' {x y : Traced α} (hv : x.value = y.value) (ht : x.trace = y.trace) :
    x = y := by
  cases x
  cases y
  simp_all

theorem id_map' (x : Traced α) : id <$> x = x := rfl

theorem pure_bind' (a : α) (f : α → Traced β) : pure a >>= f = f a := by
  apply ext' <;> simp

theorem bind_assoc' (x : Traced α) (f : α → Traced β) (g : β → Traced γ) :
    x >>= f >>= g = x >>= fun a => f a >>= g := by
  apply ext' <;> simp

instance : LawfulMonad Traced := LawfulMonad.mk' Traced id_map' pure_bind' bind_assoc'

/-- One event and nothing else. -/
def emit (e : Event) : Traced Unit := { value := (), trace := [e] }

/-- One log record. -/
def log (level : Level) (text : String) : Traced Unit := emit (.log level text)

/-- One line printed. -/
def printLine (stream : Stream) (line : String) : Traced Unit :=
  emit (.print stream (line ++ "\n"))

end Traced

/-- A step from a state to an answer and a state, with a trace. -/
abbrev Action (σ : Type) := StateT σ Traced

/-- One event and nothing else. -/
def emit (e : Event) : Action σ Unit := fun s => { value := ((), s), trace := [e] }

/-- Some events in order, and nothing else. -/
def emitAll (events : Trace) : Action σ Unit := fun s => { value := ((), s), trace := events }

/-- One log record. -/
def log (level : Level) (text : String) : Action σ Unit := emit (.log level text)

/-- One text printed. -/
def print (stream : Stream) (text : String) : Action σ Unit := emit (.print stream text)

/-- One line printed. -/
def printLine (stream : Stream) (line : String) : Action σ Unit := print stream (line ++ "\n")

/-- An action on a part of the state. -/
def within (get : σ → τ) (put : σ → τ → σ) (m : Action τ α) : Action σ α := fun s =>
  let r := m (get s)
  { value := (r.value.1, put s r.value.2), trace := r.trace }

end GpuMonitor
