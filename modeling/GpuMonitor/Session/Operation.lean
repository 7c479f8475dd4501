import GpuMonitor.Monitor.Bench
import GpuMonitor.Session

/-!
# Histories of a session

The operations on a session and their answers as data, so that a history of a session
is a list of operations.

* `Operation`, `Reply`: an operation and its answer.
* `Operation.perform`: the action that an operation stands for.
-/

namespace GpuMonitor.Session

/-- An operation on a session. -/
inductive Operation where
  | adapters
  | adapter
  | selection
  | deviceName
  | catalog
  | select
  | sample
  | setWindow (length : Duration)
  /-- The monitoring loop on a bench. -/
  | run (mode : Mode) (interval : Duration) (bound : Nat) (bench : Monitor.Bench)
  | release

/-- What an operation answers. -/
inductive Reply where
  | adapters (list : List AdapterInfo)
  | adapter (info : Option AdapterInfo)
  | selection (selection : Option Selection)
  | deviceName (name : Option String)
  | catalog (result : Except Failure (List ConcurrentGroupEntry))
  | selected (result : Except Failure MetricSetId)
  | sample (result : Except Failure Utilization)
  | ran (result : Except Monitor.Halt Monitor.Summary) (bench : Monitor.Bench)
  | done

variable [Gateway γ]

/-- Does an operation. -/
def Operation.perform : Operation → Action (Session γ) Reply
  | adapters => Reply.adapters <$> Session.adapters
  | adapter => return .adapter (← get).adapter
  | selection => return .selection (← get).selection
  | deviceName => Reply.deviceName <$> Session.deviceName
  | catalog => Reply.catalog <$> Session.catalog
  | select => Reply.selected <$> Session.select
  | sample => Reply.sample <$> Session.sample
  | setWindow length => do
    modify fun s => { s with window := length }
    return .done
  | run mode interval bound bench => do
    let (result, bench) ← bench.run Session.sample mode interval bound
    return .ran result bench
  | release => do
    Session.release
    return .done

/-- Does some operations, one after the other. -/
def performAll : List Operation → Action (Session γ) (List Reply)
  | [] => pure []
  | op :: rest => do
    let reply ← op.perform
    return reply :: (← performAll rest)

end GpuMonitor.Session
