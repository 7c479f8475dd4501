import GpuMonitor.Monitor.Bench
import GpuMonitor.Proofs.Action

/-!
# What a monitoring loop obeys

A loop does nothing of its own but log: whatever its parts obey, the loop obeys.

* `Setting.Handling R S`: what a setting does with lines and pauses obeys `R`.
* `Setting.Obeying R S`: every part of a setting obeys `R`, and so does logging.
* `obeys_run`: then the loop obeys `R`, whatever ends it.
* `Bench.obeys_run`: a loop on a bench obeys what its source obeys.
-/

namespace GpuMonitor.Monitor

variable {σ α β : Type}

/-! ## Steps -/

/-- A step that goes on is followed by the next one. -/
theorem run_bind_ok {m : Step σ α} {f : α → Step σ β} {s s' : σ} {a : α} {t : Trace}
    (h : m.run s = { value := (.ok a, s'), trace := t }) :
    (m >>= f).run s = { value := ((f a).run s').value, trace := t ++ ((f a).run s').trace } := by
  rw [ExceptT.run_bind]
  apply Traced.ext'
  · rw [Action.value_bind, h]
  · rw [Action.trace_bind, h]

/-- Nothing follows a step that halts. -/
theorem run_bind_error {m : Step σ α} {f : α → Step σ β} {s s' : σ} {halt : Halt} {t : Trace}
    (h : m.run s = { value := (.error halt, s'), trace := t }) :
    (m >>= f).run s = { value := (.error halt, s'), trace := t } := by
  rw [ExceptT.run_bind]
  apply Traced.ext'
  · rw [Action.value_bind, h]
    rfl
  · rw [Action.trace_bind, h]
    exact List.append_nil t

theorem run_lift (m : Action σ α) (s : σ) :
    (liftM m : Step σ α).run s =
      { value := (.ok (m s).value.1, (m s).value.2), trace := (m s).trace } := rfl

section
variable {R : σ → Trace → σ → Prop} (hR : Composes R)
include hR

theorem obeys_step_pure (a : α) : Obeys R (pure a : Step σ α).run := obeys_pure hR _

theorem obeys_step_throw (halt : Halt) : Obeys R (throw halt : Step σ α).run := obeys_pure hR _

theorem obeys_step_bind {m : Step σ α} {f : α → Step σ β} (hm : Obeys R m.run)
    (hf : ∀ a, Obeys R (f a).run) : Obeys R (m >>= f).run := by
  rw [ExceptT.run_bind]
  refine obeys_bind hR hm fun answer => ?_
  cases answer with
  | ok a => exact hf a
  | error halt => exact obeys_pure hR _

omit hR in
theorem obeys_step_lift {m : Action σ α} (hm : Obeys R m) :
    Obeys R (liftM m : Step σ α).run := obeys_map _ hm

end

/-! ## The loop -/

/-- What is done with lines and pauses obeys the relation. -/
structure Setting.Handling (R : σ → Trace → σ → Prop) (S : Setting σ) : Prop where
  composes : Composes R
  write : ∀ text, Obeys R (S.write text)
  flush : Obeys R S.flush
  pause : ∀ length, Obeys R (S.pause length)

/-- Every part of a setting obeys the relation, and so does logging. -/
structure Setting.Obeying (R : σ → Trace → σ → Prop) (S : Setting σ) : Prop
    extends Setting.Handling R S where
  logging : ∀ s level text, R s [.log level text] s
  sample : Obeys R S.sample

namespace Setting

variable {R : σ → Trace → σ → Prop} {S : Setting σ}

section
variable (hS : S.Handling R)
include hS

theorem obeys_writeAll (attempts : Nat) (text : List Char) :
    Obeys R (S.writeAll attempts text).run := by
  induction attempts generalizing text with
  | zero =>
    cases text with
    | nil => exact obeys_step_pure hS.composes _
    | cons c rest => exact obeys_step_throw hS.composes _
  | succ n ih =>
    cases text with
    | nil => exact obeys_step_pure hS.composes _
    | cons c rest =>
      -- a write that takes some of the text, or is interrupted, is followed by another one
      refine obeys_step_bind hS.composes (obeys_step_lift (hS.write _)) fun reply => ?_
      split
      · exact obeys_step_throw hS.composes _
      · exact ih _
      · exact ih _
      · exact obeys_step_throw hS.composes _

theorem obeys_writePieces (attempts : Nat) (pieces : List String) :
    Obeys R (S.writePieces attempts pieces).run := by
  induction pieces with
  | nil => exact obeys_step_pure hS.composes _
  | cons piece rest ih =>
    exact obeys_step_bind hS.composes (obeys_writeAll hS _ _) fun _ => ih

theorem obeys_showSample (attempts : Nat) (u : Utilization) :
    Obeys R (S.showSample attempts u).run := by
  refine obeys_step_bind hS.composes (obeys_writePieces hS _ _) fun _ => ?_
  refine obeys_step_bind hS.composes (obeys_step_lift hS.flush) fun result => ?_
  cases result with
  | ok _ => exact obeys_step_pure hS.composes _
  | error failure => exact obeys_step_throw hS.composes _

end

section
variable (hS : S.Obeying R)
include hS

theorem obeys_complain (attempts : Nat) (f : Failure) :
    Obeys R (S.complain attempts f).run :=
  obeys_step_bind hS.composes (obeys_step_lift fun s => hS.logging s _ _)
    fun _ => obeys_writePieces hS.toHandling _ _

theorem obeys_round (mode : Mode) (interval : Duration) (attempts written : Nat) :
    Obeys R (S.round mode interval attempts written).run := by
  refine obeys_step_bind hS.composes (obeys_step_lift hS.sample) fun result => ?_
  cases result with
  | error f =>
    exact obeys_step_bind hS.composes (obeys_complain hS _ _) fun _ =>
      obeys_step_pure hS.composes _
  | ok u =>
    refine obeys_step_bind hS.composes (obeys_showSample hS.toHandling _ _) fun _ => ?_
    cases mode with
    | snapshot => exact obeys_step_pure hS.composes _
    | continuous =>
      refine obeys_step_bind hS.composes (obeys_step_lift (hS.pause _)) fun _ => ?_
      refine obeys_step_bind hS.composes (obeys_step_lift (obeys_get hS.composes)) fun s => ?_
      split <;> exact obeys_step_pure hS.composes _

end

end Setting

/-- Whatever the parts of a setting obey, the loop obeys. -/
theorem obeys_run {R : σ → Trace → σ → Prop} {S : Setting σ} (hS : S.Obeying R) (mode : Mode)
    (interval : Duration) (bound : Nat) : Obeys R (run S mode interval bound) := by
  refine obeys_bind hS.composes ?_ fun _ => obeys_pure hS.composes _
  exact obeys_firstOf hS.composes
    (fun _ => obeys_map _ (Setting.obeys_round hS mode interval bound _)) 0 bound

theorem Writer.trace_write (text : List Char) (w : Writer) : (write text w).trace = [] := by
  unfold write
  dsimp only
  split
  · rfl
  · split
    · rfl
    · split <;> rfl

theorem Writer.trace_flush (w : Writer) : (flush w).trace = [] := by
  unfold flush
  dsimp only
  split <;> rfl

/-- A bench is beside the state that `R` speaks of, and its parts leave no trace. -/
theorem Bench.handling {R : σ → Trace → σ → Prop} (hR : Composes R)
    (sample : Action σ (Except Failure Utilization)) :
    Setting.Handling (fun p t p' => R p.1 t p'.1) (setting sample) where
  composes := ⟨fun p => hR.nil p.1, fun h h' => hR.append h h'⟩
  write text p := by
    show R p.1 (Writer.write text p.2.writer).trace p.1
    rw [Writer.trace_write]
    exact hR.nil _
  flush p := by
    show R p.1 (Writer.flush p.2.writer).trace p.1
    rw [Writer.trace_flush]
    exact hR.nil _
  pause _ p := hR.nil p.1

/-- What the source of a loop obeys, the loop on a bench obeys. -/
theorem Bench.obeys_run {R : σ → Trace → σ → Prop} (hR : Composes R)
    (hlog : ∀ s level text, R s [.log level text] s)
    {sample : Action σ (Except Failure Utilization)} (hsample : Obeys R sample) (mode : Mode)
    (interval : Duration) (bound : Nat) (bench : Bench) :
    Obeys R (bench.run sample mode interval bound) := by
  have hS : Setting.Obeying (fun p t p' => R p.1 t p'.1) (setting sample) :=
    { Bench.handling hR sample with
      logging := fun p level text => hlog p.1 level text
      sample := fun p => hsample p.1 }
  intro s
  exact Monitor.obeys_run hS mode interval bound (s, bench)

end GpuMonitor.Monitor
