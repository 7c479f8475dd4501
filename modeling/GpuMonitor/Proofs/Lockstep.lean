import GpuMonitor.Proofs.Coupling
import GpuMonitor.Proofs.Monitoring

/-!
# Two loops side by side

A loop reads of a sample what a line shows, and that leaves out the clocks. So two loops whose
sources give samples that differ in the clocks only write the same, pause and stop at the same
places, and end the same.

* `Utilization.untimed`, `SameButClocks`: a sample without the clocks; two results that differ
  in them only.
* `Setting.Together`: the parts of two settings are coupled.

Main results:

* `coupled_run`: then the loops are coupled, and answer the same.
* `Bench.coupled_run`: over two sources, on one bench, which comes back the same.
-/

namespace GpuMonitor

variable {σ τ α β : Type}

/-! ## Samples without the clocks -/

/-- A sample without the clocks that were read with it. -/
def Utilization.untimed (u : Utilization) : Utilization := { u with timestamps := none }

theorem Utilization.pieces_of_untimed {u v : Utilization} (h : u.untimed = v.untimed) :
    u.pieces = v.pieces := by
  have hpieces : u.untimed.pieces = v.untimed.pieces := by rw [h]
  exact hpieces

/-- Normalizing takes no notice of the clocks. -/
theorem Utilization.untimed_normalize (u : Utilization) :
    u.normalize.untimed = u.untimed.normalize := by
  have hsum : u.untimed.sum = u.sum := rfl
  unfold normalize
  rw [hsum]
  split <;> rfl

/-- Two results of sampling differ in the clocks only. -/
def SameButClocks (r r' : Except Failure Utilization) : Prop :=
  r.map Utilization.untimed = r'.map Utilization.untimed

namespace Monitor

/-! ## Steps -/

theorem coupled_step_pure {E : σ → τ → Prop} (a : α) :
    Coupled E Eq (pure a : Step σ α).run (pure a : Step τ α).run := coupled_pure rfl

theorem coupled_step_throw {E : σ → τ → Prop} (halt : Halt) :
    Coupled E Eq (throw halt : Step σ α).run (throw halt : Step τ α).run := coupled_pure rfl

theorem coupled_step_bind {E : σ → τ → Prop} {m : Step σ α} {m' : Step τ α} {f : α → Step σ β}
    {f' : α → Step τ β} (hm : Coupled E Eq m.run m'.run)
    (hf : ∀ a, Coupled E Eq (f a).run (f' a).run) :
    Coupled E Eq (m >>= f).run (m' >>= f').run := by
  rw [ExceptT.run_bind, ExceptT.run_bind]
  refine coupled_bind_eq hm fun answer => ?_
  cases answer with
  | ok a => exact hf a
  | error halt => exact coupled_pure rfl

/-- A part of a setting cannot halt the loop, so its answers need not be the same. -/
theorem coupled_step_lift_bind {E : σ → τ → Prop} {α' : Type} {A : α → α' → Prop}
    {m : Action σ α} {m' : Action τ α'} {f : α → Step σ β} {f' : α' → Step τ β}
    (hm : Coupled E A m m') (hf : ∀ a b, A a b → Coupled E Eq (f a).run (f' b).run) :
    Coupled E Eq ((liftM m : Step σ α) >>= f).run ((liftM m' : Step τ α') >>= f').run := by
  intro s s' hs
  obtain ⟨hanswer, hstate⟩ := hm s s' hs
  rw [run_bind_ok (run_lift m s), run_bind_ok (run_lift m' s')]
  exact hf _ _ hanswer _ _ hstate

/-! ## The loop -/

/-- The parts of two settings are coupled, and only the clocks of their samples may differ. -/
structure Setting.Together (E : σ → τ → Prop) (S : Setting σ) (S' : Setting τ) : Prop where
  sample : Coupled E SameButClocks S.sample S'.sample
  write : ∀ text, Coupled E Eq (S.write text) (S'.write text)
  flush : Coupled E Eq S.flush S'.flush
  pause : ∀ length, Coupled E Eq (S.pause length) (S'.pause length)
  running : ∀ s s', E s s' → S.running s = S'.running s'

section
variable {E : σ → τ → Prop} {S : Setting σ} {S' : Setting τ} (h : S.Together E S')
include h

namespace Setting

theorem coupled_writeAll (attempts : Nat) (text : List Char) :
    Coupled E Eq (S.writeAll attempts text).run (S'.writeAll attempts text).run := by
  induction attempts generalizing text with
  | zero =>
    cases text with
    | nil => exact coupled_step_pure ()
    | cons c rest => exact coupled_step_throw .unfinished
  | succ n ih =>
    cases text with
    | nil => exact coupled_step_pure ()
    | cons c rest =>
      -- the writers say the same, so the same is left to be written
      refine coupled_step_lift_bind (h.write _) fun reply reply' hreply => ?_
      subst hreply
      split
      · exact coupled_step_throw _
      · exact ih _
      · exact ih _
      · exact coupled_step_throw _

theorem coupled_writePieces (attempts : Nat) (pieces : List String) :
    Coupled E Eq (S.writePieces attempts pieces).run (S'.writePieces attempts pieces).run := by
  induction pieces with
  | nil => exact coupled_step_pure ()
  | cons piece rest ih => exact coupled_step_bind (coupled_writeAll h _ _) fun _ => ih

theorem coupled_showSample (attempts : Nat) {u v : Utilization} (huv : u.untimed = v.untimed) :
    Coupled E Eq (S.showSample attempts u).run (S'.showSample attempts v).run := by
  have hpieces := Utilization.pieces_of_untimed huv
  unfold showSample
  rw [hpieces]
  refine coupled_step_bind (coupled_writePieces h _ _) fun _ => ?_
  refine coupled_step_lift_bind h.flush fun result result' hresult => ?_
  subst hresult
  cases result with
  | ok _ => exact coupled_step_pure ()
  | error failure => exact coupled_step_throw _

theorem coupled_complain (attempts : Nat) (f : Failure) :
    Coupled E Eq (S.complain attempts f).run (S'.complain attempts f).run :=
  coupled_step_lift_bind (coupled_log _ _ _ _) fun _ _ _ => coupled_writePieces h _ _

theorem coupled_round (mode : Mode) (interval : Duration) (attempts written : Nat) :
    Coupled E Eq (S.round mode interval attempts written).run
      (S'.round mode interval attempts written).run := by
  refine coupled_step_lift_bind h.sample fun result result' hresult => ?_
  -- both samples are taken, or both fail in the same way
  obtain ⟨f, rfl, rfl⟩ | ⟨u, v, rfl, rfl, huv⟩ := cases_of_map_eq hresult
  · exact coupled_step_bind (coupled_complain h _ _) fun _ => coupled_step_pure _
  · refine coupled_step_bind (coupled_showSample h _ huv) fun _ => ?_
    cases mode with
    | snapshot => exact coupled_step_pure _
    | continuous =>
      refine coupled_step_lift_bind (h.pause _) fun _ _ _ => ?_
      refine coupled_step_lift_bind coupled_get fun s s' hs => ?_
      rw [h.running s s' hs]
      split
      · exact coupled_step_pure _
      · exact coupled_step_pure _

end Setting

/-- Loops whose settings go together answer the same, and end in related states. -/
theorem coupled_run (mode : Mode) (interval : Duration) (bound : Nat) :
    Coupled E Eq (run S mode interval bound) (run S' mode interval bound) := by
  have hround (written : Nat) := coupled_map_eq ending
    (Setting.coupled_round h mode interval bound written)
  exact coupled_bind_eq (coupled_firstOf hround 0 bound) fun _ => coupled_pure rfl

end

/-- Two sources are related, and the benches beside them are the same. -/
def Bench.Beside (E : σ → τ → Prop) (p : σ × Bench) (p' : τ × Bench) : Prop :=
  E p.1 p'.1 ∧ p.2 = p'.2

/-- Two sources whose results differ in the clocks only are looped over alike, and the bench
comes back the same. -/
theorem Bench.coupled_run {E : σ → τ → Prop} {sample : Action σ (Except Failure Utilization)}
    {sample' : Action τ (Except Failure Utilization)}
    (hsample : Coupled E SameButClocks sample sample') (mode : Mode) (interval : Duration)
    (bound : Nat) (bench : Bench) :
    Coupled E Eq (bench.run sample mode interval bound) (bench.run sample' mode interval bound) := by
  have hbench {α : Type} (m : Action Bench α) :
      Coupled (Beside E) Eq (within Prod.snd (fun p b => (p.1, b)) m)
        (within Prod.snd (fun p b => (p.1, b)) m) := by
    rintro ⟨s, b⟩ ⟨s', _⟩ ⟨hs, rfl⟩
    exact ⟨rfl, hs, rfl⟩
  have htogether : (setting sample).Together (Beside E) (setting sample') :=
    { sample := coupled_within hsample (fun _ _ hp => hp.1) fun _ _ _ _ hp hs => ⟨hs, hp.2⟩
      write := fun _ => hbench _
      flush := hbench _
      pause := fun _ => hbench _
      running := fun _ _ hp => congrArg Bench.running hp.2 }
  intro s s' hs
  obtain ⟨hanswer, hstate, hback⟩ :=
    Monitor.coupled_run htogether mode interval bound (s, bench) (s', bench) ⟨hs, rfl⟩
  exact ⟨Prod.ext hanswer hback, hstate⟩

end Monitor
end GpuMonitor
