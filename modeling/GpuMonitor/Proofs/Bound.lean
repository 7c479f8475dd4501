import GpuMonitor.Proofs.Monitoring

/-!
# The bound of a loop

A loop is given a bound on its rounds and on the attempts that a text is written in. The
bound decides whether the loop comes to its end, and nothing else.

* `Extends m m'`: where the step `m` does not meet its bound, `m'` does the same.

Main result:

* `run_of_le`: a loop that does not meet its bound does the same with every larger one.
-/

namespace GpuMonitor.Monitor

variable {σ α β : Type}

/-- Where the first step does not meet its bound, the second one does the same. -/
def Extends (m m' : Step σ α) : Prop :=
  ∀ s, (m.run s).value.1 ≠ .error .unfinished → m'.run s = m.run s

theorem extends_refl (m : Step σ α) : Extends m m := fun _ _ => rfl

theorem extends_bind {m m' : Step σ α} {f f' : α → Step σ β} (hm : Extends m m')
    (hf : ∀ a, Extends (f a) (f' a)) : Extends (m >>= f) (m' >>= f') := by
  intro s h
  rw [ExceptT.run_bind] at h ⊢
  rw [ExceptT.run_bind]
  -- a first step that met its bound would have ended the whole with it
  have hfirst : m'.run s = m.run s := by
    refine hm s fun hmet => h ?_
    rw [Action.value_bind, hmet]
    rfl
  refine Action.bind_congr hfirst ?_
  rw [Action.value_bind] at h
  cases hv : (m.run s).value.1 with
  | error halt => rfl
  | ok a =>
    rw [hv] at h
    exact hf a _ h

/-! ## A round -/

namespace Setting

variable (S : Setting σ) {attempts attempts' : Nat} (h : attempts ≤ attempts')
include h

theorem extends_writeAll (text : List Char) :
    Extends (S.writeAll attempts text) (S.writeAll attempts' text) := by
  induction attempts generalizing attempts' text with
  | zero =>
    cases text with
    | nil => cases attempts' <;> exact extends_refl _
    | cons c rest =>
      -- without an attempt left the bound is met at once
      exact fun _ hmet => absurd rfl hmet
  | succ n ih =>
    obtain ⟨k, rfl⟩ : ∃ k, attempts' = k + 1 := ⟨attempts' - 1, by omega⟩
    have hk : n ≤ k := by omega
    cases text with
    | nil => exact extends_refl _
    | cons c rest =>
      refine extends_bind (extends_refl _) fun reply => ?_
      split
      · exact extends_refl _
      · exact ih hk _
      · exact ih hk _
      · exact extends_refl _

theorem extends_writePieces (pieces : List String) :
    Extends (S.writePieces attempts pieces) (S.writePieces attempts' pieces) := by
  induction pieces with
  | nil => exact extends_refl _
  | cons piece rest ih => exact extends_bind (extends_writeAll S h _) fun _ => ih

theorem extends_round (mode : Mode) (interval : Duration) (written : Nat) :
    Extends (S.round mode interval attempts written)
      (S.round mode interval attempts' written) := by
  refine extends_bind (extends_refl _) fun result => ?_
  cases result with
  | error f =>
    refine extends_bind ?_ fun _ => extends_refl _
    exact extends_bind (extends_refl _) fun _ => extends_writePieces S h _
  | ok u =>
    refine extends_bind ?_ fun _ => extends_refl _
    exact extends_bind (extends_writePieces S h _) fun _ => extends_refl _

end Setting

/-! ## The loop -/

/-- A search over rounds that comes to an answer other than the bound comes to it in more
rounds too. -/
theorem firstOf_of_le {visit visit' : Nat → Action σ (Option (Except Halt Summary))}
    (hv : ∀ i s, (visit i s).value.1 ≠ some (.error .unfinished) → visit' i s = visit i s)
    {count count' : Nat} (hc : count ≤ count') (start : Nat) (s : σ) {x : Except Halt Summary}
    (h : (firstOf visit start count s).value.1 = some x) (hx : x ≠ .error .unfinished) :
    firstOf visit' start count' s = firstOf visit start count s := by
  induction count generalizing start count' s with
  | zero => simp [firstOf_zero] at h
  | succ n ih =>
    obtain ⟨k, rfl⟩ : ∃ k, count' = k + 1 := ⟨count' - 1, by omega⟩
    have hk : n ≤ k := by omega
    rw [firstOf_succ] at h ⊢
    rw [firstOf_succ]
    rw [Action.value_bind] at h
    have hfirst : visit' start s = visit start s := by
      refine hv start s fun hmet => ?_
      rw [hmet] at h
      exact hx (Option.some.inj h).symm
    refine Action.bind_congr hfirst ?_
    -- the search ends here with both bounds, or goes on with one round less
    cases ha : (visit start s).value.1 with
    | some y => rfl
    | none =>
      rw [ha] at h
      exact ih hk _ _ h

theorem ending_eq_unfinished_iff {x : Except Halt (Option Summary)} :
    ending x = some (.error .unfinished) ↔ x = .error .unfinished := by
  rcases x with halt | _ | summary <;> simp [ending]

/-- The rounds of a loop, each with how it ends the loop. -/
def Setting.rounds (S : Setting σ) (mode : Mode) (interval : Duration) (attempts written : Nat) :
    Action σ (Option (Except Halt Summary)) :=
  ending <$> (S.round mode interval attempts written).run

/-- A loop is the search for the first of its rounds that ends it. -/
theorem run_eq_map (S : Setting σ) (mode : Mode) (interval : Duration) (bound : Nat) :
    run S mode interval bound =
      (·.getD (.error .unfinished)) <$> firstOf (S.rounds mode interval bound) 0 bound := by
  rw [map_eq_pure_bind]
  rfl

theorem extends_rounds (S : Setting σ) {attempts attempts' : Nat} (h : attempts ≤ attempts')
    (mode : Mode) (interval : Duration) (written : Nat) (s : σ)
    (hne : (S.rounds mode interval attempts written s).value.1 ≠ some (.error .unfinished)) :
    S.rounds mode interval attempts' written s = S.rounds mode interval attempts written s := by
  have hround := Setting.extends_round S h mode interval written s fun hmet =>
    hne (ending_eq_unfinished_iff.2 hmet)
  apply Traced.ext' <;> simp [Setting.rounds, hround]

/-- A loop that comes to its end is found to do so in every larger number of rounds and
attempts. -/
theorem firstOf_rounds_of_le (S : Setting σ) (mode : Mode) (interval : Duration)
    {bound attempts count : Nat} (ha : bound ≤ attempts) (hc : bound ≤ count) (s : σ)
    (h : (run S mode interval bound s).value.1 ≠ .error .unfinished) :
    firstOf (S.rounds mode interval attempts) 0 count s =
      firstOf (S.rounds mode interval bound) 0 bound s := by
  rw [run_eq_map, Action.value_map] at h
  cases hx : (firstOf (S.rounds mode interval bound) 0 bound s).value.1 with
  | none => simp [hx] at h
  | some x =>
    rw [hx] at h
    exact firstOf_of_le (fun i s => extends_rounds S ha mode interval i s) hc 0 s hx h

/-- A loop that does not meet its bound does the same with every larger one. -/
theorem run_of_le (S : Setting σ) (mode : Mode) (interval : Duration) {bound bound' : Nat}
    (hb : bound ≤ bound') (s : σ)
    (h : (run S mode interval bound s).value.1 ≠ .error .unfinished) :
    run S mode interval bound' s = run S mode interval bound s := by
  have hrounds := firstOf_rounds_of_le S mode interval hb hb s h
  rw [run_eq_map, run_eq_map]
  apply Traced.ext' <;> simp [hrounds]

end GpuMonitor.Monitor
