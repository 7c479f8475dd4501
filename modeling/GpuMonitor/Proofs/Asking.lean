import GpuMonitor.Proofs.Rounds

/-!
# What a loop asks of its source

Whatever becomes of its lines, a loop asks its source for one result after the other and
leaves nothing else in the trace but the report of a failure, which ends it.

* `Bench.rounds_asks`: a round asks once.

Main result:

* `Bench.run_asks`: a loop asks some times in a row, and only the last result can be a failure.
-/

namespace GpuMonitor.Monitor

variable {σ : Type} (sample : Action σ (Except Failure Utilization))

/-- Asking a source some times is asking it once, and then asking on. -/
theorem asking_cons (s : σ) (n : Nat) :
    asking sample (n + 1) s =
      let rest := asking sample n (sample s).value.2
      { value := ((sample s).value.1 :: rest.value.1, rest.value.2)
        trace := (sample s).trace ++ rest.trace } := by
  induction n with
  | zero =>
    rw [asking_succ]
    apply Traced.ext'
    · rfl
    · exact (List.append_nil _).symm
  | succ n ih =>
    have hlater : (asking sample (n + 1) s).value.2 =
        (asking sample n (sample s).value.2).value.2 := by rw [ih]
    rw [asking_succ, resultAt, hlater, ih]
    apply Traced.ext'
    · simp [asking_succ, resultAt]
    · simp [asking_succ]

namespace Bench

/-! ## One round -/

/-- Nothing is left in the trace, and the source stays as it is. -/
def Apart (p : σ × Bench) (t : Trace) (p' : σ × Bench) : Prop := t = [] ∧ p'.1 = p.1

theorem apart_handling : (setting sample).Handling Apart :=
  handling (R := fun s t s' => t = [] ∧ s' = s)
    ⟨fun _ => ⟨rfl, rfl⟩, fun h h' => ⟨by rw [h.1, h'.1]; rfl, h'.2.trans h.2⟩⟩ sample

theorem eq_of_apart {α : Type} {m : Action (σ × Bench) α} (h : Obeys Apart m) (s : σ) (b : Bench) :
    ∃ a b', m (s, b) = { value := (a, (s, b')) } := by
  obtain ⟨htrace, hsource⟩ := h (s, b)
  exact ⟨(m (s, b)).value.1, (m (s, b)).value.2.2,
    Traced.ext' (Prod.ext rfl (Prod.ext hsource rfl)) htrace⟩

/-- An answer tells of a sample that could not be taken if and only if there is one. -/
def Tells (answer : Option (Except Halt Summary)) (results : List (Except Failure Utilization)) :
    Prop :=
  ∀ summary, answer = some (.ok summary) →
    (summary.reason = .sampleFailed ↔ ∃ f, .error f ∈ results)

/-- No summary of a round that has its sample tells of a failure. -/
theorem tells_of_ok {answer : Option (Except Halt Summary)} {u : Utilization}
    (h : ∀ summary, answer = some (.ok summary) → summary.reason ≠ .sampleFailed) :
    Tells answer [.ok u] := by
  intro summary hsummary
  refine ⟨fun hfailed => absurd hfailed (h summary hsummary), fun hfailed => ?_⟩
  obtain ⟨f, hf⟩ := hfailed
  cases List.mem_singleton.1 hf

/-- A round asks once, and what it reports is a failure that ends the loop. -/
theorem rounds_asks (mode : Mode) (interval : Duration) (attempts n : Nat) (s : σ) (b : Bench) :
    ∃ answer b', (setting sample).rounds mode interval attempts n (s, b) =
        { value := (answer, ((sample s).value.2, b'))
          trace := (sample s).trace ++ report (sample s).value.1 } ∧
      (answer = none → ∃ u, (sample s).value.1 = .ok u) ∧
      Tells answer [(sample s).value.1] := by
  have hask : (setting sample).sample (s, b) =
      { value := ((sample s).value.1, ((sample s).value.2, b)), trace := (sample s).trace } := rfl
  cases hr : (sample s).value.1 with
  | error f =>
    rw [hr] at hask
    obtain ⟨x, b', hwrite⟩ := eq_of_apart (Setting.obeys_writePieces (apart_handling sample)
      attempts ["Error reading GPU utilization\n"]) (sample s).value.2 b
    have hcomplain : ((setting sample).complain attempts f).run ((sample s).value.2, b) =
        { value := (x, ((sample s).value.2, b')), trace := report (.error f) } := by
      rw [Setting.complain, run_bind_ok (run_lift _ _)]
      simp only [Action.value_log, Action.trace_log, hwrite]
      rfl
    refine ⟨_, _, Setting.rounds_of_error hask hcomplain, fun hnone => ?_, ?_⟩
    · cases hnone
    · intro summary hsummary
      cases x with
      | error halt => cases hsummary
      | ok _ =>
        cases hsummary
        exact ⟨fun _ => ⟨f, List.mem_singleton_self _⟩, fun _ => rfl⟩
  | ok u =>
    rw [hr] at hask
    obtain ⟨x, b', hshow⟩ := eq_of_apart (Setting.obeys_showSample (apart_handling sample)
      attempts u) (sample s).value.2 b
    cases x with
    | error halt =>
      refine ⟨_, _, Setting.rounds_of_halt hask hshow, fun _ => ⟨u, rfl⟩, tells_of_ok ?_⟩
      intro summary hsummary
      cases hsummary
    | ok _ =>
      cases mode with
      | snapshot =>
        refine ⟨_, _, Setting.rounds_of_snapshot hask hshow, fun _ => ⟨u, rfl⟩, tells_of_ok ?_⟩
        intro summary hsummary hfailed
        cases hsummary
        cases hfailed
      | continuous =>
        refine ⟨_, _, Setting.rounds_of_continuous hask hshow rfl, fun _ => ⟨u, rfl⟩, tells_of_ok ?_⟩
        intro summary hsummary hfailed
        split at hsummary
        · cases hsummary
        · cases hsummary
          cases hfailed

/-! ## The loop -/

theorem firstOf_asks (mode : Mode) (interval : Duration) (attempts start count : Nat) (s : σ)
    (b : Bench) :
    ∃ n answer b', firstOf ((setting sample).rounds mode interval attempts) start count (s, b) =
        { value := (answer, ((asking sample n s).value.2, b'))
          trace := (asking sample n s).trace ++ (asking sample n s).value.1.flatMap report } ∧
      (∀ result ∈ (asking sample n s).value.1.dropLast, ∃ u, result = .ok u) ∧
      Tells answer (asking sample n s).value.1 := by
  induction count generalizing start s b with
  | zero => exact ⟨0, none, b, rfl, by simp [asking], nofun⟩
  | succ count ih =>
    obtain ⟨answer, b', hround, hnone, htells⟩ := rounds_asks sample mode interval attempts start s b
    rw [firstOf_succ]
    cases answer with
    | some answer =>
      refine ⟨1, some answer, b', ?_, ?_, ?_⟩
      · apply Traced.ext' <;> simp [hround, asking]
      · simp [asking]
      · simpa [asking] using htells
    | none =>
      -- a round that goes on has had its sample, and there is nothing to report of it
      obtain ⟨u, hu⟩ := hnone rfl
      obtain ⟨n, answer, b'', hrest, hok, htells'⟩ := ih (start + 1) (sample s).value.2 b'
      refine ⟨n + 1, answer, b'', ?_, ?_, ?_⟩
      · apply Traced.ext'
        · simp [hround, hrest, asking_cons]
        · simp [hround, hrest, asking_cons, hu, report]
      · intro result hresult
        rw [asking_cons, hu] at hresult
        dsimp only at hresult
        cases hlater : (asking sample n (sample s).value.2).value.1 with
        | nil => simp [hlater] at hresult
        | cons first later =>
          rw [hlater, List.dropLast_cons_cons, List.mem_cons] at hresult
          rcases hresult with rfl | hresult
          · exact ⟨u, rfl⟩
          · rw [hlater] at hok
            exact hok result hresult
      · intro summary hsummary
        rw [htells' summary hsummary, asking_cons, hu]
        simp

/-- A loop asks its source some times in a row. The last result may be a failure, which is
reported at the end of the trace and told of by the summary, and all before it are samples. -/
theorem run_asks (mode : Mode) (interval : Duration) (bound : Nat) (b : Bench) (s : σ) :
    ∃ n, (b.run sample mode interval bound s).value.2 = (asking sample n s).value.2 ∧
      (b.run sample mode interval bound s).trace =
        (asking sample n s).trace ++ (asking sample n s).value.1.flatMap report ∧
      (∀ result ∈ (asking sample n s).value.1.dropLast, ∃ u, result = .ok u) ∧
      Tells (some (b.run sample mode interval bound s).value.1.1) (asking sample n s).value.1 := by
  obtain ⟨n, answer, b', hrun, hok, htells⟩ := firstOf_asks sample mode interval bound 0 bound s b
  refine ⟨n, ?_, ?_, hok, fun summary hsummary => htells summary ?_⟩
  · rw [run_eq_firstOf, hrun]
  · rw [run_eq_firstOf, hrun]
  · rw [run_eq_firstOf, hrun] at hsummary
    cases answer with
    | none => cases hsummary
    | some answer => exact hsummary

end Bench

end GpuMonitor.Monitor
