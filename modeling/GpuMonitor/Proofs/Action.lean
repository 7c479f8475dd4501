import GpuMonitor.Gateway
import GpuMonitor.Walk

/-!
# Laws of actions

An action is a function of the state, so a property of it speaks of the state before,
the trace and the state after. Three kinds of properties carry over from parts to wholes:

* `Obeys R`: from every state, `R` holds of the state before, the trace and the state
  after. It passes through sequences and walks when `R` composes (`Composes`).
* `Keeps F`, `Emits p`: the two usual relations. `F` is the same before and after; every
  event of the trace meets `p`.
* `Ensures P Q`: from a state that meets `P`, the action ends in a state that meets `P`
  and with an answer that meets `Q`.

The first section says what the ways to build actions come to; after that no proof looks
into them.
-/

namespace GpuMonitor

variable {σ τ α β ω ω' : Type}

/-! ## What an action comes to -/

namespace Action

@[simp] theorem value_pure (a : α) (s : σ) : ((pure a : Action σ α) s).value = (a, s) := rfl

@[simp] theorem trace_pure (a : α) (s : σ) : ((pure a : Action σ α) s).trace = [] := rfl

@[simp] theorem value_bind (m : Action σ α) (f : α → Action σ β) (s : σ) :
    ((m >>= f) s).value = (f (m s).value.1 (m s).value.2).value := rfl

@[simp] theorem trace_bind (m : Action σ α) (f : α → Action σ β) (s : σ) :
    ((m >>= f) s).trace = (m s).trace ++ (f (m s).value.1 (m s).value.2).trace :=
  Trace.followedBy_eq _ _

@[simp] theorem value_map (f : α → β) (m : Action σ α) (s : σ) :
    ((f <$> m) s).value = (f (m s).value.1, (m s).value.2) := rfl

@[simp] theorem trace_map (f : α → β) (m : Action σ α) (s : σ) :
    ((f <$> m) s).trace = (m s).trace := rfl

@[simp] theorem value_get (s : σ) : ((get : Action σ σ) s).value = (s, s) := rfl

@[simp] theorem trace_get (s : σ) : ((get : Action σ σ) s).trace = [] := rfl

@[simp] theorem value_modify (f : σ → σ) (s : σ) :
    ((modify f : Action σ PUnit) s).value = ((), f s) := rfl

@[simp] theorem trace_modify (f : σ → σ) (s : σ) :
    ((modify f : Action σ PUnit) s).trace = [] := rfl

@[simp] theorem value_emit (e : Event) (s : σ) : ((emit e : Action σ Unit) s).value = ((), s) :=
  rfl

@[simp] theorem trace_emit (e : Event) (s : σ) : ((emit e : Action σ Unit) s).trace = [e] := rfl

@[simp] theorem value_log (level : Level) (text : String) (s : σ) :
    ((log level text : Action σ Unit) s).value = ((), s) := rfl

@[simp] theorem trace_log (level : Level) (text : String) (s : σ) :
    ((log level text : Action σ Unit) s).trace = [.log level text] := rfl

@[simp] theorem value_emitAll (events : Trace) (s : σ) :
    ((emitAll events : Action σ Unit) s).value = ((), s) := rfl

@[simp] theorem trace_emitAll (events : Trace) (s : σ) :
    ((emitAll events : Action σ Unit) s).trace = events := rfl

@[simp] theorem value_within (get : σ → τ) (put : σ → τ → σ) (m : Action τ α) (s : σ) :
    (within get put m s).value = ((m (get s)).value.1, put s (m (get s)).value.2) := rfl

@[simp] theorem trace_within (get : σ → τ) (put : σ → τ → σ) (m : Action τ α) (s : σ) :
    (within get put m s).trace = (m (get s)).trace := rfl

/-- Two sequences do the same from a state if their steps do, one after the other. -/
theorem bind_congr {m m' : Action σ α} {f f' : α → Action σ β} {s : σ} (hm : m' s = m s)
    (hf : f' (m s).value.1 (m s).value.2 = f (m s).value.1 (m s).value.2) :
    (m' >>= f') s = (m >>= f) s := by
  apply Traced.ext' <;> simp [hm, hf]

end Action

/-! ## Relations that compose -/

/-- A relation that holds when nothing happens, and of two steps in a row when it holds of
each. -/
structure Composes (R : σ → Trace → σ → Prop) : Prop where
  nil : ∀ s, R s [] s
  append : ∀ {s s' s'' t u}, R s t s' → R s' u s'' → R s (t ++ u) s''

/-- From every state, the relation holds of the state, the trace and the state after. -/
def Obeys (R : σ → Trace → σ → Prop) (m : Action σ α) : Prop :=
  ∀ s, R s (m s).trace (m s).value.2

section
variable {R : σ → Trace → σ → Prop} (hR : Composes R)
include hR

theorem obeys_pure (a : α) : Obeys R (pure a : Action σ α) := fun s => hR.nil s

theorem obeys_get : Obeys R (get : Action σ σ) := fun s => hR.nil s

theorem obeys_bind {m : Action σ α} {f : α → Action σ β} (hm : Obeys R m)
    (hf : ∀ a, Obeys R (f a)) : Obeys R (m >>= f) := by
  intro s
  rw [Action.trace_bind, Action.value_bind]
  exact hR.append (hm s) (hf _ _)

omit hR in
theorem obeys_map {m : Action σ α} (f : α → β) (hm : Obeys R m) : Obeys R (f <$> m) :=
  fun s => hm s

omit hR in
theorem obeys_modify {f : σ → σ} (hf : ∀ s, R s [] (f s)) : Obeys R (modify f : Action σ PUnit) :=
  hf

theorem obeys_walk {visit : Nat → β → Action σ (Stride α β)} (hv : ∀ i b, Obeys R (visit i b))
    (start count : Nat) (carried : β) : Obeys R (walk visit start count carried) := by
  induction count generalizing start carried with
  | zero => exact obeys_pure hR _
  | succ n ih =>
    rw [walk_succ]
    refine obeys_bind hR (hv _ _) fun stride => ?_
    cases stride with
    | ended answer => exact obeys_pure hR _
    | going next => exact ih _ _

theorem obeys_collect {visit : Nat → Action σ (Option α)} (hv : ∀ i, Obeys R (visit i))
    (start count : Nat) : Obeys R (collect visit start count) := by
  refine obeys_bind hR (obeys_walk hR (fun i b => ?_) _ _ _) fun stride => ?_
  · exact obeys_bind hR (hv i) fun _ => obeys_pure hR _
  · cases stride with
    | going found => exact obeys_pure hR _
    | ended answer => exact answer.elim

theorem obeys_firstOf {visit : Nat → Action σ (Option α)} (hv : ∀ i, Obeys R (visit i))
    (start count : Nat) : Obeys R (firstOf visit start count) := by
  refine obeys_bind hR (obeys_walk hR (fun i b => ?_) _ _ _) fun stride => ?_
  · refine obeys_bind hR (hv i) fun answer => ?_
    cases answer <;> exact obeys_pure hR _
  · cases stride <;> exact obeys_pure hR _

end

/-! ## What is kept, and what is emitted -/

/-- `F` is the same before and after the action. -/
def Keeps (F : σ → ω) (m : Action σ α) : Prop := Obeys (fun s _ s' => F s' = F s) m

/-- Every event of the action meets `p`. -/
def Emits (p : Event → Prop) (m : Action σ α) : Prop := Obeys (fun _ t _ => ∀ e ∈ t, p e) m

theorem composes_keeps (F : σ → ω) : Composes fun (s : σ) _ s' => F s' = F s where
  nil _ := rfl
  append h h' := h'.trans h

theorem composes_emits (p : Event → Prop) : Composes fun (_ : σ) t (_ : σ) => ∀ e ∈ t, p e where
  nil _ := by simp
  append h h' e he := (List.mem_append.1 he).elim (h e) (h' e)

theorem Emits.mono {p q : Event → Prop} {m : Action σ α} (h : Emits p m)
    (hpq : ∀ e, p e → q e) : Emits q m := fun s e he => hpq e (h s e he)

/-- What is kept by an action on a part is kept by the action on the whole. -/
theorem keeps_within {get : σ → τ} {put : σ → τ → σ} {F : σ → ω} {f : τ → ω'}
    {m : Action τ α} (hm : Keeps f m) (hF : ∀ s t, f t = f (get s) → F (put s t) = F s) :
    Keeps F (within get put m) := fun s => hF s _ (hm _)

theorem emits_within {get : σ → τ} {put : σ → τ → σ} {p : Event → Prop} {m : Action τ α}
    (hm : Emits p m) : Emits p (within get put m) := fun s => hm (get s)

/-! ## What is ensured -/

/-- From a state that meets `P` the action ends in one that meets it too, with an answer
that meets `Q`. -/
def Ensures (P : σ → Prop) (Q : α → Prop) (m : Action σ α) : Prop :=
  ∀ s, P s → P (m s).value.2 ∧ Q (m s).value.1

section
variable {P : σ → Prop}

theorem ensures_pure {Q : α → Prop} {a : α} (h : Q a) : Ensures P Q (pure a : Action σ α) :=
  fun _ hs => ⟨hs, h⟩

theorem ensures_bind {Q : α → Prop} {Q' : β → Prop} {m : Action σ α} {f : α → Action σ β}
    (hm : Ensures P Q m) (hf : ∀ a, Q a → Ensures P Q' (f a)) : Ensures P Q' (m >>= f) := by
  intro s hs
  obtain ⟨hs', ha⟩ := hm s hs
  exact hf _ ha _ hs'

theorem ensures_of_obeys {m : Action σ α} (hm : Obeys (fun s _ s' => P s → P s') m) :
    Ensures P (fun _ => True) m := fun s hs => ⟨hm s hs, trivial⟩

/-- The first answer meets what every answer meets. -/
theorem ensures_firstOf {Q : α → Prop} {visit : Nat → Action σ (Option α)}
    (hv : ∀ i, Ensures P (fun o => ∀ a ∈ o, Q a) (visit i)) (start count : Nat) :
    Ensures P (fun o => ∀ a ∈ o, Q a) (firstOf visit start count) := by
  induction count generalizing start with
  | zero =>
    rw [firstOf_zero]
    exact ensures_pure (by simp)
  | succ n ih =>
    rw [firstOf_succ]
    refine ensures_bind (hv start) fun answer ha => ?_
    cases answer with
    | none => exact ih _
    | some a => exact ensures_pure ha

/-- Every answer that is kept meets what every answer meets. -/
theorem ensures_collect {Q : α → Prop} {visit : Nat → Action σ (Option α)}
    (hv : ∀ i, Ensures P (fun o => ∀ a ∈ o, Q a) (visit i)) (start count : Nat) :
    Ensures P (fun list => ∀ a ∈ list, Q a) (collect visit start count) := by
  induction count generalizing start with
  | zero =>
    rw [collect_zero]
    exact ensures_pure (by simp)
  | succ n ih =>
    rw [collect_succ]
    refine ensures_bind (hv start) fun answer ha => ?_
    refine ensures_bind (ih (start + 1)) fun rest hrest => ensures_pure fun a hmem => ?_
    rcases List.mem_append.1 hmem with h | h
    · exact ha a (Option.mem_toList.1 h)
    · exact hrest a h

end

end GpuMonitor
