import GpuMonitor.Catalog
import GpuMonitor.Proofs.Action
import GpuMonitor.Session

/-!
# Two runs side by side

Two actions are coupled if from related states they give related answers and end in related
states; what they leave in their traces is left open. The states may be of different kinds, so
one notion serves for a gateway behind another one as well as for two gateways of one kind.

* `Coupled E A m m'`: the states are related by `E`, the answers by `A`. It passes through
  sequences (`coupled_bind`), parts of a state (`coupled_within`) and walks
  (`coupled_collect`, `coupled_firstOf`).
* `ReadingCoupled E`: the readings of two gateways are coupled, with equal answers. Then so are
  listing, selecting and reading values (`coupled_listAdapters`, `coupled_catalog`,
  `coupled_selectSet`, `coupled_readValues`).
-/

namespace GpuMonitor

variable {σ τ σ' τ' α α' β β' : Type}

/-- From related states come related answers and related states. -/
def Coupled (E : σ → τ → Prop) (A : α → β → Prop) (m : Action σ α) (m' : Action τ β) : Prop :=
  ∀ s s', E s s' → A (m s).value.1 (m' s').value.1 ∧ E (m s).value.2 (m' s').value.2

section
variable {E : σ → τ → Prop}

theorem Coupled.mono {A A' : α → β → Prop} {m : Action σ α} {m' : Action τ β}
    (h : Coupled E A m m') (hA : ∀ a b, A a b → A' a b) : Coupled E A' m m' := by
  intro s s' hs
  obtain ⟨hanswer, hstate⟩ := h s s' hs
  exact ⟨hA _ _ hanswer, hstate⟩

/-! ## Sequences -/

theorem coupled_pure {A : α → β → Prop} {a : α} {b : β} (h : A a b) :
    Coupled E A (pure a) (pure b) := fun _ _ hs => ⟨h, hs⟩

theorem coupled_get : Coupled E E (get : Action σ σ) (get : Action τ τ) := fun _ _ hs => ⟨hs, hs⟩

theorem coupled_modify {f : σ → σ} {f' : τ → τ} (h : ∀ s s', E s s' → E (f s) (f' s')) :
    Coupled E Eq (modify f : Action σ PUnit) (modify f' : Action τ PUnit) :=
  fun s s' hs => ⟨rfl, h s s' hs⟩

theorem coupled_emitAll (events events' : Trace) :
    Coupled E Eq (emitAll events : Action σ Unit) (emitAll events' : Action τ Unit) :=
  fun _ _ hs => ⟨rfl, hs⟩

theorem coupled_log (level level' : Level) (text text' : String) :
    Coupled E Eq (log level text : Action σ Unit) (log level' text' : Action τ Unit) :=
  fun _ _ hs => ⟨rfl, hs⟩

/-- Whether a warning is left makes no difference to answers and states. -/
theorem coupled_warnUnlessOk (what : String) (code code' : CompletionCode) :
    Coupled E Eq (warnUnlessOk what code : Action σ Unit)
      (warnUnlessOk what code' : Action τ Unit) := by
  unfold warnUnlessOk
  split <;> split <;> exact fun _ _ hs => ⟨rfl, hs⟩

theorem coupled_bind {A : α → β → Prop} {B : α' → β' → Prop} {m : Action σ α} {m' : Action τ β}
    {f : α → Action σ α'} {f' : β → Action τ β'} (hm : Coupled E A m m')
    (hf : ∀ a b, A a b → Coupled E B (f a) (f' b)) : Coupled E B (m >>= f) (m' >>= f') := by
  intro s s' hs
  obtain ⟨hanswer, hstate⟩ := hm s s' hs
  exact hf _ _ hanswer _ _ hstate

/-- Two sequences whose first steps answer the same. -/
theorem coupled_bind_eq {B : α' → β' → Prop} {m : Action σ α} {m' : Action τ α}
    {f : α → Action σ α'} {f' : α → Action τ β'} (hm : Coupled E Eq m m')
    (hf : ∀ a, Coupled E B (f a) (f' a)) : Coupled E B (m >>= f) (m' >>= f') := by
  refine coupled_bind hm fun a b hab => ?_
  subst hab
  exact hf a

theorem coupled_map {A : α → β → Prop} {B : α' → β' → Prop} {m : Action σ α} {m' : Action τ β}
    {f : α → α'} {f' : β → β'} (hm : Coupled E A m m') (hf : ∀ a b, A a b → B (f a) (f' b)) :
    Coupled E B (f <$> m) (f' <$> m') := by
  intro s s' hs
  obtain ⟨hanswer, hstate⟩ := hm s s' hs
  exact ⟨hf _ _ hanswer, hstate⟩

theorem coupled_map_eq {m : Action σ α} {m' : Action τ α} (f : α → α')
    (hm : Coupled E Eq m m') : Coupled E Eq (f <$> m) (f <$> m') :=
  coupled_map hm fun _ _ h => congrArg f h

/-- Actions on related parts are coupled, if what is done to the parts leaves the wholes
related. -/
theorem coupled_within {e : σ' → τ' → Prop} {A : α → β → Prop} {get : σ → σ'}
    {put : σ → σ' → σ} {get' : τ → τ'} {put' : τ → τ' → τ} {m : Action σ' α} {m' : Action τ' β}
    (hm : Coupled e A m m') (hget : ∀ s s', E s s' → e (get s) (get' s'))
    (hput : ∀ s s' t t', E s s' → e t t' → E (put s t) (put' s' t')) :
    Coupled E A (within get put m) (within get' put' m') := by
  intro s s' hs
  obtain ⟨hanswer, hstate⟩ := hm _ _ (hget s s' hs)
  exact ⟨hanswer, hput s s' _ _ hs hstate⟩

/-! ## States that are the same in part -/

/-- Two states are the same as far as `F` tells. -/
def Same (F : σ → σ) (s s' : σ) : Prop := F s = F s'

omit E in
theorem Same.reads {ω : Type} {F : σ → σ} {s s' : σ} (h : Same F s s') (g : σ → ω)
    (hg : ∀ s, g (F s) = g s) : g s = g s' := by
  rw [← hg, h, hg]

omit E in
theorem coupled_modify_same {F f : σ → σ} (h : ∀ s, F (f s) = f (F s)) :
    Coupled (Same F) Eq (modify f : Action σ PUnit) (modify f : Action σ PUnit) := by
  refine coupled_modify fun s s' hs => ?_
  unfold Same at hs ⊢
  rw [h, h, hs]

omit E in
/-- Actions that change nothing that `F` tells are coupled, whatever they answer. -/
theorem coupled_of_keeps {F : σ → σ} {m : Action σ α} {m' : Action σ β} (hm : Keeps F m)
    (hm' : Keeps F m') : Coupled (Same F) (fun _ _ => True) m m' := by
  intro s s' hs
  exact ⟨trivial, (hm s).trans (hs.trans (hm' s').symm)⟩

omit E in
/-- What `F` tells of a state goes together with what `f` tells of a part of it. -/
theorem coupled_part {F : σ → σ} {f : σ' → σ'} {A : α → β → Prop} {get : σ → σ'}
    {put : σ → σ' → σ} {m : Action σ' α} {m' : Action σ' β} (hm : Coupled (Same f) A m m')
    (hget : ∀ s, get (F s) = f (get s)) (hput : ∀ s t, F (put s t) = put (F s) (f t)) :
    Coupled (Same F) A (within get put m) (within get put m') := by
  refine coupled_within hm (fun s s' hs => ?_) fun s s' t t' hs ht => ?_
  · unfold Same at hs ⊢
    rw [← hget, ← hget, hs]
  · unfold Same at hs ht ⊢
    rw [hput, hput, hs, ht]

omit E in
/-- Two results that are the same as far as `f` tells have failed in the same way, or neither of
them has failed. -/
theorem cases_of_map_eq {ε : Type} {f : α → β} {r r' : Except ε α} (h : r.map f = r'.map f) :
    (∃ e, r = .error e ∧ r' = .error e) ∨ ∃ a a', r = .ok a ∧ r' = .ok a' ∧ f a = f a' := by
  cases r with
  | error e =>
    cases r' with
    | error e' =>
      cases h
      exact .inl ⟨e, rfl, rfl⟩
    | ok a' => cases h
  | ok a =>
    cases r' with
    | error e' => cases h
    | ok a' => exact .inr ⟨a, a', rfl, rfl, Except.ok.inj h⟩

/-! ## Walks -/

section
variable {visit : Nat → Action σ (Option α)} {visit' : Nat → Action τ (Option α)}
  (hv : ∀ i, Coupled E Eq (visit i) (visit' i)) (start count : Nat)
include hv

theorem coupled_collect : Coupled E Eq (collect visit start count) (collect visit' start count) := by
  induction count generalizing start with
  | zero =>
    rw [collect_zero, collect_zero]
    exact coupled_pure rfl
  | succ n ih =>
    rw [collect_succ, collect_succ]
    refine coupled_bind_eq (hv start) fun answer => ?_
    exact coupled_bind_eq (ih (start + 1)) fun rest => coupled_pure rfl

theorem coupled_firstOf : Coupled E Eq (firstOf visit start count) (firstOf visit' start count) := by
  induction count generalizing start with
  | zero =>
    rw [firstOf_zero, firstOf_zero]
    exact coupled_pure rfl
  | succ n ih =>
    rw [firstOf_succ, firstOf_succ]
    refine coupled_bind_eq (hv start) fun answer => ?_
    cases answer with
    | none => exact ih (start + 1)
    | some a => exact coupled_pure rfl

end
end

/-! ## Reading -/

/-- The readings of two gateways are coupled, and answer the same. -/
structure ReadingCoupled [Gateway σ] [Gateway τ] (E : σ → τ → Prop) : Prop where
  adapterGroup : Coupled E Eq Gateway.readAdapterGroup Gateway.readAdapterGroup
  adapter : ∀ i, Coupled E Eq (Gateway.readAdapter i) (Gateway.readAdapter i)
  device : Coupled E Eq Gateway.readDevice Gateway.readDevice
  concurrentGroup : ∀ g, Coupled E Eq (Gateway.readConcurrentGroup g) (Gateway.readConcurrentGroup g)
  metricSet : ∀ id, Coupled E Eq (Gateway.readMetricSet id) (Gateway.readMetricSet id)
  metric : ∀ id i, Coupled E Eq (Gateway.readMetric id i) (Gateway.readMetric id i)

section
variable [Gateway σ] [Gateway τ] {E : σ → τ → Prop} (hE : ReadingCoupled E)
include hE

theorem coupled_listAdapters : Coupled E Eq listAdapters listAdapters :=
  coupled_bind_eq hE.adapterGroup fun _ =>
    coupled_collect (fun i => coupled_map_eq _ (hE.adapter i)) 0 _

theorem coupled_concurrentGroupCount : Coupled E Eq concurrentGroupCount concurrentGroupCount := by
  refine coupled_bind_eq hE.device fun params => ?_
  cases params <;> exact coupled_pure rfl

theorem coupled_metricsOf (id : MetricSetId) (count : Nat) :
    Coupled E Eq (metricsOf id count) (metricsOf id count) := coupled_collect (hE.metric id) 0 count

theorem coupled_readSetEntry (id : MetricSetId) :
    Coupled E Eq (readSetEntry id) (readSetEntry id) := by
  refine coupled_bind_eq (hE.metricSet id) fun params => ?_
  cases params with
  | none => exact coupled_pure rfl
  | some params => exact coupled_bind_eq (coupled_metricsOf hE id _) fun _ => coupled_pure rfl

theorem coupled_readGroupEntry (g : Nat) : Coupled E Eq (readGroupEntry g) (readGroupEntry g) := by
  refine coupled_bind_eq (hE.concurrentGroup g) fun params => ?_
  cases params with
  | none => exact coupled_pure rfl
  | some params =>
    exact coupled_bind_eq (coupled_collect (fun i => coupled_readSetEntry hE ⟨g, i⟩) 0 _)
      fun _ => coupled_pure rfl

theorem coupled_catalog : Coupled E Eq catalog catalog := by
  refine coupled_bind_eq (coupled_concurrentGroupCount hE) fun count => ?_
  cases count with
  | error f => exact coupled_pure rfl
  | ok count =>
    exact coupled_bind_eq (coupled_collect (coupled_readGroupEntry hE) 0 _)
      fun _ => coupled_pure rfl

theorem coupled_readValues (id : MetricSetId) :
    Coupled E Eq (Session.readValues id) (Session.readValues id) := by
  refine coupled_bind_eq (hE.metricSet id) fun params => ?_
  cases params with
  | none => exact coupled_pure rfl
  | some params => exact coupled_bind_eq (coupled_metricsOf hE id _) fun _ => coupled_pure rfl

theorem coupled_considerSet (id : MetricSetId) :
    Coupled E Eq (Selection.considerSet id) (Selection.considerSet id) := by
  refine coupled_bind_eq (hE.metricSet id) fun params => ?_
  cases params with
  | none => exact coupled_pure rfl
  | some params =>
    refine coupled_bind_eq (coupled_log _ _ _ _) fun _ => ?_
    refine coupled_bind_eq (coupled_metricsOf hE id _) fun metrics => ?_
    refine coupled_bind_eq (coupled_emitAll _ _) fun _ => ?_
    -- the metrics are the same on both sides, so both go on or neither does
    split
    · exact coupled_pure rfl
    · exact coupled_bind_eq (coupled_log _ _ _ _) fun _ => coupled_pure rfl

theorem coupled_considerGroup (g : Nat) :
    Coupled E Eq (Selection.considerGroup g) (Selection.considerGroup g) := by
  refine coupled_bind_eq (hE.concurrentGroup g) fun params => ?_
  cases params with
  | none => exact coupled_pure rfl
  | some params =>
    exact coupled_bind_eq (coupled_log _ _ _ _) fun _ =>
      coupled_firstOf (fun i => coupled_considerSet hE ⟨g, i⟩) 0 _

theorem coupled_selectSet : Coupled E Eq selectSet selectSet := by
  refine coupled_bind_eq (coupled_concurrentGroupCount hE) fun count => ?_
  cases count with
  | error f => exact coupled_pure rfl
  | ok count =>
    refine coupled_bind_eq (coupled_log _ _ _ _) fun _ => ?_
    refine coupled_bind_eq (coupled_firstOf (coupled_considerGroup hE) 0 _) fun found => ?_
    cases found with
    | some selection => exact coupled_pure rfl
    | none =>
      refine coupled_bind_eq (coupled_log _ _ _ _) fun _ => ?_
      exact coupled_bind_eq (coupled_log _ _ _ _) fun _ => coupled_pure rfl

end

end GpuMonitor
