import GpuMonitor.Proofs.Recorder

/-!
# Selecting agrees with listing

A session looks through its device in two ways. `catalog` reads everything; `select` stops
at the first metric set that carries utilization. Started from the same state, the two
come across the same entries in the same order, whatever the gateway answers and however
its answers change from reading to reading.

* `Leads R f m' m`: the action `m'` answers what `f` makes of the answer of `m`, and `m`
  goes on from where `m'` has ended. `Finds` is the same for a search, which may fail: it
  passes through the loops (`finds_firstOf`), so it is proved for a set, a group and a
  device in turn (`finds_considerSet`, `finds_considerGroup`, `leads_selectSet`).
* `entries_sorted`: the entries of a catalog are in the order of their places.

Main result:

* `select_agrees_with_catalog`: the selected set is the first entry of the catalog that
  carries utilization, and the search reads a prefix of what the catalog reads.
-/

namespace GpuMonitor

variable {σ α β γ δ ε : Type}

/-! ## Actions that stop early -/

/-- A run goes on from where another one has ended: it makes the calls of the other and then
some more, and gets from the last state of the other to its own as `R` says. -/
def GoesOn (R : σ → Trace → σ → Prop) (x : Traced (β × σ)) (y : Traced (α × σ)) : Prop :=
  ∃ rest : Trace, y.trace.calls = x.trace.calls ++ rest.calls ∧ R x.value.2 rest y.value.2

/-- The action `m'` answers what `f` makes of the answer of `m`, which goes on from where `m'`
has ended. -/
structure Leads (R : σ → Trace → σ → Prop) (f : α → β) (m' : Action σ β) (m : Action σ α) :
    Prop where
  answer : ∀ s, (m' s).value.1 = f (m s).value.1
  goesOn : ∀ s, GoesOn R (m' s) (m s)

/-- The search `m'` answers what `f` picks from the answer of the full walk `m`. The walk goes
on from where the search has ended, and has ended there itself if nothing was found. -/
structure Finds (R : σ → Trace → σ → Prop) (f : α → Option β) (m' : Action σ (Option β))
    (m : Action σ α) : Prop extends Leads R f m' m where
  whole : ∀ s, (m' s).value.1 = none →
    (m' s).value.2 = (m s).value.2 ∧ (m' s).trace.calls = (m s).trace.calls

section
variable {R : σ → Trace → σ → Prop} (hR : Composes R)
include hR

theorem GoesOn.of_same {x : Traced (β × σ)} {y : Traced (α × σ)}
    (hs : x.value.2 = y.value.2) (hc : x.trace.calls = y.trace.calls) : GoesOn R x y := by
  refine ⟨[], ?_, ?_⟩
  · rw [hc]
    exact (List.append_nil _).symm
  · rw [hs]
    exact hR.nil _

theorem finds_pure {f : α → Option β} {b : Option β} {a : α} (h : b = f a) :
    Finds R f (pure b) (pure a) where
  answer _ := h
  goesOn _ := .of_same hR rfl rfl
  whole _ _ := ⟨rfl, rfl⟩

omit hR in
/-- Both go on after the same action, each with its answer. -/
theorem Leads.bind_same {f : α → β} {k' : δ → Action σ β} {k : δ → Action σ α}
    (m : Action σ δ) (h : ∀ d, Leads R f (k' d) (k d)) : Leads R f (m >>= k') (m >>= k) where
  answer s := (h _).answer _
  goesOn s := by
    obtain ⟨rest, hcalls, hstate⟩ := (h (m s).value.1).goesOn (m s).value.2
    refine ⟨rest, ?_, hstate⟩
    rw [Action.trace_bind, Action.trace_bind, Trace.calls_append, Trace.calls_append, hcalls,
      List.append_assoc]

omit hR in
theorem Finds.bind_same {f : α → Option β} {k' : δ → Action σ (Option β)} {k : δ → Action σ α}
    (m : Action σ δ) (h : ∀ d, Finds R f (k' d) (k d)) : Finds R f (m >>= k') (m >>= k) where
  toLeads := Leads.bind_same m fun d => (h d).toLeads
  whole s hnone := by
    obtain ⟨hstate, hcalls⟩ := (h (m s).value.1).whole (m s).value.2 hnone
    refine ⟨hstate, ?_⟩
    rw [Action.trace_bind, Action.trace_bind, Trace.calls_append, Trace.calls_append, hcalls]

omit hR in
/-- The action that stops may say something before it starts, as long as it makes no call. -/
theorem Leads.saying {f : α → β} {m' : Action σ β} {m : Action σ α} (h : Leads R f m' m)
    (events : Trace) (he : events.calls = []) : Leads R f (emitAll events >>= fun _ => m') m where
  answer s := h.answer s
  goesOn s := by
    obtain ⟨rest, hcalls, hstate⟩ := h.goesOn s
    refine ⟨rest, ?_, hstate⟩
    rw [Action.trace_bind, Trace.calls_append, Action.trace_emitAll, he]
    exact hcalls

omit hR in
theorem Finds.saying {f : α → Option β} {m' : Action σ (Option β)} {m : Action σ α}
    (h : Finds R f m' m) (events : Trace) (he : events.calls = []) :
    Finds R f (emitAll events >>= fun _ => m') m where
  toLeads := h.toLeads.saying events he
  whole s hnone := by
    obtain ⟨hstate, hcalls⟩ := h.whole s hnone
    refine ⟨hstate, ?_⟩
    rw [Action.trace_bind, Trace.calls_append, Action.trace_emitAll, he]
    exact hcalls

omit hR in
/-- The walk may shape its answer at its end. -/
theorem Leads.shaping {f : α → β} {g : δ → α} {m' : Action σ β} {m : Action σ δ}
    (h : Leads R (fun d => f (g d)) m' m) : Leads R f m' (m >>= fun d => pure (g d)) where
  answer s := h.answer s
  goesOn s := by
    obtain ⟨rest, hcalls, hstate⟩ := h.goesOn s
    refine ⟨rest, ?_, hstate⟩
    rw [Action.trace_bind, Action.trace_pure, List.append_nil]
    exact hcalls

omit hR in
theorem Finds.shaping {f : α → Option β} {g : δ → α} {m' : Action σ (Option β)}
    {m : Action σ δ} (h : Finds R (fun d => f (g d)) m' m) :
    Finds R f m' (m >>= fun d => pure (g d)) where
  toLeads := h.toLeads.shaping
  whole s hnone := by
    rw [Action.trace_bind, Action.trace_pure, List.append_nil]
    exact h.whole s hnone

omit hR in
/-- The action that stops may conclude from its answer, as long as it makes no call for that
and leaves the state alone. -/
theorem Leads.concluding {f : α → β} {g : β → δ} {m' : Action σ β} {m : Action σ α}
    {k : β → Action σ δ} (h : Leads R f m' m)
    (hk : ∀ b s, (k b s).value = (g b, s) ∧ (k b s).trace.calls = []) :
    Leads R (fun a => g (f a)) (m' >>= k) m where
  answer s := by rw [Action.value_bind, (hk _ _).1, h.answer]
  goesOn s := by
    obtain ⟨rest, hcalls, hstate⟩ := h.goesOn s
    refine ⟨rest, ?_, ?_⟩
    · rw [Action.trace_bind, Trace.calls_append, (hk _ _).2, List.append_nil]
      exact hcalls
    · rw [Action.value_bind, (hk _ _).1]
      exact hstate

/-- Two searches in a row, of which the second one is for when the first one fails. The walks
are both made. -/
theorem Finds.orElse {f₁ : α → Option β} {f₂ : δ → Option β} {f : ε → Option β} {g : α → δ → ε}
    {m' k' : Action σ (Option β)} {m : Action σ α} {k : Action σ δ} (h₁ : Finds R f₁ m' m)
    (h₂ : Finds R f₂ k' k) (hk : Obeys R k) (hf : ∀ a d, f (g a d) = (f₁ a).or (f₂ d)) :
    Finds R f
      (m' >>= fun answer =>
        match answer with
        | some b => pure (some b)
        | none => k')
      (m >>= fun a => k >>= fun d => pure (g a d)) := by
  -- what both come to, by whether the first search fails
  have hsplit : ∀ s,
      (∃ b, f₁ (m s).value.1 = some b ∧ (m' s).value.1 = some b) ∨
        f₁ (m s).value.1 = none ∧ (m' s).value.1 = none := by
    intro s
    rw [h₁.answer s]
    cases f₁ (m s).value.1 with
    | none => exact .inr ⟨rfl, rfl⟩
    | some b => exact .inl ⟨b, rfl, rfl⟩
  refine ⟨⟨fun s => ?_, fun s => ?_⟩, fun s hnone => ?_⟩
  · rcases hsplit s with ⟨b, hf₁, hb⟩ | ⟨hf₁, hb⟩
    · simp [hf, hf₁, hb]
    · obtain ⟨hstate, -⟩ := h₁.whole s hb
      simp [hf, hf₁, hb, hstate, h₂.answer]
  · rcases hsplit s with ⟨b, -, hb⟩ | ⟨-, hb⟩
    · -- the walk goes on with what is left of `m`, and with all of `k`
      obtain ⟨rest, hcalls, hstate⟩ := h₁.goesOn s
      refine ⟨rest ++ (k (m s).value.2).trace, ?_, ?_⟩
      · simp [hb, Trace.calls_append, hcalls]
      · simp only [Action.value_bind, hb, Action.value_pure]
        exact hR.append hstate (hk _)
    · -- the first search has gone as far as `m`, so the second one starts where `k` does
      obtain ⟨hstate, hcalls⟩ := h₁.whole s hb
      obtain ⟨rest, hcalls', hstate'⟩ := h₂.goesOn (m s).value.2
      refine ⟨rest, ?_, ?_⟩
      · simp [hb, hstate, Trace.calls_append, hcalls, hcalls']
      · simpa [hb, hstate] using hstate'
  · rcases hsplit s with ⟨b, -, hb⟩ | ⟨-, hb⟩
    · simp [hb] at hnone
    · obtain ⟨hstate, hcalls⟩ := h₁.whole s hb
      have hnone' : (k' (m s).value.2).value.1 = none := by simpa [hb, hstate] using hnone
      obtain ⟨hstate', hcalls'⟩ := h₂.whole _ hnone'
      simp [hb, hstate, hstate', Trace.calls_append, hcalls, hcalls']

/-- The first answer of a loop that stops is the first one picked from those of the loop that
does not. -/
theorem finds_firstOf {pick : α → Option β} {visit' : Nat → Action σ (Option β)}
    {visit : Nat → Action σ (Option α)} (hv : ∀ i, Finds R (·.bind pick) (visit' i) (visit i))
    (hm : ∀ i, Obeys R (visit i)) (start count : Nat) :
    Finds R (·.findSome? pick) (firstOf visit' start count) (collect visit start count) := by
  induction count generalizing start with
  | zero =>
    rw [firstOf_zero, collect_zero]
    exact finds_pure hR rfl
  | succ n ih =>
    -- a loop is its first visit, and then the loop over the rest if that one finds nothing
    rw [firstOf_succ, collect_succ]
    refine (hv start).orElse hR (ih (start + 1)) (obeys_collect hR hm _ _) fun a rest => ?_
    cases a with
    | none => rfl
    | some a =>
      show (a :: rest).findSome? pick = (pick a).or (rest.findSome? pick)
      rw [List.findSome?_cons]
      cases pick a <;> rfl

end

/-! ## The search through the open device -/

/-- What is remembered of the entry of a metric set when it is selected. -/
def MetricSetEntry.selection (e : MetricSetEntry) : Selection := ⟨e.id, e.params.symbolName⟩

/-- What is selected at the entry of a metric set. -/
def MetricSetEntry.pick (e : MetricSetEntry) : Option Selection :=
  if e.carriesUtilization then some e.selection else none

/-- What is selected in the entry of a concurrent group. -/
def ConcurrentGroupEntry.pick (e : ConcurrentGroupEntry) : Option Selection :=
  e.sets.findSome? MetricSetEntry.pick

/-- What a search for a metric set answers. -/
def answerOf (found : Option Selection) : Except Failure Selection :=
  found.elim (.error .noUtilizationMetricSet) .ok

/-- What is selected in a catalog. -/
def pickFrom : Except Failure (List ConcurrentGroupEntry) → Except Failure Selection
  | .error f => .error f
  | .ok groups => answerOf (groups.findSome? ConcurrentGroupEntry.pick)

/-- Some metrics are recognized if and only if one of them has a class. -/
theorem isEmpty_recognized (metrics : List MetricParams) :
    (Selection.recognized metrics).isEmpty = !metrics.any fun m => m.class?.isSome := by
  induction metrics with
  | nil => rfl
  | cons m rest ih =>
    rw [List.any_cons, Bool.not_or, ← ih]
    cases hname : m.symbolName with
    | none => simp [Selection.recognized, MetricParams.class?, hname]
    | some name =>
      cases hc : classify name <;>
        simp [Selection.recognized, MetricParams.class?, hname, hc]

theorem calls_foundRecords (found : List (MetricClass × String)) :
    Trace.calls (found.map Selection.foundRecord) = [] := by
  rw [Trace.calls, List.filterMap_map]
  exact List.filterMap_eq_nil_iff.2 fun _ _ => rfl

theorem reading_free [Gateway γ] : ReadingObeys fun (_ : γ) _ (_ : γ) => True where
  composes := ⟨fun _ => trivial, fun _ _ => trivial⟩
  logging _ _ _ _ := trivial
  adapterGroup _ := trivial
  adapter _ _ := trivial
  device _ := trivial
  concurrentGroup _ _ := trivial
  metricSet _ _ := trivial
  metric _ _ _ := trivial

section
variable [Gateway γ] {R : γ → Trace → γ → Prop} (hR : ReadingObeys R)
include hR

theorem finds_considerSet (id : MetricSetId) :
    Finds R (·.bind MetricSetEntry.pick) (Selection.considerSet (γ := γ) id) (readSetEntry id) := by
  refine Finds.bind_same _ fun params => ?_
  cases params with
  | none => exact finds_pure hR.composes rfl
  | some params =>
    refine Finds.saying (Finds.bind_same _ fun metrics => ?_) [_] rfl
    refine Finds.saying ?_ _ (calls_foundRecords _)
    have hempty : (Selection.recognized metrics).isEmpty =
        !(MetricSetEntry.mk id params metrics).carriesUtilization := isEmpty_recognized metrics
    -- the set is passed over exactly if its entry carries no utilization
    split
    · next h =>
      have hc : (MetricSetEntry.mk id params metrics).carriesUtilization = false := by
        simpa [h] using hempty
      exact finds_pure hR.composes (by simp [MetricSetEntry.pick, hc])
    · next h =>
      have hc : (MetricSetEntry.mk id params metrics).carriesUtilization = true := by
        simpa [h] using hempty
      refine Finds.saying (finds_pure hR.composes ?_) [_] rfl
      simp [MetricSetEntry.pick, MetricSetEntry.selection, hc]

theorem finds_considerGroup (g : Nat) :
    Finds R (·.bind ConcurrentGroupEntry.pick) (Selection.considerGroup (γ := γ) g)
      (readGroupEntry g) := by
  refine Finds.bind_same _ fun params => ?_
  cases params with
  | none => exact finds_pure hR.composes rfl
  | some params =>
    refine Finds.saying (Finds.shaping ?_) [_] rfl
    exact finds_firstOf hR.composes (fun i => finds_considerSet hR ⟨g, i⟩)
      (fun i => obeys_readSetEntry hR ⟨g, i⟩) 0 _

/-- The search of a device leads to its catalog. -/
theorem leads_selectSet : Leads R pickFrom (selectSet (γ := γ)) catalog := by
  refine Leads.bind_same _ fun count => ?_
  cases count with
  | error f => exact ⟨fun _ => rfl, fun _ => .of_same hR.composes rfl rfl⟩
  | ok count =>
    have hfinds : Finds R (·.findSome? ConcurrentGroupEntry.pick)
        (firstOf (Selection.considerGroup (γ := γ)) 0 count) (collect readGroupEntry 0 count) :=
      finds_firstOf hR.composes (finds_considerGroup hR) (obeys_readGroupEntry hR) 0 count
    refine Leads.saying (Leads.shaping ?_) [_] rfl
    refine Leads.concluding (g := answerOf) hfinds.toLeads fun found s => ?_
    cases found <;> exact ⟨rfl, rfl⟩

end

/-! ## The order of a catalog -/

/-- A walk that keeps every answer keeps them in the order of their places. -/
theorem collect_sorted {visit : Nat → Action σ (Option α)} {place : α → Nat} {Q : α → Prop}
    (hv : ∀ i s, ∀ a ∈ (visit i s).value.1, place a = i ∧ Q a) (start count : Nat) (s : σ) :
    (∀ a ∈ (collect visit start count s).value.1, start ≤ place a ∧ Q a) ∧
      (collect visit start count s).value.1.Pairwise (place · < place ·) := by
  induction count generalizing start s with
  | zero => simp [collect_zero]
  | succ n ih =>
    obtain ⟨hlater, hsorted⟩ := ih (start + 1) (visit start s).value.2
    simp only [collect_succ, Action.value_bind, Action.value_pure]
    cases h : (visit start s).value.1 with
    | none =>
      -- a place without an answer is passed over
      refine ⟨fun a ha => ?_, hsorted⟩
      obtain ⟨hle, hq⟩ := hlater a ha
      exact ⟨by omega, hq⟩
    | some b =>
      obtain ⟨hplace, hqb⟩ := hv start s b h
      refine ⟨?_, List.pairwise_cons.2 ⟨fun a ha => ?_, hsorted⟩⟩
      · intro a ha
        rcases List.mem_cons.1 ha with rfl | ha
        · exact ⟨by omega, hqb⟩
        · obtain ⟨hle, hq⟩ := hlater a ha
          exact ⟨by omega, hq⟩
      · obtain ⟨hle, -⟩ := hlater a ha
        omega

/-- One metric set comes before another one: by group, and then by its place in the group. -/
def MetricSetId.Before (id id' : MetricSetId) : Prop :=
  id.group < id'.group ∨ id.group = id'.group ∧ id.set < id'.set

/-- The entry of a concurrent group holds entries of its metric sets, in order. -/
structure ConcurrentGroupEntry.Sorted (e : ConcurrentGroupEntry) : Prop where
  group : ∀ x ∈ e.sets, x.id.group = e.index
  sets : e.sets.Pairwise (·.id.set < ·.id.set)

/-- The entries of the metric sets of a catalog. -/
def setEntries (groups : List ConcurrentGroupEntry) : List MetricSetEntry :=
  groups.flatMap ConcurrentGroupEntry.sets

section
variable [Gateway γ]

theorem id_of_readSetEntry (id : MetricSetId) (g : γ) :
    ∀ e ∈ (readSetEntry id g).value.1, e.id = id := by
  intro e he
  cases h : (Gateway.readMetricSet id g).value.1 with
  | none => simp [readSetEntry, h] at he
  | some params =>
    obtain rfl : _ = e := by simpa [readSetEntry, h] using he
    rfl

theorem sorted_of_readGroupEntry (group : Nat) (g : γ) :
    ∀ e ∈ (readGroupEntry group g).value.1, e.index = group ∧ e.Sorted := by
  intro e he
  cases h : (Gateway.readConcurrentGroup group g).value.1 with
  | none => simp [readGroupEntry, h] at he
  | some params =>
    obtain rfl : _ = e := by simpa [readGroupEntry, h] using he
    have hv : ∀ i (g : γ), ∀ x ∈ (readSetEntry ⟨group, i⟩ g).value.1,
        x.id.set = i ∧ x.id.group = group := by
      intro i g x hx
      rw [id_of_readSetEntry _ g x hx]
      exact ⟨rfl, rfl⟩
    obtain ⟨hgroup, hsorted⟩ := collect_sorted (α := MetricSetEntry) hv 0
      params.metricSetCount (Gateway.readConcurrentGroup group g).value.2
    exact ⟨rfl, fun x hx => (hgroup x hx).2, hsorted⟩

/-- The entries of a catalog are in the order of their places. -/
theorem entries_sorted {g : γ} {groups : List ConcurrentGroupEntry}
    (h : (catalog g).value.1 = .ok groups) :
    (setEntries groups).Pairwise fun e e' => e.id.Before e'.id := by
  cases hcount : (concurrentGroupCount g).value.1 with
  | error f => simp [catalog, hcount] at h
  | ok count =>
    obtain rfl : _ = groups := by simpa [catalog, hcount] using h
    obtain ⟨hgroups, hsorted⟩ :=
      collect_sorted sorted_of_readGroupEntry 0 count
        (concurrentGroupCount g).value.2
    refine List.pairwise_flatMap.2 ⟨fun e he => ?_, ?_⟩
    · obtain ⟨-, hgroup, hsets⟩ := hgroups e he
      refine hsets.imp_of_mem fun hx hy hlt => .inr ⟨?_, hlt⟩
      rw [hgroup _ hx, hgroup _ hy]
    · refine hsorted.imp_of_mem fun he he' hlt x hx y hy => .inl ?_
      obtain ⟨-, hgroup, -⟩ := hgroups _ he
      obtain ⟨-, hgroup', -⟩ := hgroups _ he'
      rw [hgroup x hx, hgroup' y hy]
      exact hlt

theorem concurrentGroupCount_error {g : γ} {f : Failure}
    (h : (concurrentGroupCount g).value.1 = .error f) : f = .missingParams "metrics device" := by
  cases hdevice : (Gateway.readDevice g).value.1 with
  | none =>
    have hf : Failure.missingParams "metrics device" = f := by
      simpa [concurrentGroupCount, hdevice] using h
    exact hf.symm
  | some params => simp [concurrentGroupCount, hdevice] at h

/-- The only failure of a catalog. -/
theorem catalog_error {g : γ} {f : Failure} (h : (catalog g).value.1 = .error f) :
    f = .missingParams "metrics device" := by
  cases hcount : (concurrentGroupCount g).value.1 with
  | ok count => simp [catalog, hcount] at h
  | error f' =>
    obtain rfl : f' = f := by simpa [catalog, hcount] using h
    exact concurrentGroupCount_error hcount

end

/-! ## Agreement -/

/-- `e` is the first entry of a catalog that carries utilization. -/
structure FirstUseful (groups : List ConcurrentGroupEntry) (e : MetricSetEntry) : Prop where
  mem : e ∈ setEntries groups
  useful : e.carriesUtilization = true
  first : ∀ e' ∈ setEntries groups, e'.carriesUtilization = true → e' = e ∨ e.id.Before e'.id

/-- The pick from a catalog is the pick from the list of its entries. -/
theorem findSome?_pick (groups : List ConcurrentGroupEntry) :
    groups.findSome? ConcurrentGroupEntry.pick =
      ((setEntries groups).find? (·.carriesUtilization)).map MetricSetEntry.selection := by
  have hset : (Option.map MetricSetEntry.selection ∘ Option.guard (·.carriesUtilization)) =
      MetricSetEntry.pick := by
    funext e
    cases he : e.carriesUtilization <;> simp [MetricSetEntry.pick, Option.guard, he]
  have hgroup : (Option.map MetricSetEntry.selection ∘
      fun e : ConcurrentGroupEntry => e.sets.find? (·.carriesUtilization)) =
      ConcurrentGroupEntry.pick := by
    funext e
    show (e.sets.find? _).map _ = e.sets.findSome? _
    rw [List.find?_eq_findSome?_guard, List.map_findSome?, hset]
  rw [setEntries, List.find?_flatMap, List.map_findSome?, hgroup]

/-- In a list in order, the first entry that is found is the first one there is. -/
theorem firstUseful_of_find? {groups : List ConcurrentGroupEntry} {e : MetricSetEntry}
    (hsorted : (setEntries groups).Pairwise fun e e' => e.id.Before e'.id)
    (h : (setEntries groups).find? (·.carriesUtilization) = some e) : FirstUseful groups e := by
  obtain ⟨huseful, before, after, hsplit, hbefore⟩ := List.find?_eq_some_iff_append.1 h
  refine ⟨List.mem_of_find?_eq_some h, huseful, fun e' he' huseful' => ?_⟩
  rw [hsplit] at he' hsorted
  rcases List.mem_append.1 he' with hmem | hmem
  · -- what stands before the entry was looked at and passed over
    have hno : e'.carriesUtilization = false := by simpa using hbefore e' hmem
    rw [hno] at huseful'
    cases huseful'
  · rcases List.mem_cons.1 hmem with rfl | hmem
    · exact .inl rfl
    · obtain ⟨-, hlater, -⟩ := List.pairwise_append.1 hsorted
      exact .inr ((List.pairwise_cons.1 hlater).1 e' hmem)

/-- Where listing succeeds, the first entry that carries utilization is selected, if there is
one. -/
theorem Session.select_of_catalog [Gateway γ] {s : Session γ} {groups : List ConcurrentGroupEntry}
    (hgroups : (catalog s).value.1 = .ok groups) :
    (∃ e, FirstUseful groups e ∧ (select s).value.1 = .ok e.id ∧
      (select s).value.2.selection = some e.selection) ∨
    (∀ e ∈ setEntries groups, ¬e.carriesUtilization = true) ∧
      (select s).value.1 = .error .noUtilizationMetricSet := by
  obtain ⟨hanswer, hstate, -⟩ := select_spec s
  -- the answer does not depend on what the gateway obeys, so any relation will do
  have hpick : (selectSet s.gateway).value.1 = pickFrom (catalog s).value.1 :=
    (leads_selectSet reading_free).answer s.gateway
  have hfound : (selectSet s.gateway).value.1 =
      answerOf (((setEntries groups).find? (·.carriesUtilization)).map
        MetricSetEntry.selection) := by
    rw [hpick, hgroups, ← findSome?_pick]
    rfl
  cases hfind : (setEntries groups).find? (·.carriesUtilization) with
  | none =>
    refine .inr ⟨List.find?_eq_none.1 hfind, ?_⟩
    rw [hanswer, hfound, hfind]
    rfl
  | some e =>
    have hok : (selectSet s.gateway).value.1 = .ok e.selection := by
      rw [hfound, hfind]
      rfl
    have hsorted := entries_sorted (g := s.gateway) hgroups
    refine .inl ⟨e, firstUseful_of_find? hsorted hfind, ?_, ?_⟩
    · rw [hanswer, hok]
      rfl
    · rw [hstate, hok]
      rfl

/--
**Selecting agrees with listing.** For every session over every gateway:

* selecting fails for want of the device's parameters exactly where listing does, and
  listing fails in no other way;
* where listing succeeds, selecting answers a set if and only if some entry carries
  utilization, and then the set is that of the first such entry, which is remembered with
  its name; it answers that there is none if and only if no entry carries utilization;
* the calls of selecting are a prefix of the calls of listing;
* with the requests kept both answer the same, and the requests of selecting are a prefix of
  those of listing.
-/
theorem Session.select_agrees_with_catalog [Gateway γ] (s : Session γ) :
    ((select s).value.1 = .error (.missingParams "metrics device") ↔
      (catalog s).value.1 = .error (.missingParams "metrics device")) ∧
    (∀ f, (catalog s).value.1 = .error f → f = .missingParams "metrics device") ∧
    (∀ groups, (catalog s).value.1 = .ok groups →
      ((∃ id, (select s).value.1 = .ok id) ↔
        ∃ e ∈ setEntries groups, e.carriesUtilization = true) ∧
      (∀ id, (select s).value.1 = .ok id → ∃ e, FirstUseful groups e ∧ id = e.id ∧
        (select s).value.2.selection = some ⟨e.id, e.params.symbolName⟩) ∧
      ((select s).value.1 = .error .noUtilizationMetricSet ↔
        ∀ e ∈ setEntries groups, ¬e.carriesUtilization = true)) ∧
    (select s).trace.calls <+: (catalog s).trace.calls ∧
    (select s.recorded).value.1 = (select s).value.1 ∧
    (catalog s.recorded).value.1 = (catalog s).value.1 ∧
    (select s.recorded).value.2.gateway.made <+: (catalog s.recorded).value.2.gateway.made := by
  obtain ⟨hanswer, -, htrace⟩ := select_spec s
  obtain ⟨hanswer', hrecorded, -⟩ := select_spec s.recorded
  have hleads := leads_selectSet (γ := γ) reading_free
  obtain ⟨rest, hcalls, -⟩ := hleads.goesOn s.gateway
  -- behind a recorder, going on means that requests are only added
  obtain ⟨_, -, hmade⟩ := (leads_selectSet Recorder.reading_grows).goesOn s.recorded.gateway
  refine ⟨?_, fun f hf => catalog_error (g := s.gateway) hf, fun groups hgroups => ?_, ?_, ?_,
    Recorder.mirrors_catalog.answer s.recorded.gateway, ?_⟩
  · cases hlist : (catalog s).value.1 with
    | error f =>
      have hpick : (selectSet s.gateway).value.1 = pickFrom (catalog s).value.1 :=
        hleads.answer s.gateway
      rw [hanswer, hpick, hlist]
      simp [pickFrom, Except.map]
    | ok groups =>
      rcases select_of_catalog hlist with ⟨e, -, hsel, -⟩ | ⟨-, hsel⟩ <;> simp [hsel]
  · rcases select_of_catalog hgroups with ⟨e, hfirst, hsel, hstored⟩ | ⟨hnone, hsel⟩
    · refine ⟨⟨fun _ => ⟨e, hfirst.mem, hfirst.useful⟩, fun _ => ⟨e.id, hsel⟩⟩, ?_, ?_⟩
      · intro id hid
        rw [hsel] at hid
        cases hid
        exact ⟨e, hfirst, rfl, hstored⟩
      · rw [hsel]
        exact ⟨nofun, fun hno => absurd hfirst.useful (hno e hfirst.mem)⟩
    · refine ⟨⟨?_, ?_⟩, ?_, ⟨fun _ => hnone, fun _ => hsel⟩⟩
      · rintro ⟨id, hid⟩
        rw [hsel] at hid
        cases hid
      · rintro ⟨e, he, huseful⟩
        exact absurd huseful (hnone e he)
      · intro id hid
        rw [hsel] at hid
        cases hid
  · rw [htrace]
    exact ⟨_, hcalls.symm⟩
  · rw [hanswer, hanswer', Recorder.mirrors_selectSet.answer]
    rfl
  · rw [hrecorded]
    exact hmade

end GpuMonitor
