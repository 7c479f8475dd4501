import GpuMonitor.Proofs.AfterRelease
import GpuMonitor.Proofs.Minutes

/-!
# What a selection leaves behind

A selection looks at the open device and acts on nothing. If it succeeds, the set that it has read
last is remembered, with the name that this set had when it was read; if it fails, all that was
remembered before is still there. No other operation has a part in this, so what is remembered was
read by the last selection that has succeeded.

* `Gateway.Request.looksAtDevice`: the requests that only look.
* `ReadLast`: the set of a selection is the last one that some minutes have read.
* `Session.Selects`: what a selection comes to, told from its minutes (`select_selects`).
* `Session.SamplesFirst`: a sample begins with the activation of the selected set.
* `Session.SelectedIn`: the selection of a history that has succeeded last.

Main result:

* `selection_remembered`: what a selection comes to in every session that has started, and where
  what is remembered comes from.
-/

namespace GpuMonitor

open Gateway (Exchange Request)

variable {γ : Type}

/-! ## Looking at the device -/

/-- The request reads something of the open device, and acts on nothing. -/
def Gateway.Request.looksAtDevice : Request → Bool
  | readDevice | readConcurrentGroup _ | readMetricSet _ | readMetric _ _ => true
  | openAdapters | readAdapterGroup | readAdapter _ | openDevice _ | activate _ | deactivate _
  | readClocks | closeDevice | closeAdapters | unload => false

/-- The exchange asks for the parameters of a metric of the set. -/
def ReadsMetricOf (id : MetricSetId) (e : Exchange) : Prop :=
  ∃ i params, e = (.readMetric id i, .metric params)

/-- The set of the selection is the last one that was read, and it had the name of the selection
then; only its metrics were read afterwards. -/
def ReadLast (selection : Selection) (kept : List Exchange) : Prop :=
  ∃ params before after,
    kept = before ++ (.readMetricSet selection.id, .metricSet (some params)) :: after ∧
    (∀ e ∈ after, ReadsMetricOf selection.id e) ∧ selection.name = params.symbolName

/-- A search has only looked, and what it has found is what it has read last. -/
structure Searched (found : Option Selection) (kept : List Exchange) : Prop where
  looks : ∀ e ∈ kept, e.1.looksAtDevice = true
  last : ∀ selection ∈ found, ReadLast selection kept

namespace Searched

variable {found : Option Selection} {x y : List Exchange}

theorem of_looks (h : ∀ e ∈ x, e.1.looksAtDevice = true) : Searched none x := ⟨h, nofun⟩

theorem nil : Searched none [] := of_looks fun _ he => absurd he List.not_mem_nil

/-- What is looked at before a search that finds something does not matter. -/
theorem prepend (hx : ∀ e ∈ x, e.1.looksAtDevice = true) (h : Searched found y) :
    Searched found (x ++ y) := by
  refine ⟨fun e he => (List.mem_append.1 he).elim (hx e) (h.looks e), fun selection hfound => ?_⟩
  obtain ⟨params, before, after, hy, hafter, hname⟩ := h.last selection hfound
  exact ⟨params, x ++ before, after, by rw [hy, List.append_assoc], hafter, hname⟩

end Searched

/-! ## The search -/

section
variable [Gateway γ]

theorem notes_metricsOf (id : MetricSetId) (count : Nat) :
    Notes Minutes.kept (fun _ x => ∀ e ∈ x, ReadsMetricOf id e)
      (metricsOf (γ := Minutes γ) id count) := by
  have hvisit (i : Nat) : Notes Minutes.kept
      (fun o x => ∃ params, o = params ∧ x = [(.readMetric id i, .metric params)])
      (Gateway.readMetric (γ := Minutes γ) id i) :=
    Minutes.notes_keeping _ _ _ fun params => ⟨params, rfl, rfl⟩
  refine (notes_collect (fun _ o => o) (fun i o => (.readMetric id i, .metric o)) hvisit
    0 count).mono ?_
  rintro list _ ⟨ps, -, -, rfl⟩ e he
  obtain ⟨p, -, rfl⟩ := List.mem_map.1 he
  exact ⟨p.2, p.1, rfl⟩

/-- One request that looks. -/
theorem looks_one {r : Request} {reply : Gateway.Reply} (h : r.looksAtDevice = true) :
    ∀ e ∈ [((r, reply) : Exchange)], e.1.looksAtDevice = true := by
  intro e he
  rw [List.mem_singleton.1 he]
  exact h

theorem ReadsMetricOf.looks {id : MetricSetId} {e : Exchange} (h : ReadsMetricOf id e) :
    e.1.looksAtDevice = true := by
  obtain ⟨i, params, rfl⟩ := h
  rfl

theorem notes_considerSet (id : MetricSetId) :
    Notes Minutes.kept Searched (Selection.considerSet (γ := Minutes γ) id) := by
  refine notes_bind (P := fun params x => x = [(.readMetricSet id, .metricSet params)])
    (Minutes.notes_keeping _ _ _ fun _ => rfl) fun params x hx => ?_
  have hlook : ∀ e ∈ x, e.1.looksAtDevice = true := by
    rw [hx]
    exact looks_one rfl
  cases params with
  | none => exact notes_pure (.prepend hlook .nil)
  | some params =>
    refine notes_bind (P := fun _ y => y = []) (notes_log _ _ rfl) fun _ y hy => ?_
    refine notes_bind (notes_metricsOf id _) fun metrics z hz => ?_
    refine notes_bind (P := fun _ w => w = []) (notes_emitAll _ rfl) fun _ w hw => ?_
    -- the metrics were read last, and they are those of the set whose parameters were given
    have hmetrics : ∀ e ∈ z, e.1.looksAtDevice = true := fun e he => (hz e he).looks
    split
    · refine notes_pure ?_
      simp only [hy, hw, List.nil_append, List.append_nil]
      exact .prepend hlook (.of_looks hmetrics)
    · refine notes_bind (P := fun _ v => v = []) (notes_log _ _ rfl) fun _ v hv => ?_
      refine notes_pure ?_
      simp only [hy, hw, hv, List.nil_append, List.append_nil]
      refine ⟨fun e he => (List.mem_append.1 he).elim (hlook e) (hmetrics e), ?_⟩
      intro selection hselection
      obtain rfl := Option.mem_some.1 hselection
      exact ⟨params, [], z, by rw [hx]; rfl, hz, rfl⟩

theorem notes_considerGroup (group : Nat) :
    Notes Minutes.kept Searched (Selection.considerGroup (γ := Minutes γ) group) := by
  have hread : Notes Minutes.kept
      (fun params x => x = [(.readConcurrentGroup group, .concurrentGroup params)])
      (Gateway.readConcurrentGroup (γ := Minutes γ) group) :=
    Minutes.notes_keeping _ _ _ fun _ => rfl
  refine notes_bind hread fun params x hx => ?_
  have hlook : ∀ e ∈ x, e.1.looksAtDevice = true := by
    rw [hx]
    exact looks_one rfl
  cases params with
  | none => exact notes_pure (.prepend hlook .nil)
  | some params =>
    refine notes_bind (P := fun _ y => y = []) (notes_log _ _ rfl) fun _ y hy => ?_
    refine (notes_firstOf .nil (fun _ _ _ h h' => .prepend h.looks h')
      (fun set => notes_considerSet ⟨group, set⟩) 0 _).mono fun found z hz => ?_
    rw [hy]
    exact .prepend hlook hz

theorem notes_selectSet :
    Notes Minutes.kept (fun result => Searched result.toOption) (selectSet (γ := Minutes γ)) := by
  refine notes_bind (P := fun _ x => ∀ e ∈ x, e.1.looksAtDevice = true) ?_ fun count x hx => ?_
  · refine notes_bind (P := fun params x => x = [(.readDevice, .device params)])
      (Minutes.notes_keeping _ _ _ fun _ => rfl) fun params x hx => ?_
    have hlook : ∀ e ∈ x ++ [], e.1.looksAtDevice = true := by
      rw [hx]
      exact looks_one rfl
    cases params <;> exact notes_pure hlook
  · cases count with
    | error f => exact notes_pure (.prepend hx .nil)
    | ok count =>
      refine notes_bind (P := fun _ y => y = []) (notes_log _ _ rfl) fun _ y hy => ?_
      refine notes_bind (notes_firstOf .nil
        (fun _ _ _ h h' => .prepend h.looks h') notes_considerGroup 0 _) fun found z hz => ?_
      rw [hy]
      cases found with
      | some selection =>
        refine notes_pure (.prepend hx ?_)
        rw [List.append_nil]
        exact hz
      | none =>
        refine notes_bind (P := fun _ w => w = []) (notes_log _ _ rfl) fun _ w hw => ?_
        refine notes_bind (P := fun _ v => v = []) (notes_log _ _ rfl) fun _ v hv => ?_
        refine notes_pure (.prepend hx ?_)
        simp only [hw, hv, List.nil_append, List.append_nil]
        exact hz

end

namespace Session

/-! ## A selection -/

/-- What a selection comes to, told from its minutes. It has only looked at the device. If it
succeeds, its set was read last, and nothing of the session has changed but the selection; if it
fails, nothing has changed at all. -/
structure Selects (s : Session γ) (result : Except Failure MetricSetId) (s' : Session γ)
    (kept : List Exchange) : Prop where
  looks : ∀ e ∈ kept, e.1.looksAtDevice = true
  found : ∀ id, result = .ok id → ∃ name, ReadLast ⟨id, name⟩ kept ∧
    s' = { s with gateway := s'.gateway, selection := some ⟨id, name⟩ }
  failed : ∀ f, result = .error f → s' = { s with gateway := s'.gateway }

variable [Gateway γ]

/-- What is asked for, and answered, while a set is selected. -/
def selectMinutes (s : Session γ) : List Exchange := (select s.minuted).value.2.minutes

/-- Keeping minutes of a selection changes neither what it answers nor what it leaves. -/
theorem select_minuted (s : Session γ) :
    (select s.minuted).value.1 = (select s).value.1 ∧
      (select s.minuted).value.2.gateway.inner = (select s).value.2.gateway ∧
      (select s.minuted).value.2.selection = (select s).value.2.selection := by
  obtain ⟨hresult, hgateway⟩ :=
    coupled_selectSet (Minutes.reading_coupled (γ := γ)) s.minuted.gateway s.gateway rfl
  obtain ⟨hvalue, hstate, -⟩ := select_spec s
  obtain ⟨hvalue', hstate', -⟩ := select_spec s.minuted
  rw [hvalue, hvalue', hstate, hstate', hresult]
  exact ⟨rfl, hgateway, rfl⟩

theorem select_selects (s : Session γ) :
    Selects s (select s).value.1 (select s).value.2 s.selectMinutes := by
  obtain ⟨added, hkept, hsearched⟩ := notes_selectSet (γ := γ) s.minuted.gateway
  obtain ⟨hresult, -⟩ :=
    coupled_selectSet (Minutes.reading_coupled (γ := γ)) s.minuted.gateway s.gateway rfl
  obtain ⟨hvalue, hstate, -⟩ := select_spec s
  have hminutes : s.selectMinutes = added := by
    obtain ⟨-, hstate', -⟩ := select_spec s.minuted
    rw [selectMinutes, hstate']
    exact hkept
  rw [hresult] at hsearched
  rw [hvalue, hminutes]
  cases hfound : (selectSet s.gateway).value.1 with
  | error f =>
    rw [hfound] at hsearched hstate
    refine ⟨hsearched.looks, fun id hid => (nomatch hid), fun _ _ => ?_⟩
    rw [hstate]
    rfl
  | ok selection =>
    rw [hfound] at hsearched hstate
    refine ⟨hsearched.looks, fun id hid => ?_, fun f hf => (nomatch hf)⟩
    obtain rfl := Except.ok.inj hid
    refine ⟨selection.name, hsearched.last selection rfl, ?_⟩
    rw [hstate]
    rfl

/-! ## Samples after a selection -/

/-- Minutes are only added to. -/
theorem obeying_minutes :
    Obeying fun (s : Session (Minutes γ)) _ s' => s.minutes <+: s'.minutes where
  composes := ⟨fun _ => List.prefix_rfl, List.IsPrefix.trans⟩
  logging _ _ _ := List.prefix_rfl
  waiting _ _ := List.prefix_rfl
  request r g s hs := by
    subst hs
    cases r <;> exact List.prefix_append _ _
  settling s s' hg _ := by
    have hsame : s.minutes = s'.minutes := by rw [minutes, minutes, hg]
    exact hsame ▸ List.prefix_rfl

/-- The first thing that a sample asks for is that the selected set be activated. -/
def SamplesFirst (selection : Selection) (s : Session γ) : Prop :=
  ∃ code rest, (sample s.minuted).value.2.minutes = (.activate selection.id, .code code) :: rest

/-- What a sample leaves: the activation, and the measurement if it was accepted. -/
theorem left_sample {s : Session γ} {selection : Selection} (h : s.selection = some selection)
    {asked : Traced (CompletionCode × Session γ)}
    (hasked : onGateway (Gateway.activate selection.id) s = asked) :
    (sample s).value.2 = if asked.value.1.isAccepted
      then (measure selection.id { asked.value.2 with active := true }).value.2
      else asked.value.2 := by
  cases hcode : asked.value.1.isAccepted <;> simp [sample, h, hasked, hcode]

theorem samplesFirst_of_selected {s : Session γ} {selection : Selection}
    (h : s.selection = some selection) : SamplesFirst selection s := by
  let asked := onGateway (Gateway.activate selection.id) s.minuted
  have hasked : asked.value.2.minutes = [(.activate selection.id, .code asked.value.1)] := rfl
  -- whatever comes of the activation, what is asked for later stands behind it
  have hlater : asked.value.2.minutes <+: (sample s.minuted).value.2.minutes := by
    have hleft := left_sample (s := s.minuted) h (rfl : _ = asked)
    rw [hleft]
    split
    · exact obeys_measure obeying_minutes selection.id { asked.value.2 with active := true }
    · exact List.prefix_rfl
  obtain ⟨rest, hrest⟩ := hlater
  exact ⟨asked.value.1, rest, by rw [← hrest, hasked]; rfl⟩

/-! ## Histories -/

/-- No operation but a selection changes what is selected. -/
theorem selection_of_ne_select {op : Operation} (h : op ≠ .select) (s : Session γ) :
    (op.perform s).value.2.selection = s.selection := by
  have hselection {t u : Session γ} (h : known t = known u) : t.selection = u.selection :=
    congrArg (fun k => k.2.1) h
  cases op with
  | select => exact absurd rfl h
  | sample => exact hselection (keeps_sample s)
  | release => exact hselection (keeps_release s)
  | run mode interval bound bench => exact hselection (keeps_run mode interval bound bench s)
  | _ => rfl

/-- The selection was made by an operation of the history, read then what it is, and no later
operation has succeeded in selecting. -/
def SelectedIn (s : Session γ) (ops : List Operation) (selection : Selection) : Prop :=
  ∃ before after, ops = before ++ .select :: after ∧
    let t := (performAll before s).value.2
    (select t).value.1 = .ok selection.id ∧ ReadLast selection t.selectMinutes ∧
      (performAll after (select t).value.2).value.1.any Reply.selects = false

theorem SelectedIn.cons {s : Session γ} {op : Operation} {ops : List Operation}
    {selection : Selection} (h : SelectedIn (op.perform s).value.2 ops selection) :
    SelectedIn s (op :: ops) selection := by
  obtain ⟨before, after, rfl, h⟩ := h
  exact ⟨op :: before, after, rfl, h⟩

/-- What is selected after a history was selected before it, or by one of its operations. -/
theorem selection_of_performAll (ops : List Operation) (s : Session γ) :
    ((performAll ops s).value.2.selection = s.selection ∧
        (performAll ops s).value.1.any Reply.selects = false) ∨
      ∃ selection, (performAll ops s).value.2.selection = some selection ∧
        SelectedIn s ops selection := by
  -- on the history; a selection counts unless a later one has succeeded
  induction ops generalizing s with
  | nil => exact .inl ⟨rfl, rfl⟩
  | cons op rest ih =>
    have hstate : (performAll (op :: rest) s).value.2 =
        (performAll rest (op.perform s).value.2).value.2 := rfl
    have hreplies : (performAll (op :: rest) s).value.1 =
        (op.perform s).value.1 :: (performAll rest (op.perform s).value.2).value.1 := rfl
    rw [hstate, hreplies]
    rcases ih (op.perform s).value.2 with ⟨hsame, hnone⟩ | ⟨selection, hlater, hselected⟩
    · rw [hsame, List.any_cons, hnone, Bool.or_false]
      by_cases hop : op = .select
      · subst hop
        have hselects := select_selects s
        cases hresult : (select s).value.1 with
        | error f =>
          have hleft : (select s).value.2.selection = s.selection := by
            rw [hselects.failed f hresult]
          refine .inl ⟨hleft, ?_⟩
          show (Reply.selected (select s).value.1).selects = false
          rw [hresult]
          rfl
        | ok id =>
          obtain ⟨name, hread, hleft⟩ := hselects.found id hresult
          have hnow : (select s).value.2.selection = some ⟨id, name⟩ := by rw [hleft]
          exact .inr ⟨⟨id, name⟩, hnow, [], rest, rfl, hresult, hread, hnone⟩
      · refine .inl ⟨selection_of_ne_select hop s, ?_⟩
        cases op <;> first | rfl | exact absurd rfl hop
    · exact .inr ⟨selection, hlater, hselected.cons⟩

/-! ## What is remembered -/

/-- A start selects nothing. -/
theorem selection_start {g : γ} {s : Session γ} (h : (start g).value = .ok s) :
    s.selection = none := by
  have hkept : (openAll { gateway := g }).value.2.selection = none := keeps_openAll { gateway := g }
  rw [openAll_of_start h] at hkept
  exact hkept

/-- A selection reaches the library for nothing of the lifecycle, and what lasts is kept. -/
theorem quiet_select (s : Session Library) :
    (select s).trace.lifecycle = [] ∧ (select s).value.2.gateway.lasting = s.gateway.lasting := by
  obtain ⟨hlasting, hquiet⟩ := obeys_selectSet Library.reading_using s.gateway
  obtain ⟨-, hstate, htrace⟩ := select_spec s
  rw [hstate, htrace]
  exact ⟨Library.lifecycle_of_quiet hquiet, hlasting⟩

/--
**A selection is remembered as a whole, or not at all.** Take a session that has started on any
gateway, after any history of operations. Then a selection, whatever the gateway answers, and as
told from its minutes, which change nothing of it:

* only looks, and is no part of the lifecycle of a library;
* remembers, if it succeeds, the set that it has read last, with the name that was read then or
  without one, and changes nothing else of the session;
* changes nothing of the session if it fails, so that a sample goes on to activate the set that was
  selected before.

No other operation changes what is selected. What is selected after the history is therefore what
its last selection that has succeeded has read, the name together with the set.
-/
theorem selection_remembered {g : γ} {s₀ : Session γ} (hstart : (start g).value = .ok s₀)
    (ops : List Operation) :
    let s := (performAll ops s₀).value.2
    Selects s (select s).value.1 (select s).value.2 s.selectMinutes ∧
    ((select s.minuted).value.1 = (select s).value.1 ∧
      (select s.minuted).value.2.gateway.inner = (select s).value.2.gateway ∧
      (select s.minuted).value.2.selection = (select s).value.2.selection) ∧
    (∀ f earlier, (select s).value.1 = .error f → s.selection = some earlier →
      (select s).value.2.selection = some earlier ∧ SamplesFirst earlier (select s).value.2) ∧
    (∀ t : Session Library, (select t).trace.lifecycle = [] ∧
      (select t).value.2.gateway.lasting = t.gateway.lasting) ∧
    (∀ op : Operation, op ≠ .select → (op.perform s).value.2.selection = s.selection) ∧
    (s.selection = none ∨
      ∃ selection, s.selection = some selection ∧ SelectedIn s₀ ops selection) := by
  intro s
  have hselects := select_selects s
  refine ⟨hselects, select_minuted s, fun f earlier hf hearlier => ?_, quiet_select,
    fun op hop => selection_of_ne_select hop s, ?_⟩
  · have hkept : (select s).value.2.selection = some earlier := by
      rw [hselects.failed f hf]
      exact hearlier
    exact ⟨hkept, samplesFirst_of_selected hkept⟩
  · rcases selection_of_performAll ops s₀ with ⟨hsame, -⟩ | hselected
    · exact .inl (hsame.trans (selection_start hstart))
    · exact .inr hselected

/-- A metrics library with one set, which gives its parameters once. -/
def fleeting : Vendor.Script where
  group := { adapterCount := 1, adapters := [some adapter] }
where
  set : Vendor.MetricSet := { Library.twoSets.second with
    symbolName := some [82, 101, 110, 100, 101, 114], availability := .reads 1 }
  adapter : Vendor.Adapter :=
    { vendorId := 0x8086
      deviceId := 0x5917
      device := { groupCount := 1, groups := [some { setCount := 1, sets := [some set] }] } }

/-- The set is found once. The second selection fails, and the set is still selected by its name
and goes on to be sampled. -/
theorem selection_remembered_fleeting :
    let lib : Library := { path := ⟨[]⟩, vendor := .fresh fleeting }
    let selection : Selection := ⟨⟨0, 0⟩, some "Render"⟩
    ∃ s₀, (start lib).value = .ok s₀ ∧
      let s := (performAll [.select] s₀).value.2
      s.selection = some selection ∧ SelectedIn s₀ [.select] selection ∧
        (select s).value.1 = .error .noUtilizationMetricSet ∧
        (select s).value.2.selection = some selection ∧
        SamplesFirst selection (select s).value.2 := by
  intro lib selection
  have hstart : (start lib).value = .ok (openAll { gateway := lib }).value.2 := (start_ok rfl).1
  obtain ⟨-, -, hfailed, -, -, hselected⟩ := selection_remembered hstart [.select]
  have hnow : (performAll [.select] (openAll { gateway := lib }).value.2).value.2.selection =
      some selection := by decide +kernel
  have hagain : (select
      (performAll [.select] (openAll { gateway := lib }).value.2).value.2).value.1 =
      .error .noUtilizationMetricSet := by decide +kernel
  refine ⟨_, hstart, hnow, ?_, hagain, hfailed _ _ hagain hnow⟩
  rcases hselected with hnone | ⟨found, hfound, hread⟩
  · rw [hnow] at hnone
    cases hnone
  · obtain rfl := Option.some.inj (hnow.symm.trans hfound)
    exact hread

end Session
end GpuMonitor
