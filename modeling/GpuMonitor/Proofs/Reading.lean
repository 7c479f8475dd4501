import GpuMonitor.Proofs.Action
import GpuMonitor.Proofs.Library
import GpuMonitor.Session

/-!
# What reading obeys

Listing, selecting and reading values are walks that do nothing but read parameters and log.
Whatever the readings of a gateway obey, they obey.

* `Remark`: the records that reading leaves.
* `ReadingObeys R`: the readings of a gateway obey `R`, and so do such records.
* `obeys_listAdapters`, `obeys_catalog`, `obeys_selectSet`, `obeys_readValues`: the walks.
* `ensures_selectSet`: a set that is selected has given its parameters.
* `Library.reading_using`: reading changes nothing that lasts and is no part of the lifecycle.
-/

namespace GpuMonitor

variable {α β γ : Type}

/-- What is said of a search that finds nothing. -/
def nothingFound : List String :=
  ["No GPU utilization metric set found",
    "Available metric sets may not include engine utilization on this platform"]

/-- The records that reading leaves: what it comes across, and that it has found nothing. -/
inductive Remark : Level → String → Prop where
  | info (text : String) : Remark .info text
  | debug (text : String) : Remark .debug text
  | nothing (text : String) (h : text ∈ nothingFound) : Remark .warn text

/-- The readings of a gateway obey the relation, and so do the records that reading leaves. -/
structure ReadingObeys [Gateway γ] (R : γ → Trace → γ → Prop) : Prop where
  composes : Composes R
  logging : ∀ g level text, Remark level text → R g [.log level text] g
  adapterGroup : Obeys R (Gateway.readAdapterGroup (γ := γ))
  adapter : ∀ i, Obeys R (Gateway.readAdapter (γ := γ) i)
  device : Obeys R (Gateway.readDevice (γ := γ))
  concurrentGroup : ∀ g, Obeys R (Gateway.readConcurrentGroup (γ := γ) g)
  metricSet : ∀ id, Obeys R (Gateway.readMetricSet (γ := γ) id)
  metric : ∀ id i, Obeys R (Gateway.readMetric (γ := γ) id i)

theorem ReadingObeys.imp [Gateway γ] {R R' : γ → Trace → γ → Prop} (h : ReadingObeys R)
    (hc : Composes R') (hi : ∀ g t g', R g t g' → R' g t g') : ReadingObeys R' where
  composes := hc
  logging g level text hr := hi _ _ _ (h.logging g level text hr)
  adapterGroup g := hi _ _ _ (h.adapterGroup g)
  adapter i g := hi _ _ _ (h.adapter i g)
  device g := hi _ _ _ (h.device g)
  concurrentGroup i g := hi _ _ _ (h.concurrentGroup i g)
  metricSet id g := hi _ _ _ (h.metricSet id g)
  metric id i g := hi _ _ _ (h.metric id i g)

section
variable [Gateway γ] {R : γ → Trace → γ → Prop} (hR : ReadingObeys R)
include hR

theorem obeys_log {level : Level} {text : String} (h : Remark level text) :
    Obeys R (log level text) := fun g => hR.logging g level text h

/-- Some records in a row obey what one record obeys. -/
theorem obeys_foundRecords (found : List (MetricClass × String)) :
    Obeys R (emitAll (found.map Selection.foundRecord)) := by
  intro g
  induction found with
  | nil => exact hR.composes.nil g
  | cons m rest ih => exact hR.composes.append (hR.logging g _ _ (.info _)) ih

/-! ## Listing -/

theorem obeys_listAdapters : Obeys R (listAdapters (γ := γ)) :=
  obeys_bind hR.composes hR.adapterGroup fun _ =>
    obeys_collect hR.composes (fun i => obeys_map _ (hR.adapter i)) 0 _

theorem obeys_concurrentGroupCount : Obeys R (concurrentGroupCount (γ := γ)) := by
  refine obeys_bind hR.composes hR.device fun params => ?_
  cases params <;> exact obeys_pure hR.composes _

theorem obeys_metricsOf (id : MetricSetId) (count : Nat) :
    Obeys R (metricsOf (γ := γ) id count) := obeys_collect hR.composes (hR.metric id) 0 count

theorem obeys_readSetEntry (id : MetricSetId) : Obeys R (readSetEntry (γ := γ) id) := by
  refine obeys_bind hR.composes (hR.metricSet id) fun params => ?_
  cases params with
  | none => exact obeys_pure hR.composes _
  | some params =>
    exact obeys_bind hR.composes (obeys_metricsOf hR id _) fun _ => obeys_pure hR.composes _

theorem obeys_readGroupEntry (g : Nat) : Obeys R (readGroupEntry (γ := γ) g) := by
  refine obeys_bind hR.composes (hR.concurrentGroup g) fun params => ?_
  cases params with
  | none => exact obeys_pure hR.composes _
  | some params =>
    refine obeys_bind hR.composes ?_ fun _ => obeys_pure hR.composes _
    exact obeys_collect hR.composes (fun i => obeys_readSetEntry hR ⟨g, i⟩) 0 _

theorem obeys_catalog : Obeys R (catalog (γ := γ)) := by
  refine obeys_bind hR.composes (obeys_concurrentGroupCount hR) fun count => ?_
  cases count with
  | error f => exact obeys_pure hR.composes _
  | ok count =>
    exact obeys_bind hR.composes (obeys_collect hR.composes (obeys_readGroupEntry hR) 0 _)
      fun _ => obeys_pure hR.composes _

theorem obeys_readValues (id : MetricSetId) : Obeys R (Session.readValues (γ := γ) id) := by
  refine obeys_bind hR.composes (hR.metricSet id) fun params => ?_
  cases params with
  | none => exact obeys_pure hR.composes _
  | some params =>
    exact obeys_bind hR.composes (obeys_metricsOf hR id _) fun _ => obeys_pure hR.composes _

/-! ## Selecting -/

theorem obeys_considerSet (id : MetricSetId) :
    Obeys R (Selection.considerSet (γ := γ) id) := by
  refine obeys_bind hR.composes (hR.metricSet id) fun params => ?_
  cases params with
  | none => exact obeys_pure hR.composes _
  | some params =>
    refine obeys_bind hR.composes (obeys_log hR (.info _)) fun _ => ?_
    refine obeys_bind hR.composes (obeys_metricsOf hR id _) fun metrics => ?_
    refine obeys_bind hR.composes (obeys_foundRecords hR _) fun _ => ?_
    split
    · exact obeys_pure hR.composes _
    · exact obeys_bind hR.composes (obeys_log hR (.debug _)) fun _ => obeys_pure hR.composes _

theorem obeys_considerGroup (g : Nat) : Obeys R (Selection.considerGroup (γ := γ) g) := by
  refine obeys_bind hR.composes (hR.concurrentGroup g) fun params => ?_
  cases params with
  | none => exact obeys_pure hR.composes _
  | some params =>
    exact obeys_bind hR.composes (obeys_log hR (.info _)) fun _ =>
      obeys_firstOf hR.composes (fun i => obeys_considerSet hR ⟨g, i⟩) 0 _

theorem obeys_selectSet : Obeys R (selectSet (γ := γ)) := by
  refine obeys_bind hR.composes (obeys_concurrentGroupCount hR) fun count => ?_
  cases count with
  | error f => exact obeys_pure hR.composes _
  | ok count =>
    refine obeys_bind hR.composes (obeys_log hR (.info _)) fun _ => ?_
    refine obeys_bind hR.composes
      (obeys_firstOf hR.composes (obeys_considerGroup hR) 0 _) fun found => ?_
    cases found with
    | some selection => exact obeys_pure hR.composes _
    | none =>
      refine obeys_bind hR.composes (obeys_log hR (.nothing _ (by decide))) fun _ => ?_
      exact obeys_bind hR.composes (obeys_log hR (.nothing _ (by decide))) fun _ =>
        obeys_pure hR.composes _

end

/-! ## What is selected -/

section
variable [Gateway γ] {P : γ → Prop} (hP : ReadingObeys fun (g : γ) _ g' => P g → P g')
  {Q : MetricSetId → Prop}
  (hQ : ∀ id, Ensures P (fun params => params.isSome → Q id) (Gateway.readMetricSet (γ := γ) id))
include hP hQ

theorem ensures_considerSet (id : MetricSetId) :
    Ensures P (fun found => ∀ selection ∈ found, Q selection.id)
      (Selection.considerSet (γ := γ) id) := by
  refine ensures_bind (hQ id) fun params hparams => ?_
  cases params with
  | none => exact ensures_pure (by simp)
  | some params =>
    refine ensures_bind (ensures_of_obeys (obeys_log hP (.info _))) fun _ _ => ?_
    refine ensures_bind (ensures_of_obeys (obeys_metricsOf hP id _)) fun metrics _ => ?_
    refine ensures_bind (ensures_of_obeys (obeys_foundRecords hP _)) fun _ _ => ?_
    -- only the set that was asked is answered, so its parameters are all that matters
    split
    · exact ensures_pure (by simp)
    · refine ensures_bind (ensures_of_obeys (obeys_log hP (.debug _))) fun _ _ => ?_
      exact ensures_pure (by simpa using hparams)

theorem ensures_considerGroup (g : Nat) :
    Ensures P (fun found => ∀ selection ∈ found, Q selection.id)
      (Selection.considerGroup (γ := γ) g) := by
  refine ensures_bind (ensures_of_obeys (hP.concurrentGroup g)) fun params _ => ?_
  cases params with
  | none => exact ensures_pure (by simp)
  | some params =>
    refine ensures_bind (ensures_of_obeys (obeys_log hP (.info _))) fun _ _ => ?_
    exact ensures_firstOf (fun i => ensures_considerSet hP hQ ⟨g, i⟩) 0 _

/-- A set that is selected has given its parameters during the search. -/
theorem ensures_selectSet :
    Ensures P (fun r => ∀ selection, r = .ok selection → Q selection.id)
      (selectSet (γ := γ)) := by
  refine ensures_bind (ensures_of_obeys (obeys_concurrentGroupCount hP)) fun count _ => ?_
  cases count with
  | error f => exact ensures_pure nofun
  | ok count =>
    refine ensures_bind (ensures_of_obeys (obeys_log hP (.info _))) fun _ _ => ?_
    refine ensures_bind (ensures_firstOf (ensures_considerGroup hP hQ) 0 _) fun found hfound => ?_
    cases found with
    | some selection => exact ensures_pure fun _ h => by cases h; exact hfound _ rfl
    | none =>
      refine ensures_bind (ensures_of_obeys (obeys_log hP (.nothing _ (by decide)))) fun _ _ => ?_
      refine ensures_bind (ensures_of_obeys (obeys_log hP (.nothing _ (by decide)))) fun _ _ => ?_
      exact ensures_pure nofun

omit hP hQ in
/-- Selecting is the search of the gateway's device, and what is found is remembered. -/
theorem Session.select_spec (s : Session γ) :
    (select s).value.1 = (selectSet s.gateway).value.1.map Selection.id ∧
      (select s).value.2 =
        { s with
          gateway := (selectSet s.gateway).value.2
          selection := (selectSet s.gateway).value.1.toOption.or s.selection } ∧
      (select s).trace = (selectSet s.gateway).trace := by
  cases h : (selectSet s.gateway).value.1 <;>
    simp [select, onGateway, h, Except.map, Except.toOption]

end

/-! ## Reading from a library -/

namespace Library

/-- The event is no part of the lifecycle. -/
def Quiet (e : Event) : Prop := ¬e.isLifecycle = true

theorem lifecycle_of_quiet {t : Trace} (h : ∀ e ∈ t, Quiet e) : t.lifecycle = [] :=
  List.filter_eq_nil_iff.2 h

/-- Reading from a library changes nothing that lasts and is no part of the lifecycle. -/
theorem reading_using : ReadingObeys (Using Quiet) where
  composes := composes_using
  logging _ _ _ _ := ⟨rfl, fun e he => by rw [List.mem_singleton.1 he]; exact nofun⟩
  adapterGroup := quiet using_readAdapterGroup
  adapter i := quiet (using_readAdapter i)
  device := quiet using_readDevice
  concurrentGroup g := quiet (using_readConcurrentGroup g)
  metricSet id := quiet (using_readMetricSet id)
  metric id i := quiet (using_readMetric id i)
where
  quiet {α : Type} {m : Action Library α} (h : Obeys (Using (·.isLook)) m) :
      Obeys (Using Quiet) m := fun lib => (h lib).mono fun _ => Event.not_isLifecycle_of_isLook

end Library
end GpuMonitor
