import GpuMonitor.Proofs.Monitoring
import GpuMonitor.Proofs.Reading
import GpuMonitor.Session.Operation

/-!
# What the operations of a session obey

A session does little of its own: it asks its gateway, logs, waits and keeps account. So what
these steps obey, every function of the session obeys, and no proof needs to go through the
functions again.

* `known`: what neither a sample nor a release changes of a session.
* `obeys_history`: what every operation obeys, every history obeys.
* `Obeying R`: asking the gateway, logging, waiting and the account that leaves `known` alone obey
  `R`. Then so do `sample`, `release` and `finish` (`obeys_sample`, `obeys_release`,
  `obeys_finish`).
* `ObeyingAll R`: all account does. Then every operation obeys `R`, and so does a start
  (`obeys_perform`, `obeys_openAll`).
-/

namespace GpuMonitor.Session

variable {γ : Type} {α : Type}

/-- What neither a sample nor a release changes: the adapter, the selection and the window. -/
def known (s : Session γ) : Option AdapterInfo × Option Selection × Duration :=
  (s.adapter, s.selection, s.window)

/-- What the gateway goes through obeys the relation, whatever session it belongs to. -/
def below (R : Session γ → Trace → Session γ → Prop) (g : γ) (t : Trace) (g' : γ) : Prop :=
  ∀ s : Session γ, s.gateway = g → R s t { s with gateway := g' }

section
variable [Gateway γ]

/-- What every operation obeys, every history obeys. -/
theorem obeys_history {R : Session γ → Trace → Session γ → Prop} (hc : Composes R)
    (h : ∀ op : Operation, Obeys R (op.perform (γ := γ))) (ops : List Operation) :
    Obeys R (performAll (γ := γ) ops) := by
  induction ops with
  | nil => exact obeys_pure hc _
  | cons op rest ih =>
    refine obeys_bind hc (h op) fun _ => ?_
    exact obeys_bind hc ih fun _ => obeys_pure hc _

/-- Asking the gateway, logging and waiting obey the relation, and so does the account that a
sample or a release keeps. -/
structure Obeying (R : Session γ → Trace → Session γ → Prop) : Prop where
  composes : Composes R
  logging : ∀ s level text, R s [.log level text] s
  waiting : ∀ s length, R s [.wait length] s
  request : ∀ r, Obeys (below R) (Gateway.perform (γ := γ) r)
  settling : ∀ s s', s'.gateway = s.gateway → known s' = known s → R s [] s'

/-- The relation is obeyed by all account as well. -/
structure ObeyingAll (R : Session γ → Trace → Session γ → Prop) : Prop extends Obeying R where
  noting : ∀ s s', s'.gateway = s.gateway → R s [] s'

variable {R : Session γ → Trace → Session γ → Prop}

section
variable (hR : Obeying R)
include hR

theorem composes_below : Composes (below R) where
  nil g s hs := by
    -- a session whose gateway is put back is the session that there was
    subst hs
    exact hR.composes.nil s
  append h h' s hs := hR.composes.append (h s hs) (h' _ rfl)

theorem reading_below : ReadingObeys (below R) where
  composes := composes_below hR
  logging g level text _ s hs := by
    subst hs
    exact hR.logging s level text
  adapterGroup := hR.request .readAdapterGroup
  adapter i := hR.request (.readAdapter i)
  device := hR.request .readDevice
  concurrentGroup g := hR.request (.readConcurrentGroup g)
  metricSet id := hR.request (.readMetricSet id)
  metric id i := hR.request (.readMetric id i)

omit hR in
omit [Gateway γ] in
theorem obeys_onGateway {m : Action γ α} (hm : Obeys (below R) m) : Obeys R (onGateway m) :=
  fun s => hm s.gateway s rfl

theorem obeys_record (level : Level) (text : String) :
    Obeys R (log level text : Action (Session γ) Unit) := fun s => hR.logging s level text

/-- Account that leaves alone what is known of the gateway and the session. -/
theorem obeys_settle {f : Session γ → Session γ} (hg : ∀ s, (f s).gateway = s.gateway)
    (hk : ∀ s, known (f s) = known s) : Obeys R (modify f : Action (Session γ) PUnit) :=
  obeys_modify fun s => hR.settling s (f s) (hg s) (hk s)

/-! ## Sampling -/

theorem obeys_readClocks : Obeys R (readClocks (γ := γ)) := by
  refine obeys_bind hR.composes (obeys_onGateway (hR.request .readClocks)) fun result => ?_
  -- the clocks are logged, or that they are not had
  split
  · exact obeys_bind hR.composes (obeys_record hR _ _) fun _ => obeys_pure hR.composes _
  · exact obeys_bind hR.composes (obeys_record hR _ _) fun _ => obeys_pure hR.composes _

theorem obeys_deactivate (id : MetricSetId) : Obeys R (deactivate (γ := γ) id) := by
  refine obeys_bind hR.composes (obeys_onGateway (hR.request (.deactivate id))) fun code => ?_
  refine obeys_bind hR.composes (obeys_warnUnlessOk hR.composes hR.logging _ _) fun _ => ?_
  split
  · exact obeys_settle hR (fun _ => rfl) fun _ => rfl
  · exact obeys_pure hR.composes _

theorem obeys_measure (id : MetricSetId) : Obeys R (measure (γ := γ) id) := by
  refine obeys_bind hR.composes (obeys_readClocks hR) fun timestamps => ?_
  refine obeys_bind hR.composes (obeys_get hR.composes) fun s => ?_
  -- the window passes before the set is read
  refine obeys_bind hR.composes (fun s => hR.waiting s _) fun _ => ?_
  refine obeys_bind hR.composes
    (obeys_onGateway (obeys_readValues (reading_below hR) id)) fun reading => ?_
  exact obeys_bind hR.composes (obeys_deactivate hR id) fun _ => obeys_pure hR.composes _

theorem obeys_sample : Obeys R (sample (γ := γ)) := by
  refine obeys_bind hR.composes (obeys_get hR.composes) fun s => ?_
  split
  · exact obeys_pure hR.composes _
  · next selection _ =>
    refine obeys_bind hR.composes
      (obeys_onGateway (hR.request (.activate selection.id))) fun code => ?_
    -- only a set whose activation is accepted is noted as active, and measured
    split
    · exact obeys_bind hR.composes (obeys_settle hR (fun _ => rfl) fun _ => rfl)
        fun _ => obeys_measure hR _
    · exact obeys_pure hR.composes _

/-! ## Releasing -/

theorem obeys_releaseSet : Obeys R (releaseSet (γ := γ)) := by
  have hsettle : Obeys R
      (modify fun s => { s with active := false } : Action (Session γ) PUnit) :=
    obeys_settle hR (fun _ => rfl) fun _ => rfl
  refine obeys_bind hR.composes (obeys_get hR.composes) fun s => ?_
  split
  · -- whatever comes of the deactivation, the set counts as deactivated
    split
    · exact hsettle
    · refine obeys_bind hR.composes (obeys_onGateway (hR.request (.deactivate _))) fun _ => ?_
      exact obeys_bind hR.composes (obeys_warnUnlessOk hR.composes hR.logging _ _) fun _ => hsettle
  · exact obeys_pure hR.composes _

theorem obeys_releaseDevice : Obeys R (releaseDevice (γ := γ)) := by
  refine obeys_bind hR.composes (obeys_get hR.composes) fun s => ?_
  split
  · refine obeys_bind hR.composes (obeys_onGateway (hR.request .closeDevice)) fun _ => ?_
    exact obeys_bind hR.composes (obeys_warnUnlessOk hR.composes hR.logging _ _) fun _ =>
      obeys_settle hR (fun _ => rfl) fun _ => rfl
  · exact obeys_pure hR.composes _

theorem obeys_releaseGroup : Obeys R (releaseGroup (γ := γ)) := by
  refine obeys_bind hR.composes (obeys_get hR.composes) fun s => ?_
  split
  · refine obeys_bind hR.composes (obeys_onGateway (hR.request .closeAdapters)) fun _ => ?_
    exact obeys_bind hR.composes (obeys_warnUnlessOk hR.composes hR.logging _ _) fun _ =>
      obeys_settle hR (fun _ => rfl) fun _ => rfl
  · exact obeys_pure hR.composes _

theorem obeys_release : Obeys R (release (γ := γ)) := by
  refine obeys_bind hR.composes (obeys_get hR.composes) fun s => ?_
  split
  · exact obeys_pure hR.composes _
  · refine obeys_bind hR.composes (obeys_settle hR (fun _ => rfl) fun _ => rfl) fun _ => ?_
    refine obeys_bind hR.composes (obeys_record hR _ _) fun _ => ?_
    refine obeys_bind hR.composes (obeys_releaseSet hR) fun _ => ?_
    refine obeys_bind hR.composes (obeys_releaseDevice hR) fun _ => ?_
    exact obeys_bind hR.composes (obeys_releaseGroup hR) fun _ =>
      obeys_onGateway (hR.request .unload)

theorem obeys_finish : Obeys R (finish (γ := γ)) :=
  obeys_bind hR.composes (obeys_release hR) fun _ => obeys_onGateway (hR.request .unload)

/-! ## Looking -/

theorem obeys_adapters : Obeys R (adapters (γ := γ)) :=
  obeys_onGateway (obeys_listAdapters (reading_below hR))

theorem obeys_deviceName : Obeys R (deviceName (γ := γ)) :=
  obeys_onGateway (obeys_map _ (reading_below hR).device)

end

section
variable (hR : ObeyingAll R)
include hR

/-- Account of any kind. -/
theorem obeys_note {f : Session γ → Session γ} (hg : ∀ s, (f s).gateway = s.gateway) :
    Obeys R (modify f : Action (Session γ) PUnit) :=
  obeys_modify fun s => hR.noting s (f s) (hg s)

theorem obeys_select : Obeys R (select (γ := γ)) := by
  have hread := reading_below hR.toObeying
  refine obeys_bind hR.composes (obeys_onGateway (obeys_selectSet hread)) fun result => ?_
  split
  · exact obeys_pure hR.composes _
  · exact obeys_bind hR.composes (obeys_note hR fun _ => rfl) fun _ => obeys_pure hR.composes _

/-! ## Starting -/

theorem obeys_openDevice (adapter : AdapterInfo) : Obeys R (openDevice (γ := γ) adapter) := by
  refine obeys_bind hR.composes (obeys_onGateway (hR.request (.openDevice _))) fun result => ?_
  split
  · exact obeys_pure hR.composes _
  · refine obeys_bind hR.composes (obeys_note hR fun _ => rfl) fun _ => ?_
    exact obeys_bind hR.composes (obeys_record hR.toObeying _ _) fun _ => obeys_pure hR.composes _

theorem obeys_openAll : Obeys R (openAll (γ := γ)) := by
  refine obeys_bind hR.composes (obeys_onGateway (hR.request .openAdapters)) fun result => ?_
  split
  · exact obeys_pure hR.composes _
  · refine obeys_bind hR.composes (obeys_note hR fun _ => rfl) fun _ => ?_
    refine obeys_bind hR.composes (obeys_onGateway (hR.request .readAdapterGroup)) fun group => ?_
    split
    · exact obeys_pure hR.composes _
    · -- the group is open and its parameters are read, so its adapters are listed
      refine obeys_bind hR.composes (obeys_record hR.toObeying _ _) fun _ => ?_
      refine obeys_bind hR.composes (obeys_adapters hR.toObeying) fun list => ?_
      split
      · exact obeys_pure hR.composes _
      · exact obeys_bind hR.composes (obeys_record hR.toObeying _ _) fun _ => obeys_openDevice hR _

/-! ## Operations -/

theorem obeys_perform (op : Operation) : Obeys R (op.perform (γ := γ)) := by
  have hc := hR.composes
  cases op with
  | adapters => exact obeys_map _ (obeys_adapters hR.toObeying)
  | adapter => exact obeys_bind hc (obeys_get hc) fun _ => obeys_pure hc _
  | selection => exact obeys_bind hc (obeys_get hc) fun _ => obeys_pure hc _
  | deviceName => exact obeys_map _ (obeys_deviceName hR.toObeying)
  | catalog =>
    have hread := reading_below hR.toObeying
    exact obeys_map _ (obeys_onGateway (GpuMonitor.obeys_catalog hread))
  | select => exact obeys_map _ (obeys_select hR)
  | sample => exact obeys_map _ (obeys_sample hR.toObeying)
  | setWindow length => exact obeys_bind hc (obeys_note hR fun _ => rfl) fun _ => obeys_pure hc _
  | run mode interval bound bench =>
    -- a loop is made of samples, records and waits
    refine obeys_bind hc ?_ fun _ => obeys_pure hc _
    exact Monitor.Bench.obeys_run hc hR.logging (obeys_sample hR.toObeying) mode interval bound
      bench
  | release => exact obeys_bind hc (obeys_release hR.toObeying) fun _ => obeys_pure hc _

end
end
end GpuMonitor.Session
