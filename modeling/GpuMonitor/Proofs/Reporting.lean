import GpuMonitor.Proofs.Reports

/-!
# How a session reports failing calls

Each operation of a session gives back the failure that its calls ask for, and leaves the
warnings that they ask for. Only the monitoring loop leaves a record in the place of a failure.

* `givenBack`: the failures of calls among what is given back.
* `told_sample`, `told_release`, `told_start`: the operations that reach the library.
* `present_of_listed`: an adapter that is listed is there to be opened.
-/

namespace GpuMonitor

open Vendor

/-- The failure, if it is that of a call. -/
def Failure.ofCall (f : Failure) : List Failure :=
  match f with
  | .vendorCall .. => [f]
  | _ => []

/-- The failure of a call, if one is given back. -/
def givenBack {α : Type} : Except Failure α → List Failure
  | .ok _ => []
  | .error f => f.ofCall

namespace Session

variable {σ : Type} {a : Nat} {id : MetricSetId} {s : Session Library}

/-! ## Sampling -/

theorem told_readClocks (h : InUse a s) : Told [] (readClocks s).trace := by
  obtain ⟨dev, hdev, -⟩ := h.present
  obtain ⟨code, htrace, hvalue⟩ := Library.readClocks_of_opened hdev
  have hservice := (Library.using_readClocks s.gateway).2
  obtain ⟨-, hclocks⟩ := readClocks_spec s
  rw [hclocks, hvalue, CompletionCode.toExcept]
  cases hok : code.isOk with
  | true =>
    -- a code that is `ok` asks for no warning, and a remark follows
    have hcalled : Told [] (Library.readClocks s.gateway).trace :=
      told_of_service hservice htrace (by simp [Call.warning?, Call.unlessOk, hok])
    exact hcalled.after (told_remark (.debug _))
  | false => exact told_of_warning hservice htrace rfl rfl (by rw [hok]; rfl) (by decide)

/-- A warning of the session about a call that it can do without. -/
theorem told_warnUnlessOk {t : Trace} {call : Call} {what : String} {code : CompletionCode}
    (hs : ∀ e ∈ t, e.isService = true) (hl : t.lifecycle = [.vendor call])
    (hf : call.failure? = none)
    (hw : call.warning? = Call.unlessOk ("Failed to " ++ what ++ ": ") code)
    (hwhat : "Failed to " ++ what ++ ": " ∈ Call.warnings) (s : σ) :
    Told [] (t ++ (warnUnlessOk what code s).trace) :=
  told_of_warning hs hl hf hw (trace_warnUnlessOk what code s) hwhat

theorem told_deactivate (h : InUse a s) (hid : s.selected = some id) :
    Told [] (deactivate id s).trace := by
  obtain ⟨dev, hdev, hpresent⟩ := h.present
  rw [(deactivate_spec id s).2]
  exact told_warnUnlessOk (Library.using_deactivate id s.gateway).2
    (Library.deactivate_of_present hdev (hpresent id hid)) rfl rfl (by decide) s

/-- Reading the values of a set fails for no call. -/
theorem givenBack_readValues (id : MetricSetId) (lib : Library) :
    givenBack (readValues id lib).value.1 = [] := by
  cases h : (Gateway.readMetricSet id lib).value.1 <;>
    simp [readValues, h, givenBack, Failure.ofCall]

theorem givenBack_measure (id : MetricSetId) (s : Session Library) :
    givenBack (measure id s).value.1 = [] := by
  obtain ⟨clocked, read, -, -, hvalue, -⟩ := measure_spec id s
  have hnone := givenBack_readValues id clocked.gateway
  rw [hvalue]
  cases h : (readValues id clocked.gateway).value.1 with
  | ok u => rfl
  | error f =>
    rw [h] at hnone
    exact hnone

/-- All that can fail while a set is active is warned about. -/
theorem told_measure (h : InUse a s) (hid : s.selected = some id) :
    Told [] (measure id s).trace := by
  obtain ⟨clocked, read, hclocked, hread, -, htrace⟩ := measure_spec id s
  have hinUse : InUse a clocked := by
    rw [hclocked]
    exact inUse_readClocks h
  -- reading the values of the set leaves the session in use, and the set selected
  have hstill : InUse a read := by
    rw [hread]
    exact hinUse.of_lasting (obeys_readValues Library.reading_using id clocked.gateway).1
  have hid' : read.selected = some id := by
    rw [hread, hclocked, (readClocks_spec s).1]
    exact hid
  have hwait : Told [] [.wait clocked.window] := ⟨rfl, rfl, rfl⟩
  have hvalues : Told [] (readValues id clocked.gateway).trace :=
    obeys_readValues Library.reading_told id _
  rw [htrace]
  exact (told_readClocks h).after (hwait.after (hvalues.after (told_deactivate hstill hid')))

/-- A sample gives back the failure of its activation, if it fails. -/
theorem told_sample (h : InUse a s) : Told (givenBack (sample s).value.1) (sample s).trace := by
  cases hsel : s.selection with
  | none =>
    rw [sample_of_none hsel]
    exact .nil
  | some selection =>
    obtain ⟨dev, hdev, hpresent⟩ := h.present
    have hid : s.selected = some selection.id := by simp [selected, hsel]
    have hservice := (Library.using_activate selection.id s.gateway).2
    have hcalled := told_of_service hservice
      (Library.activate_of_present hdev (hpresent _ hid)) rfl
    cases hcode : (Library.activate selection.id s.gateway).value.1.isAccepted with
    | false =>
      obtain ⟨hvalue, htrace⟩ := sample_of_refused hsel hcode
      rw [Call.failure?, hcode] at hcalled
      rw [hvalue, htrace]
      exact hcalled
    | true =>
      obtain ⟨active, hactive, hvalue, htrace⟩ := sample_of_accepted hsel hcode
      have hstill := h.of_lasting (Library.using_activate selection.id s.gateway).1
      have hinUse : InUse a active := by
        rw [hactive]
        exact { hstill with active := fun _ => by rw [hsel]; rfl }
      have hid' : active.selected = some selection.id := by
        rw [hactive]
        exact hid
      rw [Call.failure?, hcode] at hcalled
      rw [hvalue, htrace, givenBack_measure]
      exact hcalled.after (told_measure hinUse hid')

/-! ## Releasing -/

theorem told_releaseSet {s : Session Library} (h : s.active = true → ∃ a dev selection,
      s.gateway.Opened a dev ∧ s.selection = some selection ∧
        (dev.metricSet? selection.id).isSome = true) : Told [] (releaseSet s).trace := by
  cases hactive : s.active with
  | false =>
    rw [releaseSet_of_settled hactive]
    exact .nil
  | true =>
    obtain ⟨a, dev, selection, hdev, hsel, hpresent⟩ := h hactive
    rw [(releaseSet_of_active hactive hsel).2]
    exact told_warnUnlessOk (Library.using_deactivate selection.id s.gateway).2
      (Library.deactivate_of_present hdev hpresent) rfl rfl (by decide) s

theorem told_releaseDevice {s : Session Library}
    (h : s.deviceOpen = true → ∃ a dev, s.gateway.Opened a dev) :
    Told [] (releaseDevice s).trace := by
  cases hopen : s.deviceOpen with
  | false =>
    rw [releaseDevice_of_closed hopen]
    exact .nil
  | true =>
    obtain ⟨a, dev, hdev⟩ := h hopen
    rw [(releaseDevice_of_open hopen).2]
    exact told_warnUnlessOk (Library.service_closeDevice s.gateway)
      (Library.closeDevice_of_opened hdev) rfl rfl (by decide) s

theorem told_releaseGroup {s : Session Library} (h : s.gateway.groupOpen = s.groupOpen) :
    Told [] (releaseGroup s).trace := by
  cases hopen : s.groupOpen with
  | false =>
    rw [releaseGroup_of_closed hopen]
    exact .nil
  | true =>
    have hcall := Library.closeAdapters_of_open (h.trans hopen)
    rw [(releaseGroup_of_open hopen).2, hcall]
    exact told_warnUnlessOk (by simp [Event.isService]) rfl rfl rfl (by decide) s

/-- What is closed by the session is not closed by its library again, so nothing is warned about
twice. -/
theorem told_release (h : Ready s) : Told [] (release s).trace := by
  obtain ⟨s₁, s₂, lib, hopen, hlast, hgroup, hgiven, htrace, -, -⟩ := release_of_ready h
  have hset := told_releaseSet (s := { s with released := true }) h.active
  have hdevice : Told [] (releaseDevice s₁).trace := by
    refine told_releaseDevice fun hopen' => ?_
    obtain ⟨a, dev, hdev⟩ := h.opened (hopen.symm.trans hopen')
    obtain ⟨dev', hdev', -⟩ := hdev.of_lasting hlast
    exact ⟨a, dev', hdev'⟩
  have hclose := told_releaseGroup (hgiven.trans hgroup.symm)
  rw [htrace]
  exact (told_remark (.info _)).after
    (hset.after (hdevice.after (hclose.after lib.told_unloading)))

theorem told_finish (h : Ready s) : Told [] (finish s).trace := by
  obtain ⟨-, -, -, -, -, -, -, -, -, hover⟩ := release_of_ready h
  rw [(finish_of_gone hover.gone).2]
  exact told_release h

/-! ## Starting -/

/-- An adapter that gives its parameters is there. -/
theorem present_of_readAdapter {lib : Library} {i : Nat}
    (h : (Library.readAdapter i lib).value.1.isSome = true) :
    lib.vendor.latest.adapters[i]?.join.isSome = true := by
  cases hgroup : lib.groupOpen with
  | false => simp [Library.readAdapter, Library.onGroup, hgroup] at h
  | true =>
    cases had : lib.vendor.latest.adapters[i]?.join with
    | none =>
      simp [Library.readAdapter, Library.onGroup, Library.onVendor, State.onLatest,
        AdapterGroup.seekAdapter, value_hold, hgroup, had] at h
    | some ad => rfl

/-- An adapter is as present as it was while nothing that lasts is changed. -/
theorem adapter_isSome_of_lasting {lib lib' : Library} (h : lib'.lasting = lib.lasting) (i : Nat) :
    lib'.vendor.latest.adapters[i]?.join.isSome = lib.vendor.latest.adapters[i]?.join.isSome := by
  have hads : lib'.vendor.latest.adapters.map (Option.map Adapter.lasting) =
      lib.vendor.latest.adapters.map (Option.map Adapter.lasting) :=
    congrArg (fun lib => lib.vendor.latest.adapters) h
  have hchild := congrArg (fun ads => ads[i]?.join.isSome) hads
  simp only [child_map, Option.isSome_map] at hchild
  exact hchild

/-- An adapter that is listed is there when the listing is done. -/
theorem present_of_listed (lib : Library) :
    ∀ info ∈ (listAdapters lib).value.1,
      (listAdapters lib).value.2.vendor.latest.adapters[info.index]?.join.isSome = true := by
  have hlisted : Ensures (fun l : Library => l.lasting = lib.lasting)
      (fun list => ∀ info ∈ list, lib.vendor.latest.adapters[info.index]?.join.isSome = true)
      listAdapters := by
    refine ensures_bind (ensures_of_obeys fun l hl => ?_) fun params _ =>
      ensures_collect (fun i l hl => ⟨?_, fun info hinfo => ?_⟩) 0 _
    · exact (Library.reading_using.adapterGroup l).1.trans hl
    · exact (Library.reading_using.adapter i l).1.trans hl
    · obtain ⟨params, hparams, rfl⟩ := Option.map_eq_some_iff.1 hinfo
      show lib.vendor.latest.adapters[i]?.join.isSome = true
      rw [← adapter_isSome_of_lasting hl]
      exact present_of_readAdapter (Option.isSome_iff_exists.2 ⟨params, hparams⟩)
  -- reading uses up parameters only, so every adapter is where it was at first
  obtain ⟨hlast, hthere⟩ := hlisted lib rfl
  intro info hinfo
  rw [adapter_isSome_of_lasting hlast]
  exact hthere info hinfo

theorem handing_eq (what : String) (code : CompletionCode) (given : Bool) :
    Call.handing what code given =
      match Library.handedOut (code, given) with
      | .ok _ => none
      | .error code => some (.vendorCall what code) := by
  cases code <;> cases given <;> rfl

theorem told_openDevice {adapter : AdapterInfo} (hgroup : s.gateway.groupOpen = true)
    (hthere : s.gateway.vendor.latest.adapters[adapter.index]?.join.isSome = true) :
    Told (givenBack (openDevice adapter s).value.1) (openDevice adapter s).trace := by
  obtain ⟨ad, had⟩ := Option.isSome_iff_exists.1 hthere
  obtain ⟨code, given, hcall, hresult, -⟩ := Library.openDevice_of_present hgroup had
  have hcalled := told_of_service (Library.service_openDevice adapter.index s.gateway) hcall rfl
  rw [Call.failure?, handing_eq] at hcalled
  cases hgiven : Library.handedOut (code, given) with
  | error code' =>
    obtain ⟨hvalue, htrace⟩ := openDevice_error (hresult.trans hgiven)
    rw [hvalue, htrace]
    rw [hgiven] at hcalled
    exact hcalled
  | ok _ =>
    obtain ⟨hvalue, htrace⟩ := openDevice_ok (hresult.trans hgiven)
    rw [hvalue, htrace]
    rw [hgiven] at hcalled
    exact hcalled.after (told_remark (.info _))

theorem told_openIntel (hgroup : s.gateway.groupOpen = true) (group : AdapterGroupParams) :
    Told (givenBack (openIntel group s).value.1) (openIntel group s).trace := by
  obtain ⟨hlast, -⟩ := obeys_listAdapters Library.reading_using s.gateway
  have hlisted : Told [] (listAdapters s.gateway).trace :=
    obeys_listAdapters Library.reading_told s.gateway
  obtain ⟨-, hgroup', -⟩ := Library.open_of_lasting hlast
  cases hfind : (listAdapters s.gateway).value.1.find? AdapterInfo.isIntel with
  | none =>
    obtain ⟨hvalue, text, htrace⟩ := openIntel_of_none group hfind
    rw [hvalue, htrace]
    exact (told_remark (.debug _)).after hlisted
  | some adapter =>
    obtain ⟨listed, rfl, hvalue, text, htrace⟩ := openIntel_of_some group hfind
    -- the adapter has been listed, so its device can be asked for
    have hopened := told_openDevice (s := { s with gateway := (listAdapters s.gateway).value.2 })
      (hgroup'.trans hgroup)
      (present_of_listed s.gateway adapter (List.mem_of_find?_eq_some hfind))
    rw [hvalue, htrace]
    exact (told_remark (.debug _)).after (hlisted.after ((told_remark (.debug _)).after hopened))

theorem told_openAll {lib : Library} (hl : lib.loaded = true) (hg : lib.groupOpen = false) :
    Told (givenBack (openAll { gateway := lib }).value.1) (openAll { gateway := lib }).trace := by
  obtain ⟨code, given, hcall, hresult, -, -, hgroup⟩ := Library.openAdapters_of_closed hl hg
  have hcalled : Told _ (Library.openAdapters lib).trace :=
    told_of_service (by rw [hcall]; simp [Event.isService]) (by rw [hcall]; rfl) rfl
  rw [Call.failure?, handing_eq] at hcalled
  cases hgiven : Library.handedOut (code, given) with
  | error code' =>
    rw [hgiven] at hresult hcalled
    obtain ⟨hvalue, htrace⟩ := openAll_error hresult
    rw [hvalue, htrace]
    exact hcalled
  | ok _ =>
    obtain ⟨hlast, -⟩ := Library.reading_using.adapterGroup (Library.openAdapters lib).value.2
    have hread : Told [] (Gateway.readAdapterGroup (Library.openAdapters lib).value.2).trace :=
      Library.reading_told.adapterGroup _
    obtain ⟨-, hstill, -⟩ := Library.open_of_lasting hlast
    have hopen := hstill.trans (hgroup.2 hgiven)
    rw [hgiven] at hresult hcalled
    cases hparams : (Gateway.readAdapterGroup (Library.openAdapters lib).value.2).value.1 with
    | none =>
      obtain ⟨hvalue, htrace⟩ := openAll_of_unread hresult hparams
      rw [hvalue, htrace]
      exact hcalled.after hread
    | some group =>
      obtain ⟨opened, hopened, hvalue, htrace⟩ := openAll_of_read hresult hparams
      have hgiven' : opened.gateway.groupOpen = true := by
        rw [hopened]
        exact hopen
      rw [hvalue, htrace]
      exact hcalled.after (hread.after (told_openIntel hgiven' group))

/-- A start that fails gives back the failure of its opening, and what was opened is closed
again. -/
theorem told_start {lib : Library} (hl : lib.loaded = true) (hg : lib.groupOpen = false)
    (hd : lib.device = none) : Told (givenBack (start lib).value) (start lib).trace := by
  have hopening := told_openAll hl hg
  have hfailing {f : Failure} (hf : (openAll { gateway := lib }).value.1 = .error f)
      (hfinish : Told [] (finish (openAll { gateway := lib }).value.2).trace) :
      Told (givenBack (start lib).value) (start lib).trace := by
    obtain ⟨hvalue, htrace⟩ := start_error hf
    rw [hf] at hopening
    rw [hvalue, htrace, ← List.append_nil (givenBack _)]
    exact hopening.append hfinish
  cases opensAll_openAll lib hl hg hd with
  | refused f code given hf hs => exact hfailing hf (told_finish hs.ready)
  | failed f word hf hs => exact hfailing hf (told_finish hs.ready)
  | opened i hf =>
    obtain ⟨hvalue, htrace⟩ := start_ok hf
    rw [hf] at hopening
    rw [hvalue, htrace]
    exact hopening

end Session
end GpuMonitor
