import GpuMonitor.Proofs.Minutes
import GpuMonitor.Proofs.Opening

/-!
# When there is said to be no adapter of Intel

Opening a session reads the parameters of the adapter group twice: once to see that there are any,
and once more to know how many adapters to look at. What the second reading says need not be what
the first one has said, and where it says nothing no adapter is looked at.

* `Session.openingMinutes`: what is asked for, and answered, while a session is opened.
* `Survey`: what has been answered before an adapter is chosen.
* `Opening`: the minutes of each way in which an opening can go (`opening_openAll`).
* `Honest`: the minutes bear out that there is no adapter of Intel.

Main results:

* `noIntelAdapter_honest_iff`: how a start on any gateway comes to say so, and when its minutes bear
  it out.
* `noIntelAdapter_of_once`: a library whose adapter group gives its parameters exactly once is said
  to have no such adapter, whatever adapters it has.
-/

namespace GpuMonitor

open Gateway (Exchange Request Reply)

open Vendor

variable {γ : Type}

/-! ## What is answered -/

/-- What has been answered before an adapter is chosen: both readings of the adapter group, and what
each place has shown. As many places are looked at as the second reading reports. -/
structure Survey where
  first : AdapterGroupParams
  second : Option AdapterGroupParams
  looks : List (Option AdapterParams)
  counted : looks.length = (second.map AdapterGroupParams.adapterCount).getD 0

namespace Survey

/-- The look at a place. -/
def look (p : Option AdapterParams × Nat) : Exchange := (.readAdapter p.2, .adapter p.1)

/-- The minutes up to the choice of an adapter. -/
def minutes (v : Survey) : List Exchange :=
  (.openAdapters, .opened (.ok ())) :: (.readAdapterGroup, .adapterGroup (some v.first)) ::
    (.readAdapterGroup, .adapterGroup v.second) :: v.looks.zipIdx.map look

/-- The adapters that were seen. -/
def infos (v : Survey) : List AdapterInfo :=
  v.looks.zipIdx.filterMap fun p => p.1.map (AdapterInfo.ofParams p.2)

/-- No place has shown an adapter of Intel. -/
def Foreign (v : Survey) : Prop := ∀ p, some p ∈ v.looks → p.vendorId ≠ intelVendorId

theorem foreign_iff (v : Survey) : v.Foreign ↔ v.infos.find? AdapterInfo.isIntel = none := by
  rw [List.find?_eq_none]
  constructor
  · intro h a ha
    obtain ⟨⟨o, i⟩, hmem, hinfo⟩ := List.mem_filterMap.1 ha
    obtain ⟨p, rfl, rfl⟩ := Option.map_eq_some_iff.1 hinfo
    have hforeign := h p (List.fst_mem_of_mem_zipIdx hmem)
    simpa [AdapterInfo.isIntel, AdapterInfo.ofParams] using hforeign
  · intro h p hp hvendor
    obtain ⟨i, hi⟩ := List.mem_iff_getElem?.1 hp
    have hmem : (some p, i) ∈ v.looks.zipIdx := List.mem_zipIdx_iff_getElem?.2 hi
    refine h (AdapterInfo.ofParams i p) (List.mem_filterMap.2 ⟨_, hmem, rfl⟩) ?_
    simpa [AdapterInfo.isIntel, AdapterInfo.ofParams] using hvendor

/-- A place was looked at if and only if the second reading has reported it. -/
theorem look_mem_iff (v : Survey) (i : Nat) (o : Option AdapterParams) :
    (.readAdapter i, .adapter o) ∈ v.minutes ↔ v.looks[i]? = some o := by
  have hlook : (Request.readAdapter i, Reply.adapter o) = look (o, i) := rfl
  simp only [minutes, List.mem_cons, Prod.mk.injEq, reduceCtorEq, false_and, false_or, List.mem_map]
  constructor
  · rintro ⟨⟨o', i'⟩, hmem, heq⟩
    simp only [look, Prod.mk.injEq, Request.readAdapter.injEq, Reply.adapter.injEq] at heq
    obtain ⟨rfl, rfl⟩ := heq
    exact List.mem_zipIdx_iff_getElem?.1 hmem
  · intro h
    exact ⟨(o, i), List.mem_zipIdx_iff_getElem?.2 h, rfl⟩

theorem foreign_iff_minutes (v : Survey) :
    v.Foreign ↔
      ∀ i p, (.readAdapter i, .adapter (some p)) ∈ v.minutes → p.vendorId ≠ intelVendorId := by
  simp only [look_mem_iff]
  constructor
  · intro h i p hp
    exact h p (List.mem_of_getElem? hp)
  · intro h p hp
    obtain ⟨i, hi⟩ := List.mem_iff_getElem?.1 hp
    exact h i p hi

/-- No device is opened before an adapter is chosen. -/
theorem not_mem_minutes (v : Survey) (i : Nat) (reply : Reply) :
    (.openDevice i, reply) ∉ v.minutes := by
  simp [minutes, look]

theorem reading_mem_iff (v : Survey) (o : Option AdapterGroupParams) :
    (.readAdapterGroup, .adapterGroup o) ∈ v.minutes ↔ o = some v.first ∨ o = v.second := by
  simp [minutes, look]

end Survey

/-- The minutes of an opening, for each way in which it can go. -/
inductive Opening : Except Failure Unit → List Exchange → Prop where
  /-- The adapter group is not handed out. -/
  | refused (code : CompletionCode) :
    Opening (.error (.vendorCall "open adapter group" code))
      [(.openAdapters, .opened (.error code))]
  /-- The adapter group does not give its parameters. -/
  | unread :
    Opening (.error (.missingParams "adapter group"))
      [(.openAdapters, .opened (.ok ())), (.readAdapterGroup, .adapterGroup none)]
  /-- No adapter that was seen is one of Intel. -/
  | noIntel (v : Survey) (h : v.Foreign) : Opening (.error .noIntelAdapter) v.minutes
  /-- The first adapter of Intel does not hand out its device. -/
  | deviceRefused (v : Survey) (a : AdapterInfo) (code : CompletionCode)
    (h : v.infos.find? AdapterInfo.isIntel = some a) :
    Opening (.error (.vendorCall "open metrics device" code))
      (v.minutes ++ [(.openDevice a.index, .opened (.error code))])
  /-- The device of the first adapter of Intel is open. -/
  | opened (v : Survey) (a : AdapterInfo) (h : v.infos.find? AdapterInfo.isIntel = some a) :
    Opening (.ok ()) (v.minutes ++ [(.openDevice a.index, .opened (.ok ()))])

/-- The minutes bear out that there is no adapter of Intel: every place below a count that was read
has been looked at, none has shown such an adapter, and the adapter group has always given its
parameters. -/
structure Honest (kept : List Exchange) : Prop where
  looked : ∀ group, (.readAdapterGroup, .adapterGroup (some group)) ∈ kept →
    ∀ i < group.adapterCount, ∃ o, (.readAdapter i, .adapter o) ∈ kept
  foreign : ∀ i p, (.readAdapter i, .adapter (some p)) ∈ kept → p.vendorId ≠ intelVendorId
  present : (.readAdapterGroup, .adapterGroup none) ∉ kept

/-- The second reading of the adapter group reports no fewer adapters than the first one. -/
def Survey.Confirmed (v : Survey) : Prop :=
  ∃ group, v.second = some group ∧ v.first.adapterCount ≤ group.adapterCount

/-- A survey that has shown no adapter of Intel bears out that there is none if and only if its
second reading confirms the first one. -/
theorem Survey.honest_iff {v : Survey} (h : v.Foreign) : Honest v.minutes ↔ v.Confirmed := by
  constructor
  · rintro ⟨hlooked, -, hpresent⟩
    cases hsecond : v.second with
    | none => exact absurd ((v.reading_mem_iff none).2 (.inr hsecond.symm)) hpresent
    | some group =>
      refine ⟨group, hsecond, ?_⟩
      have hlen : v.looks.length = group.adapterCount := by
        rw [v.counted, hsecond]
        rfl
      -- the place after the last one that was looked at was not reported the first time either
      by_contra hmore
      obtain ⟨o, ho⟩ := hlooked v.first ((v.reading_mem_iff _).2 (.inl rfl)) group.adapterCount
        (by omega)
      rw [v.look_mem_iff, ← hlen, List.getElem?_eq_none (Nat.le_refl _)] at ho
      cases ho
  · rintro ⟨group, hsecond, hcount⟩
    have hlen : v.looks.length = group.adapterCount := by
      rw [v.counted, hsecond]
      rfl
    refine ⟨fun read hread i hi => ?_, fun i p hlook => ?_, fun hnone => ?_⟩
    · have hplace : i < v.looks.length := by
        rcases (v.reading_mem_iff _).1 hread with hfirst | hagain
        · rw [Option.some.inj hfirst] at hi
          omega
        · rw [hsecond] at hagain
          rw [Option.some.inj hagain] at hi
          omega
      exact ⟨_, (v.look_mem_iff i _).2 (List.getElem?_eq_getElem hplace)⟩
    · exact v.foreign_iff_minutes.1 h i p hlook
    · rcases (v.reading_mem_iff _).1 hnone with hfirst | hagain
      · cases hfirst
      · rw [hsecond] at hagain
        cases hagain

/-! ## How an opening goes -/

theorem notes_looks [Gateway γ] (count : Nat) :
    Notes Minutes.kept
      (fun list x => ∃ looks : List (Option AdapterParams), looks.length = count ∧
        list = looks.zipIdx.filterMap (fun p => p.1.map (AdapterInfo.ofParams p.2)) ∧
        x = looks.zipIdx.map Survey.look)
      (collect (fun i => Option.map (AdapterInfo.ofParams i) <$>
        Gateway.readAdapter (γ := Minutes γ) i) 0 count) := by
  have hvisit (i : Nat) : Notes Minutes.kept
      (fun o x => ∃ p, o = p.map (AdapterInfo.ofParams i) ∧ x = [Survey.look (p, i)])
      (Option.map (AdapterInfo.ofParams i) <$> Gateway.readAdapter (γ := Minutes γ) i) :=
    notes_map _ (Minutes.notes_keeping _ _ _ fun p => ⟨p, rfl, rfl⟩)
  exact notes_collect (fun i p => p.map (AdapterInfo.ofParams i)) (fun i p => Survey.look (p, i))
    hvisit 0 count

theorem notes_listAdapters [Gateway γ] :
    Notes Minutes.kept
      (fun list x => ∃ (second : Option AdapterGroupParams) (looks : List (Option AdapterParams)),
        looks.length = (second.map AdapterGroupParams.adapterCount).getD 0 ∧
        list = looks.zipIdx.filterMap (fun p => p.1.map (AdapterInfo.ofParams p.2)) ∧
        x = (.readAdapterGroup, .adapterGroup second) :: looks.zipIdx.map Survey.look)
      (listAdapters (γ := Minutes γ)) := by
  refine notes_bind (P := fun second x => x = [(.readAdapterGroup, .adapterGroup second)])
    (Minutes.notes_keeping _ _ _ fun _ => rfl) fun second x hx => ?_
  refine (notes_looks _).mono fun list y hy => ?_
  obtain ⟨looks, hlen, hlist, hy⟩ := hy
  exact ⟨second, looks, hlen, hlist, by rw [hx, hy]; rfl⟩

namespace Session

theorem notes_openDevice [Gateway γ] (a : AdapterInfo) :
    Notes minutes
      (fun result x => ∃ r : Except CompletionCode Unit,
        result = r.mapError (Failure.vendorCall "open metrics device") ∧
        x = [(.openDevice a.index, .opened r)])
      (openDevice (γ := Minutes γ) a) := by
  refine notes_bind (P := fun r x => x = [(.openDevice a.index, .opened r)])
    (notes_onGateway (Minutes.notes_keeping _ _ _ fun _ => rfl)) fun r x hx => ?_
  cases r with
  | error code => exact notes_pure ⟨.error code, rfl, by rw [hx]; rfl⟩
  | ok u =>
    refine notes_bind (P := fun _ y => y = []) (notes_modify (fun _ => rfl) rfl) fun _ y hy => ?_
    refine notes_bind (P := fun _ z => z = []) (notes_log _ _ rfl) fun _ z hz => ?_
    exact notes_pure ⟨.ok (), rfl, by rw [hx, hy, hz]; rfl⟩

/-- The minutes of an opening are those of one of the ways in which it can go. -/
theorem opening_openAll [Gateway γ] : Notes minutes Opening (openAll (γ := Minutes γ)) := by
  refine notes_bind (P := fun r x => x = [(.openAdapters, .opened r)])
    (notes_onGateway (Minutes.notes_keeping _ _ _ fun _ => rfl)) fun r x hx => ?_
  cases r with
  | error code =>
    rw [hx]
    exact notes_pure (.refused code)
  | ok u =>
    refine notes_bind (P := fun _ y => y = []) (notes_modify (fun _ => rfl) rfl) fun _ y hy => ?_
    refine notes_bind (P := fun first z => z = [(.readAdapterGroup, .adapterGroup first)])
      (notes_onGateway (Minutes.notes_keeping _ _ _ fun _ => rfl)) fun first z hz => ?_
    cases first with
    | none =>
      rw [hx, hy, hz]
      exact notes_pure .unread
    | some first =>
      refine notes_bind (P := fun _ w => w = []) (notes_log _ _ rfl) fun _ w hw => ?_
      refine notes_bind (notes_onGateway notes_listAdapters) fun list l hl => ?_
      obtain ⟨second, looks, hlen, rfl, hl⟩ := hl
      -- all that is asked before the choice is a survey
      have hsurvey (rest : List Exchange) : x ++ (y ++ (z ++ (w ++ (l ++ rest)))) =
          (⟨first, second, looks, hlen⟩ : Survey).minutes ++ rest := by
        rw [hx, hy, hz, hw, hl]
        rfl
      cases hfind : (⟨first, second, looks, hlen⟩ : Survey).infos.find? AdapterInfo.isIntel with
      | none =>
        have hnone : (looks.zipIdx.filterMap fun p => p.1.map (AdapterInfo.ofParams p.2)).find?
            AdapterInfo.isIntel = none := hfind
        simp only [hnone]
        refine notes_pure ?_
        rw [hsurvey, List.append_nil]
        exact .noIntel _ ((Survey.foreign_iff _).2 hfind)
      | some a =>
        have hsome : (looks.zipIdx.filterMap fun p => p.1.map (AdapterInfo.ofParams p.2)).find?
            AdapterInfo.isIntel = some a := hfind
        simp only [hsome]
        refine notes_bind (P := fun _ d => d = []) (notes_log _ _ rfl) fun _ d hd => ?_
        refine (notes_openDevice a).mono fun result e he => ?_
        obtain ⟨r, rfl, he⟩ := he
        rw [hsurvey, hd, he]
        cases r with
        | error code => exact .deviceRefused _ a code hfind
        | ok u => exact .opened _ a hfind

end Session

/-- Keeping minutes does not change what comes of an opening. -/
theorem Minutes.coupled_openAll [Gateway γ] :
    Coupled (fun (s : Session (Minutes γ)) (s' : Session γ) => Of s.gateway s'.gateway) Eq
      Session.openAll Session.openAll := by
  have hgateway {α : Type} {m : Action (Minutes γ) α} {m' : Action γ α}
      (hm : Coupled Of Eq m m') :
      Coupled (fun (s : Session (Minutes γ)) (s' : Session γ) => Of s.gateway s'.gateway) Eq
        (Session.onGateway m) (Session.onGateway m') :=
    coupled_within hm (fun _ _ h => h) fun _ _ _ _ _ h => h
  refine coupled_bind_eq (hgateway (coupled_keeping _ _ _)) fun r => ?_
  cases r with
  | error code => exact coupled_pure rfl
  | ok u =>
    refine coupled_bind_eq (coupled_modify fun _ _ h => h) fun _ => ?_
    refine coupled_bind_eq (hgateway (coupled_keeping _ _ _)) fun first => ?_
    cases first with
    | none => exact coupled_pure rfl
    | some first =>
      refine coupled_bind_eq (coupled_log _ _ _ _) fun _ => ?_
      refine coupled_bind_eq (hgateway (coupled_listAdapters reading_coupled)) fun list => ?_
      -- the lists are the same on both sides, and so is the adapter that is chosen
      cases list.find? AdapterInfo.isIntel with
      | none => exact coupled_pure rfl
      | some a =>
        refine coupled_bind_eq (coupled_log _ _ _ _) fun _ => ?_
        refine coupled_bind_eq (hgateway (coupled_keeping _ _ _)) fun r => ?_
        cases r with
        | error code => exact coupled_pure rfl
        | ok u =>
          refine coupled_bind_eq (coupled_modify fun _ _ h => h) fun _ => ?_
          exact coupled_bind_eq (coupled_log _ _ _ _) fun _ => coupled_pure rfl

namespace Session

/-- What is asked for, and answered, while a session is opened on a gateway. -/
def openingMinutes [Gateway γ] (g : γ) : List Exchange :=
  (openAll (γ := Minutes γ) { gateway := { inner := g } }).value.2.minutes

/-- The result of an opening and its minutes go together. -/
theorem opening_minutes [Gateway γ] (g : γ) :
    Opening (openAll { gateway := g }).value.1 (openingMinutes g) := by
  obtain ⟨added, hkept, hopening⟩ :=
    opening_openAll (γ := γ) { gateway := { inner := g } }
  obtain ⟨hresult, -⟩ :=
    Minutes.coupled_openAll (γ := γ) { gateway := { inner := g } } { gateway := g } rfl
  have hadded : openingMinutes g = added := hkept
  rw [hadded, ← hresult]
  exact hopening

/-- A start fails for want of an adapter of Intel if and only if its minutes are those of a survey
that has shown none. -/
theorem noIntelAdapter_iff [Gateway γ] (g : γ) :
    (start g).value = .error .noIntelAdapter ↔
      ∃ v : Survey, openingMinutes g = v.minutes ∧ v.Foreign := by
  rw [start_eq_error_iff]
  have hopening := opening_minutes g
  generalize (openAll { gateway := g }).value.1 = result at hopening ⊢
  generalize openingMinutes g = kept at hopening ⊢
  -- an opening that comes to a choice has asked for a device after its survey
  have hlater (v w : Survey) (i : Nat) (reply : Gateway.Reply) :
      v.minutes ++ [(Request.openDevice i, reply)] ≠ w.minutes := by
    intro heq
    refine w.not_mem_minutes i reply ?_
    rw [← heq]
    exact List.mem_append_right _ (List.mem_singleton_self _)
  constructor
  · intro h
    cases hopening with
    | noIntel v hforeign => exact ⟨v, rfl, hforeign⟩
    | _ => cases h
  · rintro ⟨v, hv, -⟩
    cases hopening with
    | noIntel w _ => rfl
    | refused code => cases hv
    | unread => cases hv
    | deviceRefused w a code _ => exact absurd hv (hlater w v _ _)
    | opened w a _ => exact absurd hv (hlater w v _ _)

/-- A start fails for want of the parameters of the adapter group if and only if the first reading
of them is the last request of its opening. -/
theorem missingGroup_iff [Gateway γ] (g : γ) :
    (start g).value = .error (.missingParams "adapter group") ↔
      openingMinutes g =
        [(.openAdapters, .opened (.ok ())), (.readAdapterGroup, .adapterGroup none)] := by
  rw [start_eq_error_iff]
  have hopening := opening_minutes g
  generalize (openAll { gateway := g }).value.1 = result at hopening ⊢
  generalize openingMinutes g = kept at hopening ⊢
  constructor
  · intro h
    cases hopening with
    | unread => rfl
    | _ => cases h
  · intro h
    cases hopening with
    | unread => rfl
    | refused code => cases h
    | noIntel v _ => cases h
    | deviceRefused v _ _ _ => cases h
    | opened v _ _ => cases h

/-- The minutes of a survey that has shown no adapter of Intel are those of no other survey. -/
theorem honest_iff_confirmed [Gateway γ] {g : γ} {v : Survey}
    (h : (start g).value = .error .noIntelAdapter) (hv : openingMinutes g = v.minutes) :
    Honest (openingMinutes g) ↔ v.Confirmed := by
  obtain ⟨w, hw, hforeign⟩ := (noIntelAdapter_iff g).1 h
  have hsame : v.Foreign := by
    rw [v.foreign_iff_minutes, ← hv, hw]
    exact w.foreign_iff_minutes.1 hforeign
  rw [hv]
  exact Survey.honest_iff hsame

/--
**When there is said to be no adapter of Intel.** Over every gateway, whatever it answers:

* A start fails for want of the parameters of the adapter group if and only if they are missing the
  first time that they are read.
* It fails for want of an adapter of Intel if and only if they are given that time, and no adapter
  is one of Intel among as many as they report the second time that they are read. When they are
  missing the second time, no adapter is looked at.
* This failure is borne out by the minutes if and only if they are given the second time as well,
  and report no fewer adapters than the first time.
-/
theorem noIntelAdapter_honest_iff [Gateway γ] (g : γ) :
    ((start g).value = .error (.missingParams "adapter group") ↔
      openingMinutes g =
        [(.openAdapters, .opened (.ok ())), (.readAdapterGroup, .adapterGroup none)]) ∧
    ((start g).value = .error .noIntelAdapter ↔
      ∃ v : Survey, openingMinutes g = v.minutes ∧ v.Foreign) ∧
    ∀ v : Survey, (start g).value = .error .noIntelAdapter → openingMinutes g = v.minutes →
      (Honest (openingMinutes g) ↔ v.Confirmed) :=
  ⟨missingGroup_iff g, noIntelAdapter_iff g, fun _ h hv => honest_iff_confirmed h hv⟩

/-- The only adapter is one of another vendor, and this is borne out. -/
theorem noIntelAdapter_honest_foreign :
    let adapter : Adapter := { vendorId := 0x10DE, deviceId := 1 }
    let script : Script := { group := { adapterCount := 1, adapters := [some adapter] } }
    let lib : Library := { path := ⟨[]⟩, vendor := .fresh script }
    (start lib).value = .error .noIntelAdapter ∧ Honest (openingMinutes lib) := by
  intro adapter script lib
  let v : Survey := ⟨⟨⟨0, 0, 0⟩, 1⟩, some ⟨⟨0, 0, 0⟩, 1⟩, [some ⟨none, 0x10DE, 1⟩], rfl⟩
  have hfailed : (start lib).value = .error .noIntelAdapter := rfl
  have hminutes : openingMinutes lib = v.minutes := rfl
  have hconfirmed : v.Confirmed := ⟨_, rfl, Nat.le_refl _⟩
  exact ⟨hfailed, ((noIntelAdapter_honest_iff lib).2.2 v hfailed hminutes).2 hconfirmed⟩

/-! ## On a library -/

/-- The search for an adapter begins with a reading of the adapter group. -/
theorem minutes_openIntel [Gateway γ] (group : AdapterGroupParams) (s : Session (Minutes γ)) :
    ∃ rest, (openIntel group s).value.2.minutes = s.minutes ++
      ((.readAdapterGroup, .adapterGroup (Gateway.readAdapterGroup s.gateway.inner).value.1) ::
        rest) := by
  let second := (Gateway.readAdapterGroup s.gateway.inner).value.1
  obtain ⟨looks, hlooks, -⟩ := notes_looks ((second.map AdapterGroupParams.adapterCount).getD 0)
    (Gateway.readAdapterGroup s.gateway).value.2
  have hlist : (listAdapters s.gateway).value.2.kept = s.minutes ++
      ((.readAdapterGroup, .adapterGroup (Gateway.readAdapterGroup s.gateway.inner).value.1) ::
        looks) := by
    rw [List.append_cons]
    exact hlooks
  cases hfind : (listAdapters s.gateway).value.1.find? AdapterInfo.isIntel with
  | none =>
    obtain ⟨hvalue, -⟩ := openIntel_of_none group hfind
    exact ⟨looks, by rw [hvalue]; exact hlist⟩
  | some a =>
    obtain ⟨listed, rfl, hvalue, -⟩ := openIntel_of_some group hfind
    obtain ⟨opening, hopening, -⟩ :=
      notes_openDevice a { s with gateway := (listAdapters s.gateway).value.2 }
    have hlisted : ({ s with gateway := (listAdapters s.gateway).value.2 } :
        Session (Minutes γ)).minutes = (listAdapters s.gateway).value.2.kept := rfl
    refine ⟨looks ++ opening, ?_⟩
    rw [hvalue, hopening, hlisted, hlist, List.append_assoc, List.cons_append]

/-- Once the adapter group has given its parameters, they are read again before an adapter is looked
at. -/
theorem openingMinutes_of_read [Gateway γ] {g : γ} {first : AdapterGroupParams}
    (hopen : (Gateway.openAdapters g).value.1 = .ok ())
    (hread : (Gateway.readAdapterGroup (Gateway.openAdapters g).value.2).value.1 = some first) :
    ∃ rest, openingMinutes g =
      (.openAdapters, .opened (.ok ())) :: (.readAdapterGroup, .adapterGroup (some first)) ::
        (.readAdapterGroup, .adapterGroup (Gateway.readAdapterGroup
          (Gateway.readAdapterGroup (Gateway.openAdapters g).value.2).value.2).value.1) ::
          rest := by
  obtain ⟨rest, hrest⟩ := minutes_openIntel first
    ({ gateway := ⟨(Gateway.readAdapterGroup (Gateway.openAdapters g).value.2).value.2,
        [(.openAdapters, .opened (.ok ())), (.readAdapterGroup, .adapterGroup (some first))]⟩
       groupOpen := true } : Session (Minutes γ))
  refine ⟨rest, ?_⟩
  have hopen' : (Gateway.openAdapters (⟨g, []⟩ : Minutes γ)).value =
      (.ok (), ⟨(Gateway.openAdapters g).value.2, [(.openAdapters, .opened (.ok ()))]⟩) := by
    rw [← hopen]
    rfl
  have hread' (kept : List Exchange) :
      (Gateway.readAdapterGroup (⟨(Gateway.openAdapters g).value.2, kept⟩ : Minutes γ)).value =
        (some first, ⟨(Gateway.readAdapterGroup (Gateway.openAdapters g).value.2).value.2,
          kept ++ [(.readAdapterGroup, .adapterGroup (some first))]⟩) := by
    rw [← hread]
    rfl
  rw [openingMinutes]
  simp only [openAll, onGateway, Action.value_bind, Action.value_within, Action.value_modify,
    hopen', hread']
  exact hrest

end Session

/-- A reading of the open adapter group uses up one of those that are left. -/
theorem Library.groupOpened_readAdapterGroup {lib : Library} {g : AdapterGroup}
    (h : lib.GroupOpened g) :
    (Gateway.readAdapterGroup lib).value.2.GroupOpened
      { g with availability := g.availability.take.2 } := by
  have hvalue : (Gateway.readAdapterGroup lib).value.2 =
      { lib with vendor := { lib.vendor with
        latest := { g with availability := g.availability.take.2 } } } := by
    show (readAdapterGroup lib).value.2 = _
    simp [readAdapterGroup, onGroup, onVendor, State.onLatest, AdapterGroup.read, ask, h.groupOpen,
      h.latest]
  rw [hvalue]
  exact ⟨h.groupOpen, rfl⟩

/-- The second reading of an availability fails after a first one if and only if one is left. -/
theorem Vendor.Availability.take_take_iff {a : Availability} (h : a.take.1 = true) :
    a.take.2.take.1 = true ↔ a ≠ .reads 1 := by
  cases a with
  | always => decide
  | reads n =>
    match n with
    | 0 => cases h
    | 1 => decide
    | n + 2 => simp [take]

namespace Session

section
variable {lib : Library} (hl : lib.loaded = true) (hg : lib.groupOpen = false)
include hl hg

/-- An opening that comes to the end of its search has been handed out the adapter group, and has
read its parameters. -/
theorem given_of_noIntel (h : (start lib).value = .error .noIntelAdapter) :
    lib.vendor.script.refusal? = none ∧ lib.vendor.script.group.availability.take.1 = true := by
  rw [start_eq_error_iff] at h
  cases hgroup : lib.vendor.script.refusal? with
  | some code =>
    obtain ⟨hvalue, -⟩ := openAll_error (Library.openAdapters_of_refusal hl hg hgroup)
    rw [hvalue] at h
    cases h
  | none =>
    refine ⟨rfl, ?_⟩
    by_contra hread
    obtain ⟨hcall, hopened⟩ := Library.openAdapters_of_given hl hg hgroup
    have hparams := Library.value_readAdapterGroup hopened
    rw [if_neg hread] at hparams
    obtain ⟨hvalue, -⟩ := openAll_of_unread hcall hparams
    rw [hvalue] at h
    cases h

/-- Both readings of the adapter group say the same, as long as its parameters are given. -/
theorem openingMinutes_of_given (hgroup : lib.vendor.script.refusal? = none)
    (hread : lib.vendor.script.group.availability.take.1 = true) :
    ∃ params rest, openingMinutes lib =
      (.openAdapters, .opened (.ok ())) :: (.readAdapterGroup, .adapterGroup (some params)) ::
        (.readAdapterGroup, .adapterGroup
          (if lib.vendor.script.group.availability.take.2.take.1 then some params else none)) ::
          rest := by
  obtain ⟨hcall, hopened⟩ := Library.openAdapters_of_given hl hg hgroup
  have hfirst := Library.value_readAdapterGroup hopened
  rw [if_pos hread] at hfirst
  have hsecond : (Gateway.readAdapterGroup (Gateway.readAdapterGroup
      (Gateway.openAdapters lib).value.2).value.2).value.1 =
      if lib.vendor.script.group.availability.take.2.take.1 then
        some ⟨lib.vendor.script.group.version, lib.vendor.script.group.adapterCount⟩ else none :=
    Library.value_readAdapterGroup (Library.groupOpened_readAdapterGroup hopened)
  obtain ⟨rest, hrest⟩ := openingMinutes_of_read hcall hfirst
  rw [hsecond] at hrest
  exact ⟨_, rest, hrest⟩

/-- On a library, that there is no adapter of Intel is borne out unless the adapter group gives its
parameters exactly once. -/
theorem honest_iff_not_once (h : (start lib).value = .error .noIntelAdapter) :
    Honest (openingMinutes lib) ↔ lib.vendor.script.group.availability ≠ .reads 1 := by
  obtain ⟨hgroup, hread⟩ := given_of_noIntel hl hg h
  obtain ⟨params, rest, hminutes⟩ := openingMinutes_of_given hl hg hgroup hread
  obtain ⟨v, hv, -⟩ := (noIntelAdapter_iff lib).1 h
  rw [honest_iff_confirmed h hv, ← Availability.take_take_iff hread]
  -- the readings of the survey are those of the library
  rw [hv] at hminutes
  simp only [Survey.minutes, List.cons.injEq, Prod.mk.injEq, Gateway.Reply.adapterGroup.injEq,
    Option.some.injEq, true_and] at hminutes
  obtain ⟨hfirst, hsecond, -⟩ := hminutes
  unfold Survey.Confirmed
  rw [hfirst, hsecond]
  constructor
  · rintro ⟨group, hgroup, -⟩
    by_contra hmissing
    rw [if_neg hmissing] at hgroup
    cases hgroup
  · intro hgiven
    exact ⟨params, by rw [if_pos hgiven], Nat.le_refl _⟩

/-- A library whose adapter group gives its parameters exactly once is said to have no adapter of
Intel, whatever adapters it has, and this is not borne out. -/
theorem noIntelAdapter_of_once (hgroup : lib.vendor.script.refusal? = none)
    (honce : lib.vendor.script.group.availability = .reads 1) :
    (start lib).value = .error .noIntelAdapter ∧ ¬Honest (openingMinutes lib) := by
  obtain ⟨params, rest, hminutes⟩ :=
    openingMinutes_of_given hl hg hgroup (by rw [honce]; rfl)
  rw [honce] at hminutes
  -- a survey whose second reading is missing has seen no adapter, so it cannot have chosen one
  have hnone (v : Survey) (more : List Exchange) (h : v.minutes ++ more = openingMinutes lib) :
      v.infos = [] := by
    rw [hminutes] at h
    simp only [Survey.minutes, List.cons_append, List.cons.injEq, Prod.mk.injEq,
      Gateway.Reply.adapterGroup.injEq] at h
    obtain ⟨-, -, ⟨-, hsecond⟩, -⟩ := h
    have hlooks : v.looks = [] := List.eq_nil_of_length_eq_zero (by rw [v.counted, hsecond]; rfl)
    rw [Survey.infos, hlooks]
    rfl
  have hfailed : (start lib).value = .error .noIntelAdapter := by
    rw [start_eq_error_iff]
    have hopening := opening_minutes lib
    generalize (openAll { gateway := lib }).value.1 = result at hopening ⊢
    generalize openingMinutes lib = kept at hopening hminutes hnone
    cases hopening with
    | refused code => cases hminutes
    | unread => cases hminutes
    | noIntel v _ => rfl
    | deviceRefused v a code hfind =>
      rw [hnone v _ rfl] at hfind
      cases hfind
    | opened v a hfind =>
      rw [hnone v _ rfl] at hfind
      cases hfind
  refine ⟨hfailed, fun honest => ?_⟩
  exact (honest_iff_not_once hl hg hfailed).1 honest honce

end

/-- An adapter of Intel is there and available, and it is not looked at: the adapter group has
reported one adapter, and has no parameters left when they are read again. -/
theorem dishonest_once :
    let adapter : Adapter := { vendorId := 0x8086, deviceId := 0x5917 }
    let script : Script :=
      { group := { adapterCount := 1, adapters := [some adapter], availability := .reads 1 } }
    let lib : Library := { path := ⟨[]⟩, vendor := .fresh script }
    (Library.load (fun _ => .opens script) [⟨[]⟩]).value = .ok lib ∧
    script.group.IntelAt 0 adapter ∧
    (start lib).value = .error .noIntelAdapter ∧
    openingMinutes lib =
      [(.openAdapters, .opened (.ok ())), (.readAdapterGroup, .adapterGroup (some ⟨⟨0, 0, 0⟩, 1⟩)),
        (.readAdapterGroup, .adapterGroup none)] ∧
    ¬Honest (openingMinutes lib) := by
  intro adapter script lib
  have hintel : script.group.IntelAt 0 adapter := ⟨by decide, rfl, rfl, rfl⟩
  have hminutes : openingMinutes lib =
      [(.openAdapters, .opened (.ok ())), (.readAdapterGroup, .adapterGroup (some ⟨⟨0, 0, 0⟩, 1⟩)),
        (.readAdapterGroup, .adapterGroup none)] := rfl
  refine ⟨rfl, hintel, rfl, hminutes, fun honest => ?_⟩
  -- the place that was reported was never looked at
  obtain ⟨o, ho⟩ := honest.looked ⟨⟨0, 0, 0⟩, 1⟩ (by rw [hminutes]; simp) 0 (by decide)
  rw [hminutes] at ho
  simp at ho

end Session
end GpuMonitor
