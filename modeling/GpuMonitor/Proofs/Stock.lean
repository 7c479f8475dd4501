import GpuMonitor.Proofs.Opening

/-!
# How often the adapter group can still be asked

The adapter group and its adapters each give their parameters a number of times, and every listing
of the adapters uses up one time of each. What is left of that is a small state of its own: nothing
that is done to a device changes it.

* `Availability.Lasts`: so many readings will still give the parameters.
* `Stock`: how many adapters a group reports, and what is left of its own parameters and of those of
  each adapter.
* `Library.stock`: the stock of the open adapter group.
* `keeps_stock_onDevice`, `keeps_stock_openDevice`: what leaves it alone.

Main result:

* `length_listAdapters`: how many adapters are listed, and what is left afterwards.
-/

namespace GpuMonitor

open Vendor

variable {α : Type}

namespace Vendor

/-! ## What is left -/

/-- So many readings of the parameters will still give them. -/
def Availability.Lasts (n : Nat) : Availability → Prop
  | always => True
  | reads left => n ≤ left

/-- The next reading gives the parameters. -/
theorem Availability.lasts_one {a : Availability} : a.Lasts 1 ↔ a.take.1 = true := by
  cases a with
  | always => exact iff_of_true trivial rfl
  | reads left => cases left <;> simp [Lasts, take]

/-- What lasts for some readings after the next one lasts for one more now. -/
theorem Availability.lasts_take {n : Nat} {a : Availability} (hn : 0 < n) :
    a.take.2.Lasts n ↔ a.Lasts (n + 1) := by
  cases a with
  | always => exact Iff.rfl
  | reads left =>
    cases left with
    | zero => simp only [Lasts, take]; omega
    | succ left => simp only [Lasts, take]; omega

/-- What is left of the parameters of an adapter group and of its adapters. -/
structure Stock where
  /-- How many adapters the group reports. -/
  count : Nat
  group : Availability
  /-- What is left at a place, if an adapter stands there. -/
  adapter : Nat → Option Availability

namespace Stock

/-- The adapter at the place is there, and the next reading of it gives its parameters. -/
def gives (k : Stock) (i : Nat) : Bool := (k.adapter i).any (·.take.1)

/-- The group is read once. -/
def readGroup (k : Stock) : Stock := { k with group := k.group.take.2 }

/-- The adapters at some places in a row are read once. -/
def readFrom (start count : Nat) (k : Stock) : Stock :=
  { k with
    adapter := fun i =>
      if start ≤ i ∧ i < start + count then (k.adapter i).map (·.take.2) else k.adapter i }

/-- How many adapters a listing has: none if the group does not give their number. -/
def listed (k : Stock) : Nat :=
  if k.group.take.1 then (List.range' 0 k.count).countP k.readGroup.gives else 0

/-- What a listing leaves. -/
def afterListing (k : Stock) : Stock :=
  if k.group.take.1 then k.readGroup.readFrom 0 k.count else k.readGroup

theorem readFrom_zero (k : Stock) (start : Nat) : k.readFrom start 0 = k := by
  have hnone (i : Nat) : ¬(start ≤ i ∧ i < start + 0) := by omega
  simp only [readFrom, hnone, if_false]

/-- The first of the places is read, and then those behind it. -/
theorem readFrom_succ (k : Stock) (start count : Nat) :
    (k.readFrom start 1).readFrom (start + 1) count = k.readFrom start (count + 1) := by
  simp only [readFrom, mk.injEq, true_and]
  funext i
  by_cases hfirst : i = start
  · subst hfirst
    have hlater : ¬(i + 1 ≤ i ∧ i < i + 1 + count) := by omega
    have hone : i ≤ i ∧ i < i + 1 := by omega
    have hall : i ≤ i ∧ i < i + (count + 1) := by omega
    rw [if_neg hlater, if_pos hone, if_pos hall]
  · have hone : ¬(start ≤ i ∧ i < start + 1) := by omega
    have hsame : (start + 1 ≤ i ∧ i < start + 1 + count) ↔
        (start ≤ i ∧ i < start + (count + 1)) := by omega
    simp only [if_neg hone, hsame]

/-- Reading a place has no part in what the places behind it give. -/
theorem gives_readFrom_one (k : Stock) {start i : Nat} (h : start + 1 ≤ i) :
    (k.readFrom start 1).gives i = k.gives i := by
  have hone : ¬(start ≤ i ∧ i < start + 1) := by omega
  simp only [gives, readFrom, if_neg hone]

theorem listed_le (k : Stock) : k.listed ≤ k.count := by
  unfold listed
  split
  · exact Nat.le_trans List.countP_le_length (Nat.le_of_eq List.length_range')
  · exact Nat.zero_le _

/-- A listing has as many adapters as are reported, of which there are some, if and only if the
group gives their number and each of them gives its parameters. -/
theorem listed_eq_count_iff {k : Stock} (h : 0 < k.count) :
    k.listed = k.count ↔ k.group.take.1 = true ∧ ∀ i < k.count, k.gives i = true := by
  unfold listed
  split
  · next hgroup =>
    have hlength : (List.range' 0 k.count).length = k.count := List.length_range'
    have hall := List.countP_eq_length (p := k.readGroup.gives) (l := List.range' 0 k.count)
    rw [hlength] at hall
    rw [hall, and_iff_right hgroup]
    simp only [List.mem_range'_1, Nat.zero_add, and_imp]
    exact ⟨fun hgives i hi => hgives i (Nat.zero_le i) hi, fun hgives i _ hi => hgives i hi⟩
  · next hgroup => exact iff_of_false (by omega) fun hgives => hgroup hgives.1

/-- A second listing of a group that was read before, of some adapters, has all of them if and only
if the group lasts for three readings and each adapter is there and lasts for two. -/
theorem listed_again_iff {k : Stock} (hcount : 0 < k.count)
    (hgroup : k.readGroup.group.take.1 = true) :
    k.readGroup.afterListing.listed = k.count ↔
      k.group.Lasts 3 ∧ ∀ i < k.count, ∃ a, k.adapter i = some a ∧ a.Lasts 2 := by
  have hafter : k.readGroup.afterListing = k.readGroup.readGroup.readFrom 0 k.count :=
    if_pos hgroup
  -- the group is read a third time here, each adapter only a second time
  have hthird : (k.readGroup.readGroup.readFrom 0 k.count).group.take.1 = true ↔
      k.group.Lasts 3 := by
    rw [← Availability.lasts_one, ← Availability.lasts_take Nat.two_pos,
      ← Availability.lasts_take Nat.one_pos]
    rfl
  have hsecond (i : Nat) (hi : i < k.count) :
      (k.readGroup.readGroup.readFrom 0 k.count).gives i = true ↔
        ∃ a, k.adapter i = some a ∧ a.Lasts 2 := by
    have hplace : 0 ≤ i ∧ i < 0 + k.count := by omega
    have hadapter : (k.readGroup.readGroup.readFrom 0 k.count).adapter i =
        (k.adapter i).map (·.take.2) := if_pos hplace
    rw [gives, hadapter]
    cases k.adapter i with
    | none => simp
    | some a => simp [← Availability.lasts_one, Availability.lasts_take]
  have hlisted := listed_eq_count_iff (k := k.readGroup.readGroup.readFrom 0 k.count) hcount
  rw [hafter]
  exact hlisted.trans (and_congr hthird (forall₂_congr hsecond))

end Stock

/-- What is left of an adapter group. -/
def AdapterGroup.stock (g : AdapterGroup) : Stock where
  count := g.adapterCount
  group := g.availability
  adapter i := g.adapters[i]?.join.map Adapter.availability

theorem AdapterGroup.stock_of_children {g : AdapterGroup} {xs : List (Option Adapter)}
    (h : xs.map (Option.map Adapter.availability) =
      g.adapters.map (Option.map Adapter.availability)) :
    stock { g with adapters := xs } = g.stock := by
  simp only [stock, Stock.mk.injEq, true_and]
  funext i
  rw [← child_map, h, child_map]

/-- The adapter at a place is listed if and only if it gives its parameters. -/
theorem AdapterGroup.gives_stock (g : AdapterGroup) (i : Nat) :
    g.stock.gives i = (g.info? i).isSome := by
  rw [info?]
  show (g.adapters[i]?.join.map Adapter.availability).any (·.take.1) = _
  cases g.adapters[i]?.join with
  | none => rfl
  | some a => cases h : a.availability.take.1 <;> simp [h]

/-- Reading an adapter takes from what is left at its place. -/
theorem AdapterGroup.stock_read (g : AdapterGroup) (i : Nat) :
    (seekAdapter i (Adapter.read (.adapter i)) g).value.2.stock = g.stock.readFrom i 1 := by
  have hrest : (seekAdapter i (Adapter.read (.adapter i)) g).value.2.adapterCount =
      g.adapterCount ∧
      (seekAdapter i (Adapter.read (.adapter i)) g).value.2.availability = g.availability := by
    rw [seekAdapter, value_seek, hold]
    split <;> exact ⟨rfl, rfl⟩
  simp only [stock, Stock.readFrom, Stock.mk.injEq, hrest, true_and]
  -- what is left at each place: less where the adapter was read, the same elsewhere
  funext j
  by_cases hj : j = i
  · subst hj
    have hone : j ≤ j ∧ j < j + 1 := by omega
    have hchild : (seekAdapter j (Adapter.read (.adapter j)) g).value.2.adapters[j]?.join =
        g.adapters[j]?.join.map fun a => (Adapter.read (.adapter j) a).value.2 :=
      child_hold (fun _ _ => rfl) j _ g
    rw [if_pos hone, hchild]
    cases g.adapters[j]?.join <;> rfl
  · have hnot : ¬(i ≤ j ∧ j < i + 1) := by omega
    rw [if_neg hnot]
    exact congrArg (Option.map Adapter.availability) (child_hold_of_ne (fun _ _ => rfl) hj _ g)

end Vendor

/-! ## The stock of a library -/

namespace Library

/-- The stock of the adapter group, while it is open. -/
def stock (lib : Library) : Option Stock :=
  if lib.groupOpen then some lib.vendor.latest.stock else none

variable {lib : Library} {k : Stock}

theorem stock_eq_some_iff :
    lib.stock = some k ↔ lib.groupOpen = true ∧ lib.vendor.latest.stock = k := by
  simp [stock]

theorem stock_congr {lib' : Library} (hopen : lib'.groupOpen = lib.groupOpen)
    (hlatest : lib'.vendor.latest.stock = lib.vendor.latest.stock) : lib'.stock = lib.stock := by
  rw [stock, stock, hopen, hlatest]

/-- Whatever is done to a device, the stock stays as it is. -/
theorem keeps_stock_onDevice (m : Nat → Action Device (Option α)) :
    Keeps stock (onDevice m) := by
  have hdevice (i : Nat) : Keeps Adapter.availability (Adapter.onDevice (m i)) := fun _ => rfl
  have hadapter (i : Nat) :
      Keeps AdapterGroup.stock (AdapterGroup.holdAdapter i (Adapter.onDevice (m i))) :=
    keeps_hold (hdevice i) fun _ _ h => AdapterGroup.stock_of_children h
  -- the device may be from an earlier tree than the latest one
  have htree (n i : Nat) : Keeps (fun v : State => v.latest.stock)
      (State.onTree n (AdapterGroup.holdAdapter i (Adapter.onDevice (m i)))) := by
    refine keeps_within (hadapter i) fun v g hg => ?_
    unfold State.putTree
    split
    · rfl
    · next hn =>
      have hlatest : v.tree n = v.latest := by simp [State.tree, hn]
      rw [← hlatest]
      exact hg
  have hc := composes_keeps (stock : Library → Option Stock)
  refine obeys_bind hc (obeys_get hc) fun lib => ?_
  split
  · exact obeys_pure hc _
  · next d _ =>
    refine obeys_map _ (keeps_within (htree d.tree d.adapter) fun lib v hv => ?_)
    exact stock_congr rfl hv

theorem keeps_stock_onSet (id : MetricSetId) (m : Nat → Action MetricSet (Option α)) :
    Keeps stock (onSet id m) := keeps_stock_onDevice _

/-- Opening a device leaves the stock as it is. -/
theorem keeps_stock_openDevice (i : Nat) : Keeps stock (openDevice i) := by
  have hc := composes_keeps (stock : Library → Option Stock)
  have hgroup : Keeps AdapterGroup.stock (AdapterGroup.seekAdapter i (Adapter.openDevice i)) :=
    keeps_seek (f := Adapter.availability) (fun _ => rfl) fun _ _ h =>
      AdapterGroup.stock_of_children h
  have hseek : Keeps stock (onGroup (AdapterGroup.seekAdapter i (Adapter.openDevice i))) := by
    refine obeys_bind hc (obeys_get hc) fun lib => ?_
    split
    · have hlatest : Keeps (fun v : State => v.latest.stock)
          (State.onLatest (AdapterGroup.seekAdapter i (Adapter.openDevice i))) :=
        keeps_within hgroup fun _ _ h => h
      exact keeps_within hlatest fun lib v hv => stock_congr rfl hv
    · exact obeys_pure hc _
  refine obeys_bind hc hseek fun r => ?_
  split
  · exact obeys_pure hc _
  · split
    · exact obeys_pure hc _
    · exact obeys_bind hc (obeys_modify fun lib => stock_congr rfl rfl) fun _ => obeys_pure hc _

/-! ## Listing -/

section
variable (h : lib.stock = some k)
include h

theorem readAdapterGroup_stock :
    ((Gateway.readAdapterGroup lib).value.1.map AdapterGroupParams.adapterCount).getD 0 =
        (if k.group.take.1 then k.count else 0) ∧
      (Gateway.readAdapterGroup lib).value.2.stock = some k.readGroup := by
  obtain ⟨hopen, rfl⟩ := stock_eq_some_iff.1 h
  constructor
  · rw [value_readAdapterGroup ⟨hopen, rfl⟩]
    show _ = if lib.vendor.latest.availability.take.1 then lib.vendor.latest.adapterCount else 0
    split <;> rfl
  · show (readAdapterGroup lib).value.2.stock = _
    simp [readAdapterGroup, onGroup, onVendor, State.onLatest, AdapterGroup.read, ask, stock,
      hopen, AdapterGroup.stock, Stock.readGroup]

/-- An adapter gives its parameters if something is left of them, and then less is. -/
theorem readAdapter_stock (i : Nat) :
    (Gateway.readAdapter i lib).value.1.isSome = k.gives i ∧
      (Gateway.readAdapter i lib).value.2.stock = some (k.readFrom i 1) := by
  obtain ⟨hopen, rfl⟩ := stock_eq_some_iff.1 h
  constructor
  · have hinfo := congrArg Option.isSome (value_readAdapter ⟨hopen, rfl⟩ i)
    rw [Option.isSome_map] at hinfo
    rw [hinfo, AdapterGroup.gives_stock]
  · have hleft := AdapterGroup.stock_read lib.vendor.latest i
    show (readAdapter i lib).value.2.stock = _
    rw [stock_eq_some_iff, ← hleft]
    simp [readAdapter, onGroup, onVendor, State.onLatest, hopen]

/-- A walk over some places has as many answers as adapters there that give their parameters. -/
theorem collect_readAdapter_stock (start count : Nat) :
    let visit := fun i =>
      Option.map (AdapterInfo.ofParams i) <$> Gateway.readAdapter (γ := Library) i
    (collect visit start count lib).value.1.length = (List.range' start count).countP k.gives ∧
      (collect visit start count lib).value.2.stock = some (k.readFrom start count) := by
  intro visit
  -- on the count, from any stock; the first place leaves those behind it as they are
  induction count generalizing start lib k with
  | zero =>
    rw [collect_zero, Stock.readFrom_zero]
    exact ⟨rfl, h⟩
  | succ n ih =>
    obtain ⟨hfirst, hleft⟩ := readAdapter_stock h start
    obtain ⟨hrest, hafter⟩ := ih hleft (start + 1)
    have hsame : (List.range' (start + 1) n).countP (k.readFrom start 1).gives =
        (List.range' (start + 1) n).countP k.gives := by
      refine List.countP_congr fun i hi => ?_
      rw [k.gives_readFrom_one (List.mem_range'_1.1 hi).1]
    rw [collect_succ, List.range'_succ, List.countP_cons, ← hsame, ← hrest]
    refine ⟨?_, by rw [← Stock.readFrom_succ]; exact hafter⟩
    have hone : (visit start lib).value.1.toList.length = if k.gives start then 1 else 0 := by
      show ((Gateway.readAdapter start lib).value.1.map _).toList.length = _
      rw [← hfirst]
      cases (Gateway.readAdapter start lib).value.1 <;> rfl
    show ((visit start lib).value.1.toList ++ _).length = _
    rw [List.length_append, hone, Nat.add_comm]
    rfl

/-- **How many adapters a listing has**, and what it leaves of what can be asked. -/
theorem length_listAdapters :
    (listAdapters lib).value.1.length = k.listed ∧
      (listAdapters lib).value.2.stock = some k.afterListing := by
  obtain ⟨hcount, hleft⟩ := readAdapterGroup_stock h
  obtain ⟨hlength, hafter⟩ :=
    collect_readAdapter_stock hleft 0 (if k.group.take.1 then k.count else 0)
  rw [listAdapters, Action.value_bind, hcount, hlength, hafter, Stock.listed, Stock.afterListing]
  split
  · exact ⟨rfl, rfl⟩
  · exact ⟨rfl, by rw [Stock.readFrom_zero]⟩

end
end Library
end GpuMonitor
