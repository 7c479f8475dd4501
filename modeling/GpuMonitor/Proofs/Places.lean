import GpuMonitor.Proofs.Service
import Mathlib.Data.List.Forall2
import Mathlib.Data.List.Sort

/-!
# Records of places

The children of an object stand at places, and a child may be missing. What is listed of them are
the records of the places below a count, which may be any number; a child that is there need not
have a record.

* `Lists`: some records are those of the places below a count, in the order of the places.
* `placed`: the records, computed (`lists_iff`). It takes nothing of the children but their records
  (`placed_of_map`, `placed_of_rel`).
* `AlikeCounts`: counts that reach the same children, and so the same records (`placed_of_alike`).
* `placed_set_none`, `placed_modify`: what becomes of the records when a child is replaced by null,
  or changed.
-/

namespace GpuMonitor

open Vendor

variable {α β : Type}

/-! ## Places -/

/-- The records are those of the places below the count, in the order of the places: there is one
for each place whose child is there and has a record. -/
def Lists (count : Nat) (children : List (Option β)) (Record : β → Nat → α → Prop)
    (records : List α) : Prop :=
  ∃ places : List Nat, places.Pairwise (· < ·) ∧
    (∀ i, i ∈ places ↔ i < count ∧ ∃ c r, children[i]?.join = some c ∧ Record c i r) ∧
    List.Forall₂ (fun i r => ∃ c, children[i]?.join = some c ∧ Record c i r) places records

/-- The records of the children at the places below a count, in the order of the places. -/
def placed (count : Nat) (children : List (Option β)) (record : β → Nat → Option α) : List α :=
  (List.range count).filterMap fun i => children[i]?.join.bind fun c => record c i

section
variable {count : Nat} {children : List (Option β)} {record : β → Nat → Option α}

/-- Records that are found one for each place are those of the places. -/
theorem eq_filterMap_of_forall₂ {f : Nat → Option α} {places : List Nat} {records : List α}
    (h : List.Forall₂ (fun i r => f i = some r) places records) : records = places.filterMap f := by
  induction h with
  | nil => rfl
  | cons hr _ ih => rw [List.filterMap_cons_some hr, ← ih]

theorem forall₂_filterMap {f : Nat → Option α} {places : List Nat}
    (h : ∀ i ∈ places, (f i).isSome = true) :
    List.Forall₂ (fun i r => f i = some r) places (places.filterMap f) := by
  induction places with
  | nil => exact .nil
  | cons i rest ih =>
    obtain ⟨r, hr⟩ := Option.isSome_iff_exists.1 (h i List.mem_cons_self)
    rw [List.filterMap_cons_some hr]
    exact .cons hr (ih fun j hj => h j (List.mem_cons_of_mem i hj))

/-- Places without a record make no difference. -/
theorem filterMap_filter_isSome (f : Nat → Option α) (places : List Nat) :
    (places.filter fun i => (f i).isSome).filterMap f = places.filterMap f := by
  induction places with
  | nil => rfl
  | cons i rest ih =>
    cases hr : f i with
    | none => simp [hr, ih]
    | some r => simp [hr, ih]

/-- The records of the places are what they are computed to be. -/
theorem lists_iff {Record : β → Nat → α → Prop} {records : List α}
    (hrecord : ∀ c i r, Record c i r ↔ record c i = some r) :
    Lists count children Record records ↔ records = placed count children record := by
  -- the record of a place, as the places are computed to have it
  have hplace (i : Nat) (r : α) : (∃ c, children[i]?.join = some c ∧ Record c i r) ↔
      (children[i]?.join.bind fun c => record c i) = some r := by
    rw [Option.bind_eq_some_iff]
    exact exists_congr fun c => and_congr_right fun _ => hrecord c i r
  have hmem (i : Nat) : (∃ c r, children[i]?.join = some c ∧ Record c i r) ↔
      (children[i]?.join.bind fun c => record c i).isSome = true := by
    rw [Option.isSome_iff_exists, exists_comm]
    exact exists_congr (hplace i)
  constructor
  · rintro ⟨places, hsorted, hplaces, hrecords⟩
    have hsame : places = (List.range count).filter fun i =>
        (children[i]?.join.bind fun c => record c i).isSome := by
      refine hsorted.eq_of_mem_iff (List.pairwise_lt_range.filter _) fun i => ?_
      rw [hplaces, hmem, List.mem_filter, List.mem_range]
    rw [eq_filterMap_of_forall₂ (hrecords.imp fun i r => (hplace i r).1), hsame,
      filterMap_filter_isSome]
    rfl
  · rintro rfl
    refine ⟨(List.range count).filter fun i =>
      (children[i]?.join.bind fun c => record c i).isSome, List.pairwise_lt_range.filter _,
      fun i => ?_, ?_⟩
    · rw [hmem, List.mem_filter, List.mem_range]
    · rw [placed, ← filterMap_filter_isSome]
      exact (forall₂_filterMap fun i hi => (List.mem_filter.1 hi).2).imp fun i r => (hplace i r).2

theorem mem_placed {r : α} : r ∈ placed count children record ↔
    ∃ i c, i < count ∧ children[i]?.join = some c ∧ record c i = some r := by
  simp only [placed, List.mem_filterMap, List.mem_range, Option.bind_eq_some_iff,
    exists_and_left]

/-! ### What the records depend on -/

theorem placed_congr {children' : List (Option β)} {record' : β → Nat → Option α}
    (h : ∀ i, (children'[i]?.join.bind fun c => record' c i) =
      children[i]?.join.bind fun c => record c i) :
    placed count children' record' = placed count children record := by
  simp only [placed, h]

/-- The records depend on nothing of the children but what they are read off. -/
theorem placed_of_map {ω : Type} {children' : List (Option β)} {view : β → ω}
    (read : ω → Nat → Option α)
    (h : children'.map (Option.map view) = children.map (Option.map view)) :
    placed count children' (fun c => read (view c)) =
      placed count children fun c => read (view c) := by
  refine placed_congr fun i => ?_
  have hi : children'[i]?.join.map view = children[i]?.join.map view := by
    rw [← child_map, h, child_map]
  have hbind (o : Option β) : (o.bind fun c => read (view c) i) = (o.map view).bind (read · i) := by
    cases o <;> rfl
  rw [hbind, hi, ← hbind]

theorem map_placed {ω : Type} (f : α → ω) :
    (placed count children record).map f =
      placed count children fun c i => (record c i).map f := by
  rw [placed, placed, List.map_filterMap]
  congr 1
  funext i
  rw [Option.map_bind]
  rfl

theorem rel_child {R : β → β → Prop} {children' : List (Option β)}
    (h : List.Forall₂ (Option.Rel R) children children') (i : Nat) :
    Option.Rel R children[i]?.join children'[i]?.join := by
  induction h generalizing i with
  | nil => exact .none
  | cons hc _ ih =>
    cases i with
    | zero => exact hc
    | succ i => exact ih i

/-- Children that correspond place by place have the same records if those of the pairs are. -/
theorem placed_of_rel {R : β → β → Prop} {children' : List (Option β)}
    {record' : β → Nat → Option α} (h : List.Forall₂ (Option.Rel R) children children')
    (hrecord : ∀ c c' i, R c c' → record' c' i = record c i) :
    placed count children' record' = placed count children record := by
  refine placed_congr fun i => ?_
  have hchild := rel_child h i
  revert hchild
  generalize children[i]?.join = o, children'[i]?.join = o'
  rintro (hc | _)
  · exact hrecord _ _ i hc
  · rfl

/-- Two counts reach the same of so many children: they are the same, or none of the two is too
low. -/
def AlikeCounts (length count count' : Nat) : Prop :=
  count' = count ∨ length ≤ count ∧ length ≤ count'

theorem placed_of_le (h : children.length ≤ count) :
    placed count children record = placed children.length children record := by
  obtain ⟨more, rfl⟩ := Nat.exists_eq_add_of_le h
  -- nothing stands at the places behind the last child
  have hnone : (List.map (children.length + ·) (List.range more)).filterMap
      (fun i => children[i]?.join.bind fun c => record c i) = [] := by
    rw [List.filterMap_eq_nil_iff]
    intro i hi
    obtain ⟨j, -, rfl⟩ := List.mem_map.1 hi
    rw [List.getElem?_eq_none (Nat.le_add_right _ _)]
    rfl
  rw [placed, List.range_add, List.filterMap_append, hnone, List.append_nil]
  rfl

/-- Below the last child, alike counts reach the same places. -/
theorem AlikeCounts.lt_iff {length count' i : Nat} (h : AlikeCounts length count count')
    (hi : i < length) : i < count' ↔ i < count := by
  rcases h with rfl | ⟨hle, hle'⟩
  · exact Iff.rfl
  · omega

theorem placed_of_alike {count' : Nat} (h : AlikeCounts children.length count count') :
    placed count' children record = placed count children record := by
  rcases h with rfl | ⟨hle, hle'⟩
  · rfl
  · rw [placed_of_le hle, placed_of_le hle']

/-- A child that is replaced by null takes its own record away and no other. -/
theorem placed_set_none (place : α → Nat) (hplace : ∀ c i r, record c i = some r → place r = i)
    (k : Nat) :
    placed count (children.set k none) record =
      (placed count children record).filter fun r => place r != k := by
  rw [placed, placed, List.filter_filterMap]
  congr 1
  funext i
  by_cases hk : k = i
  · subst hk
    have hgone : (children.set k none)[k]?.join = none := by
      rw [List.getElem?_set_self']
      cases children[k]? <;> rfl
    rw [hgone]
    cases hr : children[k]?.join.bind fun c => record c k with
    | none => rfl
    | some r =>
      obtain ⟨c, -, hc⟩ := Option.bind_eq_some_iff.1 hr
      simp [Option.filter, hplace c k r hc]
  · rw [List.getElem?_set_ne hk]
    cases hr : children[i]?.join.bind fun c => record c i with
    | none => rfl
    | some r =>
      obtain ⟨c, -, hc⟩ := Option.bind_eq_some_iff.1 hr
      have hne : place r ≠ k := by
        rw [hplace c i r hc]
        exact Ne.symm hk
      simp [Option.filter, hne]

theorem child_modify (k i : Nat) (f : β → β) :
    (children.modify k (Option.map f))[i]?.join =
      children[i]?.join.map fun c => if k = i then f c else c := by
  rw [List.getElem?_modify]
  by_cases hk : k = i
  · rcases h : children[i]? with _ | _ | c <;> simp [hk]
  · rcases h : children[i]? with _ | _ | c <;> simp [hk]

/-- A child that is changed changes its own record and no other. -/
theorem placed_modify {k : Nat} {f : β → β} {F : α → α}
    (hat : ∀ c, children[k]?.join = some c → record (f c) k = (record c k).map F)
    (helse : ∀ c i r, i ≠ k → record c i = some r → F r = r) :
    placed count (children.modify k (Option.map f)) record =
      (placed count children record).map F := by
  rw [map_placed]
  refine placed_congr fun i => ?_
  rw [child_modify]
  cases hc : children[i]?.join with
  | none => rfl
  | some c =>
    show record (if k = i then f c else c) i = (record c i).map F
    by_cases hk : k = i
    · subst hk
      rw [if_pos rfl]
      exact hat c hc
    · rw [if_neg hk]
      cases hr : record c i with
      | none => rfl
      | some r => rw [Option.map_some, helse c i r (Ne.symm hk) hr]

end

end GpuMonitor
