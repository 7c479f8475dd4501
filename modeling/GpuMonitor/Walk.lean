import GpuMonitor.Trace

/-!
# Walks over numbered places

The children of an object are reached by number, and any of them may be missing; the
rounds of a loop are numbered too. A walk visits places in order, takes a value along,
and goes on until a place ends it. A walk may be long, so the events are gathered in
reverse on the way and the walk needs no stack.

* `walk`: the walk; `walk_zero` and `walk_succ` say what it does.
* `collect`: keeps every answer there is. `firstOf`: stops at the first one.
-/

namespace GpuMonitor

/-- How a walk stands after a place: it goes on with a value, or has ended. -/
inductive Stride (α β : Type) where
  | going (carried : β)
  | ended (answer : α)
  deriving DecidableEq, Repr

/-- A walk over `count` places from `start` on, after the events of `past` in reverse. -/
def walkAfter (visit : Nat → β → Action σ (Stride α β)) :
    Nat → Nat → β → σ → Trace → Traced (Stride α β × σ)
  | _, 0, carried, s, past => { value := (.going carried, s), trace := past.reverse }
  | start, count + 1, carried, s, past =>
    let r := visit start carried s
    match r.value with
    | (.ended answer, s) =>
      { value := (.ended answer, s), trace := past.reverseAux r.trace }
    | (.going carried, s) =>
      walkAfter visit (start + 1) count carried s (r.trace.reverseAux past)

/-- A walk over `count` places from `start` on. -/
def walk (visit : Nat → β → Action σ (Stride α β)) (start count : Nat) (carried : β) :
    Action σ (Stride α β) := fun s => walkAfter visit start count carried s []

theorem walkAfter_eq (visit : Nat → β → Action σ (Stride α β)) (start count : Nat) (carried : β)
    (s : σ) (past : Trace) :
    walkAfter visit start count carried s past =
      { value := (walk visit start count carried s).value
        trace := past.reverse ++ (walk visit start count carried s).trace } := by
  induction count generalizing start carried s past with
  | zero => simp [walk, walkAfter]
  | succ n ih =>
    simp only [walk, walkAfter]
    split
    · simp
    · rw [ih, ih _ _ _ (List.reverseAux _ [])]
      simp

theorem walk_zero (visit : Nat → β → Action σ (Stride α β)) (start : Nat) (carried : β) :
    walk visit start 0 carried = pure (.going carried) := rfl

theorem walk_succ (visit : Nat → β → Action σ (Stride α β)) (start count : Nat) (carried : β) :
    walk visit start (count + 1) carried =
      visit start carried >>= fun stride =>
        match stride with
        | .ended answer => pure (.ended answer)
        | .going next => walk visit (start + 1) count next := by
  funext s
  simp only [walk, walkAfter]
  change _ = (visit start carried s >>= fun p => _)
  generalize visit start carried s = r
  obtain ⟨⟨stride, s'⟩, t⟩ := r
  cases stride with
  | going next =>
    simp only [walkAfter_eq]
    apply Traced.ext'
    · rfl
    · simp
  | ended answer =>
    apply Traced.ext'
    · rfl
    · simp
      rfl

/-! ## Keeping every answer -/

/-- Keeps the answer of a place, if there is one, in front of those before it. -/
def gather (visit : Nat → Action σ (Option α)) (place : Nat) (found : List α) :
    Action σ (Stride Empty (List α)) := do
  return .going ((← visit place).toList ++ found)

/-- The answers at `count` places from `start` on, without those that are missing. -/
def collect (visit : Nat → Action σ (Option α)) (start count : Nat) : Action σ (List α) := do
  match ← walk (gather visit) start count [] with
  | .going found => return found.reverse

theorem walk_gather (visit : Nat → Action σ (Option α)) (start count : Nat) (found : List α) :
    walk (gather visit) start count found =
      collect visit start count >>= fun more => pure (.going (more.reverse ++ found)) := by
  induction count generalizing start found with
  | zero => simp [collect, walk_zero]
  | succ n ih =>
    rw [collect, walk_succ, walk_succ]
    simp only [gather, bind_assoc, pure_bind, ih]
    simp

theorem collect_zero (visit : Nat → Action σ (Option α)) (start : Nat) :
    collect visit start 0 = pure [] := by
  simp [collect, walk_zero]

theorem collect_succ (visit : Nat → Action σ (Option α)) (start count : Nat) :
    collect visit start (count + 1) =
      visit start >>= fun answer =>
        collect visit (start + 1) count >>= fun rest => pure (answer.toList ++ rest) := by
  have reverse_toList (o : Option α) : o.toList.reverse = o.toList := by cases o <;> rfl
  rw [collect]
  simp only [walk_succ, gather, bind_assoc, pure_bind, walk_gather]
  simp [reverse_toList]

/-! ## Stopping at the first answer -/

/-- Ends the walk at a place that answers. -/
def seekAnswer (visit : Nat → Action σ (Option α)) (place : Nat) (_ : Unit) :
    Action σ (Stride α Unit) := do
  match ← visit place with
  | some answer => return .ended answer
  | none => return .going ()

/-- The first answer at `count` places from `start` on; places after it are not visited. -/
def firstOf (visit : Nat → Action σ (Option α)) (start count : Nat) : Action σ (Option α) := do
  match ← walk (seekAnswer visit) start count () with
  | .ended answer => return some answer
  | .going () => return none

theorem firstOf_zero (visit : Nat → Action σ (Option α)) (start : Nat) :
    firstOf visit start 0 = pure none := by
  simp [firstOf, walk_zero]

theorem firstOf_succ (visit : Nat → Action σ (Option α)) (start count : Nat) :
    firstOf visit start (count + 1) =
      visit start >>= fun answer =>
        match answer with
        | some answer => pure (some answer)
        | none => firstOf visit (start + 1) count := by
  simp only [firstOf, walk_succ, seekAnswer, bind_assoc]
  congr 1
  funext answer
  cases answer <;> simp

end GpuMonitor
