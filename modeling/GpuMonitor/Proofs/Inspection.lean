import GpuMonitor.Proofs.Independence
import GpuMonitor.Proofs.Stability

/-!
# Looking at a session changes nothing

Some operations only look: they tell what the session knows, or they read parameters and keep
nothing of them. On stable trees reading uses nothing up, so such operations can be put into a
history, or left out of it, without a difference to the other turns.

* `Operation.inspects`: the operations that only look. `Inspection`: one of them.
* `Interleaving`: a history with inspections among its turns; `own` leaves them out.
* `transcript`: what each turn of a history comes to, with its trace.
* `Loader.Stable`: the trees of all libraries that can be loaded are stable.
* `perform_inspection`: an inspection leaves the very same session. `settled_take`: every turn
  leaves a session whose library is stable.
* `Undisturbed`: what it is for the inspections of an interleaving to make no difference.

Main result:

* `inspections_disturb_nothing`: the other turns of an interleaving come to what they come to
  without the inspections.
-/

namespace GpuMonitor

variable {α : Type}

/-! ## Loading a stable library -/

/-- The trees of all libraries that can be loaded are stable. -/
def Loader.Stable (loader : Loader) : Prop :=
  ∀ path script, loader path = .opens script → script.group.Stable

theorem Library.stable_of_load {loader : Loader} (h : loader.Stable) {candidates : List Path}
    {lib : Library} (hload : (load loader candidates).value = .ok lib) : lib.Stable := by
  obtain ⟨path, script, hopens, rfl⟩ := opens_of_load hload
  exact Vendor.State.stable_fresh (h path script hopens)

namespace Session

theorem stable_launch {loader : Loader} (h : loader.Stable) {candidates : List Path}
    {s : Session Library} (hs : (launch loader candidates).value = .ok s) : s.gateway.Stable := by
  obtain ⟨lib, hload, hstart⟩ := start_of_launch hs
  have hopen : (openAll { gateway := lib }).value.2.gateway.Stable :=
    obeys_openAll obeying_stays { gateway := lib } (Library.stable_of_load h hload)
  rw [openAll_of_start hstart] at hopen
  exact hopen

/-! ## Looking -/

/-- The operation only looks at the session and at what its library serves. -/
def Operation.inspects : Operation → Bool
  | adapters | adapter | selection | deviceName | catalog => true
  | select | sample | setWindow _ | run _ _ _ _ | release => false

/-- An operation that only looks. -/
structure Inspection where
  op : Operation
  inspects : op.inspects = true

/-- Reading through the gateway of a session whose library is stable. -/
theorem onGateway_of_reading {m : Action Library α} {s : Session Library}
    (hs : s.gateway.Stable)
    (hm : ∀ {R : Library → Trace → Library → Prop}, ReadingObeys R → Obeys R m) :
    (onGateway m s).value.2 = s ∧ (onGateway m s).trace.lifecycle = [] := by
  have hrest : (m s.gateway).value.2 = s.gateway :=
    (hm Library.reading_rests s.gateway hs).2 trivial
  refine ⟨?_, Library.lifecycle_of_quiet (hm Library.reading_using s.gateway).2⟩
  show { s with gateway := (m s.gateway).value.2 } = s
  rw [hrest]

/-- An inspection leaves the very same session, and none of its events is one of the lifecycle. -/
theorem perform_inspection (i : Inspection) {s : Session Library} (hs : s.gateway.Stable) :
    (i.op.perform s).value.2 = s ∧ (i.op.perform s).trace.lifecycle = [] := by
  obtain ⟨op, hop⟩ := i
  -- three of the operations read through the gateway, and two tell what the session knows
  cases op with
  | adapters => exact onGateway_of_reading hs obeys_listAdapters
  | deviceName => exact onGateway_of_reading hs fun hR => obeys_map _ hR.device
  | catalog => exact onGateway_of_reading hs GpuMonitor.obeys_catalog
  | adapter | selection => exact ⟨rfl, rfl⟩
  | select | sample | setWindow | run | release => cases hop

/-! ## Transcripts -/

theorem take_operate (loader : Loader) (op : Operation) (s : Session Library) :
    (Turn.operate op).take loader (some s) =
      { value := (.replied (op.perform s).value.1, some (op.perform s).value.2)
        trace := (op.perform s).trace } := by
  apply Traced.ext'
  · rfl
  · simp only [Turn.take, Traced.trace_bind, Traced.trace_pure, List.append_nil]

/-- A history goes on from what its first turn has left. -/
theorem takeAll_cons (loader : Loader) (turn : Turn) (rest : List Turn)
    (current : Option (Session Library)) :
    (takeAll loader (turn :: rest) current).value =
        ((turn.take loader current).value.1 ::
            (takeAll loader rest (turn.take loader current).value.2).value.1,
          (takeAll loader rest (turn.take loader current).value.2).value.2) ∧
      (takeAll loader (turn :: rest) current).trace = (turn.take loader current).trace ++
        (takeAll loader rest (turn.take loader current).value.2).trace := by
  simp [takeAll]

/-- What each turn of a history comes to, with its trace. -/
def transcript (loader : Loader) : List Turn → Option (Session Library) → List (Traced Outcome)
  | [], _ => []
  | turn :: rest, current =>
    let r := turn.take loader current
    { value := r.value.1, trace := r.trace } :: transcript loader rest r.value.2

/-- A history comes to its transcript, entry by entry. -/
theorem takeAll_transcript (loader : Loader) (turns : List Turn)
    (current : Option (Session Library)) :
    (takeAll loader turns current).value.1 =
        (transcript loader turns current).map Traced.value ∧
      (takeAll loader turns current).trace =
        (transcript loader turns current).flatMap Traced.trace := by
  induction turns generalizing current with
  | nil => exact ⟨rfl, rfl⟩
  | cons turn rest ih =>
    obtain ⟨hvalue, htrace⟩ := takeAll_cons loader turn rest current
    obtain ⟨hvalues, htraces⟩ := ih (turn.take loader current).value.2
    constructor
    · rw [hvalue, hvalues, transcript, List.map_cons]
    · rw [htrace, htraces, transcript, List.flatMap_cons]

/-! ## Stable histories -/

/-- The session that there is, if any, has a stable library. -/
def Settled (current : Option (Session Library)) : Prop := ∀ s ∈ current, s.gateway.Stable

section
variable (loader : Loader) {current : Option (Session Library)}

/-- Whatever the turn is, the session that it leaves has a stable library. -/
theorem settled_take {loader : Loader} (h : loader.Stable) (turn : Turn)
    (hcurrent : Settled current) : Settled (turn.take loader current).value.2 := by
  intro s hs
  cases turn with
  | launch candidates =>
    rw [value_take_launch] at hs
    cases hl : (launch loader candidates).value with
    | error f =>
      rw [hl] at hs
      cases hs
    | ok launched =>
      rw [hl] at hs
      cases hs
      exact stable_launch h hl
  | operate op =>
    -- without a session there is nothing to operate on
    cases current with
    | none => cases hs
    | some before =>
      rw [take_operate] at hs
      cases hs
      exact obeys_perform obeying_stays op before (hcurrent before rfl)
  | finish => cases hs

/-- A turn that only looks leaves the very same session, and none of its events is one of the
lifecycle. -/
theorem take_inspection (i : Inspection) (hcurrent : Settled current) :
    ((Turn.operate i.op).take loader current).value.2 = current ∧
      ((Turn.operate i.op).take loader current).trace.lifecycle = [] := by
  cases current with
  | none => exact ⟨rfl, rfl⟩
  | some s =>
    obtain ⟨hstate, htrace⟩ := perform_inspection i (hcurrent s rfl)
    rw [take_operate]
    exact ⟨congrArg some hstate, htrace⟩

end

/-! ## Interleavings -/

/-- A history with inspections among its own turns. -/
abbrev Interleaving := List (Inspection ⊕ Turn)

namespace Interleaving

/-- All turns, inspections included. -/
def turns : Interleaving → List Turn
  | [] => []
  | .inl i :: history => .operate i.op :: turns history
  | .inr turn :: history => turn :: turns history

/-- The turns without the inspections. -/
def own : Interleaving → List Turn
  | [] => []
  | .inl _ :: history => own history
  | .inr turn :: history => turn :: own history

/-- What a list has at the places of the own turns. -/
def atOwn : Interleaving → List α → List α
  | .inl _ :: history, _ :: list => atOwn history list
  | .inr _ :: history, a :: list => a :: atOwn history list
  | _, _ => []

/-- What a list has at the places of the inspections. -/
def atInspections : Interleaving → List α → List α
  | .inl _ :: history, a :: list => a :: atInspections history list
  | .inr _ :: history, _ :: list => atInspections history list
  | _, _ => []

end Interleaving

open Interleaving

/-- The own turns of an interleaving come to what they come to without the inspections. -/
structure Undisturbed (loader : Loader) (history : Interleaving)
    (current : Option (Session Library)) : Prop where
  /-- Each own turn comes to the same, with the same trace. -/
  same : atOwn history (transcript loader (turns history) current) =
    transcript loader (own history) current
  /-- The inspections themselves have no part in the lifecycle. -/
  quiet : ∀ entry ∈ atInspections history (transcript loader (turns history) current),
    entry.trace.lifecycle = []
  /-- So the lifecycle is the same. -/
  lifecycle : (takeAll loader (turns history) current).trace.lifecycle =
    (takeAll loader (own history) current).trace.lifecycle
  /-- And so is the session that is left. -/
  left : (takeAll loader (turns history) current).value.2 =
    (takeAll loader (own history) current).value.2

/-- Inspections make no difference from any session whose library is stable. -/
theorem undisturbed_of_settled {loader : Loader} (h : loader.Stable) (history : Interleaving)
    {current : Option (Session Library)} (hcurrent : Settled current) :
    Undisturbed loader history current := by
  -- on the items: an inspection leaves the session for the rest, a turn leaves a settled one
  induction history generalizing current with
  | nil => exact ⟨rfl, fun _ h => absurd h List.not_mem_nil, rfl, rfl⟩
  | cons item history ih =>
    cases item with
    | inl i =>
      obtain ⟨hstate, htrace⟩ := take_inspection loader i hcurrent
      obtain ⟨hvalue, happend⟩ := takeAll_cons loader (.operate i.op) (turns history) current
      have hrest := ih hcurrent
      -- the rest goes on from the same session, as it does without the inspection
      rw [hstate] at hvalue happend
      refine ⟨?_, fun entry hentry => ?_, ?_, ?_⟩
      · rw [turns, transcript, atOwn, hstate]
        exact hrest.same
      · rw [turns, transcript, atInspections, hstate] at hentry
        rcases List.mem_cons.1 hentry with rfl | hentry
        · exact htrace
        · exact hrest.quiet entry hentry
      · rw [turns, own, happend, Trace.lifecycle_append, htrace]
        exact hrest.lifecycle
      · rw [turns, own, hvalue]
        exact hrest.left
    | inr turn =>
      obtain ⟨hvalue, happend⟩ := takeAll_cons loader turn (turns history) current
      obtain ⟨hvalue', happend'⟩ := takeAll_cons loader turn (own history) current
      -- both histories take the turn from the same session, and so leave the same one
      have hrest := ih (settled_take h turn hcurrent)
      refine ⟨?_, hrest.quiet, ?_, ?_⟩
      · rw [turns, own, transcript, transcript, atOwn, hrest.same]
      · rw [turns, own, happend, happend', Trace.lifecycle_append, Trace.lifecycle_append,
          hrest.lifecycle]
      · rw [turns, own, hvalue, hvalue']
        exact hrest.left

/--
**Looking at a session changes nothing.** Let every library that can be loaded serve a stable tree:
each of its objects always gives its parameters, or never. Put any operations that only look into a
history of launches, operations and ends, at any places. Then every turn of the history comes to
what it comes to without them, with the very same trace: the same answer, the same calls and the
same records in the same order. The inspections add nothing to the lifecycle, and the session that
is left is the same.
-/
theorem inspections_disturb_nothing {loader : Loader} (h : loader.Stable)
    (history : Interleaving) : Undisturbed loader history none :=
  undisturbed_of_settled h history fun _ hs => by cases hs

/-- A history with samples that succeed and fail, with inspections at every place. They do reach the
metrics library. -/
theorem inspections_disturb_nothing_patchy :
    let loader : Loader := fun _ => .opens .patchy
    let list : Inspection ⊕ Turn := .inl ⟨.adapters, rfl⟩
    let whole : Inspection ⊕ Turn := .inl ⟨.catalog, rfl⟩
    let history : Interleaving := [list, .inr (.launch [⟨[]⟩]), list, whole,
      .inr (.operate .select), whole, .inr (.operate .sample), .inl ⟨.deviceName, rfl⟩,
      .inr (.operate .sample), whole, .inr (.operate .sample), .inr (.operate .select),
      .inl ⟨.selection, rfl⟩,
      .inr (.operate .release), whole, .inl ⟨.adapter, rfl⟩, .inr .finish, list]
    loader.Stable ∧ Undisturbed loader history none ∧
      (takeAll loader (turns history) none).trace.calls ≠
        (takeAll loader (own history) none).trace.calls := by
  intro loader list whole history
  have hstable : loader.Stable := by
    intro path script hopens
    obtain rfl := Loading.opens.inj hopens
    exact Vendor.Script.stable_patchy
  exact ⟨hstable, inspections_disturb_nothing hstable history, by decide +kernel⟩

end Session
end GpuMonitor
