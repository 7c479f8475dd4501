import GpuMonitor.Proofs.Coupling
import GpuMonitor.Proofs.Operating

/-!
# Minutes of what is asked of a gateway

What a gateway has answered need not show in a trace. Minutes stand in front of a gateway and
keep every request together with its answer, so that a statement about what was asked, and what was
answered, is one about a list.

* `Minutes`: the gateway that keeps minutes of the one behind it.
* `Minutes.reading_coupled`: nothing else is changed by keeping them.
* `Notes kept P m`: what the action adds to the minutes meets `P`, together with its answer. It
  passes through sequences (`notes_bind`), parts of a state (`notes_within`) and walks
  (`notes_collect`, `notes_firstOf`).
* `Session.minuted`: a session with minutes kept from now on.
-/

namespace GpuMonitor

variable {α β γ π σ τ : Type}

/-- A request and what was answered to it. -/
abbrev Gateway.Exchange := Gateway.Request × Gateway.Reply

open Gateway (Exchange Request Reply)

/-- A gateway that keeps what is asked of the one behind it, with the answers. -/
structure Minutes (γ : Type) where
  inner : γ
  kept : List Exchange := []

namespace Minutes

/-- Does what a request asks for, and keeps the request with its answer. -/
def keeping (r : Request) (reply : α → Reply) (m : Action γ α) : Action (Minutes γ) α := fun g =>
  let x := m g.inner
  { value := (x.value.1, ⟨x.value.2, g.kept ++ [(r, reply x.value.1)]⟩), trace := x.trace }

instance [Gateway γ] : Gateway (Minutes γ) where
  openAdapters := keeping .openAdapters .opened Gateway.openAdapters
  readAdapterGroup := keeping .readAdapterGroup .adapterGroup Gateway.readAdapterGroup
  readAdapter i := keeping (.readAdapter i) .adapter (Gateway.readAdapter i)
  openDevice i := keeping (.openDevice i) .opened (Gateway.openDevice i)
  readDevice := keeping .readDevice .device Gateway.readDevice
  readConcurrentGroup g :=
    keeping (.readConcurrentGroup g) .concurrentGroup (Gateway.readConcurrentGroup g)
  readMetricSet id := keeping (.readMetricSet id) .metricSet (Gateway.readMetricSet id)
  readMetric id i := keeping (.readMetric id i) .metric (Gateway.readMetric id i)
  activate id := keeping (.activate id) .code (Gateway.activate id)
  deactivate id := keeping (.deactivate id) .code (Gateway.deactivate id)
  readClocks := keeping .readClocks .clocks Gateway.readClocks
  closeDevice := keeping .closeDevice .code Gateway.closeDevice
  closeAdapters := keeping .closeAdapters .code Gateway.closeAdapters
  unload := keeping .unload (fun _ => .done) Gateway.unload

/-! ## The gateway behind -/

/-- The minutes are kept of this gateway. -/
def Of (g' : Minutes γ) (g : γ) : Prop := g'.inner = g

theorem coupled_keeping (r : Request) (reply : α → Reply) (m : Action γ α) :
    Coupled Of Eq (keeping r reply m) m := by
  rintro g _ rfl
  exact ⟨rfl, rfl⟩

theorem reading_coupled [Gateway γ] : ReadingCoupled (Of (γ := γ)) where
  adapterGroup := coupled_keeping _ _ _
  adapter _ := coupled_keeping _ _ _
  device := coupled_keeping _ _ _
  concurrentGroup _ := coupled_keeping _ _ _
  metricSet _ := coupled_keeping _ _ _
  metric _ _ := coupled_keeping _ _ _

end Minutes

/-! ## What is noted -/

/-- The action adds to the minutes at their end, and what it adds meets `P` together with its
answer. -/
def Notes (kept : σ → List Exchange) (P : α → List Exchange → Prop) (m : Action σ α) : Prop :=
  ∀ s, ∃ added, kept (m s).value.2 = kept s ++ added ∧ P (m s).value.1 added

section
variable {kept : σ → List Exchange}

theorem Notes.mono {P Q : α → List Exchange → Prop} {m : Action σ α} (h : Notes kept P m)
    (hpq : ∀ a x, P a x → Q a x) : Notes kept Q m := by
  intro s
  obtain ⟨added, hkept, hadded⟩ := h s
  exact ⟨added, hkept, hpq _ _ hadded⟩

/-- An action that leaves the minutes as they are. -/
theorem notes_of_keeps {P : α → List Exchange → Prop} {m : Action σ α} (hm : Keeps kept m)
    (h : ∀ s, P (m s).value.1 []) : Notes kept P m :=
  fun s => ⟨[], by rw [hm s, List.append_nil], h s⟩

theorem notes_pure {P : α → List Exchange → Prop} {a : α} (h : P a []) :
    Notes kept P (pure a : Action σ α) :=
  notes_of_keeps (obeys_pure (composes_keeps kept) a) fun _ => h

theorem notes_log {P : Unit → List Exchange → Prop} (level : Level) (text : String)
    (h : P () []) : Notes kept P (log level text) := notes_of_keeps (fun _ => rfl) fun _ => h

theorem notes_emitAll {P : Unit → List Exchange → Prop} (events : Trace) (h : P () []) :
    Notes kept P (emitAll events) := notes_of_keeps (fun _ => rfl) fun _ => h

theorem notes_modify {P : PUnit → List Exchange → Prop} {f : σ → σ}
    (hf : ∀ s, kept (f s) = kept s) (h : P () []) :
    Notes kept P (modify f : Action σ PUnit) := notes_of_keeps hf fun _ => h

/-- What a sequence adds is what its steps add, one after the other. -/
theorem notes_bind {P : α → List Exchange → Prop} {Q : β → List Exchange → Prop}
    {m : Action σ α} {f : α → Action σ β} (hm : Notes kept P m)
    (hf : ∀ a x, P a x → Notes kept (fun b y => Q b (x ++ y)) (f a)) :
    Notes kept Q (m >>= f) := by
  intro s
  obtain ⟨x, hx, hp⟩ := hm s
  obtain ⟨y, hy, hq⟩ := hf _ x hp (m s).value.2
  refine ⟨x ++ y, ?_, hq⟩
  rw [Action.value_bind, hy, hx, List.append_assoc]

theorem notes_map {P : β → List Exchange → Prop} {m : Action σ α} (f : α → β)
    (hm : Notes kept (fun a x => P (f a) x) m) : Notes kept P (f <$> m) := hm

theorem notes_within {get : σ → τ} {put : σ → τ → σ} {P : α → List Exchange → Prop}
    {m : Action τ α} {noted : τ → List Exchange} (hm : Notes noted P m)
    (hget : ∀ s, kept s = noted (get s)) (hput : ∀ s t, kept (put s t) = noted t) :
    Notes kept P (within get put m) := by
  intro s
  obtain ⟨added, hkept, hadded⟩ := hm (get s)
  refine ⟨added, ?_, hadded⟩
  rw [Action.value_within, hput, hkept, hget]

/-- A walk whose visits add one exchange each adds them in the order of the places. -/
theorem notes_collect (answer : Nat → π → Option α) (exchange : Nat → π → Exchange)
    {visit : Nat → Action σ (Option α)}
    (hv : ∀ i, Notes kept (fun o x => ∃ p, o = answer i p ∧ x = [exchange i p]) (visit i))
    (start count : Nat) :
    Notes kept
      (fun list x => ∃ ps : List π, ps.length = count ∧
        list = (ps.zipIdx start).filterMap (fun p => answer p.2 p.1) ∧
        x = (ps.zipIdx start).map fun p => exchange p.2 p.1)
      (collect visit start count) := by
  -- on the count; the first place answers first, and its exchange is the first one
  induction count generalizing start with
  | zero =>
    rw [collect_zero]
    exact notes_pure ⟨[], rfl, rfl, rfl⟩
  | succ n ih =>
    rw [collect_succ]
    refine notes_bind (hv start) fun o x ⟨p, ho, hx⟩ => ?_
    refine notes_bind (ih (start + 1)) fun list y ⟨ps, hlen, hlist, hy⟩ => notes_pure ?_
    refine ⟨p :: ps, by rw [List.length_cons, hlen], ?_, ?_⟩
    · rw [ho, hlist, List.zipIdx_cons]
      cases h : answer start p <;> simp [h]
    · rw [hx, hy, List.zipIdx_cons]
      simp

/-- A walk to the first answer adds what its visits add. -/
theorem notes_firstOf {P : Option α → List Exchange → Prop} {visit : Nat → Action σ (Option α)}
    (hnil : P none []) (happend : ∀ o x y, P none x → P o y → P o (x ++ y))
    (hv : ∀ i, Notes kept P (visit i)) (start count : Nat) :
    Notes kept P (firstOf visit start count) := by
  induction count generalizing start with
  | zero =>
    rw [firstOf_zero]
    exact notes_pure hnil
  | succ n ih =>
    rw [firstOf_succ]
    refine notes_bind (hv start) fun o x hx => ?_
    cases o with
    | none => exact (ih (start + 1)).mono fun o y hy => happend o x y hx hy
    | some a => exact notes_pure (by rwa [List.append_nil])

end

theorem Minutes.notes_keeping {P : α → List Exchange → Prop} (r : Request) (reply : α → Reply)
    (m : Action γ α) (h : ∀ a, P a [(r, reply a)]) : Notes kept P (keeping r reply m) :=
  fun _ => ⟨_, rfl, h _⟩

namespace Session

/-- What the minutes of a session's gateway say. -/
def minutes (s : Session (Minutes γ)) : List Exchange := s.gateway.kept

/-- The session with minutes kept from now on. -/
def minuted (s : Session γ) : Session (Minutes γ) where
  gateway := { inner := s.gateway }
  window := s.window
  groupOpen := s.groupOpen
  adapter := s.adapter
  deviceOpen := s.deviceOpen
  selection := s.selection
  active := s.active
  released := s.released

theorem notes_onGateway {P : α → List Exchange → Prop} {m : Action (Minutes γ) α}
    (hm : Notes Minutes.kept P m) : Notes minutes P (onGateway m) :=
  notes_within hm (fun _ => rfl) fun _ _ => rfl

end Session
end GpuMonitor
