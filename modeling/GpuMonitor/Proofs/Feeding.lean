import GpuMonitor.Proofs.Exactness
import GpuMonitor.Proofs.Lockstep
import GpuMonitor.Session

/-!
# What the names of metrics make of a sample

A channel shows its percentage if some name feeds it, and 0 if none does. How often and in which
order the names come does not matter, since every name that feeds a channel sets it to the same
value, and none takes a value back.

* `Mentions`: a keyword stands in a name. `Channel.FedBy`: the names that feed a channel.
* `sampleChannel_eq_some_iff`: these are the names that are recognized as counters to sample.
* `Utilization.Shows`: what a sample has over some names. Its numbers are exact, and the total is
  the sum of the channels.
* `shows_readingOf`: what is read of some metrics shows their names.
* `Utilization.Shows.untimed_eq`: samples over names that feed the same channels are the same.
-/

namespace GpuMonitor

/-! ## Names -/

/-- The keyword stands in the name; the letters `A` to `Z` count as `a` to `z`. -/
def Mentions (name keyword : String) : Prop := keyword.toList <:+: name.toList.map Char.toLower

namespace Channel

/-- The name is one of the engine of the channel: it mentions that engine, and none before it. -/
def NamedBy (name : String) : Channel → Prop
  | render => Mentions name "render"
  | blitter => Mentions name "blitter" ∧ ¬Mentions name "render"
  | video => Mentions name "video" ∧ ¬Mentions name "render" ∧ ¬Mentions name "blitter"
  | enhance => False

/-- The name feeds the channel: it is that of a busy counter of the engine. -/
def FedBy (name : String) (c : Channel) : Prop := Mentions name "busy" ∧ c.NamedBy name

/-- The percentage that a channel has while it is fed. -/
def percent : Channel → Nat
  | render => 25
  | blitter => 5
  | video => 10
  | enhance => 0

end Channel

section
variable (name : String)

theorem mentions_iff (keyword : String) :
    Text.mentions name.toList keyword.toList = true ↔ Mentions name keyword := Text.occursIn_iff

theorem activityOf_eq_busy_iff : activityOf name.toList = some .busy ↔ Mentions name "busy" := by
  rw [← mentions_iff, activityOf]
  cases hbusy : Text.mentions name.toList ['b', 'u', 's', 'y'] with
  | true => exact ⟨fun _ => hbusy, fun _ => rfl⟩
  | false =>
    have hno : Text.mentions name.toList "busy".toList = false := hbusy
    rw [hno]
    split <;> simp_all

theorem engineOf_eq_some_iff (c : Channel) :
    engineOf name.toList = some c ↔ c.NamedBy name := by
  have hrender := mentions_iff name "render"
  have hblitter := mentions_iff name "blitter"
  have hvideo := mentions_iff name "video"
  change Text.mentions name.toList ['r', 'e', 'n', 'd', 'e', 'r'] = true ↔ _ at hrender
  change Text.mentions name.toList ['b', 'l', 'i', 't', 't', 'e', 'r'] = true ↔ _ at hblitter
  change Text.mentions name.toList ['v', 'i', 'd', 'e', 'o'] = true ↔ _ at hvideo
  -- the keywords are tried in the order of the conditions
  by_cases h₁ : Mentions name "render"
  · rw [engineOf, if_pos (hrender.2 h₁)]
    cases c <;> simp [Channel.NamedBy, h₁]
  by_cases h₂ : Mentions name "blitter"
  · rw [engineOf, if_neg (mt hrender.1 h₁), if_pos (hblitter.2 h₂)]
    cases c <;> simp [Channel.NamedBy, h₁, h₂]
  by_cases h₃ : Mentions name "video"
  · rw [engineOf, if_neg (mt hrender.1 h₁), if_neg (mt hblitter.1 h₂), if_pos (hvideo.2 h₃)]
    cases c <;> simp [Channel.NamedBy, h₁, h₂, h₃]
  · rw [engineOf, if_neg (mt hrender.1 h₁), if_neg (mt hblitter.1 h₂), if_neg (mt hvideo.1 h₃)]
    cases c <;> simp [Channel.NamedBy, h₁, h₂, h₃]

theorem sampleChannel_eq_some_iff (c : Channel) : sampleChannel name = some c ↔ c.FedBy name := by
  rw [Channel.FedBy, ← activityOf_eq_busy_iff, ← engineOf_eq_some_iff, sampleChannel, classify]
  cases activityOf name.toList with
  | none => simp
  | some activity =>
    cases engineOf name.toList with
    | none => cases activity <;> simp
    | some channel => cases activity <;> simp

end

instance (name : String) (c : Channel) : Decidable (c.FedBy name) :=
  decidable_of_iff _ (sampleChannel_eq_some_iff name c)

/-! ## Samples -/

/-- The percentage that a channel has over some names. -/
def Channel.share (names : List String) (c : Channel) : Nat :=
  if ∃ name ∈ names, c.FedBy name then c.percent else 0

/-- What a sample has over some names: every channel has exactly its share, and the total is exactly
the sum of the four. -/
structure Utilization.Shows (u : Utilization) (names : List String) : Prop where
  channel : ∀ c, (u.channel c).IsNat (c.share names)
  total : u.total.IsNat (Channel.render.share names + Channel.blitter.share names +
    Channel.video.share names + Channel.enhance.share names)

theorem Channel.share_le (names : List String) (c : Channel) : c.share names ≤ c.percent := by
  unfold share
  split
  · exact Nat.le_refl _
  · exact Nat.zero_le _

theorem Channel.isNat_placeholder (c : Channel) : c.placeholder.IsNat c.percent := by
  cases c with
  | render => exact Binary64.isNat_literal (by decide)
  | blitter => exact Binary64.isNat_literal (by decide)
  | video => exact Binary64.isNat_literal (by decide)
  | enhance => exact Binary64.isNat_literal (by decide)

theorem Utilization.channel_setChannel (u : Utilization) (value : Binary64) (c c' : Channel) :
    (u.setChannel value c').channel c = if c = c' then value else u.channel c := by
  cases c <;> cases c' <;> rfl

namespace Session

/-- Channels that are fed show their placeholders, and the others what they have shown before. -/
theorem channel_foldl (fed : List Channel) (u : Utilization) (c : Channel) :
    (fed.foldl (fun u c => u.setChannel c.placeholder c) u).channel c =
      if c ∈ fed then c.placeholder else u.channel c := by
  -- on the channels that are fed: one that comes again is set to the same placeholder
  induction fed generalizing u with
  | nil => simp
  | cons c' fed ih =>
    rw [List.foldl_cons, ih, Utilization.channel_setChannel]
    by_cases hlater : c ∈ fed
    · rw [if_pos hlater, if_pos (List.mem_cons_of_mem c' hlater)]
    · rw [if_neg hlater]
      by_cases hnow : c = c'
      · rw [if_pos hnow, if_pos (by simp [hnow]), hnow]
      · rw [if_neg hnow, if_neg (by simp [hnow, hlater])]

/-- Before it is normalized, a reading has the share of each channel over the names. -/
theorem channel_readingOf (metrics : List MetricParams) (c : Channel) :
    ((readingOf metrics).channel c).IsNat
      (c.share (metrics.filterMap MetricParams.symbolName)) := by
  have hfed : c ∈ (metrics.filterMap fun m => m.symbolName.bind sampleChannel) ↔
      ∃ name ∈ metrics.filterMap MetricParams.symbolName, c.FedBy name := by
    simp only [← sampleChannel_eq_some_iff, List.mem_filterMap, Option.bind_eq_some_iff]
    constructor
    · rintro ⟨m, hm, name, hname, hc⟩
      exact ⟨name, ⟨m, hm, hname⟩, hc⟩
    · rintro ⟨name, ⟨m, hm, hname⟩, hc⟩
      exact ⟨m, hm, name, hname, hc⟩
  rw [readingOf, channel_foldl, Channel.share]
  by_cases h : ∃ name ∈ metrics.filterMap MetricParams.symbolName, c.FedBy name
  · rw [if_pos (hfed.2 h), if_pos h]
    exact c.isNat_placeholder
  · rw [if_neg (mt hfed.1 h), if_neg h]
    have hunfed : ({} : Utilization).channel c = 0 := by cases c <;> rfl
    rw [hunfed]
    exact Binary64.isNat_literal (by decide)

end Session

namespace Utilization

variable {u u' : Utilization} {names names' : List String}

/-- The shares do not add up to more than 100, so normalizing scales nothing down. -/
theorem shows_normalize (h : ∀ c, (u.channel c).IsNat (c.share names)) :
    u.normalize.Shows names := by
  have hrender := Channel.render.share_le names
  have hblitter := Channel.blitter.share_le names
  have hvideo := Channel.video.share_le names
  have henhance := Channel.enhance.share_le names
  simp only [Channel.percent] at hrender hblitter hvideo henhance
  -- at most 25 + 5 + 10 comes together, so every partial sum is exact
  have hsum := isNat_sum (h .render) (h .blitter) (h .video) (h .enhance)
    (Nat.le_trans (m := 40) (by omega) (by decide))
  have hlow : u.sum.above 100 = false := by
    have hhundred : (100 : Binary64).IsNat 100 := Binary64.isNat_literal (by decide)
    rw [hsum.above hhundred, decide_eq_false_iff_not]
    omega
  have hnormal : u.normalize = { u with total := u.sum } := by
    rw [normalize, hlow]
    rfl
  rw [hnormal]
  exact ⟨fun c => by cases c <;> exact h _, hsum⟩

/-- Samples are the same, but for their clocks, over names that feed the same channels. -/
theorem Shows.untimed_eq (h : u.Shows names) (h' : u'.Shows names')
    (hfed : ∀ c : Channel, (∃ name ∈ names', c.FedBy name) ↔ ∃ name ∈ names, c.FedBy name) :
    u'.untimed = u.untimed := by
  have hshare (c : Channel) : c.share names' = c.share names := by
    simp only [Channel.share, hfed c]
  -- equal shares are equal doubles, since a natural number is a double in one way only
  have hchannel (c : Channel) : u'.channel c = u.channel c := by
    have hc := h'.channel c
    rw [hshare] at hc
    exact hc.eq (h.channel c)
  have htotal : u'.total = u.total := by
    have hsum := h'.total
    simp only [hshare] at hsum
    exact hsum.eq h.total
  have hrender : u'.render = u.render := hchannel .render
  have hblitter : u'.blitter = u.blitter := hchannel .blitter
  have hvideo : u'.video = u.video := hchannel .video
  have henhance : u'.enhance = u.enhance := hchannel .enhance
  simp only [untimed, hrender, hblitter, hvideo, henhance, htotal]

end Utilization

/-- What is read of some metrics shows their names, whatever clocks it comes with. -/
theorem shows_readingOf (metrics : List MetricParams) (timestamps : Option Timestamps) :
    (Utilization.normalize { Session.readingOf metrics with timestamps }).Shows
      (metrics.filterMap MetricParams.symbolName) := by
  refine Utilization.shows_normalize fun c => ?_
  have h := Session.channel_readingOf metrics c
  cases c <;> exact h

end GpuMonitor
