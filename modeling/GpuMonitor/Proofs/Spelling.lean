import GpuMonitor.Proofs.Feeding
import Mathlib.Data.List.Forall2

/-!
# The names that are recognized

A metric is recognized by keywords that stand somewhere in its name, in letters of either case.
Which names these are is said here without the folding of a whole name: a keyword stands in a name
where each of its letters does, capital or small.

* `SameLetter`, `Respelled`: the same characters, but for the case of letters `A` to `Z`.
* `StandsIn`: a keyword stands at some position of a name, in some spelling.
* `classify_eq_some_iff`: the class of a name by the keywords that stand in it.
* `classify_respelled`, `recognized_longer`: what other spellings, and longer names, are recognized
  as.

Main result:

* `classify_language`: which names are recognized, and as what.
-/

namespace GpuMonitor

/-! ## Spellings -/

/-- The second character is the small letter of the first, one of `A` to `Z`. -/
def SmallOf (capital small : Char) : Prop :=
  'A'.toNat ≤ capital.toNat ∧ capital.toNat ≤ 'Z'.toNat ∧ small.toNat = capital.toNat + 32

/-- The characters are the same, or the capital and the small form of one letter `A` to `Z`. -/
def SameLetter (c d : Char) : Prop := c = d ∨ SmallOf c d ∨ SmallOf d c

/-- The texts are the same character by character, but for the case of letters. -/
def Respelled (text text' : List Char) : Prop := List.Forall₂ SameLetter text text'

/-- The keyword stands at some position of the name, in some spelling. -/
def StandsIn (keyword name : String) : Prop :=
  ∃ before word after, name.toList = before ++ (word ++ after) ∧ Respelled word keyword.toList

theorem toNat_toLower (c : Char) :
    c.toLower.toNat =
      if 'A'.toNat ≤ c.toNat ∧ c.toNat ≤ 'Z'.toNat then c.toNat + 32 else c.toNat := by
  by_cases h : 'A'.toNat ≤ c.toNat ∧ c.toNat ≤ 'Z'.toNat
  · rw [if_pos h]
    have hle : c.toNat ≤ 90 := h.2
    have hval : c.val ≥ 'A'.val ∧ c.val ≤ 'Z'.val :=
      ⟨UInt32.le_iff_toNat_le.2 h.1, UInt32.le_iff_toNat_le.2 h.2⟩
    have hlower : c.toLower.toNat = (c.val + 32).toNat := congrArg Char.toNat (dif_pos hval)
    rw [hlower]
    change (c.val + 32).toNat = c.val.toNat + 32
    rw [UInt32.toNat_add]
    exact Nat.mod_eq_of_lt (show c.toNat + 32 < 2 ^ 32 by omega)
  · have hval : ¬(c.val ≥ 'A'.val ∧ c.val ≤ 'Z'.val) := fun hval =>
      h ⟨UInt32.le_iff_toNat_le.1 hval.1, UInt32.le_iff_toNat_le.1 hval.2⟩
    rw [if_neg h]
    exact congrArg Char.toNat (dif_neg hval)

/-- Characters are the same but for their case if and only if they have one small form. -/
theorem sameLetter_iff {c d : Char} : SameLetter c d ↔ c.toLower = d.toLower := by
  have hc := toNat_toLower c
  have hd := toNat_toLower d
  have hA : 'A'.toNat = 65 := rfl
  have hZ : 'Z'.toNat = 90 := rfl
  rw [SameLetter, SmallOf, SmallOf, ← Char.toNat_inj, ← Char.toNat_inj (c := c.toLower), hc, hd]
  split <;> split <;> omega

theorem respelled_iff {text text' : List Char} :
    Respelled text text' ↔ text.map Char.toLower = text'.map Char.toLower := by
  have hsame : SameLetter = fun c d => c.toLower = d.toLower := by
    funext c d
    exact propext sameLetter_iff
  rw [Respelled, hsame, ← List.forall₂_eq_eq_eq, List.forall₂_map_left_iff,
    List.forall₂_map_right_iff]

section
variable {name keyword : String}

/-- A search of the folded name finds the keywords, in small letters, that stand in the name. -/
theorem mentions_iff_standsIn (hsmall : keyword.toList.map Char.toLower = keyword.toList) :
    Mentions name keyword ↔ StandsIn keyword name := by
  rw [Mentions, StandsIn]
  constructor
  · rintro ⟨before, after, hsplit⟩
    rw [List.append_assoc] at hsplit
    obtain ⟨before', rest, hname, -, hrest⟩ := List.map_eq_append_iff.1 hsplit.symm
    obtain ⟨word, after', rfl, hword, -⟩ := List.map_eq_append_iff.1 hrest
    exact ⟨before', word, after', hname, respelled_iff.2 (hword.trans hsmall.symm)⟩
  · rintro ⟨before, word, after, hname, hword⟩
    have hfolded : word.map Char.toLower = keyword.toList :=
      (respelled_iff.1 hword).trans hsmall
    refine ⟨before.map Char.toLower, after.map Char.toLower, ?_⟩
    rw [hname, List.map_append, List.map_append, hfolded, List.append_assoc]

/-- A name that stands within another one mentions nothing that the other one does not. -/
theorem mentions_append (h : Mentions name keyword) (before after : String) :
    Mentions (before ++ name ++ after) keyword := by
  rw [Mentions, String.toList_append, String.toList_append, List.map_append, List.map_append]
  exact h.trans (List.infix_append _ _ _)

end

/-! ## Classes -/

/-- The name mentions the activity: `util` counts only where `busy` does not stand. -/
def Activity.NamedBy (name : String) : Activity → Prop
  | busy => Mentions name "busy"
  | util => Mentions name "util" ∧ ¬Mentions name "busy"

section
variable {name : String}

theorem activityOf_eq_some_iff (a : Activity) :
    activityOf name.toList = some a ↔ a.NamedBy name := by
  have hbusy := mentions_iff name "busy"
  have hutil := mentions_iff name "util"
  change Text.mentions name.toList ['b', 'u', 's', 'y'] = true ↔ _ at hbusy
  change Text.mentions name.toList ['u', 't', 'i', 'l'] = true ↔ _ at hutil
  by_cases h₁ : Mentions name "busy"
  · rw [activityOf, if_pos (hbusy.2 h₁)]
    cases a <;> simp [Activity.NamedBy, h₁]
  by_cases h₂ : Mentions name "util"
  · rw [activityOf, if_neg (mt hbusy.1 h₁), if_pos (hutil.2 h₂)]
    cases a <;> simp [Activity.NamedBy, h₁, h₂]
  · rw [activityOf, if_neg (mt hbusy.1 h₁), if_neg (mt hutil.1 h₂)]
    cases a <;> simp [Activity.NamedBy, h₁, h₂]

/-- A name has a class if it mentions the activity and is named by the engine, and then that one. -/
theorem classify_eq_some_iff {m : MetricClass} :
    classify name = some m ↔ m.activity.NamedBy name ∧ m.channel.NamedBy name := by
  rw [← activityOf_eq_some_iff, ← engineOf_eq_some_iff, classify]
  obtain ⟨channel, activity⟩ := m
  cases activityOf name.toList <;> cases engineOf name.toList <;> simp [and_comm]

theorem exists_activity_iff :
    (∃ a : Activity, a.NamedBy name) ↔ Mentions name "busy" ∨ Mentions name "util" := by
  constructor
  · rintro ⟨a, ha⟩
    cases a with
    | busy => exact .inl ha
    | util => exact .inr ha.1
  · intro h
    by_cases hbusy : Mentions name "busy"
    · exact ⟨.busy, hbusy⟩
    · exact ⟨.util, h.resolve_left hbusy, hbusy⟩

theorem exists_channel_iff :
    (∃ c : Channel, c.NamedBy name) ↔
      Mentions name "render" ∨ Mentions name "blitter" ∨ Mentions name "video" := by
  constructor
  · rintro ⟨c, hc⟩
    cases c with
    | render => exact .inl hc
    | blitter => exact .inr (.inl hc.1)
    | video => exact .inr (.inr hc.1)
    | enhance => exact hc.elim
  · intro h
    by_cases hrender : Mentions name "render"
    · exact ⟨.render, hrender⟩
    by_cases hblitter : Mentions name "blitter"
    · exact ⟨.blitter, hblitter, hrender⟩
    · exact ⟨.video, (h.resolve_left hrender).resolve_left hblitter, hrender, hblitter⟩

theorem isSome_classify_iff :
    (classify name).isSome ↔ (Mentions name "busy" ∨ Mentions name "util") ∧
      (Mentions name "render" ∨ Mentions name "blitter" ∨ Mentions name "video") := by
  rw [← exists_activity_iff, ← exists_channel_iff, Option.isSome_iff_exists]
  simp only [classify_eq_some_iff]
  constructor
  · rintro ⟨m, ha, hc⟩
    exact ⟨⟨_, ha⟩, _, hc⟩
  · rintro ⟨⟨a, ha⟩, c, hc⟩
    exact ⟨⟨c, a⟩, ha, hc⟩

/-- Names that fold to the same text are recognized as the same. -/
theorem classify_congr {name' : String}
    (h : name.toList.map Char.toLower = name'.toList.map Char.toLower) :
    classify name = classify name' := by
  have hmentions : Text.mentions name.toList = Text.mentions name'.toList := by
    funext keyword
    rw [Text.mentions, Text.mentions, h]
  rw [classify, classify, activityOf, activityOf, engineOf, engineOf, hmentions]

/-- The name tells the activity. -/
theorem activity_eq_busy_iff {a : Activity} (h : a.NamedBy name) :
    a = .busy ↔ Mentions name "busy" := by
  cases a with
  | busy => exact iff_of_true rfl h
  | util => exact iff_of_false nofun h.2

/-- The name tells the engine, `render` before `blitter` and that before `video`. -/
theorem channel_eq_iff {c : Channel} (h : c.NamedBy name) :
    (c = .render ↔ Mentions name "render") ∧
    (c = .blitter ↔ Mentions name "blitter" ∧ ¬Mentions name "render") ∧
    (c = .video ↔ ¬Mentions name "render" ∧ ¬Mentions name "blitter") ∧ c ≠ .enhance := by
  cases c with
  | render =>
    have hrender : Mentions name "render" := h
    simp [hrender]
  | blitter =>
    obtain ⟨hblitter, hrender⟩ := h
    simp [hblitter, hrender]
  | video =>
    obtain ⟨-, hrender, hblitter⟩ := h
    simp [hblitter, hrender]
  | enhance => exact h.elim

/-- A longer name mentions an engine of the name, or one that goes before it. -/
theorem idxOf_le_of_namedBy {name' : String} {c c' : Channel}
    (hlonger : ∀ keyword, Mentions name keyword → Mentions name' keyword)
    (hc : c.NamedBy name) (hc' : c'.NamedBy name') :
    Channel.all.idxOf c' ≤ Channel.all.idxOf c := by
  cases c with
  | render =>
    have hrender := hlonger _ hc
    cases c' with
    | render => exact Nat.le_refl _
    | blitter => exact absurd hrender hc'.2
    | video => exact absurd hrender hc'.2.1
    | enhance => exact hc'.elim
  | blitter =>
    have hblitter := hlonger _ hc.1
    cases c' with
    | render => decide
    | blitter => exact Nat.le_refl _
    | video => exact absurd hblitter hc'.2.2
    | enhance => exact hc'.elim
  | video =>
    cases c' with
    | render => decide
    | blitter => decide
    | video => exact Nat.le_refl _
    | enhance => exact hc'.elim
  | enhance => exact hc.elim

/-- What is recognized in a name is recognized in every longer one: a busy counter stays one, and
the engine is the same or one that goes before it. -/
theorem recognized_longer {name' : String}
    (hlonger : ∀ keyword, Mentions name keyword → Mentions name' keyword) {m : MetricClass}
    (hm : classify name = some m) :
    ∃ m', classify name' = some m' ∧ (m.activity = .busy → m'.activity = .busy) ∧
      Channel.all.idxOf m'.channel ≤ Channel.all.idxOf m.channel := by
  obtain ⟨hbusy, hengine⟩ := isSome_classify_iff.1 (Option.isSome_of_eq_some hm)
  have hsome : (classify name').isSome := by
    refine isSome_classify_iff.2 ⟨hbusy.imp (hlonger _) (hlonger _), ?_⟩
    exact hengine.imp (hlonger _) (.imp (hlonger _) (hlonger _))
  obtain ⟨m', hm'⟩ := Option.isSome_iff_exists.1 hsome
  obtain ⟨ha, hc⟩ := classify_eq_some_iff.1 hm
  obtain ⟨ha', hc'⟩ := classify_eq_some_iff.1 hm'
  refine ⟨m', hm', fun hactivity => ?_, idxOf_le_of_namedBy hlonger hc hc'⟩
  rw [hactivity] at ha
  have hbusy' := hlonger _ ha
  cases hutil : m'.activity with
  | busy => rfl
  | util =>
    rw [hutil] at ha'
    exact absurd hbusy' ha'.2

theorem sampleChannel_eq_classify :
    sampleChannel name = (classify name).bind fun m =>
      if m.activity = .busy then some m.channel else none := by
  rw [sampleChannel]
  cases classify name with
  | none => rfl
  | some m => obtain ⟨channel, activity⟩ := m; cases activity <;> rfl

end

/--
**The names that are recognized.** Of every name:

* it has a class if and only if `busy` or `util` stands in it and `render`, `blitter` or `video`
  does, each at any position and in any spelling;
* the class is one of a busy counter if and only if `busy` stands in the name; the engine is
  `render` if that stands in the name, else `blitter` if that does, else `video`, and never
  `enhance`;
* every spelling of the name has the same class and feeds the same channel;
* a name around it has a class too, which is one of a busy counter if the first one is, and is of
  the same engine or of one that goes before it;
* the channel that it feeds is that of its class, if this is one of a busy counter.
-/
theorem classify_language (name : String) :
    ((classify name).isSome ↔
      (StandsIn "busy" name ∨ StandsIn "util" name) ∧
        (StandsIn "render" name ∨ StandsIn "blitter" name ∨ StandsIn "video" name)) ∧
    (∀ m ∈ classify name,
      (m.activity = .busy ↔ StandsIn "busy" name) ∧
      (m.channel = .render ↔ StandsIn "render" name) ∧
      (m.channel = .blitter ↔ StandsIn "blitter" name ∧ ¬StandsIn "render" name) ∧
      (m.channel = .video ↔ ¬StandsIn "render" name ∧ ¬StandsIn "blitter" name) ∧
      m.channel ≠ .enhance) ∧
    (∀ name' : String, Respelled name.toList name'.toList →
      classify name' = classify name ∧ sampleChannel name' = sampleChannel name) ∧
    (∀ m ∈ classify name, ∀ before after : String,
      ∃ m' ∈ classify (before ++ name ++ after),
        (m.activity = .busy → m'.activity = .busy) ∧
        Channel.all.idxOf m'.channel ≤ Channel.all.idxOf m.channel) ∧
    ∀ c, sampleChannel name = some c ↔ ∃ m ∈ classify name, m.channel = c ∧ m.activity = .busy := by
  have hstands (keyword : String) (hsmall : keyword.toList.map Char.toLower = keyword.toList) :
      StandsIn keyword name ↔ Mentions name keyword := (mentions_iff_standsIn hsmall).symm
  rw [hstands "busy" (by decide), hstands "util" (by decide), hstands "render" (by decide),
    hstands "blitter" (by decide), hstands "video" (by decide)]
  refine ⟨isSome_classify_iff, ?_, ?_, ?_, ?_⟩
  · intro m hm
    obtain ⟨ha, hc⟩ := classify_eq_some_iff.1 hm
    exact ⟨activity_eq_busy_iff ha, channel_eq_iff hc⟩
  · intro name' hname'
    have hclass := classify_congr (respelled_iff.1 hname')
    rw [sampleChannel_eq_classify, sampleChannel_eq_classify, hclass]
    exact ⟨rfl, rfl⟩
  · intro m hm before after
    exact recognized_longer (fun _ h => mentions_append h before after) hm
  · intro c
    rw [sampleChannel_eq_classify, Option.bind_eq_some_iff]
    refine exists_congr fun m => and_congr_right fun _ => ?_
    rw [Option.ite_none_right_eq_some, Option.some_inj, and_comm]

/-- A counter of the video engine, spelled in another way and with another engine and activity
around it: it becomes a busy counter of an engine that goes before. -/
theorem classify_language_videoUtil :
    classify "VideoUtil" = some ⟨.video, .util⟩ ∧
      (¬StandsIn "render" "VideoUtil" ∧ ¬StandsIn "blitter" "VideoUtil") ∧
      Respelled "VideoUtil".toList "vIDEOUTIL".toList ∧
      classify "vIDEOUTIL" = some ⟨.video, .util⟩ ∧
      (∃ m ∈ classify ("Blitter_" ++ "VideoUtil" ++ "_busy"),
        Channel.all.idxOf m.channel ≤ Channel.all.idxOf .video) ∧
      classify ("Blitter_" ++ "VideoUtil" ++ "_busy") = some ⟨.blitter, .busy⟩ := by
  obtain ⟨-, hclass, hspelled, hlonger, -⟩ := classify_language "VideoUtil"
  have hvideo : classify "VideoUtil" = some ⟨.video, .util⟩ := by decide
  have hrespelled : Respelled "VideoUtil".toList "vIDEOUTIL".toList :=
    respelled_iff.2 (by decide)
  obtain ⟨-, -, -, hnamed, -⟩ := hclass _ hvideo
  obtain ⟨m, hm, -, hplace⟩ := hlonger _ hvideo "Blitter_" "_busy"
  refine ⟨hvideo, hnamed.1 rfl, hrespelled, ?_, ⟨m, hm, hplace⟩, by decide⟩
  rw [(hspelled _ hrespelled).1, hvideo]

end GpuMonitor
