import GpuMonitor.Proofs.Rendering
import GpuMonitor.Proofs.Served

/-!
# What the bytes of a name decide

A metric is recognized by its symbol name, and that is copied out of bytes which need not be UTF-8.
The copy makes no difference: what is recognized in it is what a search of the bytes themselves
finds, up to the first zero byte.

* `Bytes.Mentions`: a keyword stands in some bytes.
* `CarriesOver`: the occurrences of a keyword in bytes and in characters are the same.
* `classBy`: the class that a search for keywords comes to. `Bytes.class?`, `Bytes.channel?`: what
  the search of bytes comes to.

Main result:

* `recognized_by_bytes`: the bytes of a name decide what is recognized in it.
-/

namespace GpuMonitor

open Text (Renders Replaced asciiByte asciiChar lowerByte)

/-! ## Keywords in bytes -/

/-- Every character of the keyword is ASCII. -/
def Ascii (keyword : List Char) : Prop := ∀ c ∈ keyword, c.toNat < 0x80

instance (keyword : List Char) : Decidable (Ascii keyword) :=
  List.decidableBAll (fun c : Char => c.toNat < 0x80) keyword

/-- The bytes of a keyword, its letters made small. -/
def Text.smallBytes (keyword : List Char) : Bytes := keyword.map fun c => lowerByte (asciiByte c)

open Text (smallBytes)

/-- The keyword stands in the bytes; the letters `A` to `Z` count as `a` to `z` in both. -/
def Bytes.Mentions (bytes : Bytes) (keyword : String) : Prop :=
  smallBytes keyword.toList <:+: bytes.map lowerByte

/-- A search of the bytes for the keyword. -/
def Bytes.mentions (bytes : Bytes) (keyword : List Char) : Bool :=
  Text.occursIn (smallBytes keyword) (bytes.map lowerByte)

/-- Each occurrence of the keyword in the bytes is one in the characters, with what stands before
and behind it there standing for what stands before and behind it here; and the other way around. -/
structure CarriesOver (keyword : String) (bytes : Bytes) (chars : List Char) : Prop where
  kept : ∀ before after,
    bytes.map lowerByte = before ++ (smallBytes keyword.toList ++ after) →
    ∃ before' after', chars.map Char.toLower = before' ++ (keyword.toLower.toList ++ after') ∧
      Renders before before' ∧ Renders after after'
  found : ∀ before after,
    chars.map Char.toLower = before ++ (keyword.toLower.toList ++ after) →
    ∃ before' after', bytes.map lowerByte = before' ++ (smallBytes keyword.toList ++ after') ∧
      Renders before' before ∧ Renders after' after

theorem toList_toLower (keyword : String) :
    keyword.toLower.toList = keyword.toList.map Char.toLower := by
  show (keyword.map Char.toLower).toList = _
  rw [String.toList_map]

namespace Ascii
variable {keyword : List Char} (h : Ascii keyword)
include h

theorem smallBytes_lt : ∀ b ∈ smallBytes keyword, b < 0x80 := by
  intro b hb
  obtain ⟨c, hc, rfl⟩ := List.mem_map.1 hb
  exact (Text.lowerByte_ascii (Text.asciiByte_lt (h c hc))).1

/-- The bytes stand for the small letters of the keyword. -/
theorem map_smallBytes : (smallBytes keyword).map asciiChar = keyword.map Char.toLower := by
  rw [smallBytes, List.map_map]
  refine List.map_congr_left fun c hc => ?_
  have hascii := h c hc
  rw [Function.comp_apply, (Text.lowerByte_ascii (Text.asciiByte_lt hascii)).2,
    Text.asciiChar_asciiByte hascii]

/-- The keyword stands in characters if and only if it stands in the bytes that they stand for. -/
theorem infix_iff {bytes : Bytes} {chars : List Char} (hrenders : Renders bytes chars) :
    keyword.map Char.toLower <:+: chars.map Char.toLower ↔
      smallBytes keyword <:+: bytes.map lowerByte := by
  rw [← h.map_smallBytes]
  exact hrenders.fold.infix_iff h.smallBytes_lt

end Ascii

theorem carriesOver_of_renders {bytes : Bytes} {chars : List Char} {keyword : String}
    (h : Renders bytes chars) (hkeyword : Ascii keyword.toList) (hne : keyword ≠ "") :
    CarriesOver keyword bytes chars := by
  have hword : smallBytes keyword.toList ≠ [] := by simpa [smallBytes] using hne
  have hsplit := toList_toLower keyword
  rw [← hkeyword.map_smallBytes] at hsplit
  constructor
  · intro before after hbytes
    rw [hsplit]
    exact h.fold.split_bytes hkeyword.smallBytes_lt hword hbytes
  · intro before after hchars
    rw [hsplit] at hchars
    exact h.fold.split_chars hkeyword.smallBytes_lt hword hchars

/-! ## Classes -/

/-- The class that a search for keywords comes to: `busy` goes before `util`, and `render` before
`blitter` and `video`. -/
def classBy (has : List Char → Bool) : Option MetricClass :=
  let activity : Option Activity :=
    if has ['b', 'u', 's', 'y'] then some .busy
    else if has ['u', 't', 'i', 'l'] then some .util
    else none
  let channel : Option Channel :=
    if has ['r', 'e', 'n', 'd', 'e', 'r'] then some .render
    else if has ['b', 'l', 'i', 't', 't', 'e', 'r'] then some .blitter
    else if has ['v', 'i', 'd', 'e', 'o'] then some .video
    else none
  match activity, channel with
  | some activity, some channel => some ⟨channel, activity⟩
  | _, _ => none

/-- A metric is classified by a search of its name. -/
theorem classify_eq_classBy (name : String) : classify name = classBy (Text.mentions name.toList) :=
  rfl

/-- The class that a search of the bytes comes to. -/
def Bytes.class? (bytes : Bytes) : Option MetricClass := classBy bytes.mentions

/-- The channel of that class, if it is one of a busy counter. -/
def Bytes.channel? (bytes : Bytes) : Option Channel :=
  match bytes.class? with
  | some ⟨channel, .busy⟩ => some channel
  | _ => none

/-- Searches that agree on ASCII keywords in small letters come to the same class. -/
theorem classBy_congr {has has' : List Char → Bool}
    (h : ∀ keyword, Ascii keyword → keyword.map Char.toLower = keyword →
      has keyword = has' keyword) :
    classBy has = classBy has' := by
  simp only [classBy, h ['b', 'u', 's', 'y'] (by decide) (by decide),
    h ['u', 't', 'i', 'l'] (by decide) (by decide),
    h ['r', 'e', 'n', 'd', 'e', 'r'] (by decide) (by decide),
    h ['b', 'l', 'i', 't', 't', 'e', 'r'] (by decide) (by decide),
    h ['v', 'i', 'd', 'e', 'o'] (by decide) (by decide)]

/-- A search of characters finds what one of the bytes finds that they stand for. -/
theorem mentions_of_renders {bytes : Bytes} {chars : List Char} (h : Renders bytes chars)
    {keyword : List Char} (hkeyword : Ascii keyword)
    (hsmall : keyword.map Char.toLower = keyword) :
    Text.mentions chars keyword = bytes.mentions keyword := by
  rw [Bool.eq_iff_iff, Text.mentions, Bytes.mentions, Text.occursIn_iff, Text.occursIn_iff,
    ← hkeyword.infix_iff h, hsmall]

theorem class?_of_renders {bytes : Bytes} {name : String} (h : Renders bytes name.toList) :
    classify name = bytes.class? := by
  rw [classify_eq_classBy, Bytes.class?]
  exact classBy_congr fun _ hkeyword hsmall => mentions_of_renders h hkeyword hsmall

/-! ## Names that are read -/

/-- A metric is read with a copy of its name. -/
theorem Vendor.Metric.symbolName_of_params? (m : Metric) {params : MetricParams}
    (h : m.params? = some params) : params.symbolName = m.symbolName.copy := by
  unfold params? at h
  split at h
  · obtain rfl := Option.some.inj h
    rfl
  · cases h

/--
**The bytes of a name decide what is recognized in it.** Whatever bytes a metric has for a symbol
name, up to the first zero byte:

* the metric is read with a name that is copied out of them, with one U+FFFD for each maximal
  invalid part;
* an ASCII keyword stands in that name if and only if it stands in the bytes, letters of either case
  being equal;
* each occurrence in the one is an occurrence in the other, between parts that stand for each other;
* the class of the name, and the channel that it feeds in a sample, are those that a search of the
  bytes comes to.
-/
theorem recognized_by_bytes (bytes : Bytes) :
    ∃ name, Vendor.RawName.copy (some bytes) = some name ∧
      Replaced bytes.cString name.toList ∧
      (∀ (lib : Library) (a : Nat) (id : MetricSetId) (set : Vendor.MetricSet) (i : Nat)
          (m : Vendor.Metric), lib.Serves a id set → set.metrics[i]? = some (some m) →
        m.symbolName = some bytes →
        ∀ params ∈ (Gateway.readMetric id i lib).value.1, params.symbolName = some name) ∧
      (∀ keyword : String, Ascii keyword.toList →
        (Mentions name keyword.toLower ↔ bytes.cString.Mentions keyword) ∧
        (keyword ≠ "" → CarriesOver keyword bytes.cString name.toList)) ∧
      classify name = bytes.cString.class? ∧ sampleChannel name = bytes.cString.channel? := by
  have hreplaced : Replaced bytes.cString bytes.cString.text.toList := by
    rw [Bytes.text, String.toList_ofList]
    exact Text.replaced_iff.2 rfl
  refine ⟨bytes.cString.text, rfl, hreplaced, ?_, ?_⟩
  · intro lib a id set i m hserves hm hbytes params hparams
    obtain ⟨hread, -⟩ := Library.serves_readMetric hserves i
    rw [hread, hm] at hparams
    change m.params? = some params at hparams
    rw [m.symbolName_of_params? hparams, hbytes]
    rfl
  · have hrenders := Text.renders_of_replaced hreplaced
    have hclass := class?_of_renders hrenders
    refine ⟨fun keyword hkeyword => ⟨?_, carriesOver_of_renders hrenders hkeyword⟩, hclass, ?_⟩
    · rw [Mentions, toList_toLower]
      exact hkeyword.infix_iff hrenders
    · rw [sampleChannel, hclass]
      rfl

/-- The name of a metric with a foreign character, a lead byte and a begun surrogate around its
keywords, and a second `busy` that a stray byte breaks. -/
def brokenName : Bytes :=
  [0xE2, 0x82, 0xAC, 0x52, 0x65, 0x6E, 0x44, 0x65, 0x72, 0xC0, 0x62, 0x55, 0x73, 0x79, 0xED, 0xA0,
    0x62, 0x75, 0x80, 0x73, 0x79, 0, 0x75]

/-- The metric is read with that name, and recognized by the `busy` that is whole. -/
theorem recognized_by_bytes_broken :
    let set : Vendor.MetricSet := { metrics := [some { symbolName := some brokenName }] }
    ∃ name, (Gateway.readMetric ⟨0, 0⟩ 0 (Session.offering set).gateway).value.1 =
        some ⟨some name, none, none⟩ ∧
      Mentions name "Busy".toLower ∧ CarriesOver "Busy" brokenName.cString name.toList ∧
      classify name = some ⟨.render, .busy⟩ ∧ sampleChannel name = some .render := by
  intro set
  obtain ⟨name, -, -, hread, hmentions, hclass, hchannel⟩ := recognized_by_bytes brokenName
  obtain ⟨hiff, hcarries⟩ := hmentions "Busy" (by decide)
  have hserves : (Session.offering set).gateway.Serves 0 ⟨0, 0⟩ set :=
    ⟨_, ⟨0, Session.offering.adapter set, rfl, rfl, rfl⟩, rfl⟩
  have hname := hread _ _ _ _ 0 _ hserves rfl rfl ⟨some brokenName.cString.text, none, none⟩ rfl
  refine ⟨name, ?_, hiff.2 (Text.occursIn_iff.1 (by decide)), hcarries (by decide), ?_, ?_⟩
  · rw [← hname]
    rfl
  · rw [hclass]
    decide
  · rw [hchannel]
    decide

end GpuMonitor
