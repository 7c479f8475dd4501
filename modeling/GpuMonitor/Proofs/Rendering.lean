import GpuMonitor.Proofs.Replacing
import GpuMonitor.Text.Keyword

/-!
# What reading with replacement does to ASCII

Reading bytes with replacement takes each ASCII byte as the character that it is. Every other
character that comes of it, the replacement included, is foreign to ASCII and stands for some bytes
that are foreign to it as well. So no ASCII byte is lost, and no two of them come to stand next to
each other that did not before.

* `Renders`: characters that stand for bytes in this way (`renders_of_replaced`).
* `Renders.split_bytes`, `Renders.split_chars`: an occurrence of an ASCII word in the bytes is one
  in the characters, and the other way around. `Renders.infix_iff` tells no more than that there is
  one.
-/

namespace GpuMonitor.Text

/-- The character of an ASCII byte. -/
def asciiChar (b : UInt8) : Char := Char.ofNat b.toNat

/-- The byte of an ASCII character. -/
def asciiByte (c : Char) : UInt8 := UInt8.ofNat c.toNat

/-- The characters stand for the bytes: each ASCII byte for itself, and each foreign character for
some foreign bytes. -/
inductive Renders : Bytes → List Char → Prop where
  | nil : Renders [] []
  | ascii {b : UInt8} {bytes : Bytes} {chars : List Char} (hb : b < 0x80)
    (h : Renders bytes chars) : Renders (b :: bytes) (asciiChar b :: chars)
  | foreign (run : Bytes) {bytes : Bytes} {c : Char} {chars : List Char} (hrun : run ≠ [])
    (hbytes : ∀ b ∈ run, ¬b < 0x80) (hc : 0x80 ≤ c.toNat) (h : Renders bytes chars) :
    Renders (run ++ bytes) (c :: chars)

/-! ## ASCII characters -/

theorem toNat_asciiChar (b : UInt8) : (asciiChar b).toNat = b.toNat := by
  have hb := b.toNat_lt
  exact toNat_ofNat (.inl (by omega))

theorem toNat_asciiByte {c : Char} (hc : c.toNat < 0x80) : (asciiByte c).toNat = c.toNat := by
  rw [asciiByte, UInt8.toNat_ofNat']
  omega

theorem asciiByte_lt {c : Char} (hc : c.toNat < 0x80) : asciiByte c < 0x80 := by
  rw [UInt8.lt_iff_toNat_lt, toNat_asciiByte hc]
  exact hc

theorem asciiChar_asciiByte {c : Char} (hc : c.toNat < 0x80) : asciiChar (asciiByte c) = c := by
  rw [asciiChar, toNat_asciiByte hc, Char.ofNat_toNat]

theorem asciiChar_inj {b b' : UInt8} (h : asciiChar b = asciiChar b') : b = b' := by
  have hnat := congrArg Char.toNat h
  rw [toNat_asciiChar, toNat_asciiChar] at hnat
  exact UInt8.toNat_inj.1 hnat

/-- A foreign character is that of no ASCII byte. -/
theorem asciiChar_ne {b : UInt8} {c : Char} (hb : b < 0x80) (hc : 0x80 ≤ c.toNat) :
    asciiChar b ≠ c := by
  rintro rfl
  rw [toNat_asciiChar] at hc
  have hlt := UInt8.lt_iff_toNat_lt.1 hb
  exact absurd hlt (Nat.not_lt.2 hc)

/-! ## Reading -/

/-- All bytes of a foreign character are foreign. -/
theorem utf8EncodeChar_foreign {c : Char} (hc : 0x80 ≤ c.toNat) :
    ∀ b ∈ String.utf8EncodeChar c, ¬b < 0x80 := by
  intro b hb hlt
  have hlt' : b.toNat < 0x80 := UInt8.lt_iff_toNat_lt.1 hlt
  rcases utf8EncodeChar_cases c with ⟨h, -⟩ | ⟨-, _, h⟩ | ⟨-, _, -, h⟩ | ⟨-, _, h⟩
  · omega
  all_goals
    rw [h] at hb
    simp only [List.mem_cons, List.not_mem_nil, or_false, ← UInt8.toNat_inj,
      UInt8.toNat_ofNat'] at hb
    omega

/-- So are those of an invalid part, since an ASCII byte is a character. -/
theorem Invalid.foreign {run rest : Bytes} (h : Invalid run rest) : ∀ b ∈ run, ¬b < 0x80 := by
  intro b hb hlt
  have hwhole := utf8EncodeChar_of_lt (UInt8.lt_iff_toNat_lt.1 hlt)
  rcases h.part with ⟨hne, c, hc⟩ | ⟨b', rfl⟩
  · by_cases hascii : c.toNat < 0x80
    · refine h.incomplete c (hc.eq_of_length ?_ ▸ List.prefix_rfl)
      have hlen := length_eq_iff_sized.2 (.inl ⟨rfl, hascii⟩ : Sized 1 c.toNat)
      have hpos := List.length_pos_iff.2 hne
      have hle := hc.length_le
      omega
    · exact utf8EncodeChar_foreign (by omega) b (hc.subset hb) hlt
  · obtain rfl := List.mem_singleton.1 hb
    exact h.incomplete (Char.ofNat b.toNat) ⟨[], by rw [hwhole, List.append_nil]⟩

/-- What is read of some bytes with replacement stands for them. -/
theorem renders_of_replaced {bytes : Bytes} {chars : List Char} (h : Replaced bytes chars) :
    Renders bytes chars := by
  induction h with
  | nil => exact .nil
  | char c _ ih =>
    by_cases hc : c.toNat < 0x80
    · have hb := asciiByte_lt hc
      have hform : String.utf8EncodeChar (asciiChar (asciiByte c)) = [asciiByte c] :=
        utf8EncodeChar_of_lt (UInt8.lt_iff_toNat_lt.1 hb)
      rw [← asciiChar_asciiByte hc, hform]
      exact .ascii hb ih
    · have hc' : 0x80 ≤ c.toNat := Nat.not_lt.1 hc
      exact .foreign _ String.utf8EncodeChar_ne_nil (utf8EncodeChar_foreign hc') hc' ih
  | invalid run hrun _ ih => exact .foreign run hrun.ne hrun.foreign (by decide) ih

/-! ## Letter case -/

/-- The byte with the letters `A` to `Z` made small. -/
def lowerByte (b : UInt8) : UInt8 := if 0x41 ≤ b ∧ b ≤ 0x5A then b + 0x20 else b

/-- Small letters are ASCII, as capital ones are, and have the small character. -/
theorem lowerByte_ascii {b : UInt8} (hb : b < 0x80) :
    lowerByte b < 0x80 ∧ asciiChar (lowerByte b) = (asciiChar b).toLower := by
  have hall : ∀ n : Fin 128, lowerByte (.ofNat n) < 0x80 ∧
      asciiChar (lowerByte (.ofNat n)) = (asciiChar (.ofNat n)).toLower := by
    decide
  have hlt := UInt8.lt_iff_toNat_lt.1 hb
  have hb' : UInt8.ofNat b.toNat = b := UInt8.ofNat_toNat
  rw [← hb']
  exact hall ⟨b.toNat, hlt⟩

/-- A foreign byte has no letter case. -/
theorem lowerByte_foreign {b : UInt8} (hb : ¬b < 0x80) : lowerByte b = b := by
  refine if_neg fun h => hb ?_
  exact UInt8.lt_of_le_of_lt h.2 (by decide)

/-- A foreign character has none here. -/
theorem toLower_foreign {c : Char} (hc : 0x80 ≤ c.toNat) : c.toLower = c := by
  refine dif_neg fun h => ?_
  have hle : c.toNat ≤ 90 := UInt32.le_iff_toNat_le.1 h.2
  omega

/-- Characters whose letters are made small stand for the bytes whose letters are. -/
theorem Renders.fold {bytes : Bytes} {chars : List Char} (h : Renders bytes chars) :
    Renders (bytes.map lowerByte) (chars.map Char.toLower) := by
  induction h with
  | nil => exact .nil
  | ascii hb _ ih =>
    obtain ⟨hlower, hchar⟩ := lowerByte_ascii hb
    rw [List.map_cons, List.map_cons, ← hchar]
    exact .ascii hlower ih
  | foreign run hrun hbytes hc _ ih =>
    have hsame : run.map lowerByte = run := by
      rw [List.map_congr_left fun b hb => lowerByte_foreign (hbytes b hb), List.map_id']
    rw [List.map_append, hsame, List.map_cons, toLower_foreign hc]
    exact .foreign run hrun hbytes hc ih

/-! ## Occurrences -/

namespace Renders

variable {bytes : Bytes} {chars : List Char} {word : Bytes} (hword : ∀ b ∈ word, b < 0x80)
include hword

/-- An ASCII word at the start of the bytes is one at the start of the characters. -/
theorem prefix_bytes (h : Renders bytes chars) {after : Bytes} (hbytes : bytes = word ++ after) :
    ∃ after', chars = word.map asciiChar ++ after' ∧ Renders after after' := by
  induction word generalizing bytes chars with
  | nil =>
    subst hbytes
    exact ⟨chars, rfl, h⟩
  | cons w word ih =>
    obtain ⟨hw, hrest⟩ := List.forall_mem_cons.1 hword
    cases h with
    | nil => cases hbytes
    | ascii hb h =>
      obtain ⟨rfl, htail⟩ := List.cons.inj hbytes
      obtain ⟨after', rfl, hafter⟩ := ih hrest h htail
      exact ⟨after', rfl, hafter⟩
    | foreign run hrun hforeign hc h =>
      obtain ⟨b, run, rfl⟩ := List.exists_cons_of_ne_nil hrun
      obtain ⟨rfl, -⟩ := List.cons.inj hbytes
      exact absurd hw (hforeign b List.mem_cons_self)

theorem prefix_chars (h : Renders bytes chars) {after : List Char}
    (hchars : chars = word.map asciiChar ++ after) :
    ∃ after', bytes = word ++ after' ∧ Renders after' after := by
  induction word generalizing bytes chars with
  | nil =>
    subst hchars
    exact ⟨bytes, rfl, h⟩
  | cons w word ih =>
    obtain ⟨hw, hrest⟩ := List.forall_mem_cons.1 hword
    cases h with
    | nil => cases hchars
    | ascii hb h =>
      obtain ⟨hfirst, htail⟩ := List.cons.inj hchars
      obtain rfl := asciiChar_inj hfirst
      obtain ⟨after', rfl, hafter⟩ := ih hrest h htail
      exact ⟨after', rfl, hafter⟩
    | foreign run hrun hforeign hc h =>
      obtain ⟨hfirst, -⟩ := List.cons.inj hchars
      exact absurd hfirst.symm (asciiChar_ne hw hc)

variable (hne : word ≠ [])
include hne

/-- An occurrence of an ASCII word in the bytes is one in the characters, and what stands before and
behind it does so there. -/
theorem split_bytes (h : Renders bytes chars) {before after : Bytes}
    (hbytes : bytes = before ++ (word ++ after)) :
    ∃ before' after', chars = before' ++ (word.map asciiChar ++ after') ∧
      Renders before before' ∧ Renders after after' := by
  induction h generalizing before with
  | nil => simp [hne] at hbytes
  | ascii hb h ih =>
    cases before with
    | nil =>
      obtain ⟨after', hchars, hafter⟩ := prefix_bytes hword (.ascii hb h) hbytes
      exact ⟨[], after', hchars, .nil, hafter⟩
    | cons b before =>
      obtain ⟨rfl, hrest⟩ := List.cons.inj hbytes
      obtain ⟨before', after', rfl, hbefore, hafter⟩ := ih hrest
      exact ⟨_ :: before', after', rfl, .ascii hb hbefore, hafter⟩
  | foreign run hrun hforeign hc h ih =>
    -- the word begins with an ASCII byte, and so it cannot begin among these bytes
    obtain ⟨w, word, rfl⟩ := List.exists_cons_of_ne_nil hne
    obtain ⟨rest, rfl, hrest⟩ :
        ∃ rest, before = run ++ rest ∧ _ = rest ++ (w :: word ++ after) := by
      rcases List.append_eq_append_iff.1 hbytes with hrest | ⟨rest, hrun', hrest⟩
      · exact hrest
      · cases rest with
        | nil => exact ⟨[], by simpa using hrun'.symm, hrest.symm⟩
        | cons b rest =>
          obtain ⟨rfl, -⟩ := List.cons.inj hrest
          have hmem : w ∈ run := by simp [hrun']
          exact absurd (hword w List.mem_cons_self) (hforeign w hmem)
    obtain ⟨before', after', rfl, hbefore, hafter⟩ := ih hrest
    exact ⟨_ :: before', after', rfl, .foreign run hrun hforeign hc hbefore, hafter⟩

theorem split_chars (h : Renders bytes chars) {before after : List Char}
    (hchars : chars = before ++ (word.map asciiChar ++ after)) :
    ∃ before' after', bytes = before' ++ (word ++ after') ∧
      Renders before' before ∧ Renders after' after := by
  induction h generalizing before with
  | nil => simp [hne] at hchars
  | ascii hb h ih =>
    cases before with
    | nil =>
      obtain ⟨after', hbytes, hafter⟩ := prefix_chars hword (.ascii hb h) hchars
      exact ⟨[], after', hbytes, .nil, hafter⟩
    | cons c before =>
      obtain ⟨rfl, hrest⟩ := List.cons.inj hchars
      obtain ⟨before', after', rfl, hbefore, hafter⟩ := ih hrest
      exact ⟨_ :: before', after', rfl, .ascii hb hbefore, hafter⟩
  | foreign run hrun hforeign hc h ih =>
    cases before with
    | nil =>
      obtain ⟨w, word, rfl⟩ := List.exists_cons_of_ne_nil hne
      obtain ⟨hfirst, -⟩ := List.cons.inj hchars
      exact absurd hfirst.symm (asciiChar_ne (hword w List.mem_cons_self) hc)
    | cons c before =>
      obtain ⟨rfl, hrest⟩ := List.cons.inj hchars
      obtain ⟨before', after', rfl, hbefore, hafter⟩ := ih hrest
      exact ⟨run ++ before', after', by rw [List.append_assoc],
        .foreign run hrun hforeign hc hbefore, hafter⟩

omit hne in
/-- An ASCII word stands in the characters if and only if it stands in the bytes. -/
theorem infix_iff (h : Renders bytes chars) : word.map asciiChar <:+: chars ↔ word <:+: bytes := by
  by_cases hne : word = []
  · subst hne
    exact iff_of_true List.nil_infix List.nil_infix
  constructor
  · rintro ⟨before, after, hchars⟩
    rw [List.append_assoc] at hchars
    obtain ⟨before', after', rfl, -, -⟩ := split_chars hword hne h hchars.symm
    exact ⟨before', after', by rw [List.append_assoc]⟩
  · rintro ⟨before, after, hbytes⟩
    rw [List.append_assoc] at hbytes
    obtain ⟨before', after', rfl, -, -⟩ := split_bytes hword hne h hbytes.symm
    exact ⟨before', after', by rw [List.append_assoc]⟩

end Renders
end GpuMonitor.Text
