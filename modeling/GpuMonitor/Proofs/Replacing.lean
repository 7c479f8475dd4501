import GpuMonitor.Text.Utf8
import Mathlib.Algebra.Group.Nat.Defs
import Mathlib.Tactic.Common

/-!
# What reading with replacement makes of bytes

The machine that reads bytes with replacement is held to the form that characters have in UTF-8. The
bytes fall apart into characters and invalid parts in one way only, and the machine reads each
character as it is, and each invalid part as one U+FFFD.

* `Starts`: bytes that stand at the start of a character.
* `Invalid`: a longest part that is no character. It is begun like one and not carried on, or it is
  a byte that no character starts with.
* `Replaced`: characters with U+FFFD for each invalid part.
* `Reads`: what the machine knows of a character from the bytes that it has seen (`begins_begin`,
  `Reads.step`, `Reads.last`).

Main result:

* `replaced_iff`: what is read of some bytes are their characters, replaced in this way.
-/

namespace GpuMonitor.Text

open String (utf8EncodeChar)

/-! ## Characters in UTF-8 -/

/-- The bytes of a character, by the range of its number. -/
theorem utf8EncodeChar_cases (c : Char) :
    (c.toNat < 0x80 ∧ utf8EncodeChar c = [.ofNat c.toNat]) ∨
    (0x80 ≤ c.toNat ∧ c.toNat < 0x800 ∧
      utf8EncodeChar c = [.ofNat (0xC0 + c.toNat / 64), .ofNat (0x80 + c.toNat % 64)]) ∨
    (0x800 ≤ c.toNat ∧ c.toNat < 0x10000 ∧ (c.toNat < 0xD800 ∨ 0xE000 ≤ c.toNat) ∧
      utf8EncodeChar c = [.ofNat (0xE0 + c.toNat / 4096), .ofNat (0x80 + c.toNat / 64 % 64),
        .ofNat (0x80 + c.toNat % 64)]) ∨
    (0x10000 ≤ c.toNat ∧ c.toNat < 0x110000 ∧
      utf8EncodeChar c = [.ofNat (0xF0 + c.toNat / 262144), .ofNat (0x80 + c.toNat / 4096 % 64),
        .ofNat (0x80 + c.toNat / 64 % 64), .ofNat (0x80 + c.toNat % 64)]) := by
  have hvalid : c.toNat < 0xD800 ∨ 0xDFFF < c.toNat ∧ c.toNat < 0x110000 := c.valid
  have hform : utf8EncodeChar c =
      if c.toNat ≤ 127 then [.ofNat c.toNat]
      else if c.toNat ≤ 2047 then
        [.ofNat (c.toNat / 64 % 32 + 192), .ofNat (c.toNat % 64 + 128)]
      else if c.toNat ≤ 65535 then
        [.ofNat (c.toNat / 4096 % 16 + 224), .ofNat (c.toNat / 64 % 64 + 128),
          .ofNat (c.toNat % 64 + 128)]
      else
        [.ofNat (c.toNat / 262144 % 8 + 240), .ofNat (c.toNat / 4096 % 64 + 128),
          .ofNat (c.toNat / 64 % 64 + 128), .ofNat (c.toNat % 64 + 128)] := rfl
  rw [hform]
  by_cases h₁ : c.toNat ≤ 127
  · exact .inl ⟨by omega, if_pos h₁⟩
  by_cases h₂ : c.toNat ≤ 2047
  · refine .inr (.inl ⟨by omega, by omega, ?_⟩)
    rw [if_neg h₁, if_pos h₂, Nat.mod_eq_of_lt (by omega : c.toNat / 64 < 32), Nat.add_comm,
      Nat.add_comm 128]
  by_cases h₃ : c.toNat ≤ 65535
  · refine .inr (.inr (.inl ⟨by omega, by omega, by omega, ?_⟩))
    rw [if_neg h₁, if_neg h₂, if_pos h₃, Nat.mod_eq_of_lt (by omega : c.toNat / 4096 < 16),
      Nat.add_comm 224, Nat.add_comm 128, Nat.add_comm 128]
  · refine .inr (.inr (.inr ⟨by omega, by omega, ?_⟩))
    rw [if_neg h₁, if_neg h₂, if_neg h₃, Nat.mod_eq_of_lt (by omega : c.toNat / 262144 < 8),
      Nat.add_comm 240, Nat.add_comm 128, Nat.add_comm 128, Nat.add_comm 128]

/-- A word with one more byte stands at the start if that byte comes after the word there. -/
theorem prefix_concat_iff {word text : Bytes} {b : UInt8} :
    word ++ [b] <+: text ↔ word <+: text ∧ text[word.length]? = some b := by
  constructor
  · rintro ⟨rest, rfl⟩
    exact ⟨⟨[b] ++ rest, by simp⟩, by simp⟩
  · rintro ⟨⟨rest, rfl⟩, hget⟩
    cases rest with
    | nil => simp at hget
    | cons b' rest =>
      obtain rfl : b' = b := by simpa using hget
      exact ⟨rest, by simp⟩

/-- A byte after the first one has six bits of the number; `left` bytes come after it. -/
theorem utf8EncodeChar_getElem? {c : Char} {n left : Nat} (hn : 0 < n)
    (hlen : (utf8EncodeChar c).length = n + (left + 1)) :
    (utf8EncodeChar c)[n]? = some (.ofNat (0x80 + c.toNat / 64 ^ left % 64)) := by
  rcases utf8EncodeChar_cases c with ⟨-, h⟩ | ⟨-, -, h⟩ | ⟨-, -, -, h⟩ | ⟨-, -, h⟩
  all_goals
    rw [h] at hlen ⊢
    simp only [List.length_cons, List.length_nil] at hlen
  · omega
  · obtain ⟨rfl, rfl⟩ : n = 1 ∧ left = 0 := by omega
    simp
  · obtain ⟨rfl, rfl⟩ | ⟨rfl, rfl⟩ : n = 1 ∧ left = 1 ∨ n = 2 ∧ left = 0 := by omega
    all_goals simp
  · obtain ⟨rfl, rfl⟩ | ⟨rfl, rfl⟩ | ⟨rfl, rfl⟩ :
      n = 1 ∧ left = 2 ∨ n = 2 ∧ left = 1 ∨ n = 3 ∧ left = 0 := by omega
    all_goals simp

/-- The number is that of a character of so many bytes. -/
def Sized (n v : Nat) : Prop :=
  n = 1 ∧ v < 0x80 ∨ n = 2 ∧ 0x80 ≤ v ∧ v < 0x800 ∨
  n = 3 ∧ 0x800 ≤ v ∧ v < 0x10000 ∧ (v < 0xD800 ∨ 0xE000 ≤ v) ∨
  n = 4 ∧ 0x10000 ≤ v ∧ v < 0x110000

theorem sized_two_iff {v : Nat} : Sized 2 v ↔ 0x80 ≤ v ∧ v < 0x800 := by
  simp [Sized]

theorem sized_three_iff {v : Nat} :
    Sized 3 v ↔ 0x800 ≤ v ∧ v < 0x10000 ∧ (v < 0xD800 ∨ 0xE000 ≤ v) := by
  simp [Sized]

theorem sized_four_iff {v : Nat} : Sized 4 v ↔ 0x10000 ≤ v ∧ v < 0x110000 := by
  simp [Sized]

/-- The byte is the first one of the character with that number. -/
def Leads (b : UInt8) (v : Nat) : Prop :=
  v < 0x80 ∧ b.toNat = v ∨ 0x80 ≤ v ∧ v < 0x800 ∧ b.toNat = 0xC0 + v / 64 ∨
  0x800 ≤ v ∧ v < 0x10000 ∧ (v < 0xD800 ∨ 0xE000 ≤ v) ∧ b.toNat = 0xE0 + v / 4096 ∨
  0x10000 ≤ v ∧ v < 0x110000 ∧ b.toNat = 0xF0 + v / 262144

theorem length_eq_iff_sized {c : Char} {n : Nat} :
    (utf8EncodeChar c).length = n ↔ Sized n c.toNat := by
  unfold Sized
  rcases utf8EncodeChar_cases c with ⟨h, hform⟩ | ⟨h, h', hform⟩ | ⟨h, h', h'', hform⟩ |
    ⟨h, h', hform⟩
  all_goals
    have hlen := congrArg List.length hform
    simp only [List.length_cons, List.length_nil] at hlen
    omega

/-- The first byte tells how many there are, and has the first bits of the number. -/
theorem singleton_prefix_iff_leads {b : UInt8} {c : Char} :
    [b] <+: utf8EncodeChar c ↔ Leads b c.toNat := by
  unfold Leads
  rcases utf8EncodeChar_cases c with ⟨h, hform⟩ | ⟨h, h', hform⟩ | ⟨h, h', h'', hform⟩ |
    ⟨h, h', hform⟩
  all_goals
    rw [hform, List.cons_prefix_cons, ← UInt8.toNat_inj, UInt8.toNat_ofNat']
    simp only [List.nil_prefix, and_true]
    omega

theorem toNat_ofNat {n : Nat} (h : n < 0xD800 ∨ 0xE000 ≤ n ∧ n < 0x110000) :
    (Char.ofNat n).toNat = n := by
  have hvalid : n.isValidChar := by
    rcases h with h | h
    · exact .inl h
    · exact .inr ⟨by omega, h.2⟩
  rw [Char.ofNat, dif_pos hvalid]
  rfl

theorem Sized.toNat_ofNat {n v : Nat} (h : Sized n v) : (Char.ofNat v).toNat = v := by
  unfold Sized at h
  exact Text.toNat_ofNat (by omega)

/-- How many bytes there are is told without the bits of the bytes after the second one. -/
theorem Sized.of_div {n left v w : Nat} (h : Sized n v) (hn : left + 2 ≤ n)
    (hv : w / 64 ^ left = v / 64 ^ left) : Sized n w := by
  -- all bounds are multiples of 64, and those of four bytes are multiples of 4096
  unfold Sized at *
  obtain rfl | rfl | rfl : left = 0 ∨ left = 1 ∨ left = 2 := by omega
  all_goals
    simp only [Nat.reducePow, Nat.div_one] at hv
    omega

/-! ## Parts of characters -/

/-- Some character starts with the bytes; it may be more than they are. -/
def Starts (run : Bytes) : Prop := ∃ c, run <+: utf8EncodeChar c

/-- The run is a maximal invalid part, and the rest comes after it: some character starts with it,
or it is a single byte; no character is complete in it, and none starts with it and the next byte.
-/
structure Invalid (run rest : Bytes) : Prop where
  part : run ≠ [] ∧ Starts run ∨ ∃ b, run = [b]
  incomplete : ∀ c, ¬utf8EncodeChar c <+: run
  longest : ∀ b ∈ rest.head?, ¬Starts (run ++ [b])

/-- The characters are those of the bytes, with one U+FFFD for each maximal invalid part. -/
inductive Replaced : Bytes → List Char → Prop where
  | nil : Replaced [] []
  | char (c : Char) {bytes : Bytes} {chars : List Char} (h : Replaced bytes chars) :
    Replaced (utf8EncodeChar c ++ bytes) (c :: chars)
  | invalid (run : Bytes) {bytes : Bytes} {chars : List Char} (hrun : Invalid run bytes)
    (h : Replaced bytes chars) : Replaced (run ++ bytes) (replacement :: chars)

/-! ## The machine -/

/-- The pending bytes start those characters that have a length and begin with some bits. -/
def Started (pending : Bytes) (bits left : Nat) : Prop :=
  ∀ c, pending <+: utf8EncodeChar c ↔
    Sized (pending.length + (left + 1)) c.toNat ∧ c.toNat / 64 ^ (left + 1) = bits

/-- One more byte adds six bits. -/
theorem Started.concat_iff {pending : Bytes} {bits left : Nat} (h : Started pending bits left)
    (hne : pending ≠ []) (b : UInt8) (c : Char) :
    pending ++ [b] <+: utf8EncodeChar c ↔
      Sized (pending.length + (left + 1)) c.toNat ∧ 0x80 ≤ b.toNat ∧ b.toNat ≤ 0xBF ∧
        c.toNat / 64 ^ left = bits * 64 + (b.toNat - 0x80) := by
  rw [prefix_concat_iff, h c, Nat.pow_succ, ← Nat.div_div_eq_div_mul, and_assoc]
  refine and_congr_right fun hsize => ?_
  have hlen := length_eq_iff_sized.2 hsize
  rw [utf8EncodeChar_getElem? (List.length_pos_iff.2 hne) hlen, Option.some.injEq,
    ← UInt8.toNat_inj, UInt8.toNat_ofNat']
  generalize c.toNat / 64 ^ left = v
  omega

/-- It can be a byte if the least number with these bits is that of a character. -/
theorem Started.starts_concat_iff {pending : Bytes} {bits left : Nat}
    (h : Started pending bits left) (hne : pending ≠ []) (b : UInt8) :
    Starts (pending ++ [b]) ↔ (0x80 ≤ b.toNat ∧ b.toNat ≤ 0xBF) ∧
      Sized (pending.length + (left + 1)) ((bits * 64 + (b.toNat - 0x80)) * 64 ^ left) := by
  have hpos := List.length_pos_iff.2 hne
  let v := (bits * 64 + (b.toNat - 0x80)) * 64 ^ left
  have hdiv : v / 64 ^ left = bits * 64 + (b.toNat - 0x80) :=
    Nat.mul_div_cancel _ (Nat.pow_pos (by decide))
  constructor
  · rintro ⟨c, hc⟩
    obtain ⟨hsize, hlow, hhigh, hvalue⟩ := (h.concat_iff hne b c).1 hc
    exact ⟨⟨hlow, hhigh⟩, hsize.of_div (by omega) (hdiv.trans hvalue.symm)⟩
  · rintro ⟨⟨hlow, hhigh⟩, hsize⟩
    refine ⟨Char.ofNat v, (h.concat_iff hne b _).2 ?_⟩
    rw [hsize.toNat_ofNat]
    exact ⟨hsize, hlow, hhigh, hdiv⟩

/-- What has been read of a character, from the bytes that are pending: a character goes on with a
byte if and only if that is within the bounds. -/
structure Reads (pending : Bytes) (bits left : Nat) (low high : UInt8) : Prop where
  ne : pending ≠ []
  started : Started pending bits left
  next_iff : ∀ b, Starts (pending ++ [b]) ↔ low ≤ b ∧ b ≤ high
  bounds : low ≤ high

namespace Reads
variable {pending : Bytes} {bits left : Nat} {low high : UInt8}

theorem starts (h : Reads pending bits left low high) : Starts pending := by
  obtain ⟨c, hc⟩ := (h.next_iff low).2 ⟨UInt8.le_refl _, h.bounds⟩
  exact ⟨c, (List.prefix_append ..).trans hc⟩

/-- The last byte makes the character complete. -/
theorem last (h : Reads pending bits 0 low high) {b : UInt8} (hb : low ≤ b ∧ b ≤ high) :
    utf8EncodeChar (Char.ofNat (bits * 64 + (b.toNat - 0x80))) = pending ++ [b] := by
  obtain ⟨c, hc⟩ := (h.next_iff b).2 hb
  obtain ⟨hsize, -, -, hvalue⟩ := (h.started.concat_iff h.ne b c).1 hc
  have hlen := length_eq_iff_sized.2 hsize
  rw [Nat.pow_zero, Nat.div_one] at hvalue
  rw [← hvalue, Char.ofNat_toNat]
  exact (hc.eq_of_length (by simp [hlen])).symm

/-- Any other byte leaves it begun. -/
theorem step (h : Reads pending bits (left + 1) low high) {b : UInt8} (hb : low ≤ b ∧ b ≤ high) :
    Reads (pending ++ [b]) (bits * 64 + (b.toNat - 0x80)) left 0x80 0xBF := by
  obtain ⟨c, hc⟩ := (h.next_iff b).2 hb
  obtain ⟨hsize, hlow, hhigh, hvalue⟩ := (h.started.concat_iff h.ne b c).1 hc
  have hlength : (pending ++ [b]).length + (left + 1) = pending.length + (left + 2) := by
    simp only [List.length_append, List.length_singleton]
    omega
  have hstarted : Started (pending ++ [b]) (bits * 64 + (b.toNat - 0x80)) left := by
    intro c
    rw [h.started.concat_iff h.ne, hlength]
    simp only [hlow, hhigh, true_and]
  refine ⟨by simp, hstarted, fun b' => ?_, by decide⟩
  rw [hstarted.starts_concat_iff (by simp), UInt8.le_iff_toNat_le, UInt8.le_iff_toNat_le, hlength]
  refine and_iff_left_of_imp fun hb' => ?_
  -- any byte may come here, since the number of bytes is settled before it
  have hpos := List.length_pos_iff.2 h.ne
  refine hsize.of_div (by omega : left + 1 + 2 ≤ _) ?_
  rw [hvalue, Nat.pow_succ, ← Nat.div_div_eq_div_mul, Nat.mul_div_cancel _ (Nat.pow_pos (by decide))]
  omega

/-- A first byte is told by the numbers of the characters that it leads. -/
theorem of_leads {b : UInt8}
    (hlead : ∀ v, Leads b v ↔ Sized (left + 2) v ∧ v / 64 ^ (left + 1) = bits)
    (hnext : ∀ x < 64, Sized (left + 2) ((bits * 64 + x) * 64 ^ left) ↔
      low.toNat ≤ 0x80 + x ∧ 0x80 + x ≤ high.toNat)
    (hbounds : 0x80 ≤ low.toNat ∧ low ≤ high ∧ high.toNat ≤ 0xBF) :
    Reads [b] bits left low high := by
  have hlength : [b].length + (left + 1) = left + 2 := by
    rw [List.length_singleton]
    omega
  have hstarted : Started [b] bits left := by
    intro c
    rw [singleton_prefix_iff_leads, hlead, hlength]
  refine ⟨nofun, hstarted, fun b' => ?_, hbounds.2.1⟩
  rw [hstarted.starts_concat_iff nofun, UInt8.le_iff_toNat_le, UInt8.le_iff_toNat_le, hlength]
  constructor
  · rintro ⟨⟨hlow, hhigh⟩, hsize⟩
    have hrange := (hnext _ (by omega)).1 hsize
    omega
  · rintro ⟨hlow, hhigh⟩
    exact ⟨by omega, (hnext _ (by omega)).2 (by omega)⟩

end Reads

/-- What comes of a byte at the start of a character. -/
inductive Begins (b : UInt8) : List Char × Partial → Prop where
  | whole {c : Char} (h : utf8EncodeChar c = [b]) : Begins b ([c], .ready)
  | invalid (h : ¬Starts [b]) : Begins b ([replacement], .ready)
  | begun {bits left : Nat} {low high : UInt8} (h : Reads [b] bits left low high) :
    Begins b ([], .within bits left low high)

theorem utf8EncodeChar_of_lt {b : UInt8} (hb : b.toNat < 0x80) :
    utf8EncodeChar (Char.ofNat b.toNat) = [b] := by
  have hvalue : (Char.ofNat b.toNat).toNat = b.toNat := toNat_ofNat (by omega)
  rcases utf8EncodeChar_cases (Char.ofNat b.toNat) with ⟨-, h⟩ | ⟨h, -⟩ | ⟨h, -⟩ | ⟨h, -⟩
  · rw [h, hvalue, UInt8.ofNat_toNat]
  all_goals omega

section
variable {b low high : UInt8} {bits : Nat}

/-- A first byte of two. -/
theorem reads_two (hb : b.toNat = 0xC0 + bits) (hbits : 2 ≤ bits ∧ bits < 0x20) :
    Reads [b] bits 0 0x80 0xBF := by
  refine .of_leads (fun v => ?_) (fun x hx => ?_) (by decide)
  · simp only [Leads, Nat.reduceAdd, Nat.reducePow, sized_two_iff]
    omega
  · simp only [Nat.reduceAdd, Nat.pow_zero, Nat.mul_one, sized_two_iff, UInt8.reduceToNat]
    omega

/-- A first byte of three; what may come next are the numbers of three bytes. -/
theorem reads_three (hb : b.toNat = 0xE0 + bits) (hbits : bits < 0x10)
    (hnext : ∀ x < 64, (0x800 ≤ (bits * 64 + x) * 64 ∧
      ((bits * 64 + x) * 64 < 0xD800 ∨ 0xE000 ≤ (bits * 64 + x) * 64)) ↔
      low.toNat ≤ 0x80 + x ∧ 0x80 + x ≤ high.toNat)
    (hbounds : 0x80 ≤ low.toNat ∧ low ≤ high ∧ high.toNat ≤ 0xBF) : Reads [b] bits 1 low high := by
  refine .of_leads (fun v => ?_) (fun x hx => ?_) hbounds
  · simp only [Leads, Nat.reduceAdd, Nat.reducePow, sized_three_iff]
    omega
  · rw [← hnext x hx, Nat.pow_one, sized_three_iff]
    omega

/-- A first byte of four. -/
theorem reads_four (hb : b.toNat = 0xF0 + bits) (hbits : bits < 5)
    (hnext : ∀ x < 64, (0x10000 ≤ (bits * 64 + x) * 4096 ∧ (bits * 64 + x) * 4096 < 0x110000) ↔
      low.toNat ≤ 0x80 + x ∧ 0x80 + x ≤ high.toNat)
    (hbounds : 0x80 ≤ low.toNat ∧ low ≤ high ∧ high.toNat ≤ 0xBF) : Reads [b] bits 2 low high := by
  refine .of_leads (fun v => ?_) (fun x hx => ?_) hbounds
  · simp only [Leads, Nat.reduceAdd, Nat.reducePow, sized_four_iff]
    omega
  · rw [← hnext x hx]
    simp only [Nat.reduceAdd, Nat.reducePow, sized_four_iff]

end

theorem begins_begin (b : UInt8) : Begins b (begin b) := by
  have hlt (n : UInt8) : b < n ↔ b.toNat < n.toNat := UInt8.lt_iff_toNat_lt
  have heq (n : UInt8) : b = n ↔ b.toNat = n.toNat := UInt8.toNat_inj.symm
  have hinvalid (h : ∀ v, ¬Leads b v) : Begins b ([replacement], .ready) :=
    .invalid fun ⟨c, hc⟩ => h c.toNat (singleton_prefix_iff_leads.1 hc)
  unfold begin
  simp only [hlt, heq, UInt8.reduceToNat]
  split
  · next h => exact .whole (utf8EncodeChar_of_lt h)
  split
  · refine hinvalid fun v => ?_
    unfold Leads
    omega
  -- the leads of two, three and four bytes, in the order of their values
  split
  · exact .begun (reads_two (by omega) (by omega))
  split
  · exact .begun (reads_three (by omega) (by omega) (by simp only [UInt8.reduceToNat]; omega)
      (by decide))
  split
  · exact .begun (reads_three (by omega) (by omega) (by simp only [UInt8.reduceToNat]; omega)
      (by decide))
  split
  · exact .begun (reads_three (by omega) (by omega) (by simp only [UInt8.reduceToNat]; omega)
      (by decide))
  split
  · exact .begun (reads_four (by omega) (by omega) (by simp only [UInt8.reduceToNat]; omega)
      (by decide))
  split
  · exact .begun (reads_four (by omega) (by omega) (by simp only [UInt8.reduceToNat]; omega)
      (by decide))
  split
  · exact .begun (reads_four (by omega) (by omega) (by simp only [UInt8.reduceToNat]; omega)
      (by decide))
  · refine hinvalid fun v => ?_
    unfold Leads
    omega

/-! ## Reading -/

theorem eq_of_prefix_utf8EncodeChar {c c' : Char} (h : utf8EncodeChar c <+: utf8EncodeChar c') :
    c = c' := by
  obtain ⟨rest, hrest⟩ := h
  have hleft : ((utf8EncodeChar c).toByteArray ++ rest.toByteArray).utf8DecodeChar? 0 = some c :=
    ByteArray.utf8DecodeChar?_utf8EncodeChar_append
  have hright : ((utf8EncodeChar c').toByteArray ++ [].toByteArray).utf8DecodeChar? 0 = some c' :=
    ByteArray.utf8DecodeChar?_utf8EncodeChar_append
  rw [← List.toByteArray_append, hrest] at hleft
  rw [← List.toByteArray_append, List.append_nil, hleft] at hright
  exact Option.some.inj hright

theorem eq_of_append {c c' : Char} {bytes bytes' : Bytes}
    (h : utf8EncodeChar c ++ bytes = utf8EncodeChar c' ++ bytes') : c = c' := by
  have hleft : utf8EncodeChar c <+: utf8EncodeChar c' ++ bytes' := ⟨bytes, h⟩
  rcases List.prefix_or_prefix_of_prefix hleft (List.prefix_append ..) with h | h
  · exact eq_of_prefix_utf8EncodeChar h
  · exact (eq_of_prefix_utf8EncodeChar h).symm

/-- A character that is begun is no character, and it is a longest part if the next byte does not
carry it on. -/
theorem Reads.invalid {pending rest : Bytes} {bits left : Nat} {low high : UInt8}
    (h : Reads pending bits left low high) (hrest : ∀ b ∈ rest.head?, ¬(low ≤ b ∧ b ≤ high)) :
    Invalid pending rest where
  part := .inl ⟨h.ne, h.starts⟩
  incomplete c hc := by
    obtain ⟨c', hc'⟩ := h.starts
    obtain rfl := eq_of_prefix_utf8EncodeChar (hc.trans hc')
    have hsize := ((h.started c).1 hc').1
    have hlen := hc.length_le
    rw [length_eq_iff_sized.2 hsize] at hlen
    omega
  longest b hb hstarts := hrest b hb ((h.next_iff b).1 hstarts)

theorem Invalid.of_not_starts {b : UInt8} (h : ¬Starts [b]) (rest : Bytes) : Invalid [b] rest where
  part := .inr ⟨b, rfl⟩
  incomplete c hc := by
    have hne : utf8EncodeChar c ≠ [] := String.utf8EncodeChar_ne_nil
    have hlen : [b].length ≤ (utf8EncodeChar c).length := List.length_pos_iff.2 hne
    exact h ⟨c, (hc.eq_of_length (Nat.le_antisymm hc.length_le hlen)) ▸ List.prefix_rfl⟩
  longest _ _ := fun ⟨c, hc⟩ => h ⟨c, (List.prefix_append ..).trans hc⟩

/-- What is pending: nothing, or a character that is begun. -/
def Partial.Holds : Partial → Bytes → Prop
  | .ready, pending => pending = []
  | .within bits left low high, pending => Reads pending bits left low high

/-- What is read from some way into a character on. -/
theorem replaced_decode (p : Partial) (pending : Bytes) (hp : p.Holds pending) (bytes : Bytes) :
    Replaced (pending ++ bytes) (p.decode bytes) := by
  -- on the bytes; what is pending is carried on, or else it is invalid
  induction bytes generalizing p pending with
  | nil =>
    cases p with
    | ready =>
      obtain rfl := hp
      exact .nil
    | within bits left low high => exact .invalid pending (Reads.invalid hp nofun) .nil
  | cons b rest ih =>
    have hnext : Replaced rest (Partial.ready.decode rest) := ih .ready [] rfl
    have hready : Replaced (b :: rest) (Partial.ready.decode (b :: rest)) := by
      have hdecode : Partial.ready.decode (b :: rest) =
          (begin b).1 ++ (begin b).2.decode rest := rfl
      rw [hdecode]
      have hfirst := begins_begin b
      generalize begin b = first at hfirst
      cases hfirst with
      | @whole c h =>
        have hchar := Replaced.char c hnext
        rwa [h] at hchar
      | invalid h => exact .invalid [b] (.of_not_starts h rest) hnext
      | begun h => exact ih _ [b] h
    cases p with
    | ready =>
      obtain rfl := hp
      exact hready
    | within bits left low high =>
      by_cases hb : low ≤ b ∧ b ≤ high
      · rw [List.append_cons]
        cases left with
        | zero =>
          have hdecode : (Partial.within bits 0 low high).decode (b :: rest) =
              Char.ofNat (bits * 64 + (b.toNat - 0x80)) :: Partial.ready.decode rest := by
            simp [Partial.decode, Partial.advance, hb]
          rw [hdecode, ← Reads.last hp hb]
          exact .char _ hnext
        | succ left =>
          have hdecode : (Partial.within bits (left + 1) low high).decode (b :: rest) =
              (Partial.within (bits * 64 + (b.toNat - 0x80)) left 0x80 0xBF).decode rest := by
            simp [Partial.decode, Partial.advance, hb]
          rw [hdecode]
          exact ih _ _ (Reads.step hp hb)
      · -- what was begun is replaced, and the byte is read afresh
        have hdecode : (Partial.within bits left low high).decode (b :: rest) =
            replacement :: Partial.ready.decode (b :: rest) := by
          simp [Partial.decode, Partial.advance, hb]
        rw [hdecode]
        exact .invalid pending (Reads.invalid hp (by simpa using hb)) hready

namespace Invalid
variable {run rest : Bytes} (h : Invalid run rest)
include h

theorem ne : run ≠ [] := by
  rcases h.part with ⟨hne, -⟩ | ⟨b, rfl⟩
  · exact hne
  · exact nofun

/-- What goes on behind the part is no start of a character. -/
theorem not_starts {b : UInt8} {more other : Bytes} (hrest : rest = b :: more ++ other) :
    ¬Starts (run ++ b :: more) := by
  rintro ⟨c, hc⟩
  refine h.longest b (by simp [hrest]) ⟨c, List.IsPrefix.trans ?_ hc⟩
  exact ⟨more, by simp⟩

/-- No character stands where the part does. -/
theorem ne_char (c : Char) (bytes : Bytes) : run ++ rest ≠ utf8EncodeChar c ++ bytes := by
  intro heq
  rcases List.append_eq_append_iff.1 heq with ⟨more, hmore, hrest⟩ | ⟨more, hmore, -⟩
  · cases more with
    | nil => exact h.incomplete c ⟨[], by simpa using hmore⟩
    | cons b more => exact h.not_starts hrest ⟨c, hmore ▸ List.prefix_rfl⟩
  · exact h.incomplete c ⟨more, hmore.symm⟩

/-- No longer invalid part stands there. -/
theorem eq_nil {run' rest' more : Bytes} (h' : Invalid run' rest') (hrun : run' = run ++ more)
    (hrest : rest = more ++ rest') : more = [] := by
  cases more with
  | nil => rfl
  | cons b more =>
    rcases h'.part with ⟨-, hstarts⟩ | ⟨b', hb'⟩
    · exact absurd (hrun ▸ hstarts) (h.not_starts hrest)
    · -- a part of one byte is no longer than another
      have hlen := congrArg List.length (hb'.symm.trans hrun)
      have hpos := List.length_pos_iff.2 h.ne
      simp only [List.length_append, List.length_cons, List.length_nil] at hlen
      omega

/-- One invalid part stands there. -/
theorem unique {run' rest' : Bytes} (h' : Invalid run' rest') (heq : run ++ rest = run' ++ rest') :
    run = run' := by
  rcases List.append_eq_append_iff.1 heq with ⟨more, hmore, hrest⟩ | ⟨more, hmore, hrest⟩
  · rw [hmore, h.eq_nil h' hmore hrest, List.append_nil]
  · rw [hmore, h'.eq_nil h hmore hrest, List.append_nil]

end Invalid

namespace Replaced
variable {bytes : Bytes} {chars chars' : List Char}

/-- What the bytes begin with, for each way of reading them. -/
theorem head_cases (h : Replaced bytes chars) :
    bytes = [] ∧ chars = [] ∨
    (∃ c rest chars', bytes = utf8EncodeChar c ++ rest ∧ chars = c :: chars' ∧
      Replaced rest chars') ∨
    ∃ run rest chars', bytes = run ++ rest ∧ chars = replacement :: chars' ∧ Invalid run rest ∧
      Replaced rest chars' := by
  cases h with
  | nil => exact .inl ⟨rfl, rfl⟩
  | char c h => exact .inr (.inl ⟨c, _, _, rfl, rfl, h⟩)
  | invalid run hrun h => exact .inr (.inr ⟨run, _, _, rfl, rfl, hrun, h⟩)

/-- There is one way to read some bytes. -/
theorem unique (h : Replaced bytes chars) (h' : Replaced bytes chars') : chars = chars' := by
  induction h generalizing chars' with
  | nil =>
    rcases h'.head_cases with ⟨-, rfl⟩ | ⟨c, rest, chars', hsplit, -⟩ |
      ⟨run, rest, chars', hsplit, -, hrun, -⟩
    · rfl
    · exact absurd (List.append_eq_nil_iff.1 hsplit.symm).1 String.utf8EncodeChar_ne_nil
    · exact absurd (List.append_eq_nil_iff.1 hsplit.symm).1 hrun.ne
  | char c h ih =>
    rcases h'.head_cases with ⟨hnil, -⟩ | ⟨c', rest, chars', hsplit, rfl, hrest⟩ |
      ⟨run, rest, chars', hsplit, -, hrun, -⟩
    · exact absurd (List.append_eq_nil_iff.1 hnil).1 String.utf8EncodeChar_ne_nil
    · obtain rfl := eq_of_append hsplit
      rw [ih (List.append_cancel_left hsplit ▸ hrest)]
    · exact absurd hsplit.symm (hrun.ne_char c _)
  | invalid run hrun h ih =>
    rcases h'.head_cases with ⟨hnil, -⟩ | ⟨c, rest, chars', hsplit, -⟩ |
      ⟨run', rest, chars', hsplit, rfl, hrun', hrest⟩
    · exact absurd (List.append_eq_nil_iff.1 hnil).1 hrun.ne
    · exact absurd hsplit (hrun.ne_char c _)
    · obtain rfl := hrun.unique hrun' hsplit
      rw [ih (List.append_cancel_left hsplit ▸ hrest)]

end Replaced

/-- **Reading with replacement.** It gives the characters of the bytes, with one U+FFFD for each
maximal invalid part, and nothing else is such a reading. -/
theorem replaced_iff {bytes : Bytes} {chars : List Char} :
    Replaced bytes chars ↔ decodeLossy bytes = chars := by
  have hread : Replaced bytes (decodeLossy bytes) := replaced_decode .ready [] rfl bytes
  constructor
  · exact hread.unique
  · rintro rfl
    exact hread

end GpuMonitor.Text
