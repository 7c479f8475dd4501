/-!
# Keywords in names

A name mentions a keyword when the keyword stands somewhere in it, letters of
either case being equal. Only the letters `A` to `Z` have two cases here: the
keywords are ASCII, and a foreign letter never stands for an ASCII one.

* `occursIn_iff`: `occursIn` decides the infix relation of lists.
* `mentions`: the search with case folded.
-/

namespace GpuMonitor.Text

/-- `word` stands somewhere in `text`. -/
def occursIn [BEq α] (word : List α) : List α → Bool
  | [] => word.isEmpty
  | c :: rest => word.isPrefixOf (c :: rest) || occursIn word rest

theorem occursIn_iff [BEq α] [LawfulBEq α] {word text : List α} :
    occursIn word text = true ↔ word <:+: text := by
  induction text with
  | nil => simp [occursIn]
  | cons c rest ih => simp [occursIn, List.infix_cons_iff, ih]

/-- `name` mentions the lower-case `keyword`, letters `A` to `Z` counting as `a` to `z`. -/
def mentions (name keyword : List Char) : Bool :=
  occursIn keyword (name.map Char.toLower)

end GpuMonitor.Text
