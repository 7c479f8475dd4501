import GpuMonitor.Binary64

/-!
# How alike two words are

Jaro's measure: characters match when they are equal and not too far apart; the measure
is the mean of the share of matches in either word and the share of matches that stand
in the same order in both. It is computed in double precision, term by term.

* `matching`: which characters of the two words match.
* `similarity`: the measure; 0 for words without a match, 1 for equal words.
-/

namespace GpuMonitor.Text

/-- Marks the first unmarked place from `low` up to but not including `high` where `c`
stands; the list gives each character with its mark. -/
def markFirst (c : Char) (low high : Nat) : Nat → List (Char × Bool) → Option (List (Char × Bool))
  | _, [] => none
  | place, (d, used) :: rest =>
    if high ≤ place then none
    else if low ≤ place ∧ d = c ∧ used = false then some ((d, true) :: rest)
    else (markFirst c low high (place + 1) rest).map ((d, used) :: ·)

/-- Goes through a word from a place on and gives the characters of it that match, with
the other word marked at theirs; matches are at most `reach` places apart. -/
def matching (reach : Nat) : Nat → List Char → List (Char × Bool) → List Char × List (Char × Bool)
  | _, [], marked => ([], marked)
  | place, c :: rest, marked =>
    match markFirst c (place - reach) (place + reach + 1) 0 marked with
    | none => matching reach (place + 1) rest marked
    | some marked =>
      let (found, marked) := matching reach (place + 1) rest marked
      (c :: found, marked)

/-- How alike two words are, from 0 to 1. -/
def similarity (a b : List Char) : Binary64 :=
  if a = [] ∧ b = [] then 1
  else
    -- Matches lie within half the length of the longer word of each other.
    let reach := max a.length b.length / 2 - 1
    let (found, marked) := matching reach 0 a (b.map (·, false))
    let others := (marked.filter (·.2)).map (·.1)
    -- Of the matches in the order of either word, two out of place make one exchange.
    let displaced := (found.zip others).countP (fun p => p.1 ≠ p.2) / 2
    let share (n of : Nat) := Binary64.ofNat n / Binary64.ofNat of
    if found = [] then 0
    else
      (share found.length a.length + share found.length b.length
        + share (found.length - displaced) found.length) / 3

end GpuMonitor.Text
