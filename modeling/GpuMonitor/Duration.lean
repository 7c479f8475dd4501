import GpuMonitor.Text.Number

/-!
# Lengths of time

A `Duration` is a number of whole seconds and a rest of less than a second in
nanoseconds.

* `Duration.total`: the length in nanoseconds.
* `Duration.above`: longer than, by seconds first; `above_iff` says that this is
  the order of the totals.
* `Duration.text`: the length in its largest unit of `s`, `ms`, `µs` and `ns` that
  is not above it, as an exact decimal number.
* `Duration.rests`: the waits that a sleep of this length is made of.
-/

namespace GpuMonitor

/-- The nanoseconds in a second. -/
def nanosPerSecond : Nat := 1000000000

/-- A length of time. -/
structure Duration where
  seconds : Nat
  nanos : Nat
  nanos_lt : nanos < nanosPerSecond := by decide
  deriving DecidableEq

namespace Duration

/-- The length in nanoseconds. -/
def total (d : Duration) : Nat := d.seconds * nanosPerSecond + d.nanos

/-- A length given in seconds and any number of nanoseconds. -/
def ofParts (seconds nanos : Nat) : Duration :=
  ⟨seconds + nanos / nanosPerSecond, nanos % nanosPerSecond, Nat.mod_lt _ (by decide)⟩

/-- No time at all. -/
def zero : Duration := ⟨0, 0, by decide⟩

instance : Inhabited Duration := ⟨zero⟩

/-- Some whole seconds. -/
def ofSeconds (n : Nat) : Duration := ⟨n, 0, by decide⟩

/-- `n` thousandths of a second. -/
def ofMillis (n : Nat) : Duration := ofParts 0 (n * 1000000)

/-- Nothing is left of the length. -/
def isZero (d : Duration) : Bool := d.seconds == 0 && d.nanos == 0

/-- `d` is longer than `e`: more seconds, or as many and more nanoseconds. -/
def above (d e : Duration) : Bool :=
  decide (e.seconds < d.seconds ∨ e.seconds = d.seconds ∧ e.nanos < d.nanos)

theorem isZero_iff {d : Duration} : d.isZero = true ↔ d.total = 0 := by
  simp only [isZero, Bool.and_eq_true, beq_iff_eq, total, nanosPerSecond]
  omega

theorem above_iff {d e : Duration} : d.above e = true ↔ e.total < d.total := by
  have hd := d.nanos_lt
  have he := e.nanos_lt
  simp only [above, decide_eq_true_eq, total, nanosPerSecond] at *
  omega

/-! ## Text -/

/-- The digits and the unit of a length. -/
def chars (d : Duration) : List Char :=
  if d.seconds ≠ 0 then Text.decimalFraction d.seconds d.nanos 9 ++ ['s']
  else if 1000000 ≤ d.nanos then
    Text.decimalFraction (d.nanos / 1000000) (d.nanos % 1000000) 6 ++ ['m', 's']
  else if 1000 ≤ d.nanos then
    Text.decimalFraction (d.nanos / 1000) (d.nanos % 1000) 3 ++ ['µ', 's']
  else Nat.toDigits 10 d.nanos ++ ['n', 's']

/-- The text of `chars`. -/
def text (d : Duration) : String := String.ofList d.chars

/-- Seconds with nine digits after the point. -/
def fixedText (d : Duration) : String :=
  String.ofList
    (Nat.toDigits 10 d.seconds ++ '.' :: Text.zeroPadded 9 (Nat.toDigits 10 d.nanos))

/-! ## Sleeping -/

/-- The most whole seconds that one wait can take: `2⁶³ - 1`. -/
def longestWait : Nat := 0x7fffffffffffffff

/-- The waits that are left when `seconds` whole seconds remain. -/
def wholeWaits (seconds : Nat) : List Duration :=
  if _h : seconds = 0 then []
  else ofSeconds (min longestWait seconds) :: wholeWaits (seconds - min longestWait seconds)
termination_by seconds
decreasing_by
  have : 0 < longestWait := by decide
  omega

/-- The waits that make up a sleep: none for no time, and one unless the seconds pass
`longestWait`. The first takes the nanoseconds with it. -/
def rests (d : Duration) : List Duration :=
  if d.isZero then []
  else
    -- The nanoseconds go with the first wait, whether or not others follow.
    let first := min longestWait d.seconds
    ⟨first, d.nanos, d.nanos_lt⟩ :: wholeWaits (d.seconds - first)

end Duration
end GpuMonitor
