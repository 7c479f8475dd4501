import GpuMonitor.Config
import GpuMonitor.Proofs.ReadingBack

/-!
# Which configurations are valid

A configuration is held to four rules, and the complaint is that of the first one it breaks. The
lengths of time in a complaint are written so that they can be read back, to the nanosecond.

* `Duration.nanos?`: the length that a decimal number and a unit stand for.
* `Config.Rule`: the rules, with what breaks them (`Rule.Broken`) and what is said then
  (`Rule.complaint`).
* `Config.Rule.FirstBroken`: no rule before it is broken.

Main result:

* `validate_exact`: what is valid, what is complained about, and what the complaint tells.
-/

namespace GpuMonitor

/-! ## Reading a length of time -/

namespace Duration

/-- The units of a length, with the nanoseconds in each. -/
def units : List (List Char × Nat) :=
  [(['s'], 1000000000), (['m', 's'], 1000000), (['µ', 's'], 1000), (['n', 's'], 1)]

/-- The character belongs to a decimal number. -/
def isAmountChar (c : Char) : Bool := c.isDigit || c == '.'

/-- The nanoseconds that a decimal number and the unit after it stand for. -/
def nanos? (text : String) : Option ℚ :=
  (units.lookup (text.toList.dropWhile isAmountChar)).bind fun unit =>
    (Text.decimalNumber? (text.toList.takeWhile isAmountChar)).map fun number => number * unit

/-- The length is written as a decimal number and a unit. -/
structure Written (d : Duration) (number unit : List Char) (nanos : Nat) : Prop where
  chars_eq : d.chars = number ++ unit
  unit_mem : (unit, nanos) ∈ units
  of_mem : ∀ c ∈ number, isAmountChar c = true
  value : ∃ q, Text.decimalNumber? number = some q ∧ q * nanos = d.total

variable {d e : Duration}

theorem isAmountChar_of_mem_decimalFraction {n k width : Nat} {c : Char}
    (hc : c ∈ Text.decimalFraction n k width) : isAmountChar c = true := by
  rcases Text.of_mem_decimalFraction hc with hdigit | rfl
  · rw [isAmountChar, hdigit]
    rfl
  · rfl

/-- A rest of nanoseconds as a fraction of its unit. -/
theorem written_decimalFraction (n k width : Nat) (unit : List Char)
    (hchars : d.chars = Text.decimalFraction n k width ++ unit) (hunit : (unit, 10 ^ width) ∈ units)
    (hwidth : 0 < width) (hk : k < 10 ^ width) (htotal : n * 10 ^ width + k = d.total) :
    d.Written (Text.decimalFraction n k width) unit (10 ^ width) := by
  refine ⟨hchars, hunit, fun c => isAmountChar_of_mem_decimalFraction, _,
    Text.decimalNumber?_decimalFraction n hwidth hk, ?_⟩
  rw [← htotal]
  push_cast
  field_simp

theorem exists_written (d : Duration) : ∃ number unit nanos, d.Written number unit nanos := by
  have hnanos := d.nanos_lt
  simp only [nanosPerSecond] at hnanos
  -- the unit is the greatest of which the length has at least one
  by_cases hseconds : d.seconds ≠ 0
  · refine ⟨_, _, _, written_decimalFraction d.seconds d.nanos 9 ['s'] (if_pos hseconds) (by decide)
      (by decide) hnanos rfl⟩
  have hzero : d.seconds = 0 := Decidable.not_not.1 hseconds
  have htotal : d.total = d.nanos := by
    rw [total, hzero, Nat.zero_mul, Nat.zero_add]
  by_cases hmillis : 1000000 ≤ d.nanos
  · refine ⟨_, _, _, written_decimalFraction (d.nanos / 1000000) (d.nanos % 1000000) 6 ['m', 's'] ?_
      (by decide) (by decide) (Nat.mod_lt _ (by decide)) ?_⟩
    · rw [chars, if_neg hseconds, if_pos hmillis]
    · rw [htotal]
      exact Nat.div_add_mod' _ _
  by_cases hmicros : 1000 ≤ d.nanos
  · refine ⟨_, _, _, written_decimalFraction (d.nanos / 1000) (d.nanos % 1000) 3 ['µ', 's'] ?_
      (by decide) (by decide) (Nat.mod_lt _ (by decide)) ?_⟩
    · rw [chars, if_neg hseconds, if_neg hmillis, if_pos hmicros]
    · rw [htotal]
      exact Nat.div_add_mod' _ _
  refine ⟨Nat.toDigits 10 d.nanos, ['n', 's'], 1, ?_, by decide, ?_, d.nanos, ?_, ?_⟩
  · rw [chars, if_neg hseconds, if_neg hmillis, if_neg hmicros]
  · intro c hc
    rw [isAmountChar, (Text.digits_toDigits d.nanos).2 c hc]
    rfl
  · rw [Text.decimalNumber?_of_digits (Text.digits_toDigits d.nanos), Nat.ofDigitChars_ten_toDigits]
  · rw [htotal, Nat.cast_one, mul_one]

/-- **A length of time is read back from its text**, to the nanosecond. -/
theorem nanos?_text (d : Duration) : nanos? d.text = some (d.total : ℚ) := by
  obtain ⟨number, unit, nanos, h⟩ := d.exists_written
  obtain ⟨q, hq, hvalue⟩ := h.value
  -- no unit begins like a number, so the number ends where the unit begins
  have hunits : ∀ pair ∈ units,
      pair.1.takeWhile isAmountChar = [] ∧ pair.1.dropWhile isAmountChar = pair.1 ∧
        units.lookup pair.1 = some pair.2 := by decide
  obtain ⟨htake, hdrop, hlookup⟩ := hunits _ h.unit_mem
  unfold nanos?
  rw [text, String.toList_ofList, h.chars_eq, List.takeWhile_append_of_pos h.of_mem,
    List.dropWhile_append_of_pos h.of_mem, htake, hdrop, hlookup, List.append_nil, hq, ← hvalue]
  rfl

/-- The text of a length does not have the bracket that closes it in a complaint. -/
theorem notMem_text (d : Duration) : ')' ∉ d.text.toList := by
  obtain ⟨number, unit, nanos, h⟩ := d.exists_written
  have hunits : ∀ pair ∈ units, ')' ∉ pair.1 := by decide
  rw [text, String.toList_ofList, h.chars_eq, List.mem_append, not_or]
  refine ⟨fun hnumber => ?_, hunits _ h.unit_mem⟩
  exact absurd (h.of_mem _ hnumber) (by decide)

theorem eq_of_total_eq (h : d.total = e.total) : d = e := by
  have hd := d.nanos_lt
  have he := e.nanos_lt
  obtain ⟨seconds, nanos, _⟩ := d
  obtain ⟨seconds', nanos', _⟩ := e
  simp only [total, nanosPerSecond] at h hd he
  obtain rfl : seconds = seconds' := by omega
  obtain rfl : nanos = nanos' := by omega
  rfl

theorem eq_of_text_eq (h : d.text = e.text) : d = e := by
  have hread : some (d.total : ℚ) = some (e.total : ℚ) := by
    rw [← nanos?_text, ← nanos?_text, h]
  exact eq_of_total_eq (Nat.cast_injective (Option.some.inj hread))

end Duration

/-! ## The rules -/

namespace Config

/-- A rule that a configuration is held to. -/
inductive Rule where
  | interval
  | window
  | windowWithinInterval
  | libraryPath
  deriving DecidableEq, Repr

namespace Rule

/-- The place of a rule among those that are looked at. -/
def place : Rule → Nat
  | interval => 0
  | window => 1
  | windowWithinInterval => 2
  | libraryPath => 3

/-- The configuration breaks the rule. Lengths of time are told by their nanoseconds. -/
def Broken (config : Config) : Rule → Prop
  | interval => config.interval.total = 0
  | window => config.window.total = 0
  | windowWithinInterval => config.interval.total < config.window.total
  | libraryPath => ∃ path ∈ config.library, path.bytes = []

/-- The rule is broken, and no rule before it. -/
def FirstBroken (config : Config) (rule : Rule) : Prop :=
  rule.Broken config ∧ ∀ earlier : Rule, earlier.place < rule.place → ¬earlier.Broken config

/-- The complaint about a window and an interval that are given by their texts. -/
def tooLong (window interval : String) : String :=
  "measurement window (" ++ window ++ ") exceeds sample interval (" ++ interval ++ ")"

/-- What is said of a configuration that breaks the rule. -/
def complaint (config : Config) : Rule → String
  | interval => "sample interval must be non-zero"
  | window => "measurement window must be non-zero"
  | windowWithinInterval => tooLong config.window.text config.interval.text
  | libraryPath => "library path is empty"

end Rule

variable {config other : Config} {rule : Rule}

theorem Rule.FirstBroken.unique {rule' : Rule} (h : rule.FirstBroken config)
    (h' : rule'.FirstBroken config) : rule = rule' := by
  have hplace : rule.place = rule'.place := by
    refine Nat.le_antisymm (Nat.le_of_not_lt fun hlt => ?_) (Nat.le_of_not_lt fun hlt => ?_)
    · exact h.2 rule' hlt h'.1
    · exact h'.2 rule hlt h.1
  cases rule <;> cases rule' <;> first | rfl | cases hplace

/-- A configuration is valid, or the first rule that it breaks is told. -/
theorem validate_cases (config : Config) :
    (∀ rule : Rule, ¬rule.Broken config) ∧ config.validate = .ok () ∨
      ∃ rule : Rule, rule.FirstBroken config ∧
        config.validate = .error (.invalidConfig (rule.complaint config)) := by
  have hpath : config.library.any (·.bytes.isEmpty) = true ↔ Rule.libraryPath.Broken config := by
    cases h : config.library <;> simp [Rule.Broken, h]
  -- the tests are made in the order of the rules: a rule is reached when those before it hold
  unfold validate
  by_cases hinterval : Rule.interval.Broken config
  · refine .inr ⟨.interval, ⟨hinterval, fun earlier hearlier => ?_⟩,
      if_pos (Duration.isZero_iff.2 hinterval)⟩
    exact absurd hearlier (Nat.not_lt_zero _)
  rw [if_neg (mt Duration.isZero_iff.1 hinterval)]
  by_cases hwindow : Rule.window.Broken config
  · refine .inr ⟨.window, ⟨hwindow, fun earlier hearlier => ?_⟩,
      if_pos (Duration.isZero_iff.2 hwindow)⟩
    cases earlier with
    | interval => exact hinterval
    | _ => exact absurd hearlier (by decide)
  rw [if_neg (mt Duration.isZero_iff.1 hwindow)]
  by_cases hlength : Rule.windowWithinInterval.Broken config
  · refine .inr ⟨.windowWithinInterval, ⟨hlength, fun earlier hearlier => ?_⟩,
      if_pos (Duration.above_iff.2 hlength)⟩
    cases earlier with
    | interval => exact hinterval
    | window => exact hwindow
    | _ => exact absurd hearlier (by decide)
  rw [if_neg (mt Duration.above_iff.1 hlength)]
  by_cases hlibrary : Rule.libraryPath.Broken config
  · refine .inr ⟨.libraryPath, ⟨hlibrary, fun earlier hearlier => ?_⟩, if_pos (hpath.2 hlibrary)⟩
    cases earlier with
    | interval => exact hinterval
    | window => exact hwindow
    | windowWithinInterval => exact hlength
    | libraryPath => exact absurd hearlier (Nat.lt_irrefl _)
  refine .inl ⟨fun rule => ?_, if_neg (mt hpath.1 hlibrary)⟩
  cases rule with
  | interval => exact hinterval
  | window => exact hwindow
  | windowWithinInterval => exact hlength
  | libraryPath => exact hlibrary

theorem validate_eq_ok_iff :
    config.validate = .ok () ↔ ∀ rule : Rule, ¬rule.Broken config := by
  obtain ⟨hnone, hok⟩ | ⟨rule, hfirst, herror⟩ := config.validate_cases
  · exact iff_of_true hok hnone
  · rw [herror]
    exact iff_of_false nofun fun hnone => hnone rule hfirst.1

theorem validate_eq_error_iff {failure : Failure} :
    config.validate = .error failure ↔
      ∃ rule : Rule, rule.FirstBroken config ∧
        failure = .invalidConfig (rule.complaint config) := by
  obtain ⟨hnone, hok⟩ | ⟨rule, hfirst, herror⟩ := config.validate_cases
  · rw [hok]
    refine iff_of_false nofun ?_
    rintro ⟨rule, hfirst, -⟩
    exact hnone rule hfirst.1
  · rw [herror]
    constructor
    · rintro ⟨⟩
      exact ⟨rule, hfirst, rfl⟩
    · rintro ⟨rule', hfirst', rfl⟩
      rw [hfirst.unique hfirst']

/-! ## What a complaint tells -/

/-- The two texts can be told from the complaint, when they are those of lengths of time. -/
theorem tooLong_inj {window interval : String} {d e : Duration}
    (h : Rule.tooLong d.text e.text = Rule.tooLong window interval) :
    d.text = window ∧ e.text = interval := by
  -- each length is closed by a bracket, and has none in it
  have hlabels : ∀ label ∈ [") exceeds sample interval (", ")"], Text.Closes ')' label.toList := by
    decide
  have hfields : ∀ field ∈ [d.text, e.text], ')' ∉ field.toList := by
    simp only [List.forall_mem_cons]
    exact ⟨d.notMem_text, e.notMem_text, nofun⟩
  have htexts : [d.text, e.text] = [window, interval] :=
    Text.texts_eq_of_filledText_eq hlabels rfl rfl hfields h
  obtain ⟨hwindow, hrest⟩ := List.cons.inj htexts
  exact ⟨hwindow, (List.cons.inj hrest).1⟩

theorem windowWithinInterval_complaint_inj
    (h : Rule.windowWithinInterval.complaint config = Rule.windowWithinInterval.complaint other) :
    config.window = other.window ∧ config.interval = other.interval := by
  obtain ⟨hwindow, hinterval⟩ := tooLong_inj h
  exact ⟨Duration.eq_of_text_eq hwindow, Duration.eq_of_text_eq hinterval⟩

/-- No other complaint reads like that about a window that is too long. -/
theorem Rule.eq_of_complaint_eq_tooLong {window interval : String}
    (h : rule.complaint config = Rule.tooLong window interval) :
    rule = .windowWithinInterval := by
  have hstart : "measurement window (".toList <+: (rule.complaint config).toList := by
    rw [h]
    have hfilled := Text.toList_filledText "measurement window (" [") exceeds sample interval (", ")"]
      [window, interval]
    exact ⟨_, hfilled.symm⟩
  cases rule with
  | windowWithinInterval => rfl
  | _ =>
    rw [complaint] at hstart
    exact absurd hstart (by decide)

theorem message_invalidConfig_inj {r s : String} :
    (Failure.invalidConfig r).message = (Failure.invalidConfig s).message ↔ r = s := by
  show "Invalid configuration: " ++ r = "Invalid configuration: " ++ s ↔ r = s
  exact String.append_right_inj _

/-- **Validation is exact, and what it says of a window that is too long is lossless.**
* A configuration is valid if and only if its window is longer than nothing and not longer than its
  interval, in nanoseconds, and a library path that is given is not empty.
* Otherwise the first rule that it breaks is told, and nothing else.
* The complaint about a window that is too long has one window and one interval in it, whatever
  texts it is thought to be made of. Each is read back, to the nanosecond.
* Two configurations with that complaint have the same message if and only if they have the same
  window and the same interval. -/
theorem validate_exact (config : Config) :
    (config.validate = .ok () ↔
      0 < config.window.total ∧ config.window.total ≤ config.interval.total ∧
        ∀ path ∈ config.library, path.bytes ≠ []) ∧
    (∀ failure, config.validate = .error failure ↔
      ∃ rule : Rule, rule.FirstBroken config ∧
        failure = .invalidConfig (rule.complaint config)) ∧
    (∀ window interval : String,
      config.validate = .error (.invalidConfig (Rule.tooLong window interval)) ↔
        Rule.windowWithinInterval.FirstBroken config ∧
          window = config.window.text ∧ interval = config.interval.text) ∧
    Duration.nanos? config.window.text = some (config.window.total : ℚ) ∧
    Duration.nanos? config.interval.text = some (config.interval.total : ℚ) ∧
    ∀ (other : Config) (failure failure' : Failure),
      Rule.windowWithinInterval.FirstBroken config → config.validate = .error failure →
      Rule.windowWithinInterval.FirstBroken other → other.validate = .error failure' →
        (failure.message = failure'.message ↔
          config.window = other.window ∧ config.interval = other.interval) := by
  refine ⟨?_, fun failure => validate_eq_error_iff, fun window interval => ?_,
    config.window.nanos?_text, config.interval.nanos?_text, ?_⟩
  · rw [validate_eq_ok_iff]
    constructor
    · intro hnone
      refine ⟨Nat.pos_of_ne_zero (hnone .window), Nat.le_of_not_lt (hnone .windowWithinInterval),
        ?_⟩
      intro path hpath hempty
      exact hnone .libraryPath ⟨path, hpath, hempty⟩
    · rintro ⟨hwindow, hlength, hpath⟩ (_ | _ | _ | _) hbroken
      · rw [show config.interval.total = 0 from hbroken] at hlength
        omega
      · exact absurd hbroken (Nat.ne_of_gt hwindow)
      · exact absurd hbroken (Nat.not_lt_of_le hlength)
      · obtain ⟨path, hmem, hempty⟩ := hbroken
        exact hpath path hmem hempty
  · rw [validate_eq_error_iff]
    constructor
    · rintro ⟨rule, hfirst, hcomplaint⟩
      have hequal := (Failure.invalidConfig.inj hcomplaint).symm
      obtain rfl := Rule.eq_of_complaint_eq_tooLong hequal
      obtain ⟨hwindow, hinterval⟩ := tooLong_inj hequal
      exact ⟨hfirst, hwindow.symm, hinterval.symm⟩
    · rintro ⟨hfirst, rfl, rfl⟩
      exact ⟨_, hfirst, rfl⟩
  · intro other failure failure' hfirst hfailure hfirst' hfailure'
    -- each failure is the complaint about the window
    obtain ⟨rule, hrule, rfl⟩ := validate_eq_error_iff.1 hfailure
    obtain ⟨rule', hrule', rfl⟩ := validate_eq_error_iff.1 hfailure'
    obtain rfl := hrule.unique hfirst
    obtain rfl := hrule'.unique hfirst'
    rw [message_invalidConfig_inj]
    refine ⟨windowWithinInterval_complaint_inj, ?_⟩
    rintro ⟨hwindow, hinterval⟩
    rw [Rule.complaint, Rule.complaint, hwindow, hinterval]

/-- A window of one second and half a millisecond is too long for a quarter of a second. -/
theorem validate_exact_tooLong :
    ({ window := .ofParts 1 500000, interval := .ofMillis 250 } : Config).validate =
      .error (.invalidConfig
        "measurement window (1.0005s) exceeds sample interval (250ms)") := by
  refine ((validate_exact _).2.2.1 "1.0005s" "250ms").2 ⟨⟨?_, ?_⟩, by decide, by decide⟩
  · show (250000000 : Nat) < 1000500000
    decide
  · intro earlier hearlier
    cases earlier with
    | interval => exact (by decide : ¬Duration.total (.ofMillis 250) = 0)
    | window => exact (by decide : ¬Duration.total (.ofParts 1 500000) = 0)
    | _ => exact absurd hearlier (by decide)

end Config
end GpuMonitor
