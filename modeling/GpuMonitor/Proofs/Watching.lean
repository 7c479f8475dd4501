import GpuMonitor.Proofs.Lines
import GpuMonitor.Proofs.Printing

/-!
# The loop of the program

The program prints what its loop writes, and is told to stop during one of its rests. Printing
never fails, so the loop ends with the first round whose sample fails, or that is the only one,
or after whose pause the program has been told to stop.

* `Watch.after`: the session and the rests after some rounds that go on.
* `Watch.lastRound?`: how a round ends the loop, if it does.
* `Prints`: a step that goes on, prints a text, and leaves the watch as it is.

* `Ends`: a loop that has ended, and what it has printed. `Ends.snapshot`: the one line of a
  snapshot.

Main result:

* `observe_spec`: a loop ends with its last round, or meets its bound before that.
-/

namespace GpuMonitor

open Vendor Monitor

theorem Trace.restCount_append (t u : Trace) : (t ++ u).restCount = t.restCount + u.restCount := by
  simp [restCount]

namespace Program

variable {α β : Type}

namespace Watch

variable (mode : Mode) (interval : Duration) (stop : Option Nat) (s : Session Library)

/-- The session after so many samples, and the rests after as many samples and pauses. -/
def after (n : Nat) : Watch where
  session := (asking Session.sample n s).value.2
  rested := (asking Session.sample n s).trace.restCount + n * interval.rests.length

/-- How the round after `n` others ends the loop, if it does. -/
def lastRound? (n : Nat) : Option Summary :=
  match resultAt Session.sample s n, mode with
  | .error _, _ => some ⟨n, .sampleFailed⟩
  | .ok _, .snapshot => some ⟨n + 1, .snapshotTaken⟩
  | .ok _, .continuous =>
    if running stop (after interval s (n + 1)) then none else some ⟨n + 1, .interrupted⟩

end Watch

/-! ## Printing -/

/-- The step goes on with an answer, prints a text on the way, and leaves the watch as it is. -/
def Prints (m : Step Watch α) (w : Watch) (a : α) (text : String) : Prop :=
  ∃ t, m.run w = { value := (.ok a, w), trace := t } ∧ t.printed .output = text

theorem prints_pure (w : Watch) (a : α) : Prints (pure a) w a "" := ⟨[], rfl, rfl⟩

theorem Prints.bind {m : Step Watch α} {f : α → Step Watch β} {w : Watch} {a : α} {b : β}
    {text text' : String} (hm : Prints m w a text) (hf : Prints (f a) w b text') :
    Prints (m >>= f) w b (text ++ text') := by
  obtain ⟨t, hrun, hprinted⟩ := hm
  obtain ⟨t', hrun', hprinted'⟩ := hf
  refine ⟨t ++ t', ?_, ?_⟩
  · rw [run_bind_ok hrun, hrun']
  · rw [Trace.printed_append, hprinted, hprinted']

section
variable (stop : Option Nat) (attempts : Nat) (w : Watch)

/-- A text is printed at the first attempt. -/
theorem prints_writeAll (text : List Char) :
    Prints ((Watch.setting stop).writeAll (attempts + 1) text) w () (String.ofList text) := by
  cases text with
  | nil => exact prints_pure w ()
  | cons c rest =>
    -- the one write takes the whole text
    refine ⟨[.print .output (String.ofList (c :: rest))], ?_, Trace.printed_print _ _⟩
    have hwrite : (liftM ((Watch.setting stop).write (c :: rest)) : Step Watch WriteReply).run w =
        { value := (.ok (.accepted (rest.length + 1)), w)
          trace := [.print .output (String.ofList (c :: rest))] } := rfl
    have hnone : (c :: rest).drop (rest.length + 1) = [] := by simp
    rw [Setting.writeAll, run_bind_ok hwrite]
    case x_2 => intro hnil; cases hnil
    -- nothing is left of the text, so no further attempt is needed
    simp only [hnone]
    cases attempts <;> rfl

theorem prints_writePieces (pieces : List String) :
    Prints ((Watch.setting stop).writePieces (attempts + 1) pieces) w () (String.join pieces) := by
  induction pieces with
  | nil => exact prints_pure w ()
  | cons piece rest ih =>
    rw [String.join_cons, Setting.writePieces]
    have hpiece := prints_writeAll stop attempts w piece.toList
    rw [String.ofList_toList] at hpiece
    exact hpiece.bind ih

theorem prints_showSample (u : Utilization) :
    Prints ((Watch.setting stop).showSample (attempts + 1) u) w () (line (.ok u)) := by
  have hline : String.join (u.pieces ++ ["\n"]) ++ "" = line (.ok u) := by
    simp [line, Utilization.text]
  rw [← hline]
  exact (prints_writePieces stop attempts w _).bind ⟨[], rfl, rfl⟩

theorem prints_complain (f : Failure) :
    Prints ((Watch.setting stop).complain (attempts + 1) f) w () (line (.error f)) := by
  have hline : "" ++ String.join ["Error reading GPU utilization\n"] = line (.error f) := by
    simp [line]
  rw [← hline]
  refine Prints.bind (m := liftM (log .error _ : Action Watch Unit)) ⟨_, rfl, ?_⟩
    (prints_writePieces stop attempts w _)
  simp [Trace.printed, log, emit]

end

/-! ## A round -/

section
variable (mode : Mode) (interval : Duration) (stop : Option Nat) (s : Session Library)

theorem sample_after (n : Nat) :
    (Watch.setting stop).sample (Watch.after interval s n) =
      { value := (resultAt Session.sample s n,
          ⟨(asking Session.sample (n + 1) s).value.2,
            (asking Session.sample (n + 1) s).trace.restCount + n * interval.rests.length⟩)
        trace := (Session.sample (asking Session.sample n s).value.2).trace } := by
  apply Traced.ext'
  · simp only [Watch.setting, Watch.sample, Watch.after, resultAt, asking_succ,
      Trace.restCount_append, Prod.mk.injEq, Watch.mk.injEq, true_and]
    omega
  · rfl

/-- A round after `n` others prints its line. It ends the loop as `lastRound?` says, or leaves
the watch as `n + 1` rounds do. -/
theorem round_after (attempts n : Nat) :
    ∃ w t, (Watch.setting stop).rounds mode interval (attempts + 1) n
        (Watch.after interval s n) =
          { value := ((Watch.lastRound? mode interval stop s n).map .ok, w), trace := t } ∧
      w.session = (asking Session.sample (n + 1) s).value.2 ∧
      (Watch.lastRound? mode interval stop s n = none → w = Watch.after interval s (n + 1)) ∧
      t.printed .output = line (resultAt Session.sample s n) := by
  have hask := sample_after interval stop s n
  have hsilent : (Session.sample (asking Session.sample n s).value.2).trace.printed .output = "" :=
    printed_of_silent (Session.silent_sample _) _
  generalize (Session.sample (asking Session.sample n s).value.2).trace = asked at hask hsilent
  -- the watch after the sample, whatever comes of it
  generalize hasked : Watch.mk (asking Session.sample (n + 1) s).value.2
    ((asking Session.sample (n + 1) s).trace.restCount + n * interval.rests.length) = w at hask
  have hsession : w.session = (asking Session.sample (n + 1) s).value.2 := by rw [← hasked]
  cases hr : resultAt Session.sample s n with
  | error f =>
    rw [hr] at hask
    obtain ⟨t, hrun, hprinted⟩ := prints_complain stop attempts w f
    refine ⟨w, asked ++ t, ?_, hsession, ?_, ?_⟩
    · rw [Setting.rounds_of_error hask hrun]
      simp [Watch.lastRound?, hr, Except.map]
    · simp [Watch.lastRound?, hr]
    · rw [Trace.printed_append, hsilent, hprinted, String.empty_append]
  | ok u =>
    rw [hr] at hask
    obtain ⟨t, hrun, hprinted⟩ := prints_showSample stop attempts w u
    -- a snapshot ends here; otherwise the rests of the pause are counted, and then the stop is
    cases mode with
    | snapshot =>
      refine ⟨w, asked ++ t, ?_, hsession, ?_, ?_⟩
      · rw [Setting.rounds_of_snapshot hask hrun]
        simp [Watch.lastRound?, hr]
      · simp [Watch.lastRound?, hr]
      · rw [Trace.printed_append, hsilent, hprinted, String.empty_append]
    | continuous =>
      have hpaused : (liftM ((Watch.setting stop).pause interval) : Step Watch Unit).run w =
          { value := (.ok (), Watch.after interval s (n + 1)), trace := [.wait interval] } := by
        apply Traced.ext'
        · rw [← hasked]
          simp only [run_lift, Watch.setting, Watch.pause, Watch.after, Action.value_bind,
            Action.value_emit, Action.value_modify, Prod.mk.injEq, Watch.mk.injEq, true_and]
          rw [Nat.succ_mul]
          omega
        · rfl
      refine ⟨Watch.after interval s (n + 1), asked ++ (t ++ [.wait interval]), ?_, rfl,
        fun _ => rfl, ?_⟩
      · rw [Setting.rounds_of_paused hask hrun hpaused]
        have hrunning : (Watch.setting stop).running (Watch.after interval s (n + 1)) =
            Watch.running stop (Watch.after interval s (n + 1)) := rfl
        rw [hrunning]
        cases hup : Watch.running stop (Watch.after interval s (n + 1)) <;>
          simp [Watch.lastRound?, hr, hup]
      · rw [Trace.printed_append, Trace.printed_append, hsilent, hprinted]
        simp [Trace.printed]

/-! ## The loop -/

/-- From the watch after `n` rounds on, the loop meets its bound, or it ends with a last round and
has printed the lines up to that one. -/
theorem firstOf_rounds_after (attempts count n : Nat) :
    let r := firstOf ((Watch.setting stop).rounds mode interval (attempts + 1)) n count
      (Watch.after interval s n)
    (r.value.1 = none ∧ ∀ k, n ≤ k → k < n + count →
      Watch.lastRound? mode interval stop s k = none) ∨
    ∃ m summary, m < n + count ∧
      (∀ k, n ≤ k → k < m → Watch.lastRound? mode interval stop s k = none) ∧
      Watch.lastRound? mode interval stop s m = some summary ∧
      r.value.1 = some (.ok summary) ∧
      r.value.2.session = (asking Session.sample (m + 1) s).value.2 ∧
      String.ofList (shown Session.sample s n) ++ r.trace.printed .output =
        String.ofList (shown Session.sample s (m + 1)) := by
  -- on the rounds that are left; what was printed before is what `n` samples show
  induction count generalizing n with
  | zero => exact .inl ⟨rfl, fun k hn hk => absurd hk (Nat.not_lt.2 hn)⟩
  | succ count ih =>
    obtain ⟨w, t, hround, hsession, hon, hprinted⟩ :=
      round_after mode interval stop s attempts n
    have hshown : String.ofList (shown Session.sample s n) ++ t.printed .output =
        String.ofList (shown Session.sample s (n + 1)) := by
      rw [hprinted, shown_succ, String.ofList_append, String.ofList_toList]
    intro r
    have hr : r = firstOf ((Watch.setting stop).rounds mode interval (attempts + 1)) n (count + 1)
      (Watch.after interval s n) := rfl
    rw [firstOf_succ] at hr
    cases hlast : Watch.lastRound? mode interval stop s n with
    | some summary =>
      -- this round is the last one
      rw [hlast] at hround
      refine .inr ⟨n, summary, by omega, fun k hn hk => absurd hk (Nat.not_lt.2 hn), hlast,
        ?_, ?_, ?_⟩
      · simp [hr, hround]
      · simpa [hr, hround] using hsession
      · simpa [hr, hround] using hshown
    | none =>
      rw [hlast, hon hlast] at hround
      have hvalue : r.value = (firstOf ((Watch.setting stop).rounds mode interval (attempts + 1))
          (n + 1) count (Watch.after interval s (n + 1))).value := by
        simp [hr, hround]
      have htrace : r.trace = t ++ (firstOf ((Watch.setting stop).rounds mode interval
          (attempts + 1)) (n + 1) count (Watch.after interval s (n + 1))).trace := by
        simp [hr, hround]
      -- what is true of the rounds to come and of this one is true from this one on
      have hfrom {P : Nat → Prop} (hlater : ∀ k, n + 1 ≤ k → P k →
          Watch.lastRound? mode interval stop s k = none) :
          ∀ k, n ≤ k → P k → Watch.lastRound? mode interval stop s k = none := by
        intro k hn hk
        rcases Nat.eq_or_lt_of_le hn with rfl | hlt
        · exact hlast
        · exact hlater k hlt hk
      rw [hvalue, htrace]
      rcases ih (n + 1) with ⟨hnone, hall⟩ | ⟨m, summary, hm, hearlier, hm', hends, hleft, hout⟩
      · refine .inl ⟨hnone, hfrom fun k hn hk => hall k hn ?_⟩
        rwa [Nat.succ_add_eq_add_succ]
      · refine .inr ⟨m, summary, by omega, hfrom hearlier, hm', hends, hleft, ?_⟩
        rw [Trace.printed_append, ← String.append_assoc, hshown, hout]

end

/-- The loop has ended with the round after `n` others, the first that ends it, and has printed
the lines of all rounds. -/
structure Ends (config : Config) (stop : Option Nat) (bound : Nat) (s : Session Library) (n : Nat)
    (summary : Summary) : Prop where
  bounded : n < bound
  going : ∀ k < n, Watch.lastRound? config.mode config.interval stop s k = none
  last : Watch.lastRound? config.mode config.interval stop s n = some summary
  value : (observe config stop bound s).value =
    (.ok summary, (asking Session.sample (n + 1) s).value.2)
  printed : (observe config stop bound s).trace.printed .output =
    String.ofList (shown Session.sample s (n + 1))

/-- A loop meets its bound if none of the rounds up to it is the last one, and ends with its last
round otherwise. -/
theorem observe_spec (config : Config) (stop : Option Nat) (bound : Nat) (s : Session Library) :
    ((observe config stop bound s).value.1 = .error .unfinished ∧
      ∀ k < bound, Watch.lastRound? config.mode config.interval stop s k = none) ∨
    ∃ n summary, Ends config stop bound s n summary := by
  cases bound with
  | zero => exact .inl ⟨rfl, fun k hk => absurd hk (Nat.not_lt_zero k)⟩
  | succ attempts =>
    have hstart : Watch.after config.interval s 0 = { session := s } := by
      simp [Watch.after, asking, Trace.restCount]
    have hloop := firstOf_rounds_after config.mode config.interval stop s attempts (attempts + 1) 0
    rw [hstart, Nat.zero_add] at hloop
    rcases hloop with ⟨hnone, hall⟩ | ⟨n, summary, hn, hbefore, hlast, hends, hleft, hprinted⟩
    · refine .inl ⟨?_, fun k hk => hall k (Nat.zero_le k) hk⟩
      simp only [observe, run_eq_map, Action.value_map]
      rw [hnone]
      rfl
    · refine .inr ⟨n, summary, hn, fun k hk => hbefore k (Nat.zero_le k) hk, hlast, ?_, ?_⟩
      · simp only [observe, run_eq_map, Action.value_map]
        rw [hends, hleft]
        rfl
      · simpa [observe, run_eq_map, shown_zero] using hprinted

/-- A snapshot ends with the first round, and has printed one line. -/
theorem Ends.snapshot {config : Config} {stop : Option Nat} {bound : Nat} {s : Session Library}
    {n : Nat} {summary : Summary} (h : Ends config stop bound s n summary)
    (hmode : config.mode = .snapshot) :
    n = 0 ∧ ∃ body, (observe config stop bound s).trace.printed .output =
      String.ofList (body ++ ['\n']) ∧ ∀ c ∈ body, Printable c := by
  have hfirst : n = 0 := by
    rcases Nat.eq_zero_or_pos n with hn | hn
    · exact hn
    · have hgoing := h.going 0 hn
      rw [hmode] at hgoing
      cases hr : resultAt Session.sample s 0 <;> simp [Watch.lastRound?, hr] at hgoing
  obtain ⟨body, hline, hprintable⟩ := line_eq (resultAt Session.sample s 0)
  refine ⟨hfirst, body, ?_, hprintable⟩
  rw [h.printed, hfirst, shown_succ, shown_zero, List.nil_append, hline]

end Program
end GpuMonitor
