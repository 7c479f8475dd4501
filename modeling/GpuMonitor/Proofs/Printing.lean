import GpuMonitor.Program
import GpuMonitor.Proofs.Accounting
import GpuMonitor.Proofs.Operating

/-!
# What is printed

A run prints at few places: its banner, its report, the lines of its loop, and the last line.
A session and its library print nothing, so what a run prints is read off these places alone.

* `Trace.printed_append`, `Trace.printed_echoed`: what is printed, part by part; the log goes
  to the other stream.
* `Silent`: an event that prints nothing. Whatever is asked of a library is silent
  (`Library.silent_perform`), and so is everything that a session does (`Session.obeying_silent`).
-/

namespace GpuMonitor

open Vendor

variable {α : Type}

/-! ## Printed text -/

@[simp] theorem Action.value_printLine {σ : Type} (stream : Stream) (line : String) (s : σ) :
    (printLine stream line s).value = ((), s) := rfl

@[simp] theorem Action.trace_printLine {σ : Type} (stream : Stream) (line : String) (s : σ) :
    (printLine stream line s).trace = [.print stream (line ++ "\n")] := rfl

namespace Trace

@[simp] theorem printed_nil (stream : Stream) : printed stream [] = "" := rfl

@[simp] theorem printed_append (stream : Stream) (t u : Trace) :
    printed stream (t ++ u) = t.printed stream ++ u.printed stream := by
  simp [printed]

theorem printed_cons (stream : Stream) (e : Event) (t : Trace) :
    printed stream (e :: t) = printed stream [e] ++ t.printed stream :=
  printed_append stream [e] t

@[simp] theorem printed_print (stream : Stream) (text : String) :
    printed stream [.print stream text] = text := by
  simp [printed]

theorem echoed_cons (finest : Level) (e : Event) (t : Trace) :
    echoed finest (e :: t) = echoed finest [e] ++ t.echoed finest := by
  simp [echoed]

/-- A line that is printed. -/
def printedLine (stream : Stream) (line : String) : Event := .print stream (line ++ "\n")

theorem printed_map_printedLine (stream : Stream) (lines : List String) :
    printed stream (lines.map (printedLine stream)) = String.join (lines.map (· ++ "\n")) := by
  simp [printed, printedLine, Function.comp_def]

/-- The lines of the log go to the error stream. -/
theorem printed_echoed (finest : Level) (t : Trace) :
    (t.echoed finest).printed .output = t.printed .output := by
  induction t with
  | nil => rfl
  | cons e t ih =>
    rw [echoed_cons, printed_append, printed_cons, ih]
    congr 1
    -- only a log record is followed by a line of its own
    cases e with
    | log level text =>
      by_cases h : level.rank ≤ finest.rank <;> simp [echoed, h, printed]
    | _ => simp [echoed, printed]

/-- The lines of the log are no calls. -/
theorem calls_echoed (finest : Level) (t : Trace) : (t.echoed finest).calls = t.calls := by
  induction t with
  | nil => rfl
  | cons e t ih =>
    have hone : calls (echoed finest [e]) = calls [e] := by
      cases e with
      | log level text =>
        by_cases h : level.rank ≤ finest.rank
        · simp only [echoed, List.flatMap_cons, List.flatMap_nil, List.append_nil, if_pos h]
          rfl
        · simp [echoed, h]
      | _ => simp [echoed]
    rw [echoed_cons, calls_append, hone, ih, ← calls_append]
    rfl

end Trace

/-! ## Silence -/

/-- The event prints nothing. -/
def Silent (e : Event) : Prop := ∀ stream text, e ≠ .print stream text

theorem printed_of_silent {t : Trace} (h : ∀ e ∈ t, Silent e) (stream : Stream) :
    t.printed stream = "" := by
  induction t with
  | nil => rfl
  | cons e t ih =>
    have hone : Trace.printed stream [e] = "" := by
      cases e with
      | print s text => exact absurd rfl (h _ (List.mem_cons_self ..) s text)
      | _ => simp [Trace.printed]
    rw [Trace.printed_cons, hone, ih fun e he => h e (List.mem_cons_of_mem _ he)]
    rfl

theorem silent_of_service {e : Event} (h : e.isService = true) : Silent e := by
  rintro stream text rfl
  cases h

theorem silent_log {σ : Type} (level : Level) (text : String) :
    Emits Silent (log level text : Action σ Unit) := by
  intro s e he
  obtain rfl := List.mem_singleton.1 he
  exact nofun

namespace Library

/-- What only uses the services of a library prints nothing. -/
theorem silent_of_using {m : Action Library α}
    (hm : Obeys (Using fun e => e.isService = true) m) : Emits Silent m :=
  fun lib e he => silent_of_service ((hm lib).2 e he)

/-- Whatever is asked of a library, it prints nothing. -/
theorem silent_perform (r : Gateway.Request) :
    Emits Silent (Gateway.perform (γ := Library) r) := by
  have hhandling : Handling fun _ t _ => ∀ e ∈ t, Silent e :=
    .of_services (composes_emits _) (fun _ _ _ _ _ he => absurd he List.not_mem_nil)
      (fun lib => by simp [onVendor, State.openAdapters, Silent]) silent_of_using
  by_cases hr : r = .unload
  · subst hr
    refine obeys_map _ (obeys_unload hhandling (fun lib level text => ?_) fun lib e he => ?_)
    · exact silent_log level text lib
    · obtain rfl := List.mem_singleton.1 he
      rintro stream text ⟨⟩
  · exact obeys_perform hhandling silent_of_using hr

/-- Loading tells the log which paths it has tried, and does nothing else. -/
theorem logs_load (loader : Loader) (candidates : List Path) :
    ∀ e ∈ (load loader candidates).trace, ∃ level text, e = .log level text := by
  -- for any paths tried before, which only the failure names
  suffices h : ∀ tried rest, ∀ e ∈ (loadAfter loader tried rest).trace,
      ∃ level text, e = .log level text from h [] candidates
  intro tried rest
  induction rest generalizing tried with
  | nil => simp [loadAfter]
  | cons path rest ih =>
    have hlog {x : Traced (Except Failure Library)} {level : Level} {text : String}
        (hx : ∀ e ∈ x.trace, ∃ level text, e = .log level text) :
        ∀ e ∈ (Traced.log level text >>= fun _ => x).trace, ∃ level text, e = .log level text := by
      intro e he
      rw [Traced.trace_bind, List.mem_append] at he
      rcases he with he | he
      · exact ⟨level, text, List.mem_singleton.1 he⟩
      · exact hx e he
    simp only [loadAfter]
    split
    · exact hlog (ih _)
    · exact hlog (by simp)
    · exact hlog (by simp)

theorem silent_load (loader : Loader) (candidates : List Path) :
    ∀ e ∈ (load loader candidates).trace, Silent e := by
  intro e he
  obtain ⟨level, text, rfl⟩ := logs_load loader candidates e he
  exact nofun

theorem calls_load (loader : Loader) (candidates : List Path) :
    (load loader candidates).trace.calls = [] := by
  refine List.filterMap_eq_nil_iff.2 fun e he => ?_
  obtain ⟨level, text, rfl⟩ := logs_load loader candidates e he
  rfl

end Library

namespace Session

/-- Whatever a session does, it prints nothing. -/
theorem obeying_silent :
    ObeyingAll fun (_ : Session Library) t (_ : Session Library) => ∀ e ∈ t, Silent e where
  composes := composes_emits _
  logging s level text := silent_log level text s
  waiting _ _ e he := by
    obtain rfl := List.mem_singleton.1 he
    exact nofun
  request r g _ _ := Library.silent_perform r g
  settling _ _ _ _ _ he := absurd he List.not_mem_nil
  noting _ _ _ _ he := absurd he List.not_mem_nil

theorem silent_adapters : Emits Silent (adapters (γ := Library)) :=
  obeys_adapters obeying_silent.toObeying

theorem silent_select : Emits Silent (select (γ := Library)) := obeys_select obeying_silent

theorem silent_sample : Emits Silent (sample (γ := Library)) :=
  obeys_sample obeying_silent.toObeying

theorem silent_finish : Emits Silent (finish (γ := Library)) :=
  obeys_finish obeying_silent.toObeying

/-- Starting a session prints nothing, also when it fails and is released again. -/
theorem silent_start (lib : Library) : ∀ e ∈ (start lib).trace, Silent e := by
  have hopen : ∀ e ∈ (openAll { gateway := lib }).trace, Silent e :=
    obeys_openAll obeying_silent { gateway := lib }
  -- a start that fails also releases what it has opened
  cases h : (openAll { gateway := lib }).value.1 with
  | error f =>
    rw [(start_error h).2]
    intro e he
    rcases List.mem_append.1 he with he | he
    · exact hopen e he
    · exact silent_finish _ e he
  | ok u =>
    rw [(start_ok h).2]
    exact hopen

end Session
end GpuMonitor
