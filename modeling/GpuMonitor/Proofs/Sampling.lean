import GpuMonitor.Proofs.LeftActive

/-!
# How a sample is taken

In every session that is not released, a sample is taken from beginning to end: whatever the calls
answer, what was activated for it is deactivated.

Main result:

* `sample_end_to_end`: what a sample comes to in every session that is not released.
-/

namespace GpuMonitor.Session

/--
**A sample, from its activation to its deactivation.** For every session that was launched, after
any operations, as long as it is not released:

* without a selected set the sample fails for that, makes no call and changes nothing;
* else it comes to what `Sampled` says of the selected set and the open device. If the activation
  is refused, that is the last call, the sample fails with its code, and nothing of the session
  changes. If it is accepted, the clocks are read once, exactly the window passes, the set is read
  and then deactivated once. The sample fails for missing parameters if and only if there were none
  at that reading; it has the times of the clocks if and only if their call succeeded. The set is
  left active if and only if its deactivation did not succeed, and nothing else changes.

What the library has used up in its calls is no part of what a session is.
-/
theorem sample_end_to_end {loader : Loader} {candidates : List Path} {launched : Session Library}
    (hlaunch : (launch loader candidates).value = .ok launched) (earlier : List Operation) :
    let s := (performAll earlier launched).value.2
    s.released = false →
      (s.selection = none → sample s = { value := (.error .noMetricSetSelected, s) }) ∧
      ∀ selection, s.selection = some selection →
        ∃ a dev, s.gateway.Opened a dev ∧ Sampled s a dev selection.id (sample s) := by
  intro s hreleased
  refine ⟨sample_of_none, fun selection hsel => ?_⟩
  -- a session that is not released is in use, so the selected set is there
  obtain ⟨a, hs | hs⟩ := stage_of_launch hlaunch earlier
  · obtain ⟨dev, hdev, hpresent⟩ := hs.present
    have hid : s.selected = some selection.id := by rw [selected, hsel]; rfl
    exact ⟨a, dev, hdev, sampled_of_opened hdev hsel (hpresent _ hid)⟩
  · exact absurd hs.released (by rw [hreleased]; decide)

/-- The second sample on the library with two sets: the first one has left its set active, and now
the set does not give its parameters any more. It is deactivated all the same. -/
theorem sample_end_to_end_twoSets :
    (launch (fun _ => .opens Library.twoSets) [⟨[]⟩]).value = .ok onTwoSets ∧
    let s := (performAll [.select, .sample] onTwoSets).value.2
    s.released = false ∧ s.active = true ∧
    (∃ a dev, s.gateway.Opened a dev ∧ Sampled s a dev ⟨0, 0⟩ (sample s)) ∧
    (sample s).value.1 = .error (.missingParams "metric set") ∧
    (sample s).value.2.active = false := by
  have hlaunch : (launch (fun _ => .opens Library.twoSets) [⟨[]⟩]).value = .ok onTwoSets :=
    start_twoSets
  have hreleased : (performAll [.select, .sample] onTwoSets).value.2.released = false := by
    decide +kernel
  have hselection : (performAll [.select, .sample] onTwoSets).value.2.selection =
      some ⟨⟨0, 0⟩, none⟩ := by decide +kernel
  obtain ⟨-, hsampled⟩ := sample_end_to_end hlaunch [.select, .sample] hreleased
  exact ⟨hlaunch, hreleased, by decide +kernel, hsampled _ hselection, rfl, by decide +kernel⟩

end GpuMonitor.Session
