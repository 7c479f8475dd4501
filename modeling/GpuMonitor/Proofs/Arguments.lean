import GpuMonitor.CommandLine.Wording

/-!
# Options that are accepted

Arguments that are accepted name no library with an empty path, wherever the path comes from.

* `Reading.Sound`: the library that has been read, if any, has a path.
* `Reading.Sane`: what a step of the reading may come to. Every step does (`sane_take`,
  `sane_finish`).

Main result:

* `parser_refusesEmptyPath`: the parser of the monitor accepts no library with an empty path.
-/

namespace GpuMonitor.CommandLine

namespace Reading

/-- The path of the library that was read is not empty. -/
def Sound (r : Reading) : Prop := ∀ path ∈ r.library, path.bytes ≠ []

/-- A sound reading to go on from, or a request that is no run. -/
def Sane : Except Request Reading → Prop
  | .ok r => r.Sound
  | .error request => ∀ options, request ≠ .run options

theorem Sane.bind {x : Except Request Reading} {f : Reading → Except Request Reading}
    (hx : Sane x) (hf : ∀ r : Reading, r.Sound → Sane (f r)) : Sane (x >>= f) := by
  cases x with
  | error request => exact hx
  | ok r => exact hf r hx

theorem sane_refuse (argument : String) : Sane (refuse argument) := nofun

theorem sane_proceed {x : Reading × Option Complaint} (hx : x.1.Sound) : Sane (proceed x) := by
  obtain ⟨r, complaint⟩ := x
  cases complaint with
  | some complaint => exact nofun
  | none => exact hx

variable {r : Reading} (hr : r.Sound)
include hr

/-- A library with an empty path is complained of, and is not kept. -/
theorem sound_acceptLibrary (value : Bytes) : (r.acceptLibrary value).1.Sound := by
  unfold acceptLibrary
  split
  · intro path hpath
    cases hpath
  · split
    · exact hr
    · -- this is the one place where a library is kept
      next hvalue =>
      intro path hpath
      obtain rfl : Path.mk value = path := by simpa using hpath
      exact hvalue

theorem sound_settle : r.settle.1.Sound := by
  unfold settle
  dsimp only
  split
  · exact hr
  · exact hr
  · exact sound_acceptLibrary (r := { r with pending := .nothing }) hr _

theorem sane_accept (s : Switch) : Sane (r.accept s) := by
  refine (sane_proceed (sound_settle hr)).bind fun settled hsettled => ?_
  split
  · exact nofun
  · split
    · exact nofun
    · exact hsettled

theorem sane_takeName (name : Bytes) (value : Option Bytes) : Sane (r.takeName name value) := by
  have hsettle := sane_proceed (sound_settle hr)
  unfold takeName
  split
  · exact nofun
  · -- the value is still to come
    exact hsettle.bind fun settled hsettled => hsettled
  · exact hsettle.bind fun settled hsettled => sane_proceed (sound_acceptLibrary hsettled _)
  · exact sane_accept hr _
  · exact nofun

theorem sane_takeLetters (letters : List Char) : Sane (r.takeLetters letters) := by
  induction letters generalizing r with
  | nil => exact hr
  | cons c rest ih =>
    unfold takeLetters
    split
    · exact sane_refuse _
    · exact (sane_accept hr _).bind fun accepted haccepted => ih haccepted

theorem sane_takeCluster (bytes : Bytes) : Sane (r.takeCluster bytes) := by
  refine (sane_takeLetters hr _).bind fun lettered hlettered => ?_
  split
  · exact hlettered
  · exact sane_refuse _

theorem sane_takePlain (argument : Bytes) : Sane (r.takePlain argument) := by
  unfold takePlain
  split
  · exact hr
  · exact sane_refuse _

/-- Reading one argument keeps a reading sound, or ends it. -/
theorem sane_take (argument : Bytes) : Sane (r.take argument) := by
  unfold take
  split
  · exact sane_takePlain hr _
  · split
    · exact hr
    · exact sane_takeName hr _ _
    · exact sane_takePlain hr _
    · exact sane_takeCluster hr _
    · exact sane_takePlain hr _

theorem sane_foldlM (arguments : List Bytes) : Sane (arguments.foldlM take r) := by
  -- the reading goes on from any sound reading, so the induction is for all of them
  induction arguments generalizing r with
  | nil => exact hr
  | cons argument rest ih =>
    rw [List.foldlM_cons]
    exact (sane_take hr argument).bind fun taken htaken => ih htaken

/-- The variable is accepted as an argument is. -/
theorem sane_finish (preset : Option Bytes) : Sane (r.finish preset) := by
  refine (sane_proceed (sound_settle hr)).bind fun settled hsettled => ?_
  split
  · exact hsettled
  · split
    · exact hsettled
    · exact sane_proceed (sound_acceptLibrary hsettled _)

end Reading

/-- Options that are accepted name no library with an empty path. -/
theorem library_of_parse {arguments : List Bytes} {preset : Option Bytes} {options : Options}
    (h : parse arguments preset = .run options) : ∀ path ∈ options.library, path.bytes ≠ [] := by
  have hempty : Reading.Sound {} := by
    intro path hpath
    cases hpath
  have hread : Reading.Sane (do
      let r ← arguments.foldlM Reading.take {}
      r.finish preset) :=
    (Reading.sane_foldlM hempty arguments).bind fun r hr => Reading.sane_finish hr preset
  unfold parse at h
  dsimp only at h
  split at h
  · next r heq =>
    rw [heq] at hread
    obtain rfl := Request.run.inj h
    exact hread
  · next request heq =>
    rw [heq] at hread
    exact absurd h (hread options)

/-- **The parser of the monitor accepts no library with an empty path.** -/
theorem parser_refusesEmptyPath : Parser.RefusesEmptyPath parser := by
  intro arguments preset options h
  unfold parser at h
  split at h
  · next read hread =>
    obtain rfl := Parsing.accepted.inj h
    exact library_of_parse hread
  · cases h
  · cases h

end GpuMonitor.CommandLine
