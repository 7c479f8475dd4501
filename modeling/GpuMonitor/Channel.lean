import GpuMonitor.Binary64
import GpuMonitor.Text.Keyword

/-!
# Engine channels and the metrics that feed them

The engines of a GPU that a sample reports on, and how a metric is recognized by
its name: it must mention an engine and an activity, in any letter case.

* `classify`: the engine and the activity of a metric's name, if it has both.
* `sampleChannel`: the channel that a metric feeds; only busy counters feed one.
* `placeholder`: the value that a fed channel shows.
-/

namespace GpuMonitor

/-- An engine of the GPU. -/
inductive Channel where
  | render
  | blitter
  | video
  | enhance
  deriving DecidableEq, Repr

namespace Channel

/-- Every channel, in the order in which samples show them. -/
def all : List Channel := [render, blitter, video, enhance]

/-- The name in samples. -/
def name : Channel → String
  | render => "Render"
  | blitter => "Blitter"
  | video => "Video"
  | enhance => "Enhance"

/-- The name in small letters. -/
def lowerName : Channel → String
  | render => "render"
  | blitter => "blitter"
  | video => "video"
  | enhance => "enhance"

/-- The percentage that a channel shows while a busy counter feeds it. -/
def placeholder : Channel → Binary64
  | render => 25
  | blitter => 5
  | video => 10
  | enhance => 0

end Channel

/-- What a recognized metric measures. -/
inductive Activity where
  | busy
  | util
  deriving DecidableEq, Repr

/-- The name of an activity. -/
def Activity.name : Activity → String
  | busy => "Busy"
  | util => "Util"

/-- What a metric's name says about it. -/
structure MetricClass where
  channel : Channel
  activity : Activity
  deriving DecidableEq, Repr

/-- The activity that a name mentions; `busy` goes before `util`. -/
def activityOf (name : List Char) : Option Activity :=
  if Text.mentions name ['b', 'u', 's', 'y'] then some .busy
  else if Text.mentions name ['u', 't', 'i', 'l'] then some .util
  else none

/-- The engine that a name mentions; `render` goes before `blitter`, and that before `video`. -/
def engineOf (name : List Char) : Option Channel :=
  if Text.mentions name ['r', 'e', 'n', 'd', 'e', 'r'] then some .render
  else if Text.mentions name ['b', 'l', 'i', 't', 't', 'e', 'r'] then some .blitter
  else if Text.mentions name ['v', 'i', 'd', 'e', 'o'] then some .video
  else none

/-- The class of a metric by its name, when the name mentions an activity and an engine. -/
def classify (name : String) : Option MetricClass :=
  match activityOf name.toList, engineOf name.toList with
  | some activity, some channel => some ⟨channel, activity⟩
  | _, _ => none

/-- The channel that a metric feeds while a sample is taken. -/
def sampleChannel (name : String) : Option Channel :=
  match classify name with
  | some ⟨channel, .busy⟩ => some channel
  | _ => none

end GpuMonitor
