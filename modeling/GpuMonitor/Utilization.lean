import GpuMonitor.Channel
import GpuMonitor.Descriptor

/-!
# Utilization samples

One sample holds a percentage for each engine channel and their total.

* `Utilization.normalize`: the total is summed afresh, and a sum above 100 scales
  every channel down and makes the total 100.
* `Utilization.ofChannels`: a normalized sample of four values.
* `Utilization.pieces`, `text`: the line that shows a sample, and the pieces in which
  it is written.
-/

namespace GpuMonitor

/-- Percentages of the engine channels, their total, and the clocks read with them. -/
structure Utilization where
  render : Binary64 := 0
  blitter : Binary64 := 0
  video : Binary64 := 0
  enhance : Binary64 := 0
  total : Binary64 := 0
  timestamps : Option Timestamps := none
  deriving DecidableEq, Inhabited

namespace Utilization

/-- The value of one channel. -/
def channel (u : Utilization) : Channel → Binary64
  | .render => u.render
  | .blitter => u.blitter
  | .video => u.video
  | .enhance => u.enhance

/-- The sample with the value of one channel replaced; the total stays as it was. -/
def setChannel (u : Utilization) (value : Binary64) : Channel → Utilization
  | .render => { u with render := value }
  | .blitter => { u with blitter := value }
  | .video => { u with video := value }
  | .enhance => { u with enhance := value }

/-- The sum of the channels, from the first to the last. -/
def sum (u : Utilization) : Binary64 := u.render + u.blitter + u.video + u.enhance

/-- The sample with every channel multiplied by one factor. -/
def scaled (u : Utilization) (factor : Binary64) : Utilization :=
  { u with
    render := u.render * factor
    blitter := u.blitter * factor
    video := u.video * factor
    enhance := u.enhance * factor }

/-- The sample with its total summed afresh; a sum above 100 is scaled down to it. -/
def normalize (u : Utilization) : Utilization :=
  if u.sum.above 100 then { u.scaled (100 / u.sum) with total := 100 }
  else { u with total := u.sum }

/-- The normalized sample of four values. -/
def ofChannels (render blitter video enhance : Binary64) : Utilization :=
  normalize { render, blitter, video, enhance }

/-- The pieces that the text of a sample is written in. -/
def pieces (u : Utilization) : List String :=
  ["Render: ", u.render.text, "%  Blitter: ", u.blitter.text, "%  Video: ", u.video.text,
    "%  Enhance: ", u.enhance.text, "%  | Total: ", u.total.text, "%"]

/-- The text of a sample. -/
def text (u : Utilization) : String := String.join u.pieces

end Utilization
end GpuMonitor
