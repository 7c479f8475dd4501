import GpuMonitor.Text.Utf8

/-!
# Paths of files

A path is a string of bytes; its text replaces what is not UTF-8.
-/

namespace GpuMonitor

/-- The name of a file. -/
structure Path where
  bytes : Bytes
  deriving DecidableEq, Repr, Inhabited

namespace Path

/-- The path with a given text. -/
def ofText (text : String) : Path := ⟨Bytes.ofText text⟩

/-- The path for a reader. -/
def text (path : Path) : String := path.bytes.text

end Path
end GpuMonitor
