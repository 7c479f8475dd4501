import GpuMonitor.Failure
import GpuMonitor.Text.Quoted

/-!
# Failures as values

A failure written with the name of its kind and its fields, for a reader who wants to see
the value and not the wording. Texts and paths stand in quotation marks.
-/

namespace GpuMonitor

/-- A kind with fields. -/
def record (name : String) (fields : List (String × String)) : String :=
  name ++ " \x7b " ++ String.intercalate ", " (fields.map fun (f, value) => f ++ ": " ++ value)
    ++ " \x7d"

/-- A text in quotation marks. -/
def quotedText (text : String) : String := Text.quoted (Bytes.ofText text)

/-- The value of a failure. -/
def Failure.literal : Failure → String
  | libraryNotFound tried =>
    record "LibraryNotFound" [("tried",
      "[" ++ String.intercalate ", " (tried.map fun path => Text.quoted path.bytes) ++ "]")]
  | entryPointMissing reason =>
    record "EntryPointMissing" [("symbol", quotedText entryPoint),
      ("source", record "DlSym" [("desc", quotedText reason)])]
  | vendorCall operation code =>
    record "VendorCall" [("operation", quotedText operation), ("code", code.identifier)]
  | missingParams what => record "MissingParams" [("what", quotedText what)]
  | noIntelAdapter => "NoIntelAdapter"
  | noUtilizationMetricSet => "NoUtilizationMetricSet"
  | noMetricSetSelected => "NoMetricSetSelected"
  | invalidConfig reason => record "InvalidConfig" [("message", quotedText reason)]

end GpuMonitor
