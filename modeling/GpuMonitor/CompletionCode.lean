/-!
# Completion codes

Every call into the metrics library answers with a whole number. Fourteen of them
have a name; any other is kept as it is.

* `CompletionCode.ofRaw`: the code of a number; it is injective (`ofRaw_injective`).
* `isOk`, `isAccepted`: success, and success as an activation understands it.
* `name`: the symbolic name; `identifier`: the name as a constructor.
-/

namespace GpuMonitor

/-- What a call into the metrics library reports. -/
inductive CompletionCode where
  | ok
  | readPending
  | alreadyInitialized
  | stillInitialized
  | concurrentGroupLocked
  | waitTimeout
  | tryAgain
  | interrupted
  | errorInvalidParameter
  | errorNoMemory
  | errorGeneral
  | errorFileNotFound
  | errorNotSupported
  | errorAccessDenied
  /-- A number without a name. -/
  | unknown (raw : Int)
  deriving DecidableEq, Repr

namespace CompletionCode

/-- The code that a number stands for. -/
def ofRaw : Int → CompletionCode
  | 0 => ok
  | 1 => readPending
  | 2 => alreadyInitialized
  | 3 => stillInitialized
  | 4 => concurrentGroupLocked
  | 5 => waitTimeout
  | 6 => tryAgain
  | 7 => interrupted
  | 40 => errorInvalidParameter
  | 41 => errorNoMemory
  | 42 => errorGeneral
  | 43 => errorFileNotFound
  | 44 => errorNotSupported
  | 45 => errorAccessDenied
  | raw => unknown raw

/-- The number of a code. -/
def raw : CompletionCode → Int
  | ok => 0
  | readPending => 1
  | alreadyInitialized => 2
  | stillInitialized => 3
  | concurrentGroupLocked => 4
  | waitTimeout => 5
  | tryAgain => 6
  | interrupted => 7
  | errorInvalidParameter => 40
  | errorNoMemory => 41
  | errorGeneral => 42
  | errorFileNotFound => 43
  | errorNotSupported => 44
  | errorAccessDenied => 45
  | unknown n => n

@[simp] theorem raw_ofRaw (n : Int) : (ofRaw n).raw = n := by
  unfold ofRaw
  split <;> rfl

theorem ofRaw_injective {m n : Int} (h : ofRaw m = ofRaw n) : m = n := by
  rw [← raw_ofRaw m, h, raw_ofRaw]

/-- The call succeeded. -/
def isOk (code : CompletionCode) : Bool := code = ok

/-- An activation succeeded: the set is active now, or was before. -/
def isAccepted (code : CompletionCode) : Bool := code = ok || code = alreadyInitialized

/-- The symbolic name. -/
def name : CompletionCode → String
  | ok => "OK"
  | readPending => "READ_PENDING"
  | alreadyInitialized => "ALREADY_INITIALIZED"
  | stillInitialized => "STILL_INITIALIZED"
  | concurrentGroupLocked => "CONCURRENT_GROUP_LOCKED"
  | waitTimeout => "WAIT_TIMEOUT"
  | tryAgain => "TRY_AGAIN"
  | interrupted => "INTERRUPTED"
  | errorInvalidParameter => "ERROR_INVALID_PARAMETER"
  | errorNoMemory => "ERROR_NO_MEMORY"
  | errorGeneral => "ERROR_GENERAL"
  | errorFileNotFound => "ERROR_FILE_NOT_FOUND"
  | errorNotSupported => "ERROR_NOT_SUPPORTED"
  | errorAccessDenied => "ERROR_ACCESS_DENIED"
  | unknown _ => "UNKNOWN_ERROR"

/-- A whole number with its sign. -/
def numberText : Int → String
  | .ofNat n => String.ofList (Nat.toDigits 10 n)
  | .negSucc n => String.ofList ('-' :: Nat.toDigits 10 (n + 1))

/-- The code written as a constructor, with its number when it has no name. -/
def identifier : CompletionCode → String
  | ok => "Ok"
  | readPending => "ReadPending"
  | alreadyInitialized => "AlreadyInitialized"
  | stillInitialized => "StillInitialized"
  | concurrentGroupLocked => "ConcurrentGroupLocked"
  | waitTimeout => "WaitTimeout"
  | tryAgain => "TryAgain"
  | interrupted => "Interrupted"
  | errorInvalidParameter => "ErrorInvalidParameter"
  | errorNoMemory => "ErrorNoMemory"
  | errorGeneral => "ErrorGeneral"
  | errorFileNotFound => "ErrorFileNotFound"
  | errorNotSupported => "ErrorNotSupported"
  | errorAccessDenied => "ErrorAccessDenied"
  | unknown n => "Unknown(" ++ numberText n ++ ")"

/-- Success, or the code as the failure. -/
def toExcept (code : CompletionCode) : Except CompletionCode Unit :=
  if code.isOk then .ok () else .error code

end CompletionCode
end GpuMonitor
