/-!
# Faults and capture errors

A fault is what the operating system reports for a read or a write. A capture error
is any reason for which a capture cannot start or go on. Both are causes; their
wording is in `Fault.text` and `CaptureError.message`.
-/

namespace SampleCapture

inductive FaultKind where
  | other
  | interrupted
  | brokenPipe
  | permissionDenied
  | timedOut
  | unexpectedEnd
  | writeZero
deriving Repr, DecidableEq, Inhabited

def FaultKind.text : FaultKind → String
  | other => "other error"
  | interrupted => "operation interrupted"
  | brokenPipe => "broken pipe"
  | permissionDenied => "permission denied"
  | timedOut => "timed out"
  | unexpectedEnd => "unexpected end of file"
  | writeZero => "write zero"

structure Fault where
  kind : FaultKind := .other
  detail : Option String := none
deriving Repr, DecidableEq, Inhabited

/-- Its own text if it has one, even an empty one. -/
def Fault.text (fault : Fault) : String :=
  fault.detail.getD fault.kind.text

/-- An interrupted call has done nothing and is simply made again. -/
def Fault.isInterrupted (fault : Fault) : Bool :=
  fault.kind == .interrupted

inductive CaptureError where
  | deviceSetup (detail : String)
  | deviceNotFound (vendor product : UInt16)
  | transfer (detail : String)
  | queueDisconnected
  | io (fault : Fault)
  | other (detail : String)
deriving Repr, DecidableEq, Inhabited

def hexWord (word : UInt16) : String :=
  let digits := Nat.toDigits 16 word.toNat
  String.ofList (List.replicate (4 - digits.length) '0' ++ digits)

def CaptureError.message : CaptureError → String
  | deviceSetup detail => "device setup error: " ++ detail
  | deviceNotFound vendor product =>
      "no device found with id " ++ hexWord vendor ++ ":" ++ hexWord product
  | transfer detail => "USB transfer error: " ++ detail
  | queueDisconnected => "sample queue consumer is gone, nothing is draining to disk"
  | io fault => "IO error: " ++ fault.text
  | other detail => detail

end SampleCapture
