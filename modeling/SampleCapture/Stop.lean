/-!
# Stop requests and counters

A capture has one reason to stop, the first that anybody gives. A request takes two
atomic steps: under a lock the reason is recorded if none is there yet, and after
that the stop flag is raised. Between the two another party may look. The counters
are 64-bit words and wrap.
-/

namespace SampleCapture

inductive StopReason where
  | userInterrupt
  /-- The receiver lost bytes; the offset is the place of the flagged byte among the
  live ones. -/
  | hardwareOverflow (byteOffset : UInt64)
  | writeFailed
  | transferEnded
deriving Repr, DecidableEq, Inhabited

def StopReason.label : StopReason → String
  | userInterrupt => "UserInterrupt"
  | hardwareOverflow offset =>
      "HardwareOverflow \x7b byte_offset: " ++ toString offset.toNat ++ " \x7d"
  | writeFailed => "WriteFailed"
  | transferEnded => "TransferEnded"

def StopReason.optionLabel : Option StopReason → String
  | none => "None"
  | some reason => "Some(" ++ reason.label ++ ")"

structure Counters where
  /-- Bytes delivered by the device, warm-up included. -/
  received : UInt64 := 0
  /-- Device bytes decoded and queued. -/
  saved : UInt64 := 0
  /-- Sample bytes handed to the output. -/
  written : UInt64 := 0
  /-- Flagged live bytes. -/
  dropouts : UInt64 := 0
deriving Repr, DecidableEq, Inhabited

def Counters.add (counters amounts : Counters) : Counters where
  received := counters.received + amounts.received
  saved := counters.saved + amounts.saved
  written := counters.written + amounts.written
  dropouts := counters.dropouts + amounts.dropouts

/-- What the parties of a capture share beside the queue. -/
structure SharedState where
  stopping : Bool := false
  reason : Option StopReason := none
  counters : Counters := {}
deriving Repr, DecidableEq, Inhabited

namespace SharedState

/-- The locked step of a stop request: the first reason stays. -/
def record (state : SharedState) (reason : StopReason) : SharedState :=
  { state with reason := some (state.reason.getD reason) }

def raise (state : SharedState) : SharedState :=
  { state with stopping := true }

def askStop (state : SharedState) (reason : StopReason) : SharedState :=
  (state.record reason).raise

def count (state : SharedState) (amounts : Counters) : SharedState :=
  { state with counters := state.counters.add amounts }

theorem record_of_reason {state : SharedState} {first : StopReason}
    (recorded : state.reason = some first) (reason : StopReason) :
    state.record reason = state := by
  cases state
  simp_all [record]

theorem reason_record (state : SharedState) (reason : StopReason) :
    (state.record reason).reason = some (state.reason.getD reason) := rfl

end SharedState

end SampleCapture
