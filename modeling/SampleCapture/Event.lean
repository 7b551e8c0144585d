import SampleCapture.Fault
import SampleCapture.Progress.Line
import SampleCapture.Stop

/-!
# Log events

What a capture reports while it runs. An event is a fact; its level, wording, fields
and target are functions of it.
-/

namespace SampleCapture

inductive Event where
  | stopRequested (reason : StopReason)
  | warmUpComplete (discarded : UInt64)
  /-- A flagged live byte at this offset. -/
  | overflowFlagged (byteOffset : UInt64)
  /-- Decoded bytes that the queue refused. -/
  | samplesRefused (count : Nat) (cause : CaptureError)
  | progress (report : ProgressSnapshot) (dropouts : UInt64)
  | recorderStarted (sliceBytes : Nat)
  | recorderDraining (queued : Nat)
  | writeFailed (written : UInt64) (fault : Fault)
  | recorderFinished (written : UInt64)
  | outputMissing
  | captureStarted (warmUpBytes : UInt64) (queueCapacity : Nat)
  | captureEnded (counters : Counters)
  | transferFailedAfterStop (cause : CaptureError)
  | summary (counters : Counters) (reason : Option StopReason)
  | cutShort (byteOffset : UInt64)
  | outputIncomplete (cause : String)
deriving Inhabited

inductive Level where
  | debug
  | info
  | warn
  | error
deriving Repr, DecidableEq, Inhabited

inductive FieldValue where
  | number (n : Nat)
  | text (value : String)
deriving Repr, DecidableEq, Inhabited

namespace Event

def level : Event → Level
  | recorderDraining _ => .debug
  | transferFailedAfterStop _ | cutShort _ | outputIncomplete _ => .warn
  | overflowFlagged _ | samplesRefused .. | writeFailed .. => .error
  | _ => .info

def message : Event → String
  | stopRequested _ => "stop requested"
  | warmUpComplete _ => "warm-up complete, capturing samples"
  | overflowFlagged _ => "FPGA FIFO error flag, samples are no longer contiguous"
  | samplesRefused count cause =>
      "dropping " ++ toString count ++ " decoded bytes: " ++ cause.message
  | progress report dropouts => String.ofList (ProgressLine.render report dropouts)
  | recorderStarted _ => "persistence worker started"
  | recorderDraining _ => "stop requested, draining queue"
  | writeFailed _ fault => "write error: " ++ fault.text
  | recorderFinished _ => "persistence worker finished"
  | outputMissing => "no output file, samples are checked but not saved"
  | captureStarted .. => "capture started"
  | captureEnded _ => "Capture ended."
  | transferFailedAfterStop cause =>
      "transfer ended with error after stop request: " ++ cause.message
  | summary .. => "capture summary"
  | cutShort _ => "capture cut short by FIFO overflow; samples up to the offset are valid"
  | outputIncomplete cause => "output file is incomplete: " ++ cause

/-- The structured fields, in the order of their writing. A sample offset is twice the
byte offset, modulo `2 ^ 64`. -/
def fields : Event → List (String × FieldValue)
  | stopRequested reason => [("reason", .text reason.label)]
  | warmUpComplete discarded => [("discarded", .number discarded.toNat)]
  | overflowFlagged offset =>
      [("byte_offset", .number offset.toNat), ("sample_offset", .number (offset * 2).toNat)]
  | recorderStarted sliceBytes => [("slice_bytes", .number sliceBytes)]
  | recorderDraining queued => [("queued", .number queued)]
  | writeFailed written _ => [("written", .number written.toNat)]
  | recorderFinished written => [("bytes", .number written.toNat)]
  | captureStarted warmUpBytes queueCapacity =>
      [("warm_up_bytes", .number warmUpBytes.toNat), ("queue_capacity", .number queueCapacity)]
  | captureEnded counters =>
      [("received", .number counters.received.toNat), ("saved", .number counters.saved.toNat),
        ("written", .number counters.written.toNat)]
  | summary counters reason =>
      [("received_bytes", .number counters.received.toNat),
        ("saved_bytes", .number counters.saved.toNat),
        ("written_bytes", .number counters.written.toNat),
        ("dropouts", .number counters.dropouts.toNat),
        ("reason", .text (StopReason.optionLabel reason))]
  | cutShort offset => [("byte_offset", .number offset.toNat)]
  | samplesRefused .. | progress .. | outputMissing | transferFailedAfterStop _
  | outputIncomplete _ => []

/-- Telemetry lines have a target of their own. -/
def target : Event → Option String
  | progress .. => some ProgressLine.target
  | _ => none

end Event

end SampleCapture
