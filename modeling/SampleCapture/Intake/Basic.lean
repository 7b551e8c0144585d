import SampleCapture.LoggedState
import SampleCapture.Queue.Channel
import SampleCapture.Sample

/-!
# Intake

The intake takes the bursts of a transfer. It cuts off the warm-up, reports every
flagged live byte, and hands the samples of the unflagged ones to the queue. A flagged
byte asks for a stop but the rest of its burst is still decoded, and bursts that arrive
after a stop request are treated like any other: the stop flag only decides the answer.
-/

namespace SampleCapture

inductive Answer where
  | continue
  | stop
deriving Repr, DecidableEq, Inhabited

/-- What the intake keeps for itself. -/
structure Intake where
  warmUpBytes : UInt64
  /-- Live bytes seen so far. -/
  liveCount : UInt64
  /-- The end of the warm-up has been reported, or there is none. -/
  warmedUp : Bool
deriving Repr, DecidableEq, Inhabited

structure IntakePlan where
  intake : Intake
  /-- Effects before the samples are queued, in order. -/
  effects : List Effect
  /-- The bytes for the queue. -/
  samples : List UInt8
deriving Inhabited

namespace Intake

def start (warmUpBytes : UInt64) : Intake where
  warmUpBytes := warmUpBytes
  liveCount := 0
  warmedUp := warmUpBytes = 0

def overflowEffects (byteOffset : UInt64) : List Effect :=
  .count { dropouts := 1 } :: .log (.overflowFlagged byteOffset) ::
    Effect.stop (.hardwareOverflow byteOffset)

/-- The live part of a burst: what is left of the warm-up after the bytes received
before is cut off. -/
def liveOf (intake : Intake) (receivedBefore : UInt64) (burst : List UInt8) : List UInt8 :=
  liveBytes (intake.warmUpBytes.toNat - receivedBefore.toNat) burst

def warmUpEffects (intake : Intake) : List Effect :=
  if intake.warmedUp then [] else [.log (.warmUpComplete intake.warmUpBytes)]

def plan (intake : Intake) (receivedBefore : UInt64) (burst : List UInt8) : IntakePlan :=
  match intake.liveOf receivedBefore burst with
  | [] => { intake := intake, effects := [], samples := [] }
  | live@(_ :: _) =>
      { intake :=
          { intake with
            liveCount := intake.liveCount + live.length.toUInt64, warmedUp := true }
        effects := intake.warmUpEffects ++ (flaggedIndices 0 live).flatMap fun index =>
          overflowEffects (intake.liveCount + index.toUInt64)
        samples := sampleBytes live }

def countReceived (burst : List UInt8) : Effect :=
  .count { received := burst.length.toUInt64 }

/-- The effects after the queue has answered. Two sample bytes stand for one saved
device byte. -/
def afterPush (samples : List UInt8) : PushResult → List Effect
  | .accepted => [.count { saved := (samples.length / 2).toUInt64 }]
  | .refused => .log (.samplesRefused samples.length .queueDisconnected) ::
      Effect.stop .writeFailed

/-- The effects of a progress report: its telemetry line has the dropouts so far. -/
def reportEffects (state : SharedState) : Option ProgressSnapshot → List Effect
  | none => []
  | some report => [.log (.progress report state.counters.dropouts)]

def answer (state : SharedState) : Answer :=
  if state.stopping then .stop else .continue

end Intake

end SampleCapture
