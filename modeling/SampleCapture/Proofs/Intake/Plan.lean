import SampleCapture.Intake.Basic
import SampleCapture.Proofs.Accounts

/-!
# What a burst amounts to

What the plan for a burst hands to the queue and adds to the counters.
-/

namespace SampleCapture

/-- The live bytes of two parts of a stream; the first part uses up the warm-up. -/
theorem liveBytes_append (warmUp : Nat) (first second : List UInt8) :
    liveBytes warmUp (first ++ second) =
      liveBytes warmUp first ++ liveBytes (warmUp - first.length) second :=
  List.drop_append

/-- There are at most two samples for each byte of a stream. -/
theorem length_sampleBytes_liveBytes_le (warmUp : Nat) (stream : List UInt8) :
    (sampleBytes (liveBytes warmUp stream)).length ≤ 2 * stream.length := by
  have counts := unflaggedCount_add_flaggedCount (liveBytes warmUp stream)
  have shorter : (liveBytes warmUp stream).length ≤ stream.length := by simp [liveBytes]
  rw [length_sampleBytes]
  omega

namespace Intake

/-- What a burst adds to the counters, if all of its samples find their way. -/
def amounts (intake : Intake) (receivedBefore : UInt64) (burst : List UInt8) : Counters where
  received := burst.length.toUInt64
  saved := (unflaggedCount (intake.liveOf receivedBefore burst)).toUInt64
  dropouts := (flaggedCount (intake.liveOf receivedBefore burst)).toUInt64

@[simp] theorem amounts_nil (intake : Intake) (receivedBefore : UInt64) :
    intake.amounts receivedBefore [] = {} := by
  simp [amounts, liveOf, liveBytes, unflaggedCount, flaggedCount]

theorem plan_warmUpBytes (intake : Intake) (receivedBefore : UInt64) (burst : List UInt8) :
    (intake.plan receivedBefore burst).intake.warmUpBytes = intake.warmUpBytes := by
  unfold plan
  split <;> rfl

theorem plan_samples (intake : Intake) (receivedBefore : UInt64) (burst : List UInt8) :
    (intake.plan receivedBefore burst).samples =
      sampleBytes (intake.liveOf receivedBefore burst) := by
  unfold plan
  split
  · rename_i none
    rw [none]
    rfl
  · rename_i some
    rw [some]

theorem total_overflowEffects (intake : Intake) (indices : List Nat) :
    Effect.total (indices.flatMap fun index =>
      overflowEffects (intake.liveCount + index.toUInt64)) =
        { dropouts := indices.length.toUInt64 } := by
  induction indices with
  | nil => rfl
  | cons index indices ih =>
      rw [List.flatMap_cons, Effect.total_append, ih]
      simp [overflowEffects, Effect.total, Effect.amounts, Effect.stop, Counters.add,
        UInt64.add_comm]

/-- The effects before the queue count the flagged live bytes and nothing else. -/
theorem total_plan (intake : Intake) (receivedBefore : UInt64) (burst : List UInt8) :
    Effect.total (intake.plan receivedBefore burst).effects =
      { dropouts := (flaggedCount (intake.liveOf receivedBefore burst)).toUInt64 } := by
  have quiet : Effect.total intake.warmUpEffects = {} := by
    unfold warmUpEffects
    split <;> rfl
  unfold plan
  split
  · rename_i none
    rw [none]
    rfl
  · rename_i some
    rw [some, Effect.total_append, quiet, Counters.zero_add, total_overflowEffects,
      length_flaggedIndices]

end Intake

end SampleCapture
