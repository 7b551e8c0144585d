import SampleCapture.LoggedState

/-!
# Accounts

What an effect and a row of effects add to the counters.
-/

namespace SampleCapture

/-! ## Counters -/

namespace Counters

theorem add_assoc (first second third : Counters) :
    (first.add second).add third = first.add (second.add third) := by
  simp [add, UInt64.add_assoc]

theorem add_comm (first second : Counters) : first.add second = second.add first := by
  simp [add, UInt64.add_comm]

@[simp] theorem add_zero (counters : Counters) : counters.add {} = counters := by
  simp [add]

@[simp] theorem zero_add (counters : Counters) : ({} : Counters).add counters = counters := by
  simp [add]

end Counters

/-- A counter of fewer than `2 ^ 64` things is exact. -/
theorem toNat_toUInt64_of_lt {count : Nat} (small : count < UInt64.size) :
    count.toUInt64.toNat = count := by
  rw [Nat.toUInt64_eq, UInt64.toNat_ofNat_of_lt' small]

/-! ## Effects -/

def Effect.amounts : Effect → Counters
  | .count amounts => amounts
  | .log _ | .record _ | .raise => {}

def Effect.total : List Effect → Counters
  | [] => {}
  | effect :: effects => effect.amounts.add (total effects)

theorem Effect.total_append (first second : List Effect) :
    Effect.total (first ++ second) = (Effect.total first).add (Effect.total second) := by
  induction first with
  | nil => simp [Effect.total]
  | cons effect effects ih => rw [List.cons_append, Effect.total, ih, Effect.total,
      Counters.add_assoc]

@[simp] theorem Effect.total_stop (reason : StopReason) : Effect.total (Effect.stop reason) = {} :=
  rfl

theorem LoggedState.counters_perform (shared : LoggedState) (effect : Effect) :
    (shared.perform effect).state.counters = shared.state.counters.add effect.amounts := by
  cases effect with
  | count amounts => rfl
  | log event => exact (Counters.add_zero _).symm
  | record reason => exact (Counters.add_zero _).symm
  | raise => exact (Counters.add_zero _).symm

theorem LoggedState.counters_performAll (shared : LoggedState) (effects : List Effect) :
    (shared.performAll effects).state.counters = shared.state.counters.add
    (Effect.total effects) := by
  induction effects generalizing shared with
  | nil => exact (Counters.add_zero _).symm
  | cons effect effects ih =>
      calc ((shared.perform effect).performAll effects).state.counters
          = (shared.perform effect).state.counters.add (Effect.total effects) := ih _
        _ = shared.state.counters.add (Effect.total (effect :: effects)) := by
          rw [LoggedState.counters_perform, Counters.add_assoc, Effect.total]

end SampleCapture
