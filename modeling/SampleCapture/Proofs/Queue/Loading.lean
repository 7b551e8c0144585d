import SampleCapture.Proofs.Queue.Steps
import SampleCapture.Queue.Exchange

/-!
# Loading a queue

Pushes for which there is room end at once, though nobody takes anything out. Then the queue
holds all that has been pushed, in order.
-/

namespace SampleCapture

theorem ByteQueue.excess_of_length_le {queue : ByteQueue} {bytes : List UInt8}
    (fits : queue.bytes.length + bytes.length ≤ queue.capacity) : queue.excess bytes = [] := by
  by_cases unbounded : queue.capacity = 0
  · exact excess_of_unbounded unbounded bytes
  · simp only [excess, room, unbounded, if_false, Option.elim_some, List.drop_eq_nil_iff]
    omega

namespace Channel

def pushAll (channel : Channel) : List (List UInt8) → Channel
  | [] => channel
  | bytes :: pushes => (channel.call (.push bytes)).2.pushAll pushes

/-- A channel into which all this has been pushed, and which is closed. -/
def loaded (capacity : Nat) (pushes : List (List UInt8)) : Channel :=
  (((create capacity).pushAll pushes).call .close).2

/-- A push of what fits leaves the channel at rest. -/
theorem call_push {queue : ByteQueue} (present : queue.abandoned = false) {bytes : List UInt8}
    (fits : queue.excess bytes = []) :
    (call { queue := queue } (.push bytes)).2 =
      { queue := { queue with bytes := queue.bytes ++ bytes } } := by
  by_cases nothing : bytes = []
  · simp [call, pushWaits, beginPush, rest, settle, producerStep?, consumerStep?, ByteQueue.offer,
      nothing]
  · have fill : queue.fill bytes = { queue with bytes := queue.bytes ++ bytes } := by
      rw [ByteQueue.fill, ByteQueue.fitting_of_excess fits]
    by_cases unbounded : queue.capacity = 0
    · simp [call, pushWaits, beginPush, rest, settle, producerStep?, consumerStep?,
        ByteQueue.offer, wakeConsumer, nothing, present, fits, fill, unbounded]
    · simp [call, pushWaits, beginPush, rest, settle, producerStep?, consumerStep?,
        ByteQueue.offer, wakeConsumer, nothing, present, fits, fill, unbounded]

theorem pushAll_eq {queue : ByteQueue} (present : queue.abandoned = false)
    {pushes : List (List UInt8)}
    (fits : queue.capacity = 0 ∨
      queue.bytes.length + pushes.flatten.length ≤ queue.capacity) :
    pushAll { queue := queue } pushes =
      { queue := { queue with bytes := queue.bytes ++ pushes.flatten } } := by
  induction pushes generalizing queue with
  | nil => simp [pushAll]
  | cons bytes pushes ih =>
      have now : queue.excess bytes = [] := by
        rw [List.flatten_cons, List.length_append] at fits
        rcases fits with unbounded | fits
        · exact ByteQueue.excess_of_unbounded unbounded bytes
        · exact ByteQueue.excess_of_length_le (by omega)
      rw [pushAll, call_push present now, ih]
      · simp
      · exact present
      · simpa [Nat.add_assoc] using fits

theorem loaded_eq {capacity : Nat} {pushes : List (List UInt8)}
    (fits : capacity = 0 ∨ pushes.flatten.length ≤ capacity) :
    loaded capacity pushes =
      { queue := { capacity := capacity, bytes := pushes.flatten, closed := true }
        producer := .gone } := by
  have full : (create capacity).pushAll pushes =
      { queue := { capacity := capacity, bytes := pushes.flatten } } := by
    refine (pushAll_eq rfl ?_).trans (by simp [ByteQueue.create])
    simpa [create, ByteQueue.create] using fits
  rw [loaded, full]
  simp [call, pushWaits, beginClose, rest, settle, producerStep?, consumerStep?, wakeConsumer,
    ByteQueue.close]

end Channel

end SampleCapture
