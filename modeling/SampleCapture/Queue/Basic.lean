/-!
# The byte queue

One producer puts bytes in, one consumer takes them out. Each definition here is one
critical section: what happens while the queue's lock is held. Capacity zero means
that there is no bound. With a bound, the producer puts in what fits and then has to
wait for room; nothing is ever dropped while the consumer is there.
-/

namespace SampleCapture

/-- The state that the lock guards, and the capacity. -/
structure ByteQueue where
  capacity : Nat
  bytes : List UInt8 := []
  /-- No further bytes will be put in. -/
  closed : Bool := false
  /-- The consumer is gone, so nothing will be taken out. -/
  abandoned : Bool := false
deriving Repr, DecidableEq, Inhabited

inductive Offer where
  /-- All bytes are in. -/
  | taken
  /-- The queue is full and these bytes are still to go in. -/
  | full (rest : List UInt8)
  /-- The consumer is gone. -/
  | refused
deriving Repr, DecidableEq, Inhabited

inductive Withdrawal where
  /-- These bytes were taken. -/
  | bytes (taken : List UInt8)
  /-- The queue is empty and closed. -/
  | ended
  /-- The queue is empty and bytes may still come. -/
  | empty
deriving Repr, DecidableEq, Inhabited

namespace ByteQueue

def create (capacity : Nat) : ByteQueue where
  capacity := capacity

/-- How many bytes fit now, if there is a bound. -/
def room (queue : ByteQueue) : Option Nat :=
  if queue.capacity = 0 then none else some (queue.capacity - queue.bytes.length)

def fitting (queue : ByteQueue) (bytes : List UInt8) : List UInt8 :=
  queue.room.elim bytes bytes.take

def excess (queue : ByteQueue) (bytes : List UInt8) : List UInt8 :=
  queue.room.elim [] bytes.drop

theorem fitting_append_excess (queue : ByteQueue) (bytes : List UInt8) :
    queue.fitting bytes ++ queue.excess bytes = bytes := by
  unfold fitting excess
  cases queue.room <;> simp

def fill (queue : ByteQueue) (bytes : List UInt8) : ByteQueue :=
  { queue with bytes := queue.bytes ++ queue.fitting bytes }

def offer (queue : ByteQueue) (bytes : List UInt8) : Offer × ByteQueue :=
  if bytes = [] then (.taken, queue)
  else if queue.abandoned then (.refused, queue)
  else if queue.excess bytes = [] then (.taken, queue.fill bytes)
  else (.full (queue.excess bytes), queue.fill bytes)

/-- Takes out up to `limit` bytes; a limit of zero always takes nothing. -/
def withdraw (queue : ByteQueue) (limit : Nat) : Withdrawal × ByteQueue :=
  if limit = 0 then (.bytes [], queue)
  else if queue.bytes = [] then (if queue.closed then .ended else .empty, queue)
  else (.bytes (queue.bytes.take limit), { queue with bytes := queue.bytes.drop limit })

def close (queue : ByteQueue) : ByteQueue :=
  { queue with closed := true }

/-- Drops the consumer's end; what is queued goes with it. -/
def abandon (queue : ByteQueue) : ByteQueue :=
  { queue with abandoned := true, bytes := [] }

structure Sound (queue : ByteQueue) : Prop where
  bounded : 0 < queue.capacity → queue.bytes.length ≤ queue.capacity
  drained : queue.abandoned = true → queue.bytes = []

theorem Sound.create (capacity : Nat) : (create capacity).Sound :=
  ⟨fun _ => Nat.zero_le _, fun _ => rfl⟩

theorem Sound.fill {queue : ByteQueue} (sound : queue.Sound)
    (present : queue.abandoned = false) (bytes : List UInt8) : (queue.fill bytes).Sound := by
  constructor
  · intro positive
    have bounded := sound.bounded positive
    have unequal : queue.capacity ≠ 0 := Nat.pos_iff_ne_zero.mp positive
    simp only [ByteQueue.fill, fitting, room, unequal, if_false, Option.elim_some,
      List.length_append, List.length_take]
    omega
  · intro gone
    exact absurd (present.symm.trans gone) (by decide)

theorem Sound.withdraw {queue : ByteQueue} (sound : queue.Sound) (limit : Nat) :
    (queue.withdraw limit).2.Sound := by
  unfold ByteQueue.withdraw
  split
  · exact sound
  · split
    · exact sound
    · constructor
      · intro positive
        have := sound.bounded positive
        simp only [List.length_drop]
        omega
      · intro gone
        simp [sound.drained gone]

theorem Sound.abandon (queue : ByteQueue) : queue.abandon.Sound :=
  ⟨fun _ => Nat.zero_le _, fun _ => rfl⟩

end ByteQueue

end SampleCapture
