import SampleCapture.Queue.Basic

/-!
# The channel

A queue with its two parties. A call of a party is a row of atomic steps: a critical
section, after which it may have to wait until the other party wakes it, and, where
the lock is given back first, the wake-up that it then still owes. A wake-up that
finds nobody waiting is lost.
-/

namespace SampleCapture

inductive ProducerPhase where
  | idle
  /-- On the way to the lock, with bytes to put in. -/
  | ready (rest : List UInt8)
  /-- Waiting for room. -/
  | asleep (rest : List UInt8)
  /-- The bytes are in, the consumer is still to be woken. -/
  | owing
  /-- The queue is closed, the consumer is still to be woken. -/
  | closing
  | gone
deriving Repr, DecidableEq, Inhabited

inductive ConsumerPhase where
  | idle
  /-- On the way to the lock, to take up to so many bytes. -/
  | ready (limit : Nat)
  /-- Waiting for bytes. -/
  | asleep (limit : Nat)
  /-- The bytes are out, the producer is still to be woken. -/
  | owing (taken : List UInt8)
  /-- The queue is abandoned, the producer is still to be woken. -/
  | leaving
  | gone
deriving Repr, DecidableEq, Inhabited

structure Channel where
  queue : ByteQueue
  producer : ProducerPhase := .idle
  consumer : ConsumerPhase := .idle
deriving Repr, DecidableEq, Inhabited

inductive PushResult where
  | accepted
  | refused
deriving Repr, DecidableEq, Inhabited

namespace Channel

def create (capacity : Nat) : Channel where
  queue := .create capacity

def wakeConsumer (channel : Channel) : Channel :=
  match channel.consumer with
  | .asleep limit => { channel with consumer := .ready limit }
  | _ => channel

def wakeProducer (channel : Channel) : Channel :=
  match channel.producer with
  | .asleep rest => { channel with producer := .ready rest }
  | _ => channel

/-! ## Beginning a call -/

def beginPush (channel : Channel) (bytes : List UInt8) : Channel :=
  { channel with producer := .ready bytes }

def beginPop (channel : Channel) (limit : Nat) : Channel :=
  { channel with consumer := .ready limit }

def beginClose (channel : Channel) : Channel :=
  { channel with queue := channel.queue.close, producer := .closing }

def beginLeave (channel : Channel) : Channel :=
  { channel with queue := channel.queue.abandon, consumer := .leaving }

/-! ## Steps

A step is enabled unless the party is idle, asleep or gone. It may end the call with
a result.
-/

/-- The producer's next step. Without a bound the lock is given back before the
consumer is woken; with one the consumer is woken under the lock, once for every
piece that went in. -/
def producerStep? (channel : Channel) : Option (Channel × Option PushResult) :=
  match channel.producer with
  | .ready rest =>
      let (offer, queue) := channel.queue.offer rest
      match offer with
      | .refused => some ({ channel with producer := .idle }, some .refused)
      | .taken =>
          if rest = [] then some ({ channel with producer := .idle }, some .accepted)
          else if queue.capacity = 0 then
            some ({ channel with queue := queue, producer := .owing }, none)
          else
            some (wakeConsumer { channel with queue := queue, producer := .idle },
              some .accepted)
      | .full later =>
          let waiting := { channel with queue := queue, producer := .asleep later }
          let grown := channel.queue.bytes.length < queue.bytes.length
          some (if grown then wakeConsumer waiting else waiting, none)
  | .owing => some (wakeConsumer { channel with producer := .idle }, some .accepted)
  | .closing => some (wakeConsumer { channel with producer := .gone }, none)
  | .idle | .asleep _ | .gone => none

/-- The consumer's next step. With a bound it wakes the producer after it has given
back the lock; without one there is nobody to wake. An empty result means the end of
the stream, or a limit of zero. -/
def consumerStep? (channel : Channel) : Option (Channel × Option (List UInt8)) :=
  match channel.consumer with
  | .ready limit =>
      let (withdrawal, queue) := channel.queue.withdraw limit
      match withdrawal with
      | .empty => some ({ channel with consumer := .asleep limit }, none)
      | .ended => some ({ channel with consumer := .idle }, some [])
      | .bytes taken =>
          if taken = [] ∨ queue.capacity = 0 then
            some ({ channel with queue := queue, consumer := .idle }, some taken)
          else some ({ channel with queue := queue, consumer := .owing taken }, none)
  | .owing taken => some (wakeProducer { channel with consumer := .idle }, some taken)
  | .leaving => some (wakeProducer { channel with consumer := .gone }, none)
  | .idle | .asleep _ | .gone => none

end Channel

end SampleCapture
