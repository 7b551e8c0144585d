import SampleCapture.Queue.Channel

/-!
# Exchanges over a channel

A row of calls on the two ends of one channel. After each call both parties run until
neither can go on, so that a call either ends at once, or waits and ends under a later
one. A party that waits cannot begin another call.
-/

namespace SampleCapture

inductive QueueCall where
  | push (bytes : List UInt8)
  | pop (limit : Nat)
  | close
  | leave
deriving Repr, DecidableEq, Inhabited

inductive Reply where
  /-- The call waits. -/
  | waiting
  /-- The party already waits in another call; nothing was done. -/
  | busy
  /-- The party is gone; nothing was done. -/
  | gone
  | done
  | pushed (result : PushResult)
  | popped (bytes : List UInt8)
deriving Repr, DecidableEq, Inhabited

/-- What the consumer's end shows of the queue. -/
structure QueueView where
  length : Nat
  closed : Bool
deriving Repr, DecidableEq, Inhabited

structure CallReport where
  reply : Option Reply := none
  /-- The end of a push that was waiting. -/
  pushEnded : Option PushResult := none
  /-- The end of a pop that was waiting. -/
  popEnded : Option (List UInt8) := none
  view : Option QueueView := none
deriving Repr, DecidableEq, Inhabited

namespace Channel

/-- A channel with the calls that have just ended. -/
structure Settled where
  channel : Channel
  pushed : Option PushResult := none
  popped : Option (List UInt8) := none
deriving Repr, DecidableEq, Inhabited

def settle : Nat → Settled → Settled
  | 0, settled => settled
  | steps + 1, settled =>
      match settled.channel.producerStep? with
      | some (channel, result) =>
          settle steps { settled with channel := channel, pushed := result <|> settled.pushed }
      | none =>
          match settled.channel.consumerStep? with
          | some (channel, result) =>
              settle steps
                { settled with channel := channel, popped := result <|> settled.popped }
          | none => settled

/-- Runs both parties until neither can go on. One call sets off at most five steps: its
own two, two of the party that it wakes, and one more after that one's wake-up. -/
def rest (channel : Channel) : Settled :=
  settle 8 { channel := channel }

def pushWaits (channel : Channel) : Bool :=
  match channel.producer with
  | .asleep _ => true
  | _ => false

def popWaits (channel : Channel) : Bool :=
  match channel.consumer with
  | .asleep _ => true
  | _ => false

def view? (channel : Channel) : Option QueueView :=
  if channel.consumer = .idle then
    some { length := channel.queue.bytes.length, closed := channel.queue.closed }
  else none

def refuse (channel : Channel) (reply : Reply) : CallReport × Channel :=
  ({ reply := some reply, view := channel.view? }, channel)

/-- Makes one call, unless the party is gone or waits already. -/
def call (channel : Channel) : QueueCall → CallReport × Channel
  | .push bytes =>
      if channel.producer = .gone then channel.refuse .gone
      else if channel.pushWaits then channel.refuse .busy
      else
        let settled := (channel.beginPush bytes).rest
        ({ reply := some (settled.pushed.elim .waiting .pushed)
           popEnded := settled.popped
           view := settled.channel.view? }, settled.channel)
  | .pop limit =>
      if channel.consumer = .gone then channel.refuse .gone
      else if channel.popWaits then channel.refuse .busy
      else
        let settled := (channel.beginPop limit).rest
        ({ reply := some (settled.popped.elim .waiting .popped)
           pushEnded := settled.pushed
           view := settled.channel.view? }, settled.channel)
  | .close =>
      if channel.producer = .gone then channel.refuse .gone
      else if channel.pushWaits then channel.refuse .busy
      else
        let settled := channel.beginClose.rest
        ({ reply := some .done
           popEnded := settled.popped
           view := settled.channel.view? }, settled.channel)
  | .leave =>
      if channel.consumer = .gone then channel.refuse .gone
      else if channel.popWaits then channel.refuse .busy
      else
        let settled := channel.beginLeave.rest
        ({ reply := some .done
           pushEnded := settled.pushed
           view := settled.channel.view? }, settled.channel)

/-- Ends the call that still waits: a push by the consumer's departure, a pop by the
end of the stream. -/
def release (channel : Channel) : CallReport :=
  if channel.pushWaits then { pushEnded := channel.beginLeave.rest.pushed }
  else if channel.popWaits then { popEnded := channel.beginClose.rest.popped }
  else {}

def exchange (channel : Channel) : List QueueCall → List CallReport
  | [] => [channel.release]
  | next :: later =>
      let (report, after) := channel.call next
      report :: after.exchange later

end Channel

end SampleCapture
