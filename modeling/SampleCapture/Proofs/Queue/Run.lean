import SampleCapture.Proofs.Queue.Steps

/-!
# Runs of a channel

A channel together with everything that its two callers have given and got: the
pushes and pops that have returned, the ones in progress, and the bytes that the
critical sections of the producer have put into the queue. A party begins a call only
when it is not in one; everything else may come in any order, so a row of moves is any
interleaving of the two parties.
-/

namespace SampleCapture

structure PushCall where
  bytes : List UInt8
  result : PushResult
deriving Repr, DecidableEq

structure PopCall where
  limit : Nat
  bytes : List UInt8
deriving Repr, DecidableEq

/-- A pop that could take bytes and got none. -/
def PopCall.AtEnd (pop : PopCall) : Prop :=
  0 < pop.limit ∧ pop.bytes = []

/-- A channel and the calls on it, the oldest first. -/
structure ChannelRun where
  channel : Channel
  pushes : List PushCall := []
  /-- The bytes of the push in progress. -/
  pushing : Option (List UInt8) := none
  pops : List PopCall := []
  /-- The limit of the pop in progress. -/
  popping : Option Nat := none
  /-- What has gone into the queue so far. -/
  accepted : List UInt8 := []
deriving Repr, DecidableEq

/-- The beginning of a call, or a step of a party that is in one. -/
inductive ChannelMove where
  | push (bytes : List UInt8)
  | close
  | producer
  | pop (limit : Nat)
  | leave
  | consumer
deriving Repr, DecidableEq

namespace ChannelRun

def start (capacity : Nat) : ChannelRun where
  channel := .create capacity

def offered (run : ChannelRun) : List UInt8 :=
  run.pushes.flatMap (·.bytes) ++ run.pushing.getD []

def acknowledged (run : ChannelRun) : List UInt8 :=
  (run.pushes.filter (·.result = .accepted)).flatMap (·.bytes)

/-- The bytes that pops have taken out, those of a pop that has still to return among
them. -/
def popped (run : ChannelRun) : List UInt8 :=
  run.pops.flatMap (·.bytes) ++ run.channel.consumer.inHand

/-- How many pushes have no more bytes to put in. -/
def decided (run : ChannelRun) : Nat :=
  run.pushes.length +
    if run.channel.producer.remainder = [] then run.pushing.toList.length else 0

/-! ## Moves -/

/-- After a step of the producer; what it put in is what the queue has grown by. -/
def afterProducer (run : ChannelRun) (channel : Channel) (result : Option PushResult) :
    ChannelRun :=
  { run with
    channel := channel
    accepted := run.accepted ++
      channel.queue.bytes.drop run.channel.queue.bytes.length
    pushes := run.pushes ++ result.toList.map (PushCall.mk (run.pushing.getD []))
    pushing := if result.isNone then run.pushing else none }

def afterConsumer (run : ChannelRun) (channel : Channel) (result : Option (List UInt8)) :
    ChannelRun :=
  { run with
    channel := channel
    pops := run.pops ++ result.toList.map (PopCall.mk (run.popping.getD 0))
    popping := if result.isNone then run.popping else none }

def step? (run : ChannelRun) : ChannelMove → Option ChannelRun
  | .push bytes =>
      if run.channel.producer = .idle then
        some { run with channel := run.channel.beginPush bytes, pushing := some bytes }
      else none
  | .close =>
      if run.channel.producer = .idle then
        some { run with channel := run.channel.beginClose }
      else none
  | .producer =>
      run.channel.producerStep?.map fun (channel, result) =>
        run.afterProducer channel result
  | .pop limit =>
      if run.channel.consumer = .idle then
        some { run with channel := run.channel.beginPop limit, popping := some limit }
      else none
  | .leave =>
      if run.channel.consumer = .idle then
        some { run with channel := run.channel.beginLeave }
      else none
  | .consumer =>
      run.channel.consumerStep?.map fun (channel, result) =>
        run.afterConsumer channel result

def play (run : ChannelRun) : List ChannelMove → Option ChannelRun
  | [] => some run
  | move :: moves => (run.step? move).bind fun next => next.play moves

inductive Step (run : ChannelRun) : ChannelRun → Prop where
  | push (bytes : List UInt8) (idle : run.channel.producer = .idle) :
      Step run
        { run with channel := run.channel.beginPush bytes, pushing := some bytes }
  | close (idle : run.channel.producer = .idle) :
      Step run { run with channel := run.channel.beginClose }
  | producer {channel : Channel} {result : Option PushResult}
      (step : Channel.ProducerStep run.channel channel result) :
      Step run (run.afterProducer channel result)
  | pop (limit : Nat) (idle : run.channel.consumer = .idle) :
      Step run
        { run with channel := run.channel.beginPop limit, popping := some limit }
  | leave (idle : run.channel.consumer = .idle) :
      Step run { run with channel := run.channel.beginLeave }
  | consumer {channel : Channel} {result : Option (List UInt8)}
      (step : Channel.ConsumerStep run.channel channel result) :
      Step run (run.afterConsumer channel result)

theorem Step.of_step? {run next : ChannelRun} {move : ChannelMove}
    (moved : run.step? move = some next) : Step run next := by
  cases move with
  | push bytes =>
      simp only [step?, Option.ite_none_right_eq_some, Option.some.injEq] at moved
      obtain ⟨idle, rfl⟩ := moved
      exact .push bytes idle
  | close =>
      simp only [step?, Option.ite_none_right_eq_some, Option.some.injEq] at moved
      obtain ⟨idle, rfl⟩ := moved
      exact .close idle
  | producer =>
      obtain ⟨⟨channel, result⟩, step, rfl⟩ := Option.map_eq_some_iff.mp moved
      exact .producer ((run.channel.producerStep?_eq_some_iff channel result).mp step)
  | pop limit =>
      simp only [step?, Option.ite_none_right_eq_some, Option.some.injEq] at moved
      obtain ⟨idle, rfl⟩ := moved
      exact .pop limit idle
  | leave =>
      simp only [step?, Option.ite_none_right_eq_some, Option.some.injEq] at moved
      obtain ⟨idle, rfl⟩ := moved
      exact .leave idle
  | consumer =>
      obtain ⟨⟨channel, result⟩, step, rfl⟩ := Option.map_eq_some_iff.mp moved
      exact .consumer ((run.channel.consumerStep?_eq_some_iff channel result).mp step)

/-- A property that every step keeps holds after every row of moves. -/
theorem play_induction {motive : ChannelRun → Prop}
    (keeps : ∀ {run next : ChannelRun}, Step run next → motive run → motive next)
    {run last : ChannelRun} {moves : List ChannelMove}
    (played : run.play moves = some last) (initial : motive run) : motive last := by
  induction moves generalizing run with
  | nil =>
      cases played
      exact initial
  | cons move moves ih =>
      obtain ⟨next, moved, rest⟩ := Option.bind_eq_some_iff.mp played
      exact ih rest (keeps (.of_step? moved) initial)

end ChannelRun

end SampleCapture
