import SampleCapture.Queue.Channel

/-!
# The steps of a channel

What one step of a party can do, as a relation with one constructor for each kind of
step, and that the two step functions take exactly these steps. Everything that holds
along a run of a channel, alone or inside a session, is proved by cases on them.
-/

namespace SampleCapture

/-! ## Waking -/

/-- A waiting consumer goes to the lock again, any other stays where it is. -/
def ConsumerPhase.woken : ConsumerPhase → ConsumerPhase
  | .asleep limit => .ready limit
  | phase => phase

def ProducerPhase.woken : ProducerPhase → ProducerPhase
  | .asleep rest => .ready rest
  | phase => phase

/-- The bytes that a push still has to put in. -/
def ProducerPhase.remainder : ProducerPhase → List UInt8
  | .ready rest | .asleep rest => rest
  | .idle | .owing | .closing | .gone => []

/-- The bytes that a pop has taken out and not returned yet. -/
def ConsumerPhase.inHand : ConsumerPhase → List UInt8
  | .owing taken => taken
  | .idle | .ready _ | .asleep _ | .leaving | .gone => []

/-- How many bytes a pop may take that has not taken any yet. -/
def ConsumerPhase.limit? : ConsumerPhase → Option Nat
  | .ready limit | .asleep limit => some limit
  | .idle | .owing _ | .leaving | .gone => none

def ProducerPhase.inPush : ProducerPhase → Bool
  | .ready _ | .asleep _ | .owing => true
  | .idle | .closing | .gone => false

def ProducerPhase.hasClosed : ProducerPhase → Bool
  | .closing | .gone => true
  | .idle | .ready _ | .asleep _ | .owing => false

def ConsumerPhase.hasLeft : ConsumerPhase → Bool
  | .leaving | .gone => true
  | .idle | .ready _ | .asleep _ | .owing _ => false

@[simp] theorem ProducerPhase.remainder_woken (phase : ProducerPhase) :
    phase.woken.remainder = phase.remainder := by
  cases phase <;> rfl

@[simp] theorem ProducerPhase.inPush_woken (phase : ProducerPhase) :
    phase.woken.inPush = phase.inPush := by
  cases phase <;> rfl

@[simp] theorem ProducerPhase.hasClosed_woken (phase : ProducerPhase) :
    phase.woken.hasClosed = phase.hasClosed := by
  cases phase <;> rfl

@[simp] theorem ConsumerPhase.inHand_woken (phase : ConsumerPhase) :
    phase.woken.inHand = phase.inHand := by
  cases phase <;> rfl

@[simp] theorem ConsumerPhase.woken_eq_owing {phase : ConsumerPhase} {taken : List UInt8} :
    phase.woken = .owing taken ↔ phase = .owing taken := by
  cases phase <;> simp [woken]

@[simp] theorem ConsumerPhase.limit?_woken (phase : ConsumerPhase) :
    phase.woken.limit? = phase.limit? := by
  cases phase <;> rfl

theorem ConsumerPhase.limit?_of_ready {phase : ConsumerPhase} {limit : Nat}
    (ready : phase = .ready limit) : phase.limit? = some limit := by
  rw [ready]
  rfl

@[simp] theorem ConsumerPhase.hasLeft_woken (phase : ConsumerPhase) :
    phase.woken.hasLeft = phase.hasLeft := by
  cases phase <;> rfl

namespace ByteQueue

theorem excess_nil (queue : ByteQueue) : queue.excess [] = [] := by
  unfold excess
  cases queue.room <;> simp

theorem fitting_of_excess {queue : ByteQueue} {bytes : List UInt8}
    (fits : queue.excess bytes = []) : queue.fitting bytes = bytes := by
  simpa [fits] using queue.fitting_append_excess bytes

theorem excess_of_unbounded {queue : ByteQueue} (unbounded : queue.capacity = 0)
    (bytes : List UInt8) : queue.excess bytes = [] := by
  simp [excess, room, unbounded]

end ByteQueue

namespace Channel

theorem wakeConsumer_eq (channel : Channel) :
    channel.wakeConsumer = { channel with consumer := channel.consumer.woken } := by
  obtain ⟨queue, producer, consumer⟩ := channel
  cases consumer <;> rfl

theorem wakeProducer_eq (channel : Channel) :
    channel.wakeProducer = { channel with producer := channel.producer.woken } := by
  obtain ⟨queue, producer, consumer⟩ := channel
  cases producer <;> rfl

/-! ## The producer -/

inductive ProducerStep (channel : Channel) : Channel → Option PushResult → Prop where
  /-- A push without bytes does not look at the queue. -/
  | nothing (ready : channel.producer = .ready []) :
      ProducerStep channel { channel with producer := .idle } (some .accepted)
  | refused {rest : List UInt8} (ready : channel.producer = .ready rest)
      (nonempty : rest ≠ []) (abandoned : channel.queue.abandoned = true) :
      ProducerStep channel { channel with producer := .idle } (some .refused)
  /-- Without a bound all bytes go in, and the consumer is woken later. -/
  | put {rest : List UInt8} (ready : channel.producer = .ready rest)
      (nonempty : rest ≠ []) (present : channel.queue.abandoned = false)
      (unbounded : channel.queue.capacity = 0) :
      ProducerStep channel { channel with queue := channel.queue.fill rest, producer := .owing }
        none
  /-- With a bound the last bytes go in, and the consumer is woken at once. -/
  | last {rest : List UInt8} (ready : channel.producer = .ready rest)
      (nonempty : rest ≠ []) (present : channel.queue.abandoned = false)
      (bounded : channel.queue.capacity ≠ 0) (fits : channel.queue.excess rest = []) :
      ProducerStep channel
        { queue := channel.queue.fill rest, producer := .idle, consumer := channel.consumer.woken }
        (some .accepted)
  /-- What fits goes in, and the producer waits for room for the rest. -/
  | piece {rest : List UInt8} (ready : channel.producer = .ready rest)
      (present : channel.queue.abandoned = false) (full : channel.queue.excess rest ≠ []) :
      ProducerStep channel
        { queue := channel.queue.fill rest
          producer := .asleep (channel.queue.excess rest)
          consumer :=
            if channel.queue.fitting rest = [] then channel.consumer else channel.consumer.woken }
        none
  | woke (owing : channel.producer = .owing) :
      ProducerStep channel
        { channel with producer := .idle, consumer := channel.consumer.woken } (some .accepted)
  | left (closing : channel.producer = .closing) :
      ProducerStep channel
        { channel with producer := .gone, consumer := channel.consumer.woken } none

/-- A push with bytes to go in, at the lock. -/
theorem ProducerStep.of_ready {channel next : Channel} {result : Option PushResult}
    {rest : List UInt8} (ready : channel.producer = .ready rest)
    (step : channel.producerStep? = some (next, result)) : ProducerStep channel next result := by
  simp only [producerStep?, ready, ByteQueue.offer] at step
  by_cases empty : rest = []
  · subst empty
    simp only [if_true, Option.some.injEq, Prod.mk.injEq] at step
    obtain ⟨rfl, rfl⟩ := step
    exact .nothing ready
  cases present : channel.queue.abandoned with
  | true =>
      simp only [empty, present, if_true, if_false, Option.some.injEq, Prod.mk.injEq] at step
      obtain ⟨rfl, rfl⟩ := step
      exact .refused ready empty present
  | false =>
      simp only [empty, present, if_false, Bool.false_eq_true] at step
      by_cases fits : channel.queue.excess rest = []
      · simp only [fits, if_true] at step
        by_cases unbounded : channel.queue.capacity = 0
        · simp only [ByteQueue.fill, unbounded, if_true, Option.some.injEq,
            Prod.mk.injEq] at step
          obtain ⟨rfl, rfl⟩ := step
          simpa [ByteQueue.fill, unbounded] using ProducerStep.put ready empty present unbounded
        · simp only [ByteQueue.fill, unbounded, if_false, wakeConsumer_eq,
            Option.some.injEq, Prod.mk.injEq] at step
          obtain ⟨rfl, rfl⟩ := step
          exact .last ready empty present unbounded fits
      · simp only [fits, if_false, wakeConsumer_eq, Option.some.injEq, Prod.mk.injEq] at step
        obtain ⟨rfl, rfl⟩ := step
        -- the consumer is woken exactly when the queue has grown
        have grown : channel.queue.bytes.length < (channel.queue.fill rest).bytes.length ↔
            channel.queue.fitting rest ≠ [] := by
          simp [ByteQueue.fill, List.length_pos_iff]
        have moved := ProducerStep.piece ready present fits
        by_cases nothing : channel.queue.fitting rest = []
        · simpa [grown, nothing] using moved
        · simpa [grown, nothing] using moved

/-- The producer takes exactly the steps of the relation. -/
theorem producerStep?_eq_some_iff (channel next : Channel) (result : Option PushResult) :
    channel.producerStep? = some (next, result) ↔ ProducerStep channel next result := by
  constructor
  · intro step
    cases phase : channel.producer with
    | ready rest => exact .of_ready phase step
    | owing =>
        simp only [producerStep?, phase, wakeConsumer_eq, Option.some.injEq,
          Prod.mk.injEq] at step
        obtain ⟨rfl, rfl⟩ := step
        exact .woke phase
    | closing =>
        simp only [producerStep?, phase, wakeConsumer_eq, Option.some.injEq,
          Prod.mk.injEq] at step
        obtain ⟨rfl, rfl⟩ := step
        exact .left phase
    | idle => simp [producerStep?, phase] at step
    | asleep rest => simp [producerStep?, phase] at step
    | gone => simp [producerStep?, phase] at step
  · intro step
    cases step with
    | nothing ready => simp [producerStep?, ready, ByteQueue.offer]
    | refused ready nonempty abandoned =>
        simp [producerStep?, ready, ByteQueue.offer, nonempty, abandoned]
    | put ready nonempty present unbounded =>
        simp [producerStep?, ready, ByteQueue.offer, ByteQueue.fill, nonempty, present,
          unbounded, ByteQueue.excess_of_unbounded unbounded]
    | last ready nonempty present bounded fits =>
        simp [producerStep?, ready, ByteQueue.offer, ByteQueue.fill, nonempty, present,
          bounded, fits, wakeConsumer_eq]
    | @piece rest ready present full =>
        have nonempty : rest ≠ [] := fun empty => full (by rw [empty, ByteQueue.excess_nil])
        have grown : channel.queue.bytes.length < (channel.queue.fill rest).bytes.length ↔
            channel.queue.fitting rest ≠ [] := by
          simp [ByteQueue.fill, List.length_pos_iff]
        by_cases nothing : channel.queue.fitting rest = [] <;>
          simp [producerStep?, ready, ByteQueue.offer, nonempty, present, full, grown,
            nothing, wakeConsumer_eq]
    | woke owing => simp [producerStep?, owing, wakeConsumer_eq]
    | left closing => simp [producerStep?, closing, wakeConsumer_eq]

/-! ## The consumer -/

inductive ConsumerStep (channel : Channel) : Channel → Option (List UInt8) → Prop where
  /-- A pop without room for a byte does not look at the queue. -/
  | nothing (ready : channel.consumer = .ready 0) :
      ConsumerStep channel { channel with consumer := .idle } (some [])
  /-- The queue is empty and open, so the consumer waits. -/
  | wait {limit : Nat} (ready : channel.consumer = .ready limit) (positive : limit ≠ 0)
      (empty : channel.queue.bytes = []) (opened : channel.queue.closed = false) :
      ConsumerStep channel { channel with consumer := .asleep limit } none
  | ended {limit : Nat} (ready : channel.consumer = .ready limit) (positive : limit ≠ 0)
      (empty : channel.queue.bytes = []) (closed : channel.queue.closed = true) :
      ConsumerStep channel { channel with consumer := .idle } (some [])
  /-- Without a bound nobody has to be woken. -/
  | take {limit : Nat} (ready : channel.consumer = .ready limit) (positive : limit ≠ 0)
      (filled : channel.queue.bytes ≠ []) (unbounded : channel.queue.capacity = 0) :
      ConsumerStep channel
        { channel with
          queue := { channel.queue with bytes := channel.queue.bytes.drop limit }
          consumer := .idle }
        (some (channel.queue.bytes.take limit))
  /-- With a bound the producer is woken later. -/
  | make {limit : Nat} (ready : channel.consumer = .ready limit) (positive : limit ≠ 0)
      (filled : channel.queue.bytes ≠ []) (bounded : channel.queue.capacity ≠ 0) :
      ConsumerStep channel
        { channel with
          queue := { channel.queue with bytes := channel.queue.bytes.drop limit }
          consumer := .owing (channel.queue.bytes.take limit) }
        none
  | woke {taken : List UInt8} (owing : channel.consumer = .owing taken) :
      ConsumerStep channel
        { channel with producer := channel.producer.woken, consumer := .idle } (some taken)
  | left (leaving : channel.consumer = .leaving) :
      ConsumerStep channel
        { channel with producer := channel.producer.woken, consumer := .gone } none

/-- The consumer takes exactly the steps of the relation. -/
theorem consumerStep?_eq_some_iff (channel next : Channel) (result : Option (List UInt8)) :
    channel.consumerStep? = some (next, result) ↔ ConsumerStep channel next result := by
  constructor
  · intro step
    cases phase : channel.consumer with
    | ready limit =>
        simp only [consumerStep?, phase, ByteQueue.withdraw] at step
        by_cases zero : limit = 0
        · subst zero
          simp only [if_true, true_or, Option.some.injEq, Prod.mk.injEq] at step
          obtain ⟨rfl, rfl⟩ := step
          exact .nothing phase
        by_cases empty : channel.queue.bytes = []
        · cases closed : channel.queue.closed with
          | true =>
              simp only [zero, empty, closed, if_true, if_false, Option.some.injEq,
                Prod.mk.injEq] at step
              obtain ⟨rfl, rfl⟩ := step
              exact .ended phase zero empty closed
          | false =>
              simp only [zero, empty, closed, if_true, if_false, Bool.false_eq_true,
                Option.some.injEq, Prod.mk.injEq] at step
              obtain ⟨rfl, rfl⟩ := step
              exact .wait phase zero empty closed
        · have taken : channel.queue.bytes.take limit ≠ [] := by simp [zero, empty]
          by_cases unbounded : channel.queue.capacity = 0
          · simp only [zero, empty, unbounded, or_true, if_true, if_false,
              Option.some.injEq, Prod.mk.injEq] at step
            obtain ⟨rfl, rfl⟩ := step
            simpa [unbounded] using ConsumerStep.take phase zero empty unbounded
          · simp only [zero, empty, taken, unbounded, or_self, if_false,
              Option.some.injEq, Prod.mk.injEq] at step
            obtain ⟨rfl, rfl⟩ := step
            exact .make phase zero empty unbounded
    | owing taken =>
        simp only [consumerStep?, phase, wakeProducer_eq, Option.some.injEq,
          Prod.mk.injEq] at step
        obtain ⟨rfl, rfl⟩ := step
        exact .woke phase
    | leaving =>
        simp only [consumerStep?, phase, wakeProducer_eq, Option.some.injEq,
          Prod.mk.injEq] at step
        obtain ⟨rfl, rfl⟩ := step
        exact .left phase
    | idle => simp [consumerStep?, phase] at step
    | asleep limit => simp [consumerStep?, phase] at step
    | gone => simp [consumerStep?, phase] at step
  · intro step
    cases step with
    | nothing ready => simp [consumerStep?, ready, ByteQueue.withdraw]
    | wait ready positive empty opened =>
        simp [consumerStep?, ready, ByteQueue.withdraw, positive, empty, opened]
    | ended ready positive empty closed =>
        simp [consumerStep?, ready, ByteQueue.withdraw, positive, empty, closed]
    | take ready positive filled unbounded =>
        simp [consumerStep?, ready, ByteQueue.withdraw, positive, filled, unbounded]
    | make ready positive filled bounded =>
        simp [consumerStep?, ready, ByteQueue.withdraw, positive, filled, bounded]
    | woke owing => simp [consumerStep?, owing, wakeProducer_eq]
    | left leaving => simp [consumerStep?, leaving, wakeProducer_eq]

/-! ## The bytes

Nothing is lost on the way: what a push has still to put in goes into the queue, and
what leaves the queue is in the hand of the pop or is returned by it.
-/

/-- While the consumer is there, what a step takes from the rest of the push is what the
queue grows by, and a push that returns has put in everything. -/
theorem ProducerStep.conserves {channel next : Channel} {result : Option PushResult}
    (step : ProducerStep channel next result) (present : channel.queue.abandoned = false) :
    ∃ put, next.queue.bytes = channel.queue.bytes ++ put ∧
      channel.producer.remainder = put ++ next.producer.remainder ∧
      result ≠ some .refused ∧ (result = some .accepted → next.producer.remainder = []) := by
  cases step with
  | nothing ready =>
      exact ⟨[], by simp, by simp [ready, ProducerPhase.remainder], by simp, fun _ => rfl⟩
  | refused ready nonempty abandoned =>
      rw [present] at abandoned
      cases abandoned
  | put ready nonempty _ unbounded =>
      have fits := ByteQueue.excess_of_unbounded unbounded
      refine ⟨_, rfl, ?_, by simp, by simp⟩
      simp [ready, ProducerPhase.remainder, ByteQueue.fitting_of_excess (fits _)]
  | last ready nonempty _ bounded fits =>
      refine ⟨_, rfl, ?_, by simp, fun _ => rfl⟩
      simp [ready, ProducerPhase.remainder, ByteQueue.fitting_of_excess fits]
  | piece ready _ full =>
      refine ⟨_, rfl, ?_, by simp, by simp⟩
      simp [ready, ProducerPhase.remainder, ByteQueue.fitting_append_excess]
  | woke owing => exact ⟨[], by simp, by simp [owing, ProducerPhase.remainder], by simp, fun _ => rfl⟩
  | left closing =>
      exact ⟨[], by simp, by simp [closing, ProducerPhase.remainder], by simp, by simp⟩

/-- Nothing goes into an abandoned queue. -/
theorem ProducerStep.queue_of_abandoned {channel next : Channel} {result : Option PushResult}
    (step : ProducerStep channel next result) (abandoned : channel.queue.abandoned = true) :
    next.queue = channel.queue := by
  cases step with
  | put _ _ present | last _ _ present | piece _ present =>
      rw [present] at abandoned
      cases abandoned
  | nothing | refused | woke | left => rfl

/-- A push that is not refused puts into the queue what it no longer has to put in. -/
theorem ProducerStep.puts {channel next : Channel} {result : Option PushResult}
    (step : channel.ProducerStep next result) (taken : result ≠ some .refused) :
    ∃ put, next.queue.bytes = channel.queue.bytes ++ put ∧
      channel.producer.remainder = put ++ next.producer.remainder := by
  cases abandoned : channel.queue.abandoned with
  | false =>
      obtain ⟨put, grown, moved, -⟩ := step.conserves abandoned
      exact ⟨put, grown, moved⟩
  | true =>
      refine ⟨[], by rw [step.queue_of_abandoned abandoned, List.append_nil], ?_⟩
      cases step with
      | put _ _ present | last _ _ present | piece _ present => cases abandoned.symm.trans present
      | refused => exact absurd rfl taken
      | nothing ready | woke ready | left ready =>
          rw [ready]
          rfl

/-- A step of the producer leaves alone what the consumer has in hand. -/
theorem ProducerStep.inHand {channel next : Channel} {result : Option PushResult}
    (step : ProducerStep channel next result) :
    next.consumer.inHand = channel.consumer.inHand := by
  cases step with
  | piece => dsimp only; split <;> simp
  | _ => simp

theorem ProducerStep.abandoned {channel next : Channel} {result : Option PushResult}
    (step : ProducerStep channel next result) :
    next.queue.abandoned = channel.queue.abandoned := by
  cases step <;> rfl

theorem ProducerStep.capacity {channel next : Channel} {result : Option PushResult}
    (step : channel.ProducerStep next result) : next.queue.capacity = channel.queue.capacity := by
  cases step <;> rfl

/-- What a step takes out of the queue is returned or kept in hand. -/
theorem ConsumerStep.conserves {channel next : Channel} {result : Option (List UInt8)}
    (step : ConsumerStep channel next result) :
    channel.consumer.inHand ++ channel.queue.bytes =
      result.getD [] ++ next.consumer.inHand ++ next.queue.bytes := by
  cases step with
  | nothing ready | wait ready | ended ready => simp [ready, ConsumerPhase.inHand]
  | take ready | make ready => simp [ready, ConsumerPhase.inHand]
  | woke owing => simp [owing, ConsumerPhase.inHand]
  | left leaving => simp [leaving, ConsumerPhase.inHand]

/-- A step of the consumer leaves alone what the producer has still to put in. -/
theorem ConsumerStep.remainder {channel next : Channel} {result : Option (List UInt8)}
    (step : ConsumerStep channel next result) :
    next.producer.remainder = channel.producer.remainder := by
  cases step <;> simp

theorem ConsumerStep.abandoned {channel next : Channel} {result : Option (List UInt8)}
    (step : ConsumerStep channel next result) :
    next.queue.abandoned = channel.queue.abandoned := by
  cases step <;> rfl

theorem ConsumerStep.capacity {channel next : Channel} {result : Option (List UInt8)}
    (step : channel.ConsumerStep next result) : next.queue.capacity = channel.queue.capacity := by
  cases step <;> rfl

/-! ## The flags -/

/-- The flags of the queue tell where the parties are, and the queue is sound. -/
structure Linked (channel : Channel) : Prop where
  closed : channel.queue.closed = channel.producer.hasClosed
  abandoned : channel.queue.abandoned = channel.consumer.hasLeft
  sound : channel.queue.Sound

theorem Linked.create (capacity : Nat) : (create capacity).Linked :=
  ⟨rfl, rfl, .create capacity⟩

theorem Linked.beginPush {channel : Channel} (linked : channel.Linked)
    (idle : channel.producer = .idle) (bytes : List UInt8) : (channel.beginPush bytes).Linked :=
  ⟨by simp [Channel.beginPush, linked.closed, idle, ProducerPhase.hasClosed],
    linked.abandoned, linked.sound⟩

theorem Linked.beginPop {channel : Channel} (linked : channel.Linked)
    (idle : channel.consumer = .idle) (limit : Nat) : (channel.beginPop limit).Linked :=
  ⟨linked.closed, by simp [Channel.beginPop, linked.abandoned, idle, ConsumerPhase.hasLeft],
    linked.sound⟩

theorem Linked.beginClose {channel : Channel} (linked : channel.Linked) :
    channel.beginClose.Linked :=
  ⟨rfl, linked.abandoned, linked.sound.bounded, linked.sound.drained⟩

theorem Linked.beginLeave {channel : Channel} (linked : channel.Linked) :
    channel.beginLeave.Linked :=
  ⟨linked.closed, rfl, .abandon _⟩

theorem Linked.producer {channel next : Channel} {result : Option PushResult}
    (linked : channel.Linked) (step : ProducerStep channel next result) : next.Linked := by
  obtain ⟨closed, abandoned, sound⟩ := linked
  cases step with
  | nothing ready | refused ready =>
      exact ⟨by simp [closed, ready, ProducerPhase.hasClosed], abandoned, sound⟩
  | put ready _ present | last ready _ present =>
      refine ⟨?_, by simpa [ByteQueue.fill] using abandoned, sound.fill present _⟩
      simp [ByteQueue.fill, closed, ready, ProducerPhase.hasClosed]
  | piece ready present =>
      refine ⟨?_, ?_, sound.fill present _⟩
      · simp [ByteQueue.fill, closed, ready, ProducerPhase.hasClosed]
      · dsimp only [ByteQueue.fill]
        split <;> simpa using abandoned
  | woke owing => exact ⟨by simp [closed, owing, ProducerPhase.hasClosed], by simpa, sound⟩
  | left closing => exact ⟨by simp [closed, closing, ProducerPhase.hasClosed], by simpa, sound⟩

theorem Linked.consumer {channel next : Channel} {result : Option (List UInt8)}
    (linked : channel.Linked) (step : ConsumerStep channel next result) : next.Linked := by
  obtain ⟨closed, abandoned, sound⟩ := linked
  cases step with
  | nothing ready | wait ready | ended ready =>
      exact ⟨closed, by simp [abandoned, ready, ConsumerPhase.hasLeft], sound⟩
  | @take limit ready positive filled _ | @make limit ready positive filled _ =>
      have kept := sound.withdraw limit
      simp only [ByteQueue.withdraw, positive, filled, if_false] at kept
      exact ⟨closed, by simp [abandoned, ready, ConsumerPhase.hasLeft], kept⟩
  | woke owing => exact ⟨by simpa, by simp [abandoned, owing, ConsumerPhase.hasLeft], sound⟩
  | left leaving => exact ⟨by simpa, by simp [abandoned, leaving, ConsumerPhase.hasLeft], sound⟩

end Channel

end SampleCapture
