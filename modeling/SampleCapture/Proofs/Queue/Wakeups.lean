import SampleCapture.Proofs.Queue.Order

/-!
# Wake-ups

A party gives back the lock before it wakes the other one, so there are states in which
somebody waits beside the room or the bytes that he waits for. In all of them the wake-up
is still owed. When none is owed, a waiting producer has a full queue and a waiting
consumer an empty open one, and so the two never wait at once.
-/

namespace SampleCapture

/-- Whether the producer has changed the queue and has still to wake the consumer. -/
def ProducerPhase.owes : ProducerPhase → Bool
  | .owing | .closing => true
  | .idle | .ready _ | .asleep _ | .gone => false

def ConsumerPhase.owes : ConsumerPhase → Bool
  | .owing _ | .leaving => true
  | .idle | .ready _ | .asleep _ | .gone => false

theorem ProducerPhase.woken_ne_asleep (phase : ProducerPhase) (rest : List UInt8) :
    phase.woken ≠ .asleep rest := by
  cases phase <;> simp [woken]

theorem ConsumerPhase.woken_ne_asleep (phase : ConsumerPhase) (limit : Nat) :
    phase.woken ≠ .asleep limit := by
  cases phase <;> simp [woken]

namespace ByteQueue

/-- Only a bounded queue leaves bytes over, and it is full then. -/
theorem full_of_excess {queue : ByteQueue} (sound : queue.Sound) {bytes : List UInt8}
    (spilled : queue.excess bytes ≠ []) :
    0 < queue.capacity ∧ (queue.fill bytes).bytes.length = queue.capacity := by
  have bounded : queue.capacity ≠ 0 := fun unbounded =>
    spilled (excess_of_unbounded unbounded bytes)
  have positive := Nat.pos_of_ne_zero bounded
  have short := sound.bounded positive
  have longer : queue.capacity - queue.bytes.length < bytes.length := by
    apply Nat.lt_of_not_le
    intro fits
    apply spilled
    simpa [excess, room, bounded] using fits
  refine ⟨positive, ?_⟩
  simp only [fill, fitting, room, bounded, if_false, Option.elim_some, List.length_append,
    List.length_take]
  omega

end ByteQueue

namespace Channel

/-- Nobody waits beside what he waits for, unless the wake-up is owed. -/
structure Alert (channel : Channel) : Prop where
  bounded : ∀ {rest}, channel.producer = .asleep rest → 0 < channel.queue.capacity
  producer : ∀ {rest}, channel.producer = .asleep rest → channel.consumer.owes = false →
    channel.queue.bytes.length = channel.queue.capacity ∧ channel.queue.abandoned = false
  consumer : ∀ {limit}, channel.consumer = .asleep limit → channel.producer.owes = false →
    channel.queue.bytes = [] ∧ channel.queue.closed = false

namespace Alert

variable {channel next : Channel}

theorem create (capacity : Nat) : (create capacity).Alert :=
  ⟨nofun, nofun, nofun⟩

theorem beginPush (alert : channel.Alert) (idle : channel.producer = .idle)
    (bytes : List UInt8) : (channel.beginPush bytes).Alert :=
  ⟨nofun, nofun, fun asleep _ => alert.consumer asleep (by rw [idle]; rfl)⟩

theorem beginPop (alert : channel.Alert) (idle : channel.consumer = .idle) (limit : Nat) :
    (channel.beginPop limit).Alert :=
  ⟨alert.bounded, fun asleep _ => alert.producer asleep (by rw [idle]; rfl), nofun⟩

theorem beginClose : channel.beginClose.Alert :=
  ⟨nofun, nofun, nofun⟩

theorem beginLeave (alert : channel.Alert) : channel.beginLeave.Alert :=
  ⟨alert.bounded, nofun, nofun⟩

/-- Nothing is asked of a channel in which nobody waits. -/
theorem of_up (producer : ∀ rest, next.producer ≠ .asleep rest)
    (consumer : ∀ limit, next.consumer ≠ .asleep limit) : next.Alert :=
  ⟨fun asleep => absurd asleep (producer _), fun asleep => absurd asleep (producer _),
    fun asleep => absurd asleep (consumer _)⟩

theorem producerStep {result : Option PushResult} (alert : channel.Alert)
    (linked : channel.Linked) (step : channel.ProducerStep next result) : next.Alert := by
  cases step with
  | nothing ready | refused ready =>
      exact ⟨nofun, nofun, fun asleep _ => alert.consumer asleep (by rw [ready]; rfl)⟩
  | put => exact ⟨nofun, nofun, nofun⟩
  | last | woke | left =>
      exact of_up nofun (ConsumerPhase.woken_ne_asleep _)
  | @piece rest ready present spilled =>
      have full := ByteQueue.full_of_excess linked.sound spilled
      refine ⟨fun _ => full.1, fun _ _ => ⟨full.2, present⟩, ?_⟩
      intro limit asleep _
      -- a consumer that still sleeps has been left alone, so nothing has gone in
      dsimp only at asleep ⊢
      split at asleep
      · rename_i nothing
        obtain ⟨empty, opened⟩ := alert.consumer asleep (by rw [ready]; rfl)
        exact ⟨by simp [ByteQueue.fill, nothing, empty], opened⟩
      · exact absurd asleep (ConsumerPhase.woken_ne_asleep _ _)

theorem consumerStep {result : Option (List UInt8)} (alert : channel.Alert)
    (step : channel.ConsumerStep next result) : next.Alert := by
  cases step with
  | nothing ready | ended ready =>
      exact ⟨alert.bounded, fun asleep _ => alert.producer asleep (by rw [ready]; rfl), nofun⟩
  | wait ready positive empty opened =>
      exact ⟨alert.bounded, fun asleep _ => alert.producer asleep (by rw [ready]; rfl),
        fun _ _ => ⟨empty, opened⟩⟩
  | take ready positive filled unbounded =>
      -- without a bound the producer never sleeps
      have up (rest : List UInt8) : channel.producer ≠ .asleep rest := fun asleep =>
        Nat.pos_iff_ne_zero.mp (alert.bounded asleep) unbounded
      exact of_up up nofun
  | make => exact ⟨alert.bounded, nofun, nofun⟩
  | woke | left => exact of_up (ProducerPhase.woken_ne_asleep _) nofun

end Alert

/-! ## The guarantee -/

/-- What a channel promises about room and waiting. -/
structure Vigilant (capacity : Nat) (channel : Channel) : Prop where
  /-- With a bound there are never more bytes than that, so the room is what is missing. -/
  bounded : 0 < capacity → channel.queue.bytes.length ≤ capacity
  room : ∀ room, channel.queue.room = some room →
    channel.queue.bytes.length + room = capacity
  /-- A producer that waits and is owed no wake-up has a full queue with a consumer. -/
  producer : ∀ rest, channel.producer = .asleep rest → channel.consumer.owes = false →
    0 < capacity ∧ channel.queue.bytes.length = capacity ∧ channel.queue.abandoned = false
  /-- A consumer that waits and is owed no wake-up has an empty open queue. -/
  consumer : ∀ limit, channel.consumer = .asleep limit → channel.producer.owes = false →
    channel.queue.bytes = [] ∧ channel.queue.closed = false
  /-- They never wait both. -/
  apart : ∀ rest limit, channel.producer = .asleep rest → channel.consumer ≠ .asleep limit
  unbounded : capacity = 0 → ∀ rest, channel.producer ≠ .asleep rest
  /-- Whoever owes a wake-up can go on, and the other does not wait after that step. -/
  wakesConsumer : channel.producer.owes = true → ∃ next result,
    channel.producerStep? = some (next, result) ∧ ∀ limit, next.consumer ≠ .asleep limit
  wakesProducer : channel.consumer.owes = true → ∃ next result,
    channel.consumerStep? = some (next, result) ∧ ∀ rest, next.producer ≠ .asleep rest

/-- A wake-up that is owed is the next step of the producer. -/
theorem wakes_of_producer_owes {channel : Channel} (owes : channel.producer.owes = true) :
    ∃ next result, channel.producerStep? = some (next, result) ∧
      ∀ limit, next.consumer ≠ .asleep limit := by
  have woken := ConsumerPhase.woken_ne_asleep channel.consumer
  cases phase : channel.producer with
  | owing =>
      exact ⟨_, _, (channel.producerStep?_eq_some_iff _ _).mpr (.woke phase), woken⟩
  | closing =>
      exact ⟨_, _, (channel.producerStep?_eq_some_iff _ _).mpr (.left phase), woken⟩
  | idle | ready | asleep | gone =>
      rw [phase] at owes
      cases owes

/-- A wake-up that is owed is the next step of the consumer. -/
theorem wakes_of_consumer_owes {channel : Channel} (owes : channel.consumer.owes = true) :
    ∃ next result, channel.consumerStep? = some (next, result) ∧
      ∀ rest, next.producer ≠ .asleep rest := by
  have woken := ProducerPhase.woken_ne_asleep channel.producer
  cases phase : channel.consumer with
  | owing taken =>
      exact ⟨_, _, (channel.consumerStep?_eq_some_iff _ _).mpr (.woke phase), woken⟩
  | leaving =>
      exact ⟨_, _, (channel.consumerStep?_eq_some_iff _ _).mpr (.left phase), woken⟩
  | idle | ready | asleep | gone =>
      rw [phase] at owes
      cases owes

/-- The one that waits with the other asleep would be owed nothing, and then the queue would
be full and empty. -/
theorem Alert.apart {channel : Channel} (alert : channel.Alert) {rest : List UInt8} {limit : Nat}
    (asleep : channel.producer = .asleep rest) : channel.consumer ≠ .asleep limit := by
  intro dozing
  have full := (alert.producer asleep (by rw [dozing]; rfl)).1
  have empty := (alert.consumer dozing (by rw [asleep]; rfl)).1
  have positive := alert.bounded asleep
  rw [← full, empty] at positive
  exact absurd positive (Nat.lt_irrefl 0)

theorem Alert.vigilant {channel : Channel} (alert : channel.Alert) (linked : channel.Linked) :
    channel.Vigilant channel.queue.capacity := by
  constructor
  case bounded => exact linked.sound.bounded
  case room =>
    intro room known
    simp only [ByteQueue.room, Option.ite_none_left_eq_some, Option.some.injEq] at known
    obtain ⟨bounded, rfl⟩ := known
    exact Nat.add_sub_cancel' (linked.sound.bounded (Nat.pos_of_ne_zero bounded))
  case producer =>
    intro rest asleep unowed
    exact ⟨alert.bounded asleep, alert.producer asleep unowed⟩
  case consumer => exact fun _ => alert.consumer
  case apart => exact fun _ _ => alert.apart
  case unbounded =>
    intro unbounded rest asleep
    exact Nat.pos_iff_ne_zero.mp (alert.bounded asleep) unbounded
  case wakesConsumer => exact wakes_of_producer_owes
  case wakesProducer => exact wakes_of_consumer_owes

end Channel

namespace ChannelRun

theorem Step.alert {run next : ChannelRun} (step : run.Step next)
    (linked : run.channel.Linked) (alert : run.channel.Alert) : next.channel.Alert := by
  cases step with
  | push bytes idle => exact alert.beginPush idle bytes
  | close idle => exact .beginClose
  | producer step => exact alert.producerStep linked step
  | pop limit idle => exact alert.beginPop idle limit
  | leave idle => exact alert.beginLeave
  | consumer step => exact alert.consumerStep step

theorem Step.capacity {run next : ChannelRun} (step : run.Step next) :
    next.channel.queue.capacity = run.channel.queue.capacity := by
  cases step with
  | producer step => exact step.capacity
  | consumer step => exact step.capacity
  | push | close | pop | leave => rfl

/-- However producer and consumer take turns, nobody is left waiting beside what he waits for. -/
theorem vigilant_of_play (capacity : Nat) {moves : List ChannelMove} {run : ChannelRun}
    (played : (start capacity).play moves = some run) :
    run.channel.Vigilant capacity := by
  obtain ⟨paired, alert, same⟩ := play_induction (motive := fun run =>
    run.Paired ∧ run.channel.Alert ∧ run.channel.queue.capacity = capacity)
    (fun step ⟨paired, alert, same⟩ =>
      ⟨paired.step step, step.alert paired.linked alert, step.capacity.trans same⟩)
    played ⟨.start capacity, .create capacity, rfl⟩
  exact same ▸ alert.vigilant paired.linked

/-- A push of three bytes waits in a queue of two. A pop has made room for the third one and
still owes the wake-up. -/
def midway : List ChannelMove :=
  [.push [1, 2, 3], .producer, .pop 1, .consumer]

theorem vigilant_midway : ∃ run, (start 2).play midway = some run ∧
    run.channel =
      { queue := { capacity := 2, bytes := [2] }, producer := .asleep [3], consumer := .owing [1] } ∧
    run.channel.Vigilant 2 := by
  have ran : ((start 2).play midway).map (·.channel) = some
      { queue := { capacity := 2, bytes := [2] }, producer := .asleep [3], consumer := .owing [1] } := by
    decide
  obtain ⟨run, played, state⟩ := Option.map_eq_some_iff.mp ran
  exact ⟨run, played, state, vigilant_of_play 2 played⟩

end ChannelRun

end SampleCapture
