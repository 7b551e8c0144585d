import SampleCapture.Proofs.Session.Steps

/-!
# Wiring

In a session with an output the phases of the caller and of the recorder tell where the
two parties of the channel are. In particular the queue is closed only after the end of
the source, and abandoned only after the recorder has stopped to take slices.
-/

namespace SampleCapture

/-- Where the producer is while the caller is in a phase. -/
def CallerPhase.Hosts : CallerPhase → ProducerPhase → Prop
  | .pushing _ _, producer => producer = .owing ∨
      ∃ rest, rest ≠ [] ∧ (producer = .ready rest ∨ producer = .asleep rest)
  | .closing _, producer => producer = .closing
  | .checking _, producer | .ending _ _, producer | .joining _, producer
  | .collapsing _, producer | .concluding _ _, producer | .returned _, producer => producer = .gone
  | .atSource, producer | .asking _, producer | .counting _ _, producer
  | .marking _ _ _, producer | .settling _ _, producer | .reporting _, producer
  | .answering, producer | .finishing _, producer => producer = .idle

/-- Where the consumer is while the recorder, which takes slices of `size` bytes, is in a
phase. -/
def RecorderPhase.Hosts (size : Nat) : RecorderPhase → ConsumerPhase → Prop
  | .popping, consumer => consumer = .ready size ∨ consumer = .asleep size ∨
      ∃ taken, taken ≠ [] ∧ taken.length ≤ size ∧ consumer = .owing taken
  | .departing _, consumer => consumer = .leaving
  | .releasing _, consumer | .ended _, consumer => consumer = .gone
  | .starting, consumer | .checking, consumer | .noticing, consumer | .writing _, consumer
  | .counting _, consumer | .flushing, consumer | .finishing, consumer
  | .failing _ _, consumer | .leaving _, consumer => consumer = .idle

/-- The recorder has taken all that there is: it flushes, or has done its work. -/
def RecorderPhase.HasDrained (phase : RecorderPhase) : Prop :=
  phase = .flushing ∨ phase.status = .complete

structure Wired (phase : CallerPhase) (lane : RecorderLane) : Prop where
  linked : lane.channel.Linked
  caller : phase.Hosts lane.channel.producer
  recorder : lane.recorder.phase.Hosts lane.recorder.sliceBytes lane.channel.consumer
  positive : 0 < lane.recorder.sliceBytes
  /-- The recorder flushes only when the queue is closed and empty. -/
  drained : lane.recorder.phase.HasDrained →
    lane.channel.queue.closed = true ∧ lane.channel.queue.bytes = []

theorem RecorderPhase.Hosts.woken {size : Nat} {phase : RecorderPhase} {consumer : ConsumerPhase}
    (hosts : phase.Hosts size consumer) : phase.Hosts size consumer.woken := by
  cases phase with
  | popping =>
      rcases hosts with rfl | rfl | ⟨taken, filled, bounded, rfl⟩
      · exact .inl rfl
      · exact .inl rfl
      · exact .inr (.inr ⟨taken, filled, bounded, rfl⟩)
  | _ =>
      simp only [RecorderPhase.Hosts] at hosts
      subst hosts
      rfl

theorem CallerPhase.Hosts.woken {phase : CallerPhase} {producer : ProducerPhase}
    (hosts : phase.Hosts producer) : phase.Hosts producer.woken := by
  cases phase with
  | pushing samples report =>
      rcases hosts with rfl | ⟨rest, filled, rfl | rfl⟩
      · exact .inl rfl
      · exact .inr ⟨rest, filled, .inl rfl⟩
      · exact .inr ⟨rest, filled, .inl rfl⟩
  | _ =>
      simp only [CallerPhase.Hosts] at hosts
      subst hosts
      rfl

theorem CallerPhase.hosts_next? {phase after : CallerPhase} {effect : Effect}
    (row : phase.next? = some (effect, after)) (producer : ProducerPhase) :
    after.Hosts producer ↔ phase.Hosts producer := by
  unfold CallerPhase.next? at row
  split at row <;> cases row <;> rfl

/-- A push in progress goes on or returns, and then the producer is idle again. -/
theorem CallerPhase.hosts_afterPush {samples : List UInt8} {report : Option ProgressSnapshot}
    {channel next : Channel} {result : Option PushResult}
    (hosts : (CallerPhase.pushing samples report).Hosts channel.producer)
    (step : channel.ProducerStep next result) :
    (CallerPhase.afterPush samples report result).Hosts next.producer := by
  cases step with
  | nothing ready =>
      rw [ready] at hosts
      rcases hosts with impossible | ⟨rest, filled, same | same⟩
      · cases impossible
      · cases same
        exact absurd rfl filled
      · cases same
  | put => exact .inl rfl
  | piece ready present full => exact .inr ⟨_, full, .inr rfl⟩
  | left closing =>
      rw [closing] at hosts
      rcases hosts with same | ⟨rest, filled, same | same⟩ <;> cases same
  | refused | last | woke => rfl

/-- A producer that is closing has only the wake-up left to do. -/
theorem ProducerPhase.gone_of_closing {channel next : Channel} {result : Option PushResult}
    (closing : channel.producer = .closing) (step : channel.ProducerStep next result) :
    next.producer = .gone := by
  cases step with
  | left => rfl
  | _ => simp_all

/-- A consumer that is leaving has only the wake-up left to do. -/
theorem ConsumerPhase.gone_of_leaving {channel next : Channel} {result : Option (List UInt8)}
    (leaving : channel.consumer = .leaving) (step : channel.ConsumerStep next result) :
    next.consumer = .gone ∧ next.queue = channel.queue := by
  cases step with
  | left => exact ⟨rfl, rfl⟩
  | _ => simp_all

/-- A step of one party at most wakes the other. -/
theorem Channel.ProducerStep.consumer {channel next : Channel} {result : Option PushResult}
    (step : channel.ProducerStep next result) :
    next.consumer = channel.consumer ∨ next.consumer = channel.consumer.woken := by
  cases step with
  | piece =>
      dsimp only
      split
      · exact .inl rfl
      · exact .inr rfl
  | nothing | refused | put => exact .inl rfl
  | last | woke | left => exact .inr rfl

theorem Channel.ConsumerStep.producer {channel next : Channel} {result : Option (List UInt8)}
    (step : channel.ConsumerStep next result) :
    next.producer = channel.producer ∨ next.producer = channel.producer.woken := by
  cases step with
  | woke | left => exact .inr rfl
  | _ => exact .inl rfl

namespace Wired

/-- The caller moves to a phase in which the producer may be where it is. -/
theorem goTo {phase after : CallerPhase} {lane : RecorderLane} (wired : Wired phase lane)
    (hosts : after.Hosts lane.channel.producer) : Wired after lane :=
  { wired with caller := hosts }

/-- The recorder moves to a phase in which the consumer may be where it is. -/
theorem record {phase : CallerPhase} {lane next : RecorderLane} (wired : Wired phase lane)
    (channel : next.channel = lane.channel)
    (size : next.recorder.sliceBytes = lane.recorder.sliceBytes)
    (hosts : next.recorder.phase.Hosts lane.recorder.sliceBytes lane.channel.consumer)
    (drained : next.recorder.phase.HasDrained → lane.recorder.phase.HasDrained) :
    Wired phase next where
  linked := channel ▸ wired.linked
  caller := channel ▸ wired.caller
  recorder := by rw [channel, size]; exact hosts
  positive := size ▸ wired.positive
  drained done := by rw [channel]; exact wired.drained (drained done)

/-- While the producer can put something in, the recorder is still taking slices or has
failed. -/
theorem not_drained {phase : CallerPhase} {lane : RecorderLane} (wired : Wired phase lane)
    (opened : lane.channel.producer.hasClosed = false) :
    ¬ lane.recorder.phase.HasDrained := by
  intro done
  have closed := (wired.drained done).1
  rw [wired.linked.closed, opened] at closed
  cases closed

/-- While the sink works, the queue takes whatever is pushed. -/
theorem present {phase : CallerPhase} {lane : RecorderLane} (wired : Wired phase lane)
    (working : lane.recorder.phase.status ≠ .broken)
    (opened : lane.channel.producer.hasClosed = false) :
    lane.channel.queue.abandoned = false := by
  have hosts := wired.recorder
  have waiting := wired.not_drained opened
  rw [wired.linked.abandoned]
  cases recorder : lane.recorder.phase with
  | departing ending | releasing ending | ended ending =>
      rw [recorder] at working waiting
      cases ending with
      | finished written => exact absurd (.inr rfl) waiting
      | failed fault => exact absurd rfl working
      | crashed => exact absurd rfl working
  | popping =>
      rw [recorder] at hosts
      rcases hosts with same | same | ⟨taken, -, -, same⟩ <;> rw [same] <;> rfl
  | _ =>
      rw [recorder] at hosts
      simp only [RecorderPhase.Hosts] at hosts
      rw [hosts]
      rfl

theorem producerStep {phase after : CallerPhase} {lane : RecorderLane} {channel : Channel}
    {result : Option PushResult} (wired : Wired phase lane)
    (step : lane.channel.ProducerStep channel result) (hosts : after.Hosts channel.producer) :
    Wired after { lane with channel := channel } := by
  constructor
  case linked => exact wired.linked.producer step
  case caller => exact hosts
  case recorder =>
    rcases step.consumer with same | woken
    · rw [same]
      exact wired.recorder
    · rw [woken]
      exact wired.recorder.woken
  case positive => exact wired.positive
  case drained =>
    intro done
    cases step with
    | left closing => exact wired.drained done
    | nothing phase | refused phase | put phase | last phase | piece phase | woke phase =>
        exact absurd done (wired.not_drained (by rw [phase]; rfl))

theorem consumerStep {phase : CallerPhase} {lane next : RecorderLane} {result : Option (List UInt8)}
    (wired : Wired phase lane) (step : lane.channel.ConsumerStep next.channel result)
    (size : next.recorder.sliceBytes = lane.recorder.sliceBytes)
    (hosts : next.recorder.phase.Hosts lane.recorder.sliceBytes next.channel.consumer)
    (drained : next.recorder.phase.HasDrained →
      next.channel.queue.closed = true ∧ next.channel.queue.bytes = []) :
    Wired phase next := by
  constructor
  case linked => exact wired.linked.consumer step
  case caller =>
    rcases step.producer with same | woken
    · rw [same]
      exact wired.caller
    · rw [woken]
      exact wired.caller.woken
  case recorder =>
    rw [size]
    exact hosts
  case positive => exact size ▸ wired.positive
  case drained => exact drained

theorem lane_of_withChannel {session : Session} {lane after : RecorderLane} {channel : Channel}
    (running : session.lane = some lane)
    (later : (session.withChannel channel).lane = some after) :
    after = { lane with channel := channel } := by
  rw [Session.lane_withChannel, running, Option.map_some] at later
  exact (Option.some.inj later).symm

end Wired

/-- The producer stays where the phase of the caller has it. -/
theorem Session.CallerStep.hosts {session next : Session} {lane after : RecorderLane}
    (step : session.CallerStep next) (running : session.lane = some lane)
    (later : next.lane = some after) (hosts : session.phase.Hosts lane.channel.producer) :
    next.phase.Hosts after.channel.producer := by
  cases step with
  | perform row =>
      cases running.symm.trans later
      exact (CallerPhase.hosts_next? row _).mpr hosts
  | offer phase known filled =>
      cases running.symm.trans known
      cases Wired.lane_of_withChannel running later
      exact .inr ⟨_, filled, .inl rfl⟩
  | push phase known step =>
      cases running.symm.trans known
      cases Wired.lane_of_withChannel running later
      rw [phase] at hosts
      exact CallerPhase.hosts_afterPush hosts step
  | close phase known =>
      cases running.symm.trans known
      cases Wired.lane_of_withChannel running later
      rfl
  | closed phase known step =>
      cases running.symm.trans known
      cases Wired.lane_of_withChannel running later
      rw [phase] at hosts
      exact ProducerPhase.gone_of_closing hosts step
  | unlink phase alone | joinNobody phase alone => cases running.symm.trans alone
  | @conclude error writeError phase =>
      rw [Session.lane_conclude] at later
      cases running.symm.trans later
      obtain ⟨log, concluded⟩ := session.conclude_eq error writeError
      rw [concluded]
      rw [phase] at hosts
      exact hosts
  | @join error _ ending phase =>
      rw [Session.lane_joined] at later
      cases running.symm.trans later
      rw [phase] at hosts
      cases ending <;> exact hosts
  | ingest phase | asked phase | skip phase | settled phase | report phase | answer phase
  | endTransfer phase | wait phase | ended phase | collapsed phase =>
      cases running.symm.trans later
      rw [phase] at hosts
      exact hosts

namespace Wired

/-- Every step of the caller keeps the wiring. -/
theorem callerStep {session next : Session} {lane after : RecorderLane}
    (step : session.CallerStep next)
    (running : session.lane = some lane) (later : next.lane = some after)
    (wired : Wired session.phase lane) : Wired next.phase after := by
  have hosts := step.hosts running later wired.caller
  cases step with
  | offer phase known filled =>
      cases running.symm.trans known
      cases lane_of_withChannel running later
      have idle := wired.caller
      rw [phase] at idle
      exact ⟨wired.linked.beginPush idle _, hosts, wired.recorder, wired.positive, wired.drained⟩
  | push phase known step | closed phase known step =>
      cases running.symm.trans known
      cases lane_of_withChannel running later
      exact wired.producerStep step hosts
  | close phase known =>
      cases running.symm.trans known
      cases lane_of_withChannel running later
      exact ⟨wired.linked.beginClose, hosts, wired.recorder, wired.positive,
        fun done => ⟨rfl, (wired.drained done).2⟩⟩
  | conclude | join =>
      simp only [Session.lane_conclude, Session.lane_joined] at later
      cases running.symm.trans later
      exact wired.goTo hosts
  | perform | ingest | asked | skip | settled | report | answer | unlink | endTransfer | wait
  | ended | joinNobody | collapsed =>
      cases running.symm.trans later
      exact wired.goTo hosts

/-- The lane after a step of the recorder. -/
theorem lane_of_withThread {session : Session} {thread : RecorderThread} {after : RecorderLane}
    (later : (session.withThread thread).lane = some after) :
    after = { channel := thread.channel, recorder := thread.recorder, log := thread.shared.log } :=
  (Option.some.inj later).symm

theorem hosts_afterPop_some (size : Nat) (slice : List UInt8) (consumer : ConsumerPhase) :
    (RecorderPhase.afterPop (some slice)).Hosts size consumer ↔ consumer = .idle := by
  cases slice <;> rfl

/-- A pop in progress goes on or returns, and then the consumer is idle again. If it
returns nothing, the queue is closed and empty. -/
theorem hosts_afterPop {size : Nat} (positive : 0 < size) {channel next : Channel}
    {result : Option (List UInt8)}
    (hosts : RecorderPhase.popping.Hosts size channel.consumer)
    (step : channel.ConsumerStep next result) :
    (RecorderPhase.afterPop result).Hosts size next.consumer ∧
      (result = some [] → next.queue.closed = true ∧ next.queue.bytes = []) := by
  have limited {limit : Nat} (ready : channel.consumer = .ready limit) : limit = size := by
    rcases hosts with same | same | ⟨taken, -, -, same⟩ <;> rw [ready] at same <;> cases same
    rfl
  cases step with
  | nothing ready =>
      cases limited ready
      cases positive
  | ended ready _ empty closed => exact ⟨rfl, fun _ => ⟨closed, empty⟩⟩
  | wait ready =>
      cases limited ready
      exact ⟨.inr (.inl rfl), fun nothing => by cases nothing⟩
  | take ready nonzero filled =>
      refine ⟨(hosts_afterPop_some _ _ _).mpr rfl, ?_⟩
      intro nothing
      simp [nonzero, filled] at nothing
  | make ready nonzero filled =>
      cases limited ready
      refine ⟨.inr (.inr ⟨_, ?_, ?_, rfl⟩), fun nothing => by cases nothing⟩
      · simp [nonzero, filled]
      · exact List.length_take_le _ _
  | woke owing =>
      refine ⟨(hosts_afterPop_some _ _ _).mpr rfl, ?_⟩
      intro nothing
      rcases hosts with same | same | ⟨taken, filled, -, same⟩ <;> rw [owing] at same <;>
        cases same
      exact absurd (Option.some.inj nothing) filled
  | left leaving =>
      rcases hosts with same | same | ⟨taken, -, -, same⟩ <;> rw [leaving] at same <;> cases same

/-- The recorder gets no more bytes than it asks for. -/
theorem length_popped {size : Nat} {channel next : Channel} {slice : List UInt8}
    (hosts : RecorderPhase.popping.Hosts size channel.consumer)
    (step : channel.ConsumerStep next (some slice)) : slice.length ≤ size := by
  cases step with
  | nothing | ended => exact Nat.zero_le _
  | take ready =>
      rcases hosts with same | same | ⟨taken, -, -, same⟩ <;> rw [ready] at same <;> cases same
      exact List.length_take_le _ _
  | woke owing =>
      rcases hosts with same | same | ⟨taken, -, short, same⟩ <;> rw [owing] at same <;>
        cases same
      exact short

/-- Every step of the recorder keeps the wiring. -/
theorem recorderStep {phase : CallerPhase} {session : Session} {lane : RecorderLane}
    {next : RecorderThread}
    (step : (session.thread lane).Step next) (wired : Wired phase lane) :
    Wired phase
      { channel := next.channel, recorder := next.recorder, log := next.shared.log } := by
  have hosts := wired.recorder
  cases step with
  | start known | notice known | failed known | fail known | count known =>
      change lane.recorder.phase = _ at known
      rw [known] at hosts
      refine wired.record rfl rfl hosts ?_
      rintro (done | done) <;> cases done
  | finish known =>
      change lane.recorder.phase = _ at known
      rw [known] at hosts
      exact wired.record rfl rfl hosts fun _ => .inr (by rw [known]; rfl)
  | @release ending known =>
      change lane.recorder.phase = _ at known
      rw [known] at hosts
      refine wired.record rfl rfl hosts ?_
      intro done
      right
      rw [known]
      rcases done with done | done
      · cases done
      · by_cases crashed : lane.recorder.sink.release.crashed = true
        · simp [Session.thread, crashed, RecorderPhase.status] at done
        · cases ending <;> simp_all [Session.thread, RecorderPhase.status]
  | write known =>
      change lane.recorder.phase = _ at known
      rw [known] at hosts
      refine wired.record rfl rfl ?_ ?_
      · simp only [RecorderThread.afterSink, Recorder.phaseAfter]
        split <;> exact hosts
      · intro done
        simp only [RecorderThread.afterSink, Recorder.phaseAfter] at done
        split at done <;> rcases done with done | done <;> cases done
  | flush known =>
      change lane.recorder.phase = _ at known
      rw [known] at hosts
      refine wired.record rfl rfl ?_ fun _ => .inl known
      simp only [RecorderThread.afterSink, Recorder.phaseAfter]
      split <;> exact hosts
  | slice known | noticed known =>
      change lane.recorder.phase = _ at known
      rw [known] at hosts
      refine ⟨wired.linked.beginPop hosts _, wired.caller, .inl rfl, wired.positive, ?_⟩
      rintro (done | done) <;> cases done
  | @pop known channel result step =>
      change lane.recorder.phase = _ at known
      rw [known] at hosts
      have popped := hosts_afterPop wired.positive hosts step
      refine wired.consumerStep step rfl popped.1 ?_
      intro done
      apply popped.2
      rcases done with done | done
      · exact (status_afterPop result).2 done
      · exact absurd ((status_afterPop result).1.symm.trans done) (by decide)
  | @leave ending known =>
      change lane.recorder.phase = _ at known
      refine ⟨wired.linked.beginLeave, wired.caller, rfl, wired.positive, ?_⟩
      intro done
      have before : lane.recorder.phase.HasDrained := by
        rw [known]
        rcases done with done | done
        · cases done
        · cases ending <;> simp_all [RecorderPhase.HasDrained, RecorderPhase.status,
            RecorderThread.goTo]
      exact ⟨(wired.drained before).1, rfl⟩
  | @depart ending known channel result step =>
      change lane.recorder.phase = _ at known
      rw [known] at hosts
      obtain ⟨gone, same⟩ := ConsumerPhase.gone_of_leaving hosts step
      refine wired.consumerStep step rfl gone ?_
      intro done
      have before : lane.recorder.phase.HasDrained := by
        rw [known]
        rcases done with done | done
        · cases done
        · cases ending <;> simp_all [RecorderPhase.HasDrained, RecorderPhase.status,
            RecorderThread.goTo]
      change channel.queue = lane.channel.queue at same
      change channel.queue.closed = true ∧ channel.queue.bytes = []
      rw [same]
      exact wired.drained before

/-- Every step keeps the wiring. -/
theorem step {session next : Session} {move : Move} {lane after : RecorderLane}
    (step : session.Step move next) (running : session.lane = some lane)
    (later : next.lane = some after) (wired : Wired session.phase lane) :
    Wired next.phase after := by
  have hosts := wired.caller
  cases step with
  | caller step => exact wired.callerStep step running later
  | recorder known step =>
      cases running.symm.trans known
      cases lane_of_withThread later
      exact wired.recorderStep step
  | deliver burst report ready =>
      cases running.symm.trans later
      rw [ready] at hosts
      apply wired.goTo
      split <;> exact hosts
  | ask reason ready | finish error ready =>
      cases running.symm.trans later
      rw [ready] at hosts
      exact wired.goTo hosts
  | record reason | raise asked =>
      cases running.symm.trans later
      exact wired

end Wired

end SampleCapture
