import SampleCapture.Proofs.Output.Stream
import SampleCapture.Proofs.Session.Books

/-!
# The way of the samples

The samples of the bytes taken in go through the hands of the caller, the queue and the
hand of the recorder into the stream of the sink. While the sink works nothing is lost
on the way; after a failure the stream is what had been taken by then. The written bytes
are counted slice by slice, so that they fall short by less than a slice.
-/

namespace SampleCapture

def CallerPhase.prepared : CallerPhase → List UInt8
  | .marking _ samples _ => samples
  | _ => []

theorem CallerPhase.prepared_next? {phase after : CallerPhase} {effect : Effect}
    (row : phase.next? = some (effect, after)) : after.prepared = phase.prepared := by
  unfold CallerPhase.next? at row
  split at row <;> cases row <;> rfl

/-- The samples on their way to the sink, the nearest one first. -/
def RecorderLane.transit (lane : RecorderLane) (phase : CallerPhase) : List UInt8 :=
  lane.recorder.phase.inHand ++ (lane.channel.consumer.inHand ++ (lane.channel.queue.bytes ++
    (lane.channel.producer.remainder ++ phase.prepared)))

namespace Session

/-- Where the samples of the bytes taken in are. -/
structure Flow (samples : List UInt8) (session : Session) (lane : RecorderLane) : Prop where
  carried : ∃ rest, lane.recorder.sink.stream ++ rest = samples ∧
    (lane.recorder.phase.status ≠ .broken → rest = lane.transit session.phase)
  /-- What a failed write has put into the stream is never counted. -/
  tally : ∃ written surplus : Nat,
    session.booked.written + lane.recorder.phase.uncounted.toUInt64 = written.toUInt64 ∧
      written + surplus = lane.recorder.sink.stream.length ∧
      (lane.recorder.phase.status ≠ .broken → surplus = 0) ∧ surplus < lane.recorder.sliceBytes
  slice : ∀ slice, lane.recorder.phase = .writing slice →
    slice ≠ [] ∧ slice.length ≤ lane.recorder.sliceBytes
  sound : lane.recorder.phase.status = .taking → lane.recorder.sink.crashed = false
  settled : lane.recorder.phase.status = .complete →
    lane.recorder.sink.pending = [] ∧ lane.recorder.sink.crashed = false
  fits : lane.recorder.sink.Fits

namespace Flow

variable {samples : List UInt8} {session next : Session} {lane after : RecorderLane}

/-- A step that does not touch the sink; it may put fresh samples behind all others. -/
theorem move (flow : Flow samples session lane) (fresh : List UInt8)
    (sink : after.recorder.sink = lane.recorder.sink)
    (size : after.recorder.sliceBytes = lane.recorder.sliceBytes)
    (status : after.recorder.phase.status = lane.recorder.phase.status)
    (transit : lane.recorder.phase.status ≠ .broken →
      after.transit next.phase = lane.transit session.phase ++ fresh)
    (booked : next.booked.written + after.recorder.phase.uncounted.toUInt64 =
      session.booked.written + lane.recorder.phase.uncounted.toUInt64)
    (slice : ∀ slice, after.recorder.phase = .writing slice →
      slice ≠ [] ∧ slice.length ≤ lane.recorder.sliceBytes) :
    Flow (samples ++ fresh) next after := by
  obtain ⟨rest, whole, moving⟩ := flow.carried
  constructor
  case carried =>
    refine ⟨rest ++ fresh, ?_, ?_⟩
    · rw [sink, ← List.append_assoc, whole]
    · intro working
      rw [status] at working
      rw [transit working, moving working]
  case tally =>
    rw [booked, sink, size, status]
    exact flow.tally
  case slice =>
    rw [size]
    exact slice
  case sound =>
    rw [sink, status]
    exact flow.sound
  case settled =>
    rw [sink, status]
    exact flow.settled
  case fits =>
    rw [sink]
    exact flow.fits

/-- A step that neither touches the sink nor adds samples. -/
theorem still (flow : Flow samples session lane)
    (sink : after.recorder.sink = lane.recorder.sink)
    (size : after.recorder.sliceBytes = lane.recorder.sliceBytes)
    (status : after.recorder.phase.status = lane.recorder.phase.status)
    (transit : lane.recorder.phase.status ≠ .broken →
      after.transit next.phase = lane.transit session.phase)
    (booked : next.booked.written + after.recorder.phase.uncounted.toUInt64 =
      session.booked.written + lane.recorder.phase.uncounted.toUInt64)
    (slice : ∀ slice, after.recorder.phase = .writing slice →
      slice ≠ [] ∧ slice.length ≤ lane.recorder.sliceBytes) :
    Flow samples next after := by
  have flowing := flow.move [] sink size status
    (fun working => by rw [transit working, List.append_nil]) booked slice
  rwa [List.append_nil] at flowing

/-- The sink has taken the whole slice in hand. -/
theorem written (flow : Flow samples session lane)
    {slice : List UInt8} (known : lane.recorder.phase = .writing slice)
    (channel : after.channel = lane.channel) (caller : next.phase = session.phase)
    (size : after.recorder.sliceBytes = lane.recorder.sliceBytes)
    (phase : after.recorder.phase = .counting slice.length)
    (booked : next.booked.written = session.booked.written)
    (stream : after.recorder.sink.stream = lane.recorder.sink.stream ++ slice)
    (crashed : after.recorder.sink.crashed = false) (fits : after.recorder.sink.Fits) :
    Flow samples next after := by
  have working : lane.recorder.phase.status ≠ .broken := by
    rw [known]
    exact nofun
  obtain ⟨rest, whole, moving⟩ := flow.carried
  obtain ⟨written, surplus, counted, total, exact, short⟩ := flow.tally
  have ahead : rest = slice ++ after.transit next.phase := by
    rw [moving working, RecorderLane.transit, RecorderLane.transit, known, phase, channel, caller]
    rfl
  constructor
  case carried =>
    refine ⟨_, ?_, fun _ => rfl⟩
    rw [stream, List.append_assoc, ← ahead, whole]
  case tally =>
    refine ⟨written + slice.length, 0, ?_, ?_, fun _ => rfl, ?_⟩
    · rw [known] at counted
      have before : session.booked.written = written.toUInt64 :=
        (UInt64.add_zero _).symm.trans counted
      rw [phase, booked, before]
      simp [RecorderPhase.uncounted]
    · rw [stream, List.length_append, ← total, exact working]
      rfl
    · rw [size]
      exact Nat.zero_lt_of_lt short
  case slice =>
    rw [phase]
    exact nofun
  case sound => exact fun _ => crashed
  case settled =>
    rw [phase]
    exact nofun
  case fits => exact fits

/-- The sink has failed; of a slice in hand it has taken a first part. -/
theorem failed (flow : Flow samples session lane)
    (taking : lane.recorder.phase.status = .taking)
    (size : after.recorder.sliceBytes = lane.recorder.sliceBytes)
    (broken : after.recorder.phase.status = .broken)
    (booked : next.booked.written + after.recorder.phase.uncounted.toUInt64 =
      session.booked.written + lane.recorder.phase.uncounted.toUInt64)
    {taken left : List UInt8} (split : lane.recorder.phase.inHand = taken ++ left)
    (stream : after.recorder.sink.stream = lane.recorder.sink.stream ++ taken)
    (short : taken.length < lane.recorder.sliceBytes) (fits : after.recorder.sink.Fits) :
    Flow samples next after := by
  have working : lane.recorder.phase.status ≠ .broken := by
    rw [taking]
    decide
  obtain ⟨rest, whole, moving⟩ := flow.carried
  obtain ⟨written, surplus, counted, total, exact, -⟩ := flow.tally
  have ahead : ∃ tail, rest = taken ++ tail := by
    rw [moving working, RecorderLane.transit, split, List.append_assoc]
    exact ⟨_, rfl⟩
  obtain ⟨tail, rfl⟩ := ahead
  constructor
  case carried =>
    refine ⟨tail, ?_, fun working => absurd broken working⟩
    rw [stream, List.append_assoc, whole]
  case tally =>
    refine ⟨written, taken.length, ?_, ?_, fun working => absurd broken working, ?_⟩
    · rw [booked, counted]
    · rw [stream, List.length_append, ← total, exact working]
      rfl
    · rw [size]
      exact short
  case slice =>
    intro slice writing
    rw [writing] at broken
    cases broken
  case sound =>
    rw [broken]
    exact nofun
  case settled =>
    rw [broken]
    exact nofun
  case fits => exact fits

/-- The sink has moved bytes from its buffer to its file. -/
theorem emptied (flow : Flow samples session lane)
    (size : after.recorder.sliceBytes = lane.recorder.sliceBytes)
    (transit : after.transit next.phase = lane.transit session.phase)
    (worse : after.recorder.phase.status ≠ .broken → lane.recorder.phase.status ≠ .broken)
    (booked : next.booked.written + after.recorder.phase.uncounted.toUInt64 =
      session.booked.written + lane.recorder.phase.uncounted.toUInt64)
    (slice : ∀ slice, after.recorder.phase ≠ .writing slice)
    (taking : after.recorder.phase.status ≠ .taking)
    (stream : after.recorder.sink.stream = lane.recorder.sink.stream)
    (settled : after.recorder.phase.status = .complete →
      after.recorder.sink.pending = [] ∧ after.recorder.sink.crashed = false)
    (fits : after.recorder.sink.Fits) : Flow samples next after := by
  obtain ⟨rest, whole, moving⟩ := flow.carried
  obtain ⟨written, surplus, counted, total, exact, short⟩ := flow.tally
  constructor
  case carried =>
    refine ⟨rest, ?_, ?_⟩
    · rw [stream, whole]
    · intro working
      rw [transit, moving (worse working)]
  case tally =>
    refine ⟨written, surplus, ?_, ?_, ?_, ?_⟩
    · rw [booked, counted]
    · rw [stream, total]
    · intro working
      exact exact (worse working)
    · rw [size]
      exact short
  case slice =>
    intro bytes writing
    exact absurd writing (slice bytes)
  case sound =>
    intro same
    exact absurd same taking
  case settled => exact settled
  case fits => exact fits

/-- The recorder hands over a slice. -/
theorem writeStep (flow : Flow samples session lane) {slice : List UInt8}
    (known : lane.recorder.phase = .writing slice)
    (channel : after.channel = lane.channel) (caller : next.phase = session.phase)
    (size : after.recorder.sliceBytes = lane.recorder.sliceBytes)
    (sink : after.recorder.sink = (lane.recorder.sink.writeAll slice).2)
    (phase : after.recorder.phase =
      lane.recorder.phaseAfter (.counting slice.length) (lane.recorder.sink.writeAll slice).1)
    (booked : next.booked.written = session.booked.written) :
    Flow samples next after := by
  obtain ⟨filled, short⟩ := flow.slice slice known
  have taking : lane.recorder.phase.status = .taking := by
    rw [known]
    rfl
  have took := (lane.recorder.sink.writes slice).took filled
  have fits : after.recorder.sink.Fits := sink ▸ took.keeps.fits flow.fits
  have crashed := took.crashed (flow.sound taking)
  obtain ⟨taken, left, split, stream, complete⟩ := took.taken
  rw [← sink] at stream crashed
  cases result : (lane.recorder.sink.writeAll slice).1 with
  | done =>
      have all : taken = slice := by
        rw [complete.mp result, List.append_nil] at split
        exact split.symm
      rw [all] at stream
      rw [result] at phase
      have unharmed : after.recorder.sink.crashed = false := by simpa [result] using crashed
      exact flow.written known channel caller size phase booked stream unharmed fits
  | failed fault | crashed =>
      have some : left ≠ [] := fun none => by
        have done := complete.mpr none
        rw [result] at done
        cases done
      have shorter : taken.length < lane.recorder.sliceBytes := by
        rw [split, List.length_append] at short
        have positive := List.length_pos_iff.mpr some
        omega
      have handed : lane.recorder.phase.inHand = taken ++ left := by
        rw [known]
        exact split
      rw [result] at phase
      apply flow.failed taking size _ _ handed stream shorter fits
      · rw [phase]
        rfl
      · rw [phase, known, booked]
        rfl

/-- The recorder flushes its sink. -/
theorem flushStep (flow : Flow samples session lane)
    (known : lane.recorder.phase = .flushing)
    (channel : after.channel = lane.channel) (caller : next.phase = session.phase)
    (size : after.recorder.sliceBytes = lane.recorder.sliceBytes)
    (sink : after.recorder.sink = lane.recorder.sink.flush.2)
    (phase : after.recorder.phase =
      lane.recorder.phaseAfter .finishing lane.recorder.sink.flush.1)
    (booked : next.booked.written = session.booked.written) :
    Flow samples next after := by
  have taking : lane.recorder.phase.status = .taking := by
    rw [known]
    rfl
  obtain ⟨keeps, stream, done, crash⟩ := lane.recorder.sink.flushes.flushed
  rw [← sink] at keeps stream done crash
  have hand : after.recorder.phase.inHand = [] ∧ after.recorder.phase.uncounted = 0 ∧
      after.recorder.phase.status ≠ .taking ∧
      (after.recorder.phase.status = .complete → lane.recorder.sink.flush.1 = .done) := by
    rw [phase]
    cases lane.recorder.sink.flush.1 <;>
      simp [Recorder.phaseAfter, RecorderPhase.inHand, RecorderPhase.uncounted,
        RecorderPhase.status]
  obtain ⟨nothing, counted, through, finished⟩ := hand
  apply flow.emptied size
  case transit =>
    rw [RecorderLane.transit, RecorderLane.transit, nothing, known, channel, caller]
    rfl
  case worse =>
    intro _
    rw [taking]
    decide
  case booked =>
    rw [counted, known, booked]
    rfl
  case slice =>
    intro slice writing
    rw [writing] at through
    exact through rfl
  case taking => exact through
  case stream => exact stream
  case settled =>
    intro complete
    refine ⟨done (finished complete), ?_⟩
    cases mark : after.recorder.sink.crashed with
    | false => rfl
    | true =>
        have crashed := crash (flow.sound taking) mark
        rw [finished complete] at crashed
        cases crashed
  case fits => exact keeps.fits flow.fits

/-- The recorder lets go of its sink. -/
theorem releaseStep (flow : Flow samples session lane) {ending : RecorderEnd}
    (known : lane.recorder.phase = .releasing ending)
    (channel : after.channel = lane.channel) (caller : next.phase = session.phase)
    (size : after.recorder.sliceBytes = lane.recorder.sliceBytes)
    (sink : after.recorder.sink = lane.recorder.sink.release)
    (phase : after.recorder.phase =
      .ended (if lane.recorder.sink.release.crashed then .crashed else ending))
    (booked : next.booked.written = session.booked.written) :
    Flow samples next after := by
  obtain ⟨keeps, stream⟩ := lane.recorder.sink.release_stream
  rw [← sink] at keeps stream
  have same : after.recorder.phase.status ≠ .broken →
      after.recorder.phase.status = lane.recorder.phase.status := by
    rw [phase, known]
    split
    · exact fun working => absurd rfl working
    · cases ending <;> exact fun _ => rfl
  have through : after.recorder.phase.status ≠ .taking := by
    rw [phase]
    split
    · exact nofun
    · cases ending <;> exact nofun
  apply flow.emptied size
  case transit =>
    rw [RecorderLane.transit, RecorderLane.transit, known, phase, channel, caller]
    rfl
  case worse =>
    intro working broken
    apply working
    rw [same working, broken]
  case booked =>
    rw [phase, known, booked]
    rfl
  case slice =>
    rw [phase]
    exact nofun
  case taking => exact through
  case stream => exact stream
  case fits => exact keeps.fits flow.fits
  case settled =>
    intro complete
    have before := same (by rw [complete]; decide)
    rw [complete] at before
    obtain ⟨empty, unharmed⟩ := flow.settled before.symm
    obtain ⟨file, still⟩ := lane.recorder.sink.release_of_empty empty unharmed
    rw [← sink] at file still
    refine ⟨?_, still⟩
    rw [Sink.stream, Sink.stream, file] at stream
    rw [List.append_cancel_left stream, empty]

/-- What a pop takes out of the queue comes into the hand of the recorder. -/
theorem popStep {channel : Channel} {result : Option (List UInt8)}
    (flow : Flow samples session lane) (wired : Wired session.phase lane)
    (known : lane.recorder.phase = .popping) (step : lane.channel.ConsumerStep channel result)
    (moved : after.channel = channel) (caller : next.phase = session.phase)
    (recorder : after.recorder = { lane.recorder with phase := .afterPop result })
    (booked : next.booked.written = session.booked.written) :
    Flow samples next after := by
  have hosts := wired.recorder
  rw [known] at hosts
  have hand : (RecorderPhase.afterPop result).inHand = result.getD [] := by
    rcases result with _ | _ | ⟨byte, rest⟩ <;> rfl
  have none : (RecorderPhase.afterPop result).uncounted = 0 := by
    rcases result with _ | _ | ⟨byte, rest⟩ <;> rfl
  apply flow.still
  case sink => rw [recorder]
  case size => rw [recorder]
  case status =>
    rw [recorder, known]
    exact (status_afterPop result).1
  case transit =>
    intro _
    have conserved := step.conserves
    have remainder := step.remainder
    rw [RecorderLane.transit, RecorderLane.transit, recorder, moved, caller, known, hand, remainder]
    simp only [RecorderPhase.inHand, List.nil_append]
    rw [← List.append_assoc lane.channel.consumer.inHand, conserved]
    simp only [List.append_assoc]
  case booked =>
    rw [recorder, none, known, booked]
    rfl
  case slice =>
    intro slice writing
    rw [recorder] at writing
    rcases result with _ | _ | ⟨byte, rest⟩
    · cases writing
    · cases writing
    · cases writing
      exact ⟨List.cons_ne_nil _ _, Wired.length_popped hosts step⟩

/-- Every step of the recorder keeps the samples on their way. -/
theorem recorderStep {thread : RecorderThread} (flow : Flow samples session lane)
    (wired : Wired session.phase lane) (orderly : lane.recorder.phase.Orderly)
    (step : (session.thread lane).Step thread) :
    Flow samples (session.withThread thread)
      { channel := thread.channel, recorder := thread.recorder, log := thread.shared.log } := by
  have booked : (session.withThread thread).booked.written =
      session.booked.written + lane.recorder.phase.uncounted.toUInt64 := by
    rw [booked_withThread step orderly]
    rfl
  -- what all steps have in common behind which nothing is left to count
  have counted : (session.withThread thread).booked.written + Nat.toUInt64 0 =
      session.booked.written + lane.recorder.phase.uncounted.toUInt64 :=
    (UInt64.add_zero _).trans booked
  have hosts := wired.recorder
  cases step with
  | write known =>
      change lane.recorder.phase = _ at known
      rw [known] at booked
      exact flow.writeStep known rfl rfl rfl rfl rfl (booked.trans (UInt64.add_zero _))
  | flush known =>
      change lane.recorder.phase = _ at known
      rw [known] at booked
      exact flow.flushStep known rfl rfl rfl rfl rfl (booked.trans (UInt64.add_zero _))
  | release known =>
      change lane.recorder.phase = _ at known
      rw [known] at booked
      exact flow.releaseStep known rfl rfl rfl rfl rfl (booked.trans (UInt64.add_zero _))
  | pop known step =>
      change lane.recorder.phase = _ at known
      rw [known] at booked
      exact flow.popStep wired known step rfl rfl rfl (booked.trans (UInt64.add_zero _))
  | start known | notice known | finish known | failed known | fail known | count known =>
      change lane.recorder.phase = _ at known
      refine flow.still rfl rfl ?_ (fun _ => ?_) counted nofun
      · rw [known]
        rfl
      · rw [RecorderLane.transit, RecorderLane.transit, known]
        rfl
  | slice known | noticed known =>
      change lane.recorder.phase = _ at known
      rw [known] at hosts
      refine flow.still rfl rfl ?_ (fun _ => ?_) counted nofun
      · rw [known]
        rfl
      · rw [RecorderLane.transit, RecorderLane.transit, known, hosts]
        rfl
  | @leave ending known =>
      change lane.recorder.phase = _ at known
      rw [known] at hosts
      refine flow.still rfl rfl ?_ (fun working => ?_) counted nofun
      · rw [known]
        cases ending <;> rfl
      · have complete : lane.recorder.phase.status = .complete := by
          rw [known] at working ⊢
          cases ending with
          | finished written => rfl
          | failed fault => exact absurd rfl working
          | crashed => exact absurd rfl working
        rw [RecorderLane.transit, RecorderLane.transit, known, hosts,
          (wired.drained (.inr complete)).2]
        rfl
  | @depart ending known channel result step =>
      change lane.recorder.phase = _ at known
      rw [known] at hosts
      have remainder := step.remainder
      obtain ⟨gone, same⟩ := ConsumerPhase.gone_of_leaving hosts step
      refine flow.still rfl rfl ?_ (fun _ => ?_) counted nofun
      · rw [known]
        cases ending <;> rfl
      · rw [RecorderLane.transit, RecorderLane.transit, known, hosts]
        dsimp only [RecorderThread.goTo]
        rw [gone, same, remainder]
        rfl

end Flow

/-! ## The caller -/

def fresh (session : Session) (move : Move) : List UInt8 :=
  sampleBytes (session.intake.liveOf session.state.counters.received (session.counted move))

theorem fresh_of_counted {session : Session} {move : Move} (none : session.counted move = []) :
    session.fresh move = [] := by
  simp [fresh, none, Intake.liveOf, liveBytes, sampleBytes]

/-- The samples of a burst come behind those of the bytes before it. -/
theorem sampleBytes_append_counted {session : Session} {warmUp : Nat} {taken : List UInt8}
    (intake : session.intake.warmUpBytes.toNat = warmUp)
    (received : session.booked.received = taken.length.toUInt64)
    (bound : taken.length < UInt64.size) (move : Move) :
    sampleBytes (liveBytes warmUp (taken ++ session.counted move)) =
      sampleBytes (liveBytes warmUp taken) ++ session.fresh move := by
  cases move with
  | caller =>
      rw [counted, liveBytes_append_uncounted intake received bound, sampleBytes_append]
      rfl
  | recorder | deliver | ask | finish | record | raise =>
      rw [fresh_of_counted rfl, counted, List.append_nil, List.append_nil]

/-- The caller takes samples in only when it counts a burst. -/
theorem fresh_of_phase {session : Session} {phase : CallerPhase} (same : session.phase = phase)
    (none : phase.uncounted = []) : session.fresh .caller = [] := by
  apply fresh_of_counted
  rw [counted, same, none]

theorem CallerStep.written {session next : Session} (step : session.CallerStep next) :
    next.booked.written = session.booked.written := by
  obtain ⟨lost, balance, -⟩ := step.booked
  have written := congrArg Counters.written balance
  simpa [Counters.add, gain, Intake.amounts] using written

inductive Passes (session next : Session) (lane after : RecorderLane) : Prop where
  /-- Some go into the queue, and what is taken in comes behind the others. -/
  | on (put : List UInt8) (grown : after.channel.queue.bytes = lane.channel.queue.bytes ++ put)
      (hand : after.channel.consumer.inHand = lane.channel.consumer.inHand)
      (rest : put ++ (after.channel.producer.remainder ++ next.phase.prepared) =
        lane.channel.producer.remainder ++ session.phase.prepared ++ session.fresh .caller)
  /-- An abandoned queue refuses them. -/
  | refused {samples : List UInt8} {report : Option ProgressSnapshot}
      (phase : session.phase = .pushing samples report)
      (abandoned : lane.channel.queue.abandoned = true)
      (settles : next.phase = .settling (Intake.afterPush samples .refused) report)

/-- A step that puts nothing in and takes nothing in. -/
theorem Passes.still {session next : Session} {lane after : RecorderLane} {phase : CallerPhase}
    (same : session.phase = phase) (none : phase.uncounted = [])
    (queue : after.channel.queue.bytes = lane.channel.queue.bytes)
    (hand : after.channel.consumer.inHand = lane.channel.consumer.inHand)
    (rest : after.channel.producer.remainder ++ next.phase.prepared =
      lane.channel.producer.remainder ++ phase.prepared) : Passes session next lane after := by
  refine .on [] (by rw [queue, List.append_nil]) hand ?_
  rw [fresh_of_phase same none, same, List.nil_append, List.append_nil, rest]

/-- A step of the producer that is not refused. -/
theorem Passes.step {session next : Session} {lane after : RecorderLane} {phase : CallerPhase}
    {result : Option PushResult} (same : session.phase = phase) (none : phase.uncounted = [])
    (unprepared : phase.prepared = []) (prepared : next.phase.prepared = [])
    (step : lane.channel.ProducerStep after.channel result) (taken : result ≠ some .refused) :
    Passes session next lane after := by
  obtain ⟨put, grown, rest⟩ := step.puts taken
  refine .on put grown step.inHand ?_
  rw [fresh_of_phase same none, same, unprepared, prepared, rest]
  simp only [List.append_nil]

theorem CallerStep.passes {session next : Session} {lane after : RecorderLane}
    (step : session.CallerStep next) (running : session.lane = some lane)
    (later : next.lane = some after) (hosts : session.phase.Hosts lane.channel.producer) :
    Passes session next lane after := by
  cases step with
  | perform row =>
      cases running.symm.trans later
      exact .still rfl (CallerPhase.uncounted_next? row).1 rfl rfl
        (congrArg _ (CallerPhase.prepared_next? row))
  | @ingest burst report phase =>
      cases running.symm.trans later
      have prepared : (session.ingest burst report).phase.prepared = session.fresh .caller := by
        rw [fresh, counted, phase]
        exact Intake.plan_samples _ _ _
      refine .on [] (List.append_nil _).symm rfl ?_
      rw [prepared, phase]
      simp [CallerPhase.prepared]
  | skip phase nothing =>
      cases running.symm.trans later
      rcases nothing with alone | rfl
      · cases running.symm.trans alone
      · exact .still phase rfl rfl rfl rfl
  | offer phase known filled =>
      cases running.symm.trans known
      cases Wired.lane_of_withChannel running later
      rw [phase] at hosts
      change lane.channel.producer = .idle at hosts
      refine .still phase rfl rfl rfl ?_
      rw [hosts]
      simp [Channel.beginPush, ProducerPhase.remainder, CallerPhase.prepared]
  | @push samples report _ channel result phase known step =>
      cases running.symm.trans known
      cases Wired.lane_of_withChannel running later
      rcases result with _ | _ | _
      · exact .step phase rfl rfl rfl step (by simp)
      · exact .step phase rfl rfl rfl step (by simp)
      · cases step with
        | refused _ _ abandoned => exact .refused phase abandoned rfl
  | close phase known =>
      cases running.symm.trans known
      cases Wired.lane_of_withChannel running later
      rw [phase] at hosts
      change lane.channel.producer = .idle at hosts
      refine .still phase rfl rfl rfl ?_
      rw [hosts]
      rfl
  | closed phase known step =>
      cases running.symm.trans known
      cases Wired.lane_of_withChannel running later
      rw [phase] at hosts
      refine .step phase rfl rfl rfl step ?_
      rintro rfl
      cases step with
      | refused ready => cases ready.symm.trans hosts
  | @conclude error writeError phase =>
      rw [lane_conclude] at later
      cases running.symm.trans later
      obtain ⟨log, concluded⟩ := session.conclude_eq error writeError
      exact .still phase rfl rfl rfl (by rw [concluded]; rfl)
  | @join error _ ending phase =>
      rw [lane_joined] at later
      cases running.symm.trans later
      exact .still phase rfl rfl rfl (by cases ending <;> rfl)
  | asked phase | settled phase | report phase | answer phase | unlink phase | endTransfer phase
  | wait phase | ended phase | joinNobody phase | collapsed phase =>
      cases running.symm.trans later
      exact .still phase rfl rfl rfl rfl

/-- A step of somebody else leaves the samples where they are. -/
theorem transit_of_phase {lane after : RecorderLane} {phase next : CallerPhase}
    (same : after = lane)
    (prepared : next.prepared = phase.prepared) : after.transit next = lane.transit phase := by
  rw [same, RecorderLane.transit, RecorderLane.transit, prepared]

/-- The samples that the caller takes in come behind all that are on their way, and as long
as the queue takes what is pushed its other steps pass them on in order. -/
theorem CallerStep.transit {session next : Session} {lane after : RecorderLane}
    (step : session.CallerStep next) (running : session.lane = some lane)
    (later : next.lane = some after) (wired : Wired session.phase lane)
    (working : lane.recorder.phase.status ≠ .broken) :
    after.transit next.phase = lane.transit session.phase ++ session.fresh .caller := by
  obtain ⟨before, known, recorder⟩ := step.recorder later
  cases running.symm.trans known
  cases step.passes running later wired.caller with
  | on put grown hand rest =>
      rw [RecorderLane.transit, RecorderLane.transit, recorder, hand, grown,
        List.append_assoc _ put, rest]
      simp only [List.append_assoc]
  | refused phase abandoned =>
      -- while the sink works nobody abandons the queue
      have hosts := wired.caller
      rw [phase] at hosts
      have opened : lane.channel.producer.hasClosed = false := by
        rcases hosts with same | ⟨rest, filled, same | same⟩ <;> rw [same] <;> rfl
      cases abandoned.symm.trans (wired.present working opened)

namespace Flow

variable {samples : List UInt8} {session next : Session} {lane after : RecorderLane}

theorem callerStep (flow : Flow samples session lane) (step : session.CallerStep next)
    (running : session.lane = some lane) (later : next.lane = some after)
    (wired : Wired session.phase lane) : Flow (samples ++ session.fresh .caller) next after := by
  obtain ⟨before, known, recorder⟩ := step.recorder later
  cases running.symm.trans known
  apply flow.move (session.fresh .caller)
  case sink => rw [recorder]
  case size => rw [recorder]
  case status => rw [recorder]
  case transit => exact step.transit running later wired
  case booked => rw [recorder, step.written]
  case slice =>
    rw [recorder]
    exact flow.slice

/-- Every step keeps the samples on their way, with those that it takes in. -/
theorem step {move : Move} (flow : Flow samples session lane) (step : session.Step move next)
    (running : session.lane = some lane) (later : next.lane = some after)
    (wired : Wired session.phase lane) (orderly : lane.recorder.phase.Orderly) :
    Flow (samples ++ session.fresh move) next after := by
  cases step with
  | caller step => exact flow.callerStep step running later wired
  | recorder known step =>
      cases running.symm.trans known
      cases Wired.lane_of_withThread later
      rw [fresh_of_counted rfl, List.append_nil]
      exact flow.recorderStep wired orderly step
  | deliver burst report ready =>
      cases running.symm.trans later
      rw [fresh_of_counted rfl, List.append_nil]
      refine flow.still rfl rfl rfl (fun _ => transit_of_phase rfl ?_) ?_ flow.slice
      · rw [ready, phase_goTo]
        split <;> rfl
      · rw [booked, booked, ready, phase_goTo]
        split <;> rfl
  | ask reason ready | finish error ready =>
      cases running.symm.trans later
      rw [fresh_of_counted rfl, List.append_nil]
      refine flow.still rfl rfl rfl (fun _ => transit_of_phase rfl ?_) ?_ flow.slice
      · rw [ready]
        rfl
      · rw [booked, booked, ready]
        rfl
  | record reason | raise asked =>
      cases running.symm.trans later
      rw [fresh_of_counted rfl, List.append_nil]
      exact flow.still rfl rfl rfl (fun _ => rfl) rfl flow.slice

end Flow

end Session

end SampleCapture
