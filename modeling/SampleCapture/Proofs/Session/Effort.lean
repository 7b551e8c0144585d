import Mathlib
import SampleCapture.Proofs.Session.Runs

/-!
# The effort that is left

Push and pop wait for each other, so neither thread ends by itself. What ends is their
common work: a number of steps that each step of a thread lowers, also one that wakes the
other thread, and that only the source can raise, by so much for a byte and so much for a
call. A session whose source ends therefore makes finitely many steps, under every
schedule.

A byte costs most before it is in the queue, and less after that: the difference pays for
the wake-up of whoever waits for it.
-/

namespace SampleCapture

/-! ## What is left of each party -/

/-- The steps that the caller may still take before the source gets control again, or
before it returns. -/
def CallerPhase.effort : CallerPhase → Nat
  | .atSource | .returned _ => 0
  | .answering | .concluding _ _ => 1
  | .reporting _ => 2
  | .joining _ => 4
  | .pushing _ _ => 7
  | .checking _ => 8
  | .closing _ => 10
  | .finishing _ => 11
  | .asking effects | .collapsing effects => effects.length + 1
  | .settling effects _ => effects.length + 3
  | .ending effects _ => effects.length + 5
  | .marking effects samples _ => effects.length + 7 * samples.length + 9
  | .counting burst _ => 14 * burst.length + 11

def RecorderPhase.effort : RecorderPhase → Nat
  | .ended _ => 0
  | .releasing _ => 1
  | .departing _ => 3
  | .leaving _ => 4
  | .finishing => 5
  | .failing effects _ => effects.length + 5
  | .flushing => 9
  | .popping => 10
  | .checking | .noticing => 12
  | .starting | .counting _ => 13
  | .writing _ => 14

/-- A recorder has to notice a stop request once. -/
def Recorder.effort (recorder : Recorder) : Nat :=
  recorder.phase.effort + (!recorder.draining).toNat

def ProducerPhase.effort : ProducerPhase → Nat
  | .ready rest => 7 * rest.length + 1
  | .asleep rest => 7 * rest.length
  | .idle | .owing | .closing | .gone => 0

def ConsumerPhase.effort : ConsumerPhase → Nat
  | .owing _ => 6
  | .ready _ => 1
  | .idle | .asleep _ | .leaving | .gone => 0

def Channel.effort (channel : Channel) : Nat :=
  channel.producer.effort + 6 * channel.queue.bytes.length + channel.consumer.effort

theorem ProducerPhase.effort_woken_le (phase : ProducerPhase) :
    phase.woken.effort ≤ phase.effort + 1 := by
  cases phase <;> simp [woken, effort]

theorem ConsumerPhase.effort_woken_le (phase : ConsumerPhase) :
    phase.woken.effort ≤ phase.effort + 1 := by
  cases phase <;> simp [woken, effort]

theorem CallerPhase.effort_next? {phase after : CallerPhase} {effect : Effect}
    (row : phase.next? = some (effect, after)) : after.effort < phase.effort := by
  unfold CallerPhase.next? at row
  split at row <;> cases row <;> simp [CallerPhase.effort]

/-! ## Through the channel -/

namespace Channel

theorem length_fill (queue : ByteQueue) (bytes : List UInt8) :
    (queue.fill bytes).bytes.length + (queue.excess bytes).length =
      queue.bytes.length + bytes.length := by
  have parts := congrArg List.length (queue.fitting_append_excess bytes)
  simp only [List.length_append] at parts
  simp only [ByteQueue.fill, List.length_append]
  omega

/-- A push goes on with less work than before, or gives way to the effects behind it. -/
theorem ProducerStep.effort {channel next : Channel} {result : Option PushResult}
    (step : channel.ProducerStep next result) (opened : channel.producer ≠ .closing)
    (samples : List UInt8) (report : Option ProgressSnapshot) :
    next.effort + (CallerPhase.afterPush samples report result).effort <
      channel.effort + (CallerPhase.pushing samples report).effort := by
  have wake := channel.consumer.effort_woken_le
  cases step with
  | nothing ready | refused ready =>
      simp only [Channel.effort, ready, ProducerPhase.effort, CallerPhase.afterPush,
        Intake.afterPush, Effect.stop, CallerPhase.effort, List.length_cons, List.length_nil]
      omega
  | @put rest ready nonempty present unbounded =>
      have parts := length_fill channel.queue rest
      simp only [Channel.effort, ready, ProducerPhase.effort, CallerPhase.afterPush]
      omega
  | @last rest ready nonempty present bounded fits =>
      have parts := length_fill channel.queue rest
      simp only [Channel.effort, ready, ProducerPhase.effort, CallerPhase.afterPush,
        Intake.afterPush, CallerPhase.effort, List.length_cons, List.length_nil]
      omega
  | @piece rest ready present spilled =>
      have parts := length_fill channel.queue rest
      have grown := congrArg List.length (channel.queue.fitting_append_excess rest)
      simp only [List.length_append] at grown
      simp only [Channel.effort, ready, ProducerPhase.effort, CallerPhase.afterPush]
      -- who is woken is paid for by the bytes that have gone in
      split
      · omega
      · rename_i some
        have moved := List.length_pos_iff.mpr some
        omega
  | woke owing =>
      simp only [Channel.effort, owing, ProducerPhase.effort, CallerPhase.afterPush,
        Intake.afterPush, CallerPhase.effort, List.length_cons, List.length_nil]
      omega
  | left closing => exact absurd closing opened

/-- A wake-up adds at most one step to the other party. -/
theorem ProducerStep.effort_of_closing {channel next : Channel} {result : Option PushResult}
    (step : channel.ProducerStep next result) (closing : channel.producer = .closing) :
    next.effort ≤ channel.effort + 1 := by
  have wake := channel.consumer.effort_woken_le
  cases step with
  | left =>
      simp only [Channel.effort, closing, ProducerPhase.effort]
      omega
  | nothing ready | refused ready | put ready | last ready | piece ready | woke ready =>
      cases closing.symm.trans ready

theorem effort_afterPop_le (slice : List UInt8) :
    (RecorderPhase.afterPop (some slice)).effort ≤ 14 := by
  cases slice <;> simp [RecorderPhase.afterPop, RecorderPhase.effort]

/-- A pop goes on with less work than before, or gives way to what the recorder does with
the slice. -/
theorem ConsumerStep.effort {channel next : Channel} {result : Option (List UInt8)}
    (step : channel.ConsumerStep next result) (staying : channel.consumer ≠ .leaving) :
    next.effort + (RecorderPhase.afterPop result).effort <
      channel.effort + RecorderPhase.popping.effort := by
  have wake := channel.producer.effort_woken_le
  cases step with
  | nothing ready | wait ready | ended ready =>
      simp only [Channel.effort, ready, ConsumerPhase.effort, RecorderPhase.afterPop,
        RecorderPhase.effort]
      omega
  | @take limit ready positive filled unbounded =>
      have handled := effort_afterPop_le (channel.queue.bytes.take limit)
      have some := List.length_pos_iff.mpr filled
      simp only [Channel.effort, ready, ConsumerPhase.effort, RecorderPhase.effort,
        List.length_drop] at handled ⊢
      omega
  | @make limit ready positive filled bounded =>
      have some := List.length_pos_iff.mpr filled
      simp only [Channel.effort, ready, ConsumerPhase.effort, RecorderPhase.afterPop,
        RecorderPhase.effort, List.length_drop]
      omega
  | @woke taken owing =>
      have handled := effort_afterPop_le taken
      simp only [Channel.effort, owing, ConsumerPhase.effort, RecorderPhase.effort] at handled ⊢
      omega
  | left leaving => exact absurd leaving staying

theorem ConsumerStep.effort_of_leaving {channel next : Channel} {result : Option (List UInt8)}
    (step : channel.ConsumerStep next result) (leaving : channel.consumer = .leaving) :
    next.effort ≤ channel.effort + 1 := by
  have wake := channel.producer.effort_woken_le
  cases step with
  | left =>
      simp only [Channel.effort, leaving, ConsumerPhase.effort]
      omega
  | nothing ready | wait ready | ended ready | take ready | make ready | woke ready =>
      cases leaving.symm.trans ready

end Channel

/-! ## The recorder -/

def RecorderThread.effort (thread : RecorderThread) : Nat :=
  thread.channel.effort + thread.recorder.effort

def RecorderLane.effort (lane : RecorderLane) : Nat :=
  lane.channel.effort + lane.recorder.effort

theorem Recorder.effort_phaseAfter_le (recorder : Recorder) (after : RecorderPhase)
    (result : OutputResult) :
    (recorder.phaseAfter after result).effort ≤ max after.effort 8 := by
  cases result with
  | done => exact Nat.le_max_left _ _
  | failed fault => exact Nat.le_max_right _ _
  | crashed => exact Nat.le_trans (by decide : 4 ≤ 8) (Nat.le_max_right _ _)

/-- Every step of the recorder leaves less to do. -/
theorem RecorderThread.Step.effort {thread next : RecorderThread} (step : thread.Step next)
    (hosts : thread.recorder.phase.Hosts thread.recorder.sliceBytes thread.channel.consumer) :
    next.effort < thread.effort := by
  cases step with
  | start phase | count phase | finish phase | failed phase =>
      simp only [RecorderThread.effort, RecorderThread.goTo, RecorderThread.perform,
        Recorder.effort, phase, RecorderPhase.effort, List.length_nil]
      omega
  | notice phase seen =>
      simp [RecorderThread.effort, Recorder.effort, phase, seen, RecorderPhase.effort]
  | slice phase | noticed phase =>
      rw [phase] at hosts
      change thread.channel.consumer = .idle at hosts
      simp only [RecorderThread.effort, RecorderThread.goTo, RecorderThread.perform,
        RecorderThread.beginSlice, Recorder.effort, phase, RecorderPhase.effort, Channel.effort,
        Channel.beginPop, hosts, ConsumerPhase.effort]
      omega
  | @pop phase channel result step =>
      rw [phase] at hosts
      have staying : thread.channel.consumer ≠ .leaving := by
        intro leaving
        rcases hosts with same | same | ⟨taken, -, -, same⟩ <;> cases same.symm.trans leaving
      have less := step.effort staying
      simp only [RecorderThread.effort, RecorderThread.goTo, Recorder.effort, phase]
      omega
  | @write slice phase =>
      have less := thread.recorder.effort_phaseAfter_le (.counting slice.length)
        (thread.recorder.sink.writeAll slice).1
      simp only [RecorderThread.effort, RecorderThread.afterSink, Recorder.effort, phase,
        RecorderPhase.effort] at less ⊢
      omega
  | flush phase =>
      have less := thread.recorder.effort_phaseAfter_le .finishing
        thread.recorder.sink.flush.1
      simp only [RecorderThread.effort, RecorderThread.afterSink, Recorder.effort, phase,
        RecorderPhase.effort] at less ⊢
      omega
  | fail phase =>
      simp only [RecorderThread.effort, RecorderThread.goTo, RecorderThread.perform,
        Recorder.effort, phase, RecorderPhase.effort, List.length_cons]
      omega
  | leave phase =>
      rw [phase] at hosts
      change thread.channel.consumer = .idle at hosts
      simp only [RecorderThread.effort, RecorderThread.goTo, Recorder.effort, phase,
        RecorderPhase.effort, Channel.effort, Channel.beginLeave, ByteQueue.abandon, hosts,
        ConsumerPhase.effort, List.length_nil]
      omega
  | @depart ending phase channel result step =>
      rw [phase] at hosts
      have less := step.effort_of_leaving hosts
      simp only [RecorderThread.effort, RecorderThread.goTo, Recorder.effort, phase,
        RecorderPhase.effort]
      omega
  | release phase =>
      simp [RecorderThread.effort, Recorder.effort, phase, RecorderPhase.effort]

/-! ## The session -/

namespace Intake

/-- A flagged byte has four effects, an unflagged one two samples. -/
theorem effort_plan_lt (intake : Intake) (receivedBefore : UInt64) (burst : List UInt8)
    (report : Option ProgressSnapshot) :
    (CallerPhase.marking (intake.plan receivedBefore burst).effects
      (intake.plan receivedBefore burst).samples report).effort <
        (CallerPhase.counting burst report).effort := by
  have samples : (intake.plan receivedBefore burst).samples.length =
      2 * unflaggedCount (intake.liveOf receivedBefore burst) := by
    rw [plan_samples, length_sampleBytes]
  have effects : (intake.plan receivedBefore burst).effects.length ≤
      4 * flaggedCount (intake.liveOf receivedBefore burst) + 1 := by
    unfold plan
    split
    · exact Nat.zero_le _
    · rename_i live
      rw [live, ← length_flaggedIndices 0]
      have warm : intake.warmUpEffects.length ≤ 1 := by
        unfold warmUpEffects
        split <;> simp
      simp only [List.length_append, List.length_flatMap, overflowEffects, Effect.stop,
        List.length_cons, List.length_nil, List.map_const', List.sum_replicate_nat]
      omega
  have parts := unflaggedCount_add_flaggedCount (intake.liveOf receivedBefore burst)
  have shorter : (intake.liveOf receivedBefore burst).length ≤ burst.length := by
    simp [liveOf, liveBytes]
  simp only [CallerPhase.effort]
  omega

end Intake

namespace Session

/-- An upper bound of the steps that the two threads take before the source gets control
again, or to the end. -/
def effort (session : Session) : Nat :=
  session.phase.effort + session.lane.elim 0 RecorderLane.effort

theorem effort_of_lane {session : Session} {lane : RecorderLane}
    (running : session.lane = some lane) :
    session.effort = session.phase.effort + (lane.channel.effort + lane.recorder.effort) := by
  rw [effort, running]
  rfl

/-- What is left after a step at the channel. -/
theorem effort_withChannel {session : Session} {lane : RecorderLane}
    (running : session.lane = some lane)
    (channel : Channel) (phase : CallerPhase) :
    ((session.withChannel channel).goTo phase).effort =
      phase.effort + (channel.effort + lane.recorder.effort) := by
  have later : ((session.withChannel channel).goTo phase).lane =
      some { lane with channel := channel } := lane_withChannel_of_lane running channel
  exact effort_of_lane later

/-- What matters for the effort besides the phase has stayed. -/
theorem effort_lt_of_phase {session next : Session} (same : next.lane = session.lane)
    (less : next.phase.effort < session.phase.effort) : next.effort < session.effort := by
  unfold effort
  rw [same]
  exact Nat.add_lt_add_right less _

/-- Every step of the caller leaves less to do. -/
theorem CallerStep.effort {session next : Session} (step : session.CallerStep next)
    (held : ∀ lane, session.lane = some lane → session.phase.Hosts lane.channel.producer) :
    next.effort < session.effort := by
  cases step with
  | perform row => exact effort_lt_of_phase rfl (CallerPhase.effort_next? row)
  | asked phase | settled phase | report phase | answer phase | unlink phase | joinNobody phase
  | ended phase | collapsed phase | endTransfer phase | wait phase =>
      refine effort_lt_of_phase rfl ?_
      simp [phase, CallerPhase.effort, Effect.stop]
  | skip phase =>
      refine effort_lt_of_phase rfl ?_
      rw [phase]
      exact Nat.lt_of_lt_of_le (by decide : 2 < 9) (Nat.le_add_left _ _)
  | @ingest burst report phase =>
      refine effort_lt_of_phase rfl ?_
      rw [phase]
      exact session.intake.effort_plan_lt session.state.counters.received burst report
  | @conclude error writeError phase =>
      refine effort_lt_of_phase (session.lane_conclude _ _) ?_
      obtain ⟨log, concluded⟩ := session.conclude_eq error writeError
      rw [concluded, phase]
      exact Nat.zero_lt_one
  | @join error lane ending phase =>
      refine effort_lt_of_phase (session.lane_joined _ _) ?_
      cases ending <;> simp [phase, joined, CallerPhase.effort, Effect.stop]
  | @offer samples report lane phase running =>
      have idle := held lane running
      rw [phase] at idle
      change lane.channel.producer = .idle at idle
      rw [effort_of_lane running, effort_withChannel running]
      simp only [phase, CallerPhase.effort, Channel.effort, Channel.beginPush, idle,
        ProducerPhase.effort, List.length_nil]
      omega
  | @push samples report lane channel result phase running step =>
      have hosts := held lane running
      rw [phase] at hosts
      have opened : lane.channel.producer ≠ .closing := by
        intro closing
        rcases hosts with same | ⟨rest, -, same | same⟩ <;> cases same.symm.trans closing
      have less := step.effort opened samples report
      rw [effort_of_lane running, effort_withChannel running]
      rw [phase]
      omega
  | @close error lane phase running =>
      have idle := held lane running
      rw [phase] at idle
      change lane.channel.producer = .idle at idle
      rw [effort_of_lane running, effort_withChannel running]
      simp only [phase, CallerPhase.effort, Channel.effort, Channel.beginClose, idle,
        ProducerPhase.effort, ByteQueue.close]
      omega
  | @closed error lane channel result phase running step =>
      have closing := held lane running
      rw [phase] at closing
      have less := step.effort_of_closing closing
      rw [effort_of_lane running, effort_withChannel running]
      simp only [phase, CallerPhase.effort]
      omega

end Session

namespace Move

def isThread : Move → Bool
  | .caller | .recorder => true
  | .deliver _ _ | .ask _ | .finish _ | .record _ | .raise => false

/-- The steps of the two threads that a move of the source may bring about. -/
def allowance : Move → Nat
  | .deliver burst _ => 14 * burst.length + 11
  | .ask _ | .finish _ => 11
  | .caller | .recorder | .record _ | .raise => 0

def threadSteps (moves : List Move) : Nat :=
  moves.countP isThread

def budget (moves : List Move) : Nat :=
  (moves.map allowance).sum

end Move

namespace Session

/-- A step of a thread leaves less to do, and no other move adds more than its allowance. -/
theorem Step.effort {session next : Session} {move : Move} (step : session.Step move next)
    (wired : ∀ lane, session.lane = some lane → Wired session.phase lane) :
    next.effort + Move.threadSteps [move] ≤ session.effort + move.allowance := by
  cases step with
  | caller step => exact step.effort fun lane running => (wired lane running).caller
  | @recorder lane thread running step =>
      have less := step.effort (wired lane running).recorder
      have after : (session.withThread thread).effort =
          session.phase.effort + (thread.channel.effort + thread.recorder.effort) := rfl
      rw [effort_of_lane running, after]
      exact Nat.add_lt_add_left less _
  | deliver burst report ready =>
      simp only [Session.effort, lane_goTo, phase_goTo, ready, Move.threadSteps]
      split <;> simp [CallerPhase.effort, Move.isThread, Move.allowance] <;> omega
  | ask reason ready | finish error ready =>
      simp only [Session.effort, lane_goTo, phase_goTo, ready, Move.threadSteps]
      simp [CallerPhase.effort, Move.isThread, Move.allowance, Effect.stop]
      omega
  | record reason | raise asked => exact Nat.le_refl _

/-- Along a run the threads make no more steps than there was left to do and than the source
has allowed. -/
theorem Manned.effort_of_play {config : CaptureOptions} {output : Option Writer}
    {session last : Session} (manned : Manned config output session) {moves : List Move}
    (played : session.play moves = some last) :
    last.effort + Move.threadSteps moves ≤ session.effort + Move.budget moves := by
  refine (play_induction (motive := fun past reached => Manned config output reached ∧
    reached.effort + Move.threadSteps past ≤ session.effort + Move.budget past) ?_ [] played
      ⟨manned, Nat.le_refl _⟩).2
  rintro past reached next move step ⟨manned, bound⟩
  refine ⟨manned.step step, ?_⟩
  have moved := step.effort fun _ running => manned.wired running
  simp only [Move.threadSteps, Move.budget, List.countP_append, List.map_append, List.map_cons,
    List.map_nil, List.sum_append, List.sum_cons, List.sum_nil] at bound moved ⊢
  omega

theorem effort_start_le (config : CaptureOptions) (preStop : Option StopReason)
    (output : Option Writer) : (start config preStop output).effort ≤ 14 := by
  cases output with
  | none => exact Nat.zero_le _
  | some writer => exact Nat.le_refl _

/-- From the start the threads make only so many steps as the calls of the source allow. -/
theorem threadSteps_le {config : CaptureOptions} {preStop : Option StopReason}
    {output : Option Writer} {moves : List Move} {session : Session}
    (played : (start config preStop output).play moves = some session) :
    Move.threadSteps moves ≤ Move.budget moves + 14 := by
  have bound := (Manned.start config preStop output).effort_of_play played
  have initial := effort_start_le config preStop output
  omega

end Session

end SampleCapture
