import SampleCapture.Proofs.Recorder.Course
import SampleCapture.Proofs.Recorder.Recording
import SampleCapture.Proofs.Session.Wiring

/-!
# A recorder at work

A recorder empties a queue that is closed and writes to a sink without a buffer, while others
ask for stops as they like. What it has done and what it should still do, after the
reference, always come to the same; each of its steps leaves it fewer steps to take.
-/

namespace SampleCapture

/-- A step of the recorder, or a step of somebody else's stop request. -/
inductive RecorderMove where
  /-- The recorder takes a step, if it can. -/
  | step
  /-- Somebody else takes the first step of a stop request. -/
  | record (reason : StopReason)
  /-- Somebody else takes the second step of a stop request. -/
  | raise
deriving DecidableEq

/-- A recorder at work, with what it has done. -/
structure RecorderRun where
  thread : RecorderThread
  /-- The slices that it has handed to its sink, with the ends of their writes. -/
  writes : List (List UInt8 × OutputResult) := []
  /-- How many bytes it has counted as written. -/
  counted : Nat := 0

namespace RecorderThread

def write (thread : RecorderThread) : List (List UInt8 × OutputResult) :=
  match thread.recorder.phase with
  | .writing slice => [(slice, (thread.recorder.sink.writeAll slice).1)]
  | _ => []

/-- Somebody else has worked on the shared state. -/
def withState (thread : RecorderThread) (state : SharedState) : RecorderThread :=
  { thread with shared := { thread.shared with state := state } }

end RecorderThread

namespace RecorderRun

def move (run : RecorderRun) : RecorderMove → RecorderRun
  | .step =>
      run.thread.step?.elim run fun next =>
        { thread := next
          writes := run.writes ++ run.thread.write
          counted := run.counted + run.thread.recorder.phase.uncounted }
  | .record reason =>
      { run with thread := run.thread.withState (run.thread.shared.state.record reason) }
  | .raise => { run with thread := run.thread.withState run.thread.shared.state.raise }

def play (run : RecorderRun) (moves : List RecorderMove) : RecorderRun :=
  moves.foldl move run

theorem play_snoc (run : RecorderRun) (moves : List RecorderMove) (last : RecorderMove) :
    run.play (moves ++ [last]) = (run.play moves).move last := by
  rw [play, List.foldl_append]
  rfl

end RecorderRun

/-! ## Alone with the queue -/

namespace RecorderThread

/-- A recorder with a closed queue and a sink without a buffer. -/
structure Alone (thread : RecorderThread) : Prop where
  closed : thread.channel.queue.closed = true
  positive : 0 < thread.recorder.sliceBytes
  direct : thread.recorder.sink.buffer = none
  hosts : thread.recorder.phase.Hosts thread.recorder.sliceBytes thread.channel.consumer
  awake : ∀ limit, thread.channel.consumer ≠ .asleep limit
  /-- The recorder flushes only when the queue is empty. -/
  drained : thread.recorder.phase = .flushing → thread.channel.queue.bytes = []

inductive Pop (thread : RecorderThread) : Channel → Option (List UInt8) → Prop where
  | ended (ready : thread.channel.consumer = .ready thread.recorder.sliceBytes)
      (empty : thread.channel.queue.bytes = []) :
      Pop thread { thread.channel with consumer := .idle } (some [])
  /-- The slice is returned now, or when the producer has been woken. -/
  | take {consumer : ConsumerPhase} {result : Option (List UInt8)}
      (ready : thread.channel.consumer = .ready thread.recorder.sliceBytes)
      (filled : thread.channel.queue.bytes ≠ [])
      (way : consumer = .idle ∧
          result = some (thread.channel.queue.bytes.take thread.recorder.sliceBytes) ∨
        consumer = .owing (thread.channel.queue.bytes.take thread.recorder.sliceBytes) ∧
          result = none) :
      Pop thread
        { thread.channel with
          queue :=
            { thread.channel.queue with
              bytes := thread.channel.queue.bytes.drop thread.recorder.sliceBytes }
          consumer := consumer }
        result
  | woke {taken : List UInt8} (owing : thread.channel.consumer = .owing taken)
      (filled : taken ≠ []) :
      Pop thread
        { thread.channel with producer := thread.channel.producer.woken, consumer := .idle }
        (some taken)

theorem Alone.pop {thread : RecorderThread} (alone : thread.Alone)
    (phase : thread.recorder.phase = .popping) {channel : Channel}
    {result : Option (List UInt8)} (step : thread.channel.ConsumerStep channel result) :
    thread.Pop channel result := by
  have hosts := alone.hosts
  rw [phase] at hosts
  -- A pop from a closed queue never waits, and its limit is never zero.
  rcases hosts with ready | asleep | ⟨taken, filled, -, owing⟩
  · cases step with
    | nothing other =>
        rw [ready] at other
        exact absurd (ConsumerPhase.ready.inj other) (Nat.ne_of_gt alone.positive)
    | wait other _ _ opened => exact absurd (opened.symm.trans alone.closed) (by decide)
    | ended other _ empty => exact .ended ready empty
    | take other _ some =>
        cases ready.symm.trans other
        exact .take ready some (.inl ⟨rfl, rfl⟩)
    | make other _ some =>
        cases ready.symm.trans other
        exact .take ready some (.inr ⟨rfl, rfl⟩)
    | woke other | left other => cases ready.symm.trans other
  · exact absurd asleep (alone.awake _)
  · cases step with
    | woke other =>
        cases owing.symm.trans other
        exact .woke owing filled
    | nothing other | wait other | ended other | take other | make other | left other =>
        cases owing.symm.trans other

/-- Writing and flushing never give a sink a buffer. -/
theorem Step.direct {thread next : RecorderThread} (step : thread.Step next)
    (direct : thread.recorder.sink.buffer = none) : next.recorder.sink.buffer = none := by
  cases step with
  | @write slice =>
      dsimp only [afterSink, Sink.writeAll]
      rw [direct]
      exact direct
  | flush =>
      dsimp only [afterSink, Sink.flush]
      rw [direct]
      exact direct
  | release =>
      dsimp only [Sink.release]
      rw [direct]
      exact direct
  | _ => exact direct

/-- A phase after an operation on the sink leaves the consumer's end as it is. -/
theorem hosts_phaseAfter {recorder : Recorder} {size : Nat} (after : RecorderPhase)
    (hosts : ∀ consumer, after.Hosts size consumer ↔ consumer = .idle) (result : OutputResult)
    (consumer : ConsumerPhase) :
    (recorder.phaseAfter after result).Hosts size consumer ↔ consumer = .idle := by
  cases result with
  | done => exact hosts consumer
  | failed | crashed => exact Iff.rfl

theorem phaseAfter_ne_flushing {recorder : Recorder} (after : RecorderPhase)
    (other : after ≠ .flushing) (result : OutputResult) :
    recorder.phaseAfter after result ≠ .flushing := by
  cases result with
  | done => exact other
  | failed | crashed => exact nofun

namespace Alone

variable {thread next : RecorderThread}

/-- A step that leaves the channel alone. -/
theorem still (alone : thread.Alone) (step : thread.Step next)
    (channel : next.channel = thread.channel)
    (hosts : next.recorder.phase.Hosts thread.recorder.sliceBytes thread.channel.consumer)
    (onward : next.recorder.phase ≠ .flushing) : next.Alone where
  closed := channel ▸ alone.closed
  positive := step.fixed.sliceBytes ▸ alone.positive
  direct := step.direct alone.direct
  hosts := by
    rw [step.fixed.sliceBytes, channel]
    exact hosts
  awake := channel ▸ alone.awake
  drained := fun flushing => absurd flushing onward

theorem step (alone : thread.Alone) (step : thread.Step next) : next.Alone := by
  have hosts := alone.hosts
  have taken := step
  cases step with
  | start phase | notice phase | count phase | finish phase | failed phase | fail phase =>
      rw [phase] at hosts
      exact alone.still taken rfl hosts nofun
  | @write slice phase =>
      rw [phase] at hosts
      exact alone.still taken rfl
        ((hosts_phaseAfter (.counting slice.length) (fun _ => Iff.rfl) _ _).mpr hosts)
        (phaseAfter_ne_flushing (.counting slice.length) nofun _)
  | flush phase =>
      rw [phase] at hosts
      exact alone.still taken rfl
        ((hosts_phaseAfter .finishing (fun _ => Iff.rfl) _ _).mpr hosts)
        (phaseAfter_ne_flushing .finishing nofun _)
  | slice phase | noticed phase =>
      exact ⟨alone.closed, alone.positive, alone.direct, .inl rfl, nofun, nofun⟩
  | @pop phase channel result step =>
      rw [phase] at hosts
      obtain ⟨hosts, drained⟩ := Wired.hosts_afterPop alone.positive hosts step
      have popped := alone.pop phase step
      constructor
      case closed => cases popped <;> exact alone.closed
      case positive => exact alone.positive
      case direct => exact alone.direct
      case hosts => exact hosts
      case awake =>
        cases popped with
        | take ready filled way => rcases way with ⟨rfl, -⟩ | ⟨rfl, -⟩ <;> exact nofun
        | ended | woke => exact nofun
      case drained => exact fun flushing => (drained ((status_afterPop _).2 flushing)).2
  | leave phase => exact ⟨alone.closed, alone.positive, alone.direct, rfl, nofun, nofun⟩
  | @depart ending phase channel result step =>
      rw [phase] at hosts
      obtain ⟨gone, queue⟩ := ConsumerPhase.gone_of_leaving hosts step
      have closed : channel.queue.closed = true := queue ▸ alone.closed
      exact ⟨closed, alone.positive, alone.direct, gone, gone ▸ nofun, nofun⟩
  | release phase =>
      rw [phase] at hosts
      exact alone.still taken rfl hosts nofun

end Alone

end RecorderThread

/-! ## What is still to be done -/

def RecorderPhase.pieces : RecorderPhase → List (List UInt8)
  | .writing slice => [slice]
  | _ => []

def ConsumerPhase.pieces : ConsumerPhase → List (List UInt8)
  | .owing taken => [taken]
  | _ => []

def RecorderEnd.result : RecorderEnd → OutputResult
  | .finished _ => .done
  | .failed fault => .failed fault
  | .crashed => .crashed

/-- What the operations on the sink have come to, when no more are to be made. -/
def RecorderPhase.result? : RecorderPhase → Option OutputResult
  | .finishing => some .done
  | .failing _ fault => some (.failed fault)
  | .leaving ending | .departing ending | .releasing ending | .ended ending => some ending.result
  | .starting | .checking | .noticing | .popping | .writing _ | .counting _ | .flushing => none

theorem result_phaseAfter {recorder : Recorder} (after : RecorderPhase) {result : OutputResult}
    (failed : result ≠ .done) : (recorder.phaseAfter after result).result? = some result := by
  cases result with
  | done => exact absurd rfl failed
  | failed | crashed => rfl

theorem result_finishing {recorder : Recorder} (result : OutputResult) :
    (recorder.phaseAfter .finishing result).result? = some result := by
  cases result <;> rfl

theorem RecorderPhase.result_afterPop (result : Option (List UInt8)) :
    (RecorderPhase.afterPop result).result? = none := by
  rcases result with _ | _ | ⟨byte, rest⟩ <;> rfl

theorem RecorderPhase.uncounted_afterPop (result : Option (List UInt8)) :
    (RecorderPhase.afterPop result).uncounted = 0 := by
  rcases result with _ | _ | ⟨byte, rest⟩ <;> rfl

theorem RecorderPhase.afterPop_of_ne_nil {slice : List UInt8} (filled : slice ≠ []) :
    RecorderPhase.afterPop (some slice) = .writing slice := by
  cases slice with
  | nil => exact absurd rfl filled
  | cons => rfl

namespace RecorderThread

def ahead (thread : RecorderThread) : List (List UInt8) :=
  thread.recorder.phase.pieces ++ (thread.channel.consumer.pieces ++
    cut thread.recorder.sliceBytes thread.channel.queue.bytes)

/-- What the recorder should still do. -/
def forecast (thread : RecorderThread) : Recording :=
  match thread.recorder.phase.result? with
  | none =>
      (thread.recorder.sink.writer.recording thread.recorder.sink.file thread.ahead).after []
        thread.recorder.phase.uncounted
  | some result =>
      { writes := [], file := thread.recorder.sink.file, counted := 0, result := result }

theorem forecast_of_none {thread : RecorderThread}
    (working : thread.recorder.phase.result? = none) :
    thread.forecast =
      (thread.recorder.sink.writer.recording thread.recorder.sink.file thread.ahead).after []
        thread.recorder.phase.uncounted := by
  rw [forecast, working]

theorem forecast_of_some {thread : RecorderThread} {result : OutputResult}
    (known : thread.recorder.phase.result? = some result) :
    thread.forecast =
      { writes := [], file := thread.recorder.sink.file, counted := 0, result := result } := by
  rw [forecast, known]

namespace Alone

variable {thread next : RecorderThread}

/-- A pop changes nothing of what is ahead. -/
theorem ahead_pop (alone : thread.Alone) {channel : Channel} {result : Option (List UInt8)}
    (pop : thread.Pop channel result) :
    (RecorderPhase.afterPop result).pieces ++ (channel.consumer.pieces ++
        cut thread.recorder.sliceBytes channel.queue.bytes) =
      thread.channel.consumer.pieces ++
        cut thread.recorder.sliceBytes thread.channel.queue.bytes := by
  cases pop with
  | ended ready empty =>
      rw [ready, empty]
      rfl
  | take ready filled way =>
      have slice : thread.channel.queue.bytes.take thread.recorder.sliceBytes ≠ [] := by
        simp [filled, Nat.ne_of_gt alone.positive]
      rw [cut_of_ne_nil alone.positive filled, ready]
      rcases way with ⟨rfl, rfl⟩ | ⟨rfl, rfl⟩
      · rw [RecorderPhase.afterPop_of_ne_nil slice]
        rfl
      · rfl
  | woke owing filled =>
      rw [RecorderPhase.afterPop_of_ne_nil filled, owing]
      rfl

/-- A step after which the same slices are ahead. -/
theorem forecast_taking (working : thread.recorder.phase.result? = none)
    (onward : next.recorder.phase.result? = none) (silent : thread.write = [])
    (nothing : next.recorder.phase.uncounted = 0)
    (sink : next.recorder.sink = thread.recorder.sink) (ahead : next.ahead = thread.ahead) :
    thread.forecast =
      next.forecast.after thread.write thread.recorder.phase.uncounted := by
  rw [forecast_of_none working, forecast_of_none onward, silent, nothing, sink, ahead,
    Recording.after_zero]

/-- A step after the last operation on the sink. -/
theorem forecast_over {result : OutputResult}
    (known : thread.recorder.phase.result? = some result)
    (still : next.recorder.phase.result? = some result) (silent : thread.write = [])
    (nothing : thread.recorder.phase.uncounted = 0)
    (file : next.recorder.sink.file = thread.recorder.sink.file) :
    thread.forecast =
      next.forecast.after thread.write thread.recorder.phase.uncounted := by
  rw [forecast_of_some known, forecast_of_some still, silent, nothing, file,
    Recording.after_zero]

/-- The write of a slice is the next one of the reference. -/
theorem forecast_write (alone : thread.Alone) {slice : List UInt8}
    (phase : thread.recorder.phase = .writing slice) :
    thread.forecast =
      (thread.afterSink (.counting slice.length)
        (thread.recorder.sink.writeAll slice)).forecast.after thread.write
        thread.recorder.phase.uncounted := by
  have passed : thread.recorder.sink.writeAll slice = thread.recorder.sink.pass slice := by
    rw [Sink.writeAll, alone.direct]
  have idle : thread.channel.consumer = .idle := by
    have hosts := alone.hosts
    rwa [phase] at hosts
  have written : thread.write = [(slice, (thread.recorder.sink.pass slice).1)] := by
    rw [write, phase, ← passed]
  have ahead : thread.ahead =
      slice :: cut thread.recorder.sliceBytes thread.channel.queue.bytes := by
    rw [RecorderThread.ahead, phase, idle]
    rfl
  have before : thread.forecast = thread.recorder.sink.writer.recording
      thread.recorder.sink.file
      (slice :: cut thread.recorder.sliceBytes thread.channel.queue.bytes) := by
    rw [forecast_of_none (by rw [phase]; rfl), ahead, phase]
    exact Recording.after_zero _
  rw [before, written, passed, phase, Writer.recording]
  split
  · rename_i done
    have counting : (thread.recorder.phaseAfter (.counting slice.length)
        (thread.recorder.sink.pass slice).1) = .counting slice.length :=
      congrArg (thread.recorder.phaseAfter _) done
    have later : (thread.afterSink (.counting slice.length)
        (thread.recorder.sink.pass slice)).forecast =
          (thread.recorder.sink.writer.recording (thread.recorder.sink.pass slice).2.file
            (cut thread.recorder.sliceBytes thread.channel.queue.bytes)).after []
              slice.length := by
      rw [forecast_of_none (congrArg RecorderPhase.result? counting)]
      simp only [RecorderThread.ahead, afterSink, counting, idle]
      rfl
    rw [later, Recording.after_after, show (thread.recorder.sink.pass slice).1 = .done from done]
    simp [RecorderPhase.uncounted, Sink.pass]
  · rename_i failed
    rw [forecast_of_some (result_phaseAfter (.counting slice.length) failed)]
    rfl

/-- The flush is what the reference has at its end. -/
theorem forecast_flush (alone : thread.Alone) (phase : thread.recorder.phase = .flushing) :
    thread.forecast =
      (thread.afterSink .finishing thread.recorder.sink.flush).forecast.after thread.write
        thread.recorder.phase.uncounted := by
  have flushed : thread.recorder.sink.flush = thread.recorder.sink.flushWriter := by
    rw [Sink.flush, alone.direct]
  have idle : thread.channel.consumer = .idle := by
    have hosts := alone.hosts
    rwa [phase] at hosts
  have ahead : thread.ahead = [] := by
    rw [RecorderThread.ahead, phase, idle, alone.drained phase, cut_nil]
    rfl
  rw [forecast_of_none (by rw [phase]; rfl), ahead, flushed,
    forecast_of_some (result_finishing thread.recorder.sink.flushWriter.1), write, phase]
  rfl

/-- What a step does, and what should be done after it, is what should be done before. -/
theorem forecast_step (alone : thread.Alone) (unharmed : next.recorder.Unharmed)
    (step : thread.Step next) :
    thread.forecast =
      next.forecast.after thread.write thread.recorder.phase.uncounted := by
  have hosts := alone.hosts
  cases step with
  | start phase | notice phase | count phase =>
      refine forecast_taking (by rw [phase]; rfl) rfl (by rw [write, phase]) rfl rfl ?_
      simp [ahead, phase, perform, goTo, RecorderPhase.pieces]
  | slice phase | noticed phase =>
      rw [phase] at hosts
      change _ = ConsumerPhase.idle at hosts
      refine forecast_taking (by rw [phase]; rfl) rfl (by rw [write, phase]) rfl rfl ?_
      simp [ahead, phase, hosts, beginSlice, Channel.beginPop, perform, goTo,
        RecorderPhase.pieces, ConsumerPhase.pieces]
  | @pop phase channel result step =>
      have popped := alone.pop phase step
      refine forecast_taking (by rw [phase]; rfl) (RecorderPhase.result_afterPop result)
        (by rw [write, phase]) (RecorderPhase.uncounted_afterPop result) rfl ?_
      refine (alone.ahead_pop popped).trans ?_
      rw [ahead, phase]
      rfl
  | @write slice phase => exact alone.forecast_write phase
  | flush phase => exact alone.forecast_flush phase
  | finish phase | failed phase | fail phase | leave phase =>
      exact forecast_over (by rw [phase]; rfl) rfl (by rw [write, phase]) (by rw [phase]; rfl) rfl
  | @depart ending phase channel result step =>
      exact forecast_over (by rw [phase]; rfl) rfl (by rw [write, phase]) (by rw [phase]; rfl) rfl
  | @release ending phase =>
      have kept : thread.recorder.sink.release = thread.recorder.sink := by
        rw [Sink.release, alone.direct]
      have sound := unharmed.sink
      dsimp only at sound
      refine forecast_over (by rw [phase]; rfl) ?_ (by rw [write, phase]) (by rw [phase]; rfl) ?_
      · dsimp only
        rw [sound]
        rfl
      · exact congrArg Sink.file kept

end Alone

end RecorderThread

/-! ## How many steps are left -/

/-- The steps that the recorder still takes, beside those for the bytes in the queue. -/
def RecorderPhase.stepsLeft : RecorderPhase → Nat
  | .ended _ => 0
  | .releasing _ => 1
  | .departing _ => 2
  | .leaving _ => 3
  | .finishing => 4
  | .failing effects _ => effects.length + 4
  | .flushing => 8
  | .popping => 9
  | .checking | .noticing => 10
  | .starting | .counting _ => 11
  | .writing _ => 12

namespace RecorderThread

/-- At most so many steps are left: five for each slice, which has at least one byte, if
nobody puts anything into the queue. -/
def stepsLeft (thread : RecorderThread) : Nat :=
  thread.recorder.phase.stepsLeft + 5 * thread.channel.queue.bytes.length +
    4 * thread.channel.consumer.pieces.length + (!thread.recorder.draining).toNat

theorem stepsLeft_phaseAfter_le (recorder : Recorder) (after : RecorderPhase)
    (result : OutputResult) :
    (recorder.phaseAfter after result).stepsLeft ≤ max after.stepsLeft 7 := by
  cases result with
  | done => exact Nat.le_max_left _ _
  | failed fault => exact Nat.le_max_right _ _
  | crashed => exact Nat.le_trans (by decide : 3 ≤ 7) (Nat.le_max_right _ _)

namespace Alone

variable {thread next : RecorderThread}

theorem stepsLeft_lt (alone : thread.Alone) (step : thread.Step next) :
    next.stepsLeft < thread.stepsLeft := by
  have hosts := alone.hosts
  cases step with
  | start phase | count phase | finish phase | failed phase =>
      simp only [stepsLeft, goTo, perform, phase, RecorderPhase.stepsLeft, List.length_nil]
      omega
  | notice phase seen => simp [stepsLeft, phase, seen, RecorderPhase.stepsLeft]
  | slice phase | noticed phase =>
      simp only [stepsLeft, goTo, perform, beginSlice, Channel.beginPop, phase,
        RecorderPhase.stepsLeft, ConsumerPhase.pieces, List.length_nil]
      omega
  | @pop phase channel result step =>
      cases alone.pop phase step with
      | ended ready empty =>
          simp [stepsLeft, goTo, phase, ready, empty, RecorderPhase.afterPop,
            RecorderPhase.stepsLeft, ConsumerPhase.pieces]
      | take ready filled way =>
          -- At least one byte leaves the queue, and pays for the way of its slice.
          have queued := List.length_pos_iff.mpr filled
          have slice : thread.channel.queue.bytes.take thread.recorder.sliceBytes ≠ [] := by
            simp [filled, Nat.ne_of_gt alone.positive]
          have positive := alone.positive
          rcases way with ⟨rfl, rfl⟩ | ⟨rfl, rfl⟩
          · rw [RecorderPhase.afterPop_of_ne_nil slice]
            simp only [stepsLeft, goTo, phase, RecorderPhase.stepsLeft, List.length_drop,
              ConsumerPhase.pieces, List.length_nil]
            omega
          · simp only [stepsLeft, goTo, phase, RecorderPhase.afterPop, RecorderPhase.stepsLeft,
              List.length_drop, ConsumerPhase.pieces, List.length_cons, List.length_nil]
            omega
      | woke owing filled =>
          rw [RecorderPhase.afterPop_of_ne_nil filled]
          simp only [stepsLeft, goTo, phase, RecorderPhase.stepsLeft, owing,
            ConsumerPhase.pieces, List.length_cons, List.length_nil]
          omega
  | @write slice phase =>
      have less := stepsLeft_phaseAfter_le thread.recorder (.counting slice.length)
        (thread.recorder.sink.writeAll slice).1
      simp only [stepsLeft, afterSink, phase, RecorderPhase.stepsLeft] at less ⊢
      omega
  | flush phase =>
      have less := stepsLeft_phaseAfter_le thread.recorder .finishing
        thread.recorder.sink.flush.1
      simp only [stepsLeft, afterSink, phase, RecorderPhase.stepsLeft] at less ⊢
      omega
  | fail phase =>
      simp only [stepsLeft, goTo, perform, phase, RecorderPhase.stepsLeft, List.length_cons]
      omega
  | leave phase =>
      simp only [stepsLeft, goTo, phase, RecorderPhase.stepsLeft, Channel.beginLeave,
        ByteQueue.abandon, ConsumerPhase.pieces, List.length_nil]
      omega
  | @depart ending phase channel result step =>
      rw [phase] at hosts
      obtain ⟨gone, queue⟩ := ConsumerPhase.gone_of_leaving hosts step
      simp only [stepsLeft, goTo, phase, RecorderPhase.stepsLeft, gone, queue,
        ConsumerPhase.pieces, List.length_nil]
      omega
  | release phase => simp [stepsLeft, phase, RecorderPhase.stepsLeft]

end Alone

end RecorderThread

end SampleCapture
