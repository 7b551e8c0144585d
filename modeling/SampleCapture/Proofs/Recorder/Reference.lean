import SampleCapture.Output.Script
import SampleCapture.Proofs.Queue.Loading
import SampleCapture.Proofs.Recorder.Run
import SampleCapture.Proofs.Session.Verdict

/-!
# The recorder equals its reference

A recorder that empties a closed queue does what the reference says, in whatever way others
ask for stops meanwhile; these only decide which reason the shared state has when its sink
has failed.
-/

namespace SampleCapture

namespace SharedState

theorem lasts_record (state : SharedState) (reason : StopReason) :
    state.Lasts (state.record reason) := by
  refine ⟨fun given => ?_, id⟩
  obtain ⟨first, recorded⟩ := Option.ne_none_iff_exists'.mp given
  rw [record_of_reason recorded]

theorem lasts_raise (state : SharedState) : state.Lasts state.raise :=
  ⟨fun _ => rfl, fun _ => rfl⟩

end SharedState

/-- A script without crashes is steady. -/
theorem WriterScript.steady {script : WriterScript} (calm : script.crashCalls = []) :
    script.writer.Steady := by
  constructor
  · have flushed : script.writer.flushed = script.flushFault.elim .done .failed := rfl
    rw [flushed]
    cases script.flushFault <;> exact nofun
  · intro call stored offered crash
    have response : script.respond call stored offered = .crash := crash
    simp only [respond, calm, List.not_mem_nil, if_false] at response
    repeat' split at response
    all_goals cases response

/-! ## The course -/

/-- A run on the way to some recording. -/
structure RecorderRun.Tends (run : RecorderRun) (whole : Recording) (first : Counters) : Prop where
  alone : run.thread.Alone
  steady : run.thread.recorder.sink.writer.Steady
  unharmed : run.thread.recorder.Unharmed
  orderly : run.thread.recorder.phase.Orderly
  raises : run.thread.recorder.phase.Raises run.thread.shared.state
  forecast : run.thread.forecast.after run.writes run.counted = whole
  counters : run.thread.shared.state.counters = first.add { written := run.counted.toUInt64 }
  written : run.thread.recorder.written = run.counted.toUInt64
  /-- The result that the recorder ends with is what it has counted. -/
  told : ∀ written, run.thread.recorder.phase.ending? = some (.finished written) →
    written = run.thread.recorder.written

namespace RecorderThread

/-- The recorder counts for itself what it counts for all. -/
theorem Step.written {thread next : RecorderThread} (step : thread.Step next) :
    next.recorder.written =
      thread.recorder.written + thread.recorder.phase.uncounted.toUInt64 := by
  cases step with
  | count phase =>
      rw [phase]
      rfl
  | start phase | notice phase | slice phase | noticed phase | pop phase | write phase
  | flush phase | finish phase | failed phase | fail phase | leave phase | depart phase
  | release phase =>
      rw [phase]
      exact (UInt64.add_zero _).symm

theorem unfinished_phaseAfter {recorder : Recorder} (after : RecorderPhase)
    (none : after.ending? = none) (result : OutputResult) (written : UInt64) :
    (recorder.phaseAfter after result).ending? ≠ some (.finished written) := by
  intro finished
  cases result with
  | done => cases none.symm.trans finished
  | failed | crashed => cases finished

theorem Step.told {thread next : RecorderThread} (step : thread.Step next)
    (told : ∀ written, thread.recorder.phase.ending? = some (.finished written) →
      written = thread.recorder.written)
    {written : UInt64} (ending : next.recorder.phase.ending? = some (.finished written)) :
    written = next.recorder.written := by
  cases step with
  | finish phase =>
      cases ending
      rfl
  | leave phase | depart phase => exact told written (by rw [phase]; exact ending)
  | release phase =>
      refine told written ?_
      rw [phase]
      dsimp only [RecorderPhase.ending?] at ending
      split at ending
      · cases ending
      · exact ending
  | pop phase => cases (ending_afterPop _).symm.trans ending
  | @write slice phase =>
      exact absurd ending (unfinished_phaseAfter (.counting slice.length) rfl _ _)
  | flush phase => exact absurd ending (unfinished_phaseAfter .finishing rfl _ _)
  | start | notice | slice | noticed | count | failed | fail => cases ending

end RecorderThread

namespace RecorderRun.Tends

variable {run : RecorderRun} {whole : Recording} {first : Counters}

/-- The run after a step of the recorder. -/
theorem step (tends : run.Tends whole first) {next : RecorderThread} (step : run.thread.Step next) :
    Tends
      { thread := next
        writes := run.writes ++ run.thread.write
        counted := run.counted + run.thread.recorder.phase.uncounted } whole first where
  alone := tends.alone.step step
  steady := step.fixed.writer ▸ tends.steady
  unharmed := step.unharmed tends.steady tends.unharmed
  orderly := step.orderly tends.orderly
  raises := tends.raises.step step
  forecast := by
    have unharmed := step.unharmed tends.steady tends.unharmed
    rw [← Recording.after_after, ← tends.alone.forecast_step unharmed step]
    exact tends.forecast
  counters := by
    rw [step.counters tends.orderly, tends.counters, Counters.add_assoc]
    simp [Counters.add, UInt64.ofNat_add]
  written := by
    rw [step.written, tends.written]
    simp [UInt64.ofNat_add]
  told _ ending := step.told tends.told ending

/-- The run after somebody else has worked on the shared state. -/
theorem withState (tends : run.Tends whole first) {state : SharedState}
    (lasts : run.thread.shared.state.Lasts state)
    (counters : state.counters = run.thread.shared.state.counters) :
    Tends { run with thread := run.thread.withState state } whole first where
  alone := ⟨tends.alone.closed, tends.alone.positive, tends.alone.direct, tends.alone.hosts,
    tends.alone.awake, tends.alone.drained⟩
  steady := tends.steady
  unharmed := tends.unharmed
  orderly := tends.orderly
  raises := tends.raises.lasts lasts
  forecast := tends.forecast
  counters := counters.trans tends.counters
  written := tends.written
  told := tends.told

/-- The run after a move. -/
theorem move (tends : run.Tends whole first) (move : RecorderMove) :
    (run.move move).Tends whole first := by
  cases move with
  | step =>
      rw [RecorderRun.move]
      cases moved : run.thread.step? with
      | none => exact tends
      | some next => exact tends.step (.of_step? moved)
  | record reason => exact tends.withState (run.thread.shared.state.lasts_record reason) rfl
  | raise => exact tends.withState run.thread.shared.state.lasts_raise rfl

theorem play (tends : run.Tends whole first) (moves : List RecorderMove) :
    (run.play moves).Tends whole first := by
  induction moves using List.reverseRecOn with
  | nil => exact tends
  | append_singleton moves last ih =>
      rw [play_snoc]
      exact ih.move last

/-! ## The end of the run -/

/-- After so many steps as are left the recorder has ended, however they are spread. -/
theorem ended_or_le (tends : run.Tends whole first) (moves : List RecorderMove) :
    (∃ ending, (run.play moves).thread.recorder.phase = .ended ending) ∨
      (run.play moves).thread.stepsLeft + moves.count .step ≤ run.thread.stepsLeft := by
  -- The moves of others change neither the phase nor the queue, so only own steps count.
  induction moves using List.reverseRecOn with
  | nil => exact .inr (Nat.le_refl _)
  | append_singleton moves last ih =>
      have now := tends.play moves
      rw [play_snoc]
      generalize run.play moves = run at ih now ⊢
      by_cases ended : ∃ ending, run.thread.recorder.phase = .ended ending
      · left
        obtain ⟨ending, phase⟩ := ended
        refine ⟨ending, ?_⟩
        cases last with
        | step =>
            have nothing : run.thread.step? = none := by simp [RecorderThread.step?, phase]
            rw [RecorderRun.move, nothing]
            exact phase
        | record | raise => exact phase
      · right
        have less := ih.resolve_left ended
        cases last with
        | step =>
            obtain ⟨next, moved⟩ := run.thread.step?_of_up now.alone.hosts
              (not_exists.mp ended) now.alone.awake
            have fewer := now.alone.stepsLeft_lt (.of_step? moved)
            rw [RecorderRun.move, moved]
            simp only [Option.elim_some, List.count_append, List.count_singleton_self]
            omega
        | record reason | raise =>
            rw [List.count_append]
            exact less

end RecorderRun.Tends

/-! ## Who is to blame -/

def RecorderMove.reason? : RecorderMove → Option StopReason
  | .record reason => some reason
  | .step | .raise => none

def RecorderMove.asked (moves : List RecorderMove) : List StopReason :=
  moves.filterMap RecorderMove.reason?

theorem RecorderMove.asked_snoc (moves : List RecorderMove) (last : RecorderMove) :
    RecorderMove.asked (moves ++ [last]) = RecorderMove.asked moves ++ last.reason?.toList := by
  cases last <;> simp [asked, RecorderMove.reason?]

/-- The reason in the shared state is the first one that anybody has recorded. That of the
recorder is one of them from the step on in which it records it. -/
structure Blames (origin : RecorderRun) (moves : List RecorderMove) (thread : RecorderThread) :
    Prop where
  others : thread.recorder.phase.hasRecorded = false →
    thread.shared.state.reason =
      origin.thread.shared.state.reason.or (RecorderMove.asked moves).head?
  recorder : thread.recorder.phase.hasRecorded = true →
    ∃ early late, moves = early ++ .step :: late ∧
      (origin.play early).thread.recorder.phase.reason? = some .writeFailed ∧
      thread.shared.state.reason =
        some ((origin.thread.shared.state.reason.or (RecorderMove.asked early).head?).getD
          .writeFailed)

/-- The recorder records its failure in one step. -/
theorem RecorderThread.Step.records {thread next : RecorderThread} (step : thread.Step next)
    (orderly : thread.recorder.phase.Orderly)
    (before : thread.recorder.phase.hasRecorded = false)
    (after : next.recorder.phase.hasRecorded = true) :
    thread.recorder.phase.reason? = some .writeFailed ∧
      next.shared.state.reason = some (thread.shared.state.reason.getD .writeFailed) := by
  cases step with
  | @fail effect effects fault phase =>
      rw [phase] at orderly before
      obtain ⟨written, row⟩ := orderly
      rcases Recorder.suffix_failEffects row with ⟨rfl, rfl⟩ | ⟨rfl, rfl⟩ | ⟨rfl, rfl⟩
      · cases after
      · exact ⟨by rw [phase]; rfl, rfl⟩
      · cases before
  | failed phase =>
      rw [phase] at before
      cases before
  | leave phase | depart phase =>
      rw [phase] at before
      exact absurd (before.symm.trans after) (by decide)
  | release phase =>
      rw [phase] at before
      dsimp only at after
      split at after
      · cases after
      · exact absurd (before.symm.trans after) (by decide)
  | pop phase => exact absurd ((recorded_afterPop _).symm.trans after) (by decide)
  | @write slice phase =>
      exact absurd ((recorded_phaseAfter (.counting slice.length) rfl _).symm.trans after)
        (by decide)
  | flush phase =>
      exact absurd ((recorded_phaseAfter .finishing rfl _).symm.trans after) (by decide)
  | start | notice | slice | noticed | count | finish => cases after

namespace Blames

variable {origin : RecorderRun} {moves : List RecorderMove} {thread : RecorderThread}

theorem step (blames : Blames origin moves thread) (here : (origin.play moves).thread = thread)
    {next : RecorderThread} (step : thread.Step next) (orderly : thread.recorder.phase.Orderly)
    (unharmed : next.recorder.Unharmed) : Blames origin (moves ++ [.step]) next := by
  constructor
  case others =>
    intro unrecorded
    have before : thread.recorder.phase.hasRecorded = false := by
      apply Bool.eq_false_iff.mpr
      intro recorded
      rcases step.hasRecorded recorded with still | crashed
      · exact absurd (unrecorded.symm.trans still) (by decide)
      · exact unharmed.phase (by rw [crashed]; rfl)
    rw [step.reason orderly unrecorded, blames.others before, RecorderMove.asked_snoc]
    simp [RecorderMove.reason?]
  case recorder =>
    intro recorded
    -- Either this step records the failure, or an earlier one did and its reason stays.
    cases before : thread.recorder.phase.hasRecorded with
    | false =>
        obtain ⟨records, reason⟩ := step.records orderly before recorded
        refine ⟨moves, [], rfl, by rw [here, records], ?_⟩
        rw [reason, blames.others before]
    | true =>
        obtain ⟨early, late, split, records, reason⟩ := blames.recorder before
        refine ⟨early, late ++ [.step], by rw [split]; simp, records, ?_⟩
        rcases step.request with ⟨effect, effects, fault, -, state⟩ | ⟨-, same, -⟩
        · rw [state, LoggedState.reason_perform, reason]
          rfl
        · rw [same, reason]

/-- A step for which the recorder has nothing to do. -/
theorem idle (blames : Blames origin moves thread) :
    Blames origin (moves ++ [.step]) thread := by
  constructor
  case others =>
    intro unrecorded
    rw [blames.others unrecorded, RecorderMove.asked_snoc]
    simp [RecorderMove.reason?]
  case recorder =>
    intro recorded
    obtain ⟨early, late, split, before⟩ := blames.recorder recorded
    exact ⟨early, late ++ [.step], by rw [split]; simp, before⟩

/-- Somebody else's move. -/
theorem other (blames : Blames origin moves thread) (last : RecorderMove) {state : SharedState}
    (reason : state.reason = thread.shared.state.reason.or last.reason?) :
    Blames origin (moves ++ [last]) (thread.withState state) := by
  constructor
  case others =>
    intro unrecorded
    refine reason.trans ?_
    rw [blames.others unrecorded, RecorderMove.asked_snoc, List.head?_append, Option.or_assoc]
    cases last.reason? <;> rfl
  case recorder =>
    intro recorded
    obtain ⟨early, late, split, records, before⟩ := blames.recorder recorded
    refine ⟨early, late ++ [last], by rw [split]; simp, records, ?_⟩
    exact reason.trans (by rw [before]; rfl)

theorem play {whole : Recording} {counters : Counters} (tends : origin.Tends whole counters)
    (unrecorded : origin.thread.recorder.phase.hasRecorded = false) (moves : List RecorderMove) :
    Blames origin moves (origin.play moves).thread := by
  induction moves using List.reverseRecOn with
  | nil =>
      refine ⟨fun _ => Option.or_none.symm, fun recorded => ?_⟩
      exact absurd (unrecorded.symm.trans recorded) (by decide)
  | append_singleton moves last ih =>
      have now := tends.play moves
      rw [RecorderRun.play_snoc]
      cases last with
      | step =>
          rw [RecorderRun.move]
          cases moved : (origin.play moves).thread.step? with
          | none => exact ih.idle
          | some next =>
              have step := RecorderThread.Step.of_step? moved
              exact ih.step rfl step now.orderly (step.unharmed now.steady now.unharmed)
      | record reason =>
          refine ih.other (.record reason) ?_
          rw [SharedState.reason_record]
          cases (origin.play moves).thread.shared.state.reason <;> rfl
      | raise => exact ih.other .raise Option.or_none.symm

end Blames

/-! ## Whole runs -/

def Recording.ending (recording : Recording) : RecorderEnd :=
  match recording.result with
  | .done => .finished recording.counted.toUInt64
  | .failed fault => .failed fault
  | .crashed => .crashed

namespace RecorderRun

/-- A recorder that begins with a channel and a sink without a buffer. -/
def start (shared : LoggedState) (channel : Channel) (sliceBytes : Nat) (writer : Writer)
    (file : OutputFile) : RecorderRun where
  thread :=
    { shared := shared
      channel := channel
      recorder := .start sliceBytes { writer := writer, file := file } }

/-- After these moves a run has ended with a recording. -/
structure Meets (origin : RecorderRun) (moves : List RecorderMove) (whole : Recording) : Prop where
  ended : (origin.play moves).thread.ending? = some whole.ending
  sound : whole.ending ≠ .crashed
  writes : (origin.play moves).writes = whole.writes
  file : (origin.play moves).thread.recorder.sink.file = whole.file
  counters : (origin.play moves).thread.shared.state.counters =
    origin.thread.shared.state.counters.add { written := whole.counted.toUInt64 }
  /-- After a failure the stop flag is up, and the reason is the failure unless there was one
  before the step in which the recorder records it. -/
  failed : ∀ fault, whole.ending = .failed fault →
    (origin.play moves).thread.shared.state.stopping = true ∧
      ∃ early late, moves = early ++ .step :: late ∧
        (origin.play early).thread.recorder.phase.reason? = some .writeFailed ∧
        (origin.play moves).thread.shared.state.reason =
          some ((origin.thread.shared.state.reason.or (RecorderMove.asked early).head?).getD
          .writeFailed)

theorem Tends.start {writer : Writer} (steady : writer.Steady) {queue : ByteQueue}
    (closed : queue.closed = true) (file : OutputFile) (sliceBytes : Nat) (shared : LoggedState) :
    (start shared { queue := queue, producer := .gone } sliceBytes writer file).Tends
      (writer.recording file (cut (max sliceBytes 1) queue.bytes)) shared.state.counters where
  alone := ⟨closed, Nat.le_max_right _ _, rfl, rfl, nofun, nofun⟩
  steady := steady
  unharmed := ⟨rfl, nofun⟩
  orderly := trivial
  raises := trivial
  forecast := by
    rw [RecorderThread.forecast_of_none rfl]
    exact (Recording.after_zero _).trans (Recording.after_zero _)
  counters := (Counters.add_zero _).symm
  written := rfl
  told := nofun

/-- At its end the run has nothing left to do of the recording. -/
theorem Tends.meets {origin : RecorderRun} {moves : List RecorderMove} {whole : Recording}
    (tends : (origin.play moves).Tends whole origin.thread.shared.state.counters)
    (blames : Blames origin moves (origin.play moves).thread) {ending : RecorderEnd}
    (phase : (origin.play moves).thread.recorder.phase = .ended ending) :
    origin.Meets moves whole := by
  have reached : (origin.play moves).thread.recorder.phase.result? = some ending.result := by
    rw [phase]
    rfl
  have same := tends.forecast
  rw [RecorderThread.forecast_of_some reached] at same
  subst same
  have ended : ending = Recording.ending
      { writes := (origin.play moves).writes
        file := (origin.play moves).thread.recorder.sink.file
        counted := (origin.play moves).counted
        result := ending.result } := by
    cases ending with
    | finished written =>
        have told := tends.told written (by rw [phase]; rfl)
        rw [told, tends.written]
        rfl
    | failed | crashed => rfl
  have unharmed := tends.unharmed.phase
  have raises := tends.raises
  have recorder := blames.recorder
  rw [phase] at unharmed raises recorder
  constructor
  case ended =>
    rw [RecorderThread.ending?, phase]
    exact congrArg some ended
  case sound => exact fun crashed => unharmed (congrArg some (ended.trans crashed))
  case writes => exact (List.append_nil _).symm
  case file => rfl
  case counters => exact tends.counters
  case failed =>
    intro fault failure
    have known : ending = .failed fault := ended.trans failure
    subst known
    exact ⟨raises, recorder rfl⟩

/-- The start of a run leaves five steps for each byte and some at both ends. -/
theorem stepsLeft_start (shared : LoggedState) (channel : Channel) (sliceBytes : Nat)
    (writer : Writer)
    (file : OutputFile) (idle : channel.consumer = .idle) :
    (start shared channel sliceBytes writer file).thread.stepsLeft =
      5 * channel.queue.bytes.length + 12 := by
  simp only [start, RecorderThread.stepsLeft, Recorder.start, RecorderPhase.stepsLeft, idle,
    ConsumerPhase.pieces, List.length_nil, Bool.not_false, Bool.toNat_true]
  omega

theorem Meets.of_play {writer : Writer} (steady : writer.Steady) (file : OutputFile)
    (sliceBytes : Nat) {queue : ByteQueue} (closed : queue.closed = true) (shared : LoggedState)
    {moves : List RecorderMove} (enough : 5 * queue.bytes.length + 16 ≤ moves.count .step) :
    (start shared { queue := queue, producer := .gone } sliceBytes writer file).Meets moves
      (writer.recording file (cut (max sliceBytes 1) queue.bytes)) := by
  have tends := Tends.start steady closed file sliceBytes shared
  have left :=
    stepsLeft_start shared { queue := queue, producer := .gone } sliceBytes writer file rfl
  have ended := (tends.ended_or_le moves).resolve_right (by
    rw [left]
    dsimp only
    omega)
  obtain ⟨ending, phase⟩ := ended
  exact (tends.play moves).meets (.play tends rfl moves) phase

/-- Taking the steps of the recorder alone is a run in which nobody asks for anything. -/
theorem thread_play_replicate (run : RecorderRun) (steps : Nat) :
    (run.play (List.replicate steps .step)).thread = run.thread.run steps := by
  induction steps generalizing run with
  | zero => rfl
  | succ steps ih =>
      have first : run.play (List.replicate (steps + 1) .step) =
          (run.move .step).play (List.replicate steps .step) := rfl
      rw [first, ih, RecorderRun.move, RecorderThread.run]
      cases moved : run.thread.step? with
      | none => cases steps <;> simp [RecorderThread.run, moved]
      | some next => rfl

/-- The recorder alone comes to its end in the steps that it gets, and as the reference. -/
theorem drain_reference {writer : Writer} (steady : writer.Steady) (file : OutputFile)
    (sliceBytes : Nat) (shared : LoggedState) (content : List UInt8) :
    let drained :=
      (RecorderThread.alone shared content sliceBytes { writer := writer, file := file }).drain
    let whole := writer.recording file (cut (max sliceBytes 1) content)
    drained.ending? = some whole.ending ∧ drained.recorder.sink.file = whole.file := by
  have closed : ({ capacity := 0, bytes := content, closed := true } : ByteQueue).closed = true :=
    rfl
  have enough : 5 * content.length + 16 ≤
      (List.replicate (5 * content.length + 16) RecorderMove.step).count .step := by simp
  have meets := Meets.of_play steady file sliceBytes closed shared enough
  have ended := meets.ended
  have stored := meets.file
  rw [thread_play_replicate] at ended stored
  exact ⟨ended, stored⟩

/-- Whoever asks for a stop meanwhile, and in whatever way the steps are spread, a recorder that
takes enough of them ends with the recording of the reference, which knows nothing of that. -/
theorem meets_of_play {writer : Writer} (steady : writer.Steady) (file : OutputFile)
    (sliceBytes : Nat) {capacity : Nat} {pushes : List (List UInt8)}
    (fits : capacity = 0 ∨ pushes.flatten.length ≤ capacity) (shared : LoggedState)
    {moves : List RecorderMove}
    (enough : 5 * pushes.flatten.length + 16 ≤ moves.count .step) :
    (start shared (.loaded capacity pushes) sliceBytes writer file).Meets moves
        (writer.recording file (cut (max sliceBytes 1) pushes.flatten)) ∧
      writer.Renders file (max sliceBytes 1) pushes.flatten
        (writer.recording file (cut (max sliceBytes 1) pushes.flatten)) := by
  have positive : 0 < max sliceBytes 1 := Nat.le_max_right _ _
  refine ⟨?_, (writer.records file _).renders positive⟩
  rw [Channel.loaded_eq fits]
  exact .of_play steady file sliceBytes rfl shared enough

/-- Every call stores one byte; the second one is interrupted and the fifth fails. -/
def brittle : WriterScript :=
  { interruptCalls := [1], failCalls := [4], maxPerCall := some 1 }

/-- A stop is asked for as soon as the recorder has started. -/
def brittleMoves : List RecorderMove :=
  [.step, .record .userInterrupt, .raise] ++ List.replicate 40 .step

theorem meets_brittle :
    brittle.writer.Steady ∧ [[1, 2], [3, 4, 5]].flatten.length ≤ 6 ∧
      5 * [[1, 2], [3, 4, 5]].flatten.length + 16 ≤ brittleMoves.count .step ∧
      (brittle.writer.recording {} (cut 2 [1, 2, 3, 4, 5])).writes =
        [([1, 2], .done), ([3, 4], .failed {})] ∧
      (brittle.writer.recording {} (cut 2 [1, 2, 3, 4, 5])).file.stored = #[1, 2, 3] ∧
      (start {} (.loaded 6 [[1, 2], [3, 4, 5]]) 2 brittle.writer {}).Meets brittleMoves
        (brittle.writer.recording {} (cut 2 [1, 2, 3, 4, 5])) ∧
      brittle.writer.Renders {} 2 [1, 2, 3, 4, 5]
        (brittle.writer.recording {} (cut 2 [1, 2, 3, 4, 5])) := by
  have steady : brittle.writer.Steady := WriterScript.steady rfl
  refine ⟨steady, by decide, by decide, by cbv, by cbv, ?_⟩
  exact meets_of_play steady {} 2 (.inr (by decide)) {} (by decide)

end RecorderRun

end SampleCapture
