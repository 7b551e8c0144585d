import SampleCapture.Proofs.Recorder.Course
import SampleCapture.Session.Basic

/-!
# The steps of a session

What one move of a session can do: a step of the caller, a step of the recorder, or a
move of the source or of somebody else. A run is a row of moves, and a property that
every step keeps holds along every run.
-/

namespace SampleCapture

namespace CallerPhase

def next? : CallerPhase → Option (Effect × CallerPhase)
  | .asking (effect :: effects) => some (effect, .asking effects)
  | .marking (effect :: effects) samples report => some (effect, .marking effects samples report)
  | .settling (effect :: effects) report => some (effect, .settling effects report)
  | .ending (effect :: effects) error => some (effect, .ending effects error)
  | .collapsing (effect :: effects) => some (effect, .collapsing effects)
  | _ => none

def effects : CallerPhase → List Effect
  | .asking effects | .marking effects _ _ | .settling effects _ | .ending effects _
  | .collapsing effects => effects
  | _ => []

theorem effects_next? {phase after : CallerPhase} {effect : Effect}
    (row : phase.next? = some (effect, after)) : phase.effects = effect :: after.effects := by
  unfold next? at row
  split at row <;> cases row <;> rfl

/-- The phase after a push, or the same one if it has not returned. -/
def afterPush (samples : List UInt8) (report : Option ProgressSnapshot) :
    Option PushResult → CallerPhase
  | none => .pushing samples report
  | some result => .settling (Intake.afterPush samples result) report

end CallerPhase

namespace Session

inductive CallerStep (session : Session) : Session → Prop where
  | perform {effect : Effect} {phase : CallerPhase}
      (row : session.phase.next? = some (effect, phase)) :
      CallerStep session ((session.perform effect).goTo phase)
  | asked (phase : session.phase = .asking []) : CallerStep session (session.goTo .atSource)
  | ingest {burst : List UInt8} {report : Option ProgressSnapshot}
      (phase : session.phase = .counting burst report) :
      CallerStep session (session.ingest burst report)
  /-- There is nothing to push, or no queue to push it to. -/
  | skip {samples : List UInt8} {report : Option ProgressSnapshot}
      (phase : session.phase = .marking [] samples report)
      (nothing : session.lane = none ∨ samples = []) :
      CallerStep session (session.goTo (.reporting report))
  | offer {samples : List UInt8} {report : Option ProgressSnapshot} {lane : RecorderLane}
      (phase : session.phase = .marking [] samples report) (running : session.lane = some lane)
      (filled : samples ≠ []) :
      CallerStep session
        ((session.withChannel (lane.channel.beginPush samples)).goTo (.pushing samples report))
  | push {samples : List UInt8} {report : Option ProgressSnapshot} {lane : RecorderLane}
      {channel : Channel} {result : Option PushResult}
      (phase : session.phase = .pushing samples report) (running : session.lane = some lane)
      (step : Channel.ProducerStep lane.channel channel result) :
      CallerStep session
        ((session.withChannel channel).goTo (.afterPush samples report result))
  | settled {report : Option ProgressSnapshot} (phase : session.phase = .settling [] report) :
      CallerStep session (session.goTo (.reporting report))
  | report {report : Option ProgressSnapshot} (phase : session.phase = .reporting report) :
      CallerStep session
        ((session.withShared
          (session.shared.performAll (Intake.reportEffects session.state report))).goTo .answering)
  | answer (phase : session.phase = .answering) :
      CallerStep session
        ({ session with answers := session.answers.push (Intake.answer session.state) }.goTo
          .atSource)
  | conclude {error : Option CaptureError} {writeError : Option String}
      (phase : session.phase = .concluding error writeError) :
      CallerStep session (session.conclude error writeError)
  | unlink {error : Option CaptureError} (phase : session.phase = .finishing error)
      (alone : session.lane = none) : CallerStep session (session.goTo (.checking error))
  | close {error : Option CaptureError} {lane : RecorderLane}
      (phase : session.phase = .finishing error)
      (running : session.lane = some lane) :
      CallerStep session ((session.withChannel lane.channel.beginClose).goTo (.closing error))
  | closed {error : Option CaptureError} {lane : RecorderLane} {channel : Channel}
      {result : Option PushResult} (phase : session.phase = .closing error)
      (running : session.lane = some lane)
      (step : Channel.ProducerStep lane.channel channel result) :
      CallerStep session ((session.withChannel channel).goTo (.checking error))
  | endTransfer {error : Option CaptureError} (phase : session.phase = .checking error)
      (unasked : error = none ∧ session.state.stopping = false) :
      CallerStep session (session.goTo (.ending (Effect.stop .transferEnded) error))
  | wait {error : Option CaptureError} (phase : session.phase = .checking error)
      (asked : error ≠ none ∨ session.state.stopping = true) :
      CallerStep session (session.goTo (.joining error))
  | ended {error : Option CaptureError} (phase : session.phase = .ending [] error) :
      CallerStep session (session.goTo (.joining error))
  | joinNobody {error : Option CaptureError} (phase : session.phase = .joining error)
      (alone : session.lane = none) : CallerStep session (session.goTo (.concluding error none))
  | join {error : Option CaptureError} {lane : RecorderLane} {ending : RecorderEnd}
      (phase : session.phase = .joining error) (running : session.lane = some lane)
      (ended : lane.recorder.phase = .ended ending) :
      CallerStep session (session.joined error ending)
  | collapsed (phase : session.phase = .collapsing []) :
      CallerStep session (session.goTo (.returned (.failure crashError)))

/-- The caller takes only the steps of the relation. -/
theorem CallerStep.of_step? {session next : Session} (moved : session.callerStep? = some next) :
    session.CallerStep next := by
  unfold callerStep? at moved
  cases phase : session.phase with
  | asking effects =>
      cases effects with
      | nil =>
          simp only [phase, Option.some.injEq] at moved
          exact moved ▸ .asked phase
      | cons effect effects =>
          simp only [phase, Option.some.injEq] at moved
          exact moved ▸ .perform (by rw [phase]; rfl)
  | counting burst report =>
      simp only [phase, Option.some.injEq] at moved
      exact moved ▸ .ingest phase
  | marking effects samples report =>
      cases effects with
      | nil =>
          simp only [phase, Option.some.injEq, queueSamples] at moved
          cases running : session.lane with
          | none =>
              rw [running] at moved
              exact moved ▸ .skip phase (.inl running)
          | some lane =>
              by_cases nothing : samples = []
              · simp only [running, nothing, if_true] at moved
                exact moved ▸ .skip phase (.inr nothing)
              · simp only [running, nothing, if_false] at moved
                exact moved ▸ .offer phase running nothing
      | cons effect effects =>
          simp only [phase, Option.some.injEq] at moved
          exact moved ▸ .perform (by rw [phase]; rfl)
  | pushing samples report =>
      simp only [phase] at moved
      obtain ⟨lane, running, mapped⟩ := Option.bind_eq_some_iff.mp moved
      obtain ⟨⟨channel, result⟩, step, rfl⟩ := Option.map_eq_some_iff.mp mapped
      have taken := (lane.channel.producerStep?_eq_some_iff channel result).mp step
      cases result with
      | none =>
          have same : session.withChannel channel =
              (session.withChannel channel).goTo (.afterPush samples report none) := by
            simp only [goTo, withChannel, CallerPhase.afterPush]
            rw [← phase]
          exact same ▸ .push phase running taken
      | some result => exact .push phase running taken
  | settling effects report =>
      cases effects with
      | nil =>
          simp only [phase, Option.some.injEq] at moved
          exact moved ▸ .settled phase
      | cons effect effects =>
          simp only [phase, Option.some.injEq] at moved
          exact moved ▸ .perform (by rw [phase]; rfl)
  | reporting report =>
      simp only [phase, Option.some.injEq] at moved
      exact moved ▸ .report phase
  | answering =>
      simp only [phase, Option.some.injEq] at moved
      exact moved ▸ .answer phase
  | finishing error =>
      simp only [phase] at moved
      cases running : session.lane with
      | none =>
          simp only [running, Option.some.injEq] at moved
          exact moved ▸ .unlink phase running
      | some lane =>
          simp only [running, Option.some.injEq] at moved
          exact moved ▸ .close phase running
  | closing error =>
      simp only [phase] at moved
      obtain ⟨lane, running, mapped⟩ := Option.bind_eq_some_iff.mp moved
      obtain ⟨⟨channel, result⟩, step, rfl⟩ := Option.map_eq_some_iff.mp mapped
      exact .closed phase running ((lane.channel.producerStep?_eq_some_iff channel result).mp step)
  | checking error =>
      simp only [phase] at moved
      split at moved
      · rename_i unasked
        exact Option.some.inj moved ▸ .endTransfer phase (by simpa using unasked)
      · rename_i asked
        refine Option.some.inj moved ▸ .wait phase ?_
        cases error <;> simp_all
  | ending effects error =>
      cases effects with
      | nil =>
          simp only [phase, Option.some.injEq] at moved
          exact moved ▸ .ended phase
      | cons effect effects =>
          simp only [phase, Option.some.injEq] at moved
          exact moved ▸ .perform (by rw [phase]; rfl)
  | joining error =>
      simp only [phase] at moved
      cases running : session.lane with
      | none =>
          simp only [running, Option.some.injEq] at moved
          exact moved ▸ .joinNobody phase running
      | some lane =>
          cases ended : lane.recorder.phase with
          | ended ending =>
              simp only [running, ended, Option.some.injEq] at moved
              exact moved ▸ .join phase running ended
          | _ => simp [running, ended] at moved
  | collapsing effects =>
      cases effects with
      | nil =>
          simp only [phase, Option.some.injEq] at moved
          exact moved ▸ .collapsed phase
      | cons effect effects =>
          simp only [phase, Option.some.injEq] at moved
          exact moved ▸ .perform (by rw [phase]; rfl)
  | concluding error writeError =>
      simp only [phase, Option.some.injEq] at moved
      exact moved ▸ .conclude phase
  | atSource => simp [phase] at moved
  | returned outcome => simp [phase] at moved

inductive Step (session : Session) : Move → Session → Prop where
  | caller {next : Session} (step : session.CallerStep next) : Step session .caller next
  | recorder {lane : RecorderLane} {next : RecorderThread} (running : session.lane = some lane)
      (step : (session.thread lane).Step next) : Step session .recorder (session.withThread next)
  | deliver (burst : List UInt8) (report : Option ProgressSnapshot)
      (ready : session.phase = .atSource) :
      Step session (.deliver burst report)
        (session.goTo (if burst = [] then .reporting report else .counting burst report))
  | ask (reason : StopReason) (ready : session.phase = .atSource) :
      Step session (.ask reason) (session.goTo (.asking (Effect.stop reason)))
  | finish (error : Option CaptureError) (ready : session.phase = .atSource) :
      Step session (.finish error) (session.goTo (.finishing error))
  | record (reason : StopReason) :
      Step session (.record reason)
        { session with state := session.state.record reason, askers := session.askers + 1 }
  | raise (asked : 0 < session.askers) :
      Step session .raise
        { session with state := session.state.raise, askers := session.askers - 1 }

theorem phase_of_sourceReady {session : Session} (ready : session.sourceReady = true) :
    session.phase = .atSource := by
  unfold sourceReady at ready
  split at ready
  · assumption
  · cases ready

/-- A move that is possible is one of these steps. -/
theorem Step.of_step? {session next : Session} {move : Move}
    (moved : session.step? move = some next) : session.Step move next := by
  cases move with
  | caller => exact .caller (.of_step? moved)
  | recorder =>
      obtain ⟨lane, running, mapped⟩ := Option.bind_eq_some_iff.mp moved
      obtain ⟨thread, step, rfl⟩ := Option.map_eq_some_iff.mp mapped
      exact .recorder running (.of_step? step)
  | deliver burst report =>
      simp only [step?, Option.ite_none_right_eq_some, Option.some.injEq] at moved
      obtain ⟨ready, rfl⟩ := moved
      exact .deliver burst report (phase_of_sourceReady ready)
  | ask reason =>
      simp only [step?, Option.ite_none_right_eq_some, Option.some.injEq] at moved
      obtain ⟨ready, rfl⟩ := moved
      exact .ask reason (phase_of_sourceReady ready)
  | finish error =>
      simp only [step?, Option.ite_none_right_eq_some, Option.some.injEq] at moved
      obtain ⟨ready, rfl⟩ := moved
      exact .finish error (phase_of_sourceReady ready)
  | record reason => exact Option.some.inj moved ▸ .record reason
  | raise =>
      simp only [step?, Option.ite_none_right_eq_some, Option.some.injEq] at moved
      obtain ⟨asked, rfl⟩ := moved
      exact .raise asked

/-! ## Runs -/

theorem play_append (session : Session) (first second : List Move) :
    session.play (first ++ second) = (session.play first).bind (·.play second) := by
  induction first generalizing session with
  | nil => rfl
  | cons move moves ih =>
      rw [List.cons_append, play, play, Option.bind_assoc]
      exact congrArg _ (funext ih)

/-- A property that every step keeps holds along every run; it may speak of the moves made
so far. -/
theorem play_induction {motive : List Move → Session → Prop}
    (keeps : ∀ {past : List Move} {session next : Session} {move : Move},
      session.Step move next → motive past session → motive (past ++ [move]) next)
    (past : List Move) {session last : Session} {moves : List Move}
    (played : session.play moves = some last) (initial : motive past session) :
    motive (past ++ moves) last := by
  induction moves generalizing session past with
  | nil =>
      cases played
      simpa using initial
  | cons move moves ih =>
      obtain ⟨next, moved, rest⟩ := Option.bind_eq_some_iff.mp played
      have later := ih _ rest (keeps (.of_step? moved) initial)
      simpa using later

end Session

namespace Move

def burst : Move → List UInt8
  | .deliver burst _ => burst
  | .caller | .recorder | .ask _ | .finish _ | .record _ | .raise => []

def delivered (moves : List Move) : List UInt8 :=
  moves.flatMap burst

end Move

namespace Session

/-! ## The parts of a session after an operation on it -/

section Parts

variable (session : Session)

@[simp] theorem phase_goTo (phase : CallerPhase) : (session.goTo phase).phase = phase := rfl

@[simp] theorem lane_goTo (phase : CallerPhase) : (session.goTo phase).lane = session.lane := rfl

@[simp] theorem state_goTo (phase : CallerPhase) : (session.goTo phase).state = session.state := rfl

@[simp] theorem intake_goTo (phase : CallerPhase) :
    (session.goTo phase).intake = session.intake := rfl

@[simp] theorem lane_perform (effect : Effect) : (session.perform effect).lane = session.lane := rfl

@[simp] theorem intake_perform (effect : Effect) :
    (session.perform effect).intake = session.intake := rfl

@[simp] theorem phase_perform (effect : Effect) :
    (session.perform effect).phase = session.phase := rfl

@[simp] theorem lane_withShared (shared : LoggedState) :
    (session.withShared shared).lane = session.lane := rfl

@[simp] theorem intake_withShared (shared : LoggedState) :
    (session.withShared shared).intake = session.intake := rfl

@[simp] theorem lane_withChannel (channel : Channel) :
    (session.withChannel channel).lane =
      session.lane.map fun lane => { lane with channel := channel } := rfl

theorem lane_withChannel_of_lane {session : Session} {lane : RecorderLane}
    (running : session.lane = some lane) (channel : Channel) :
    (session.withChannel channel).lane = some { lane with channel := channel } := by
  rw [lane_withChannel, running]
  rfl

@[simp] theorem state_withChannel (channel : Channel) :
    (session.withChannel channel).state = session.state := rfl

@[simp] theorem intake_withChannel (channel : Channel) :
    (session.withChannel channel).intake = session.intake := rfl

@[simp] theorem lane_ingest (burst : List UInt8) (report : Option ProgressSnapshot) :
    (session.ingest burst report).lane = session.lane := rfl

@[simp] theorem lane_joined (error : Option CaptureError) (ending : RecorderEnd) :
    (session.joined error ending).lane = session.lane := by
  cases ending <;> rfl

@[simp] theorem state_joined (error : Option CaptureError) (ending : RecorderEnd) :
    (session.joined error ending).state = session.state := by
  cases ending <;> rfl

@[simp] theorem intake_joined (error : Option CaptureError) (ending : RecorderEnd) :
    (session.joined error ending).intake = session.intake := by
  cases ending <;> rfl

end Parts

def outcomeOf (session : Session) (error : Option CaptureError) (writeError : Option String) :
    Outcome :=
  match error, session.state.reason with
  | some error, none => .failure error
  | _, _ => .summary
      { counters := session.state.counters
        stopReason := session.state.reason
        writeError := writeError }

/-- Concluding adds to the log and returns that outcome. -/
theorem conclude_eq (session : Session) (error : Option CaptureError)
    (writeError : Option String) :
    ∃ log, session.conclude error writeError =
      { session with log := log, phase := .returned (session.outcomeOf error writeError) } := by
  unfold conclude outcomeOf
  cases error with
  | none => exact ⟨_, rfl⟩
  | some error =>
      cases reason : session.state.reason with
      | none => exact ⟨_, rfl⟩
      | some reason => exact ⟨_, rfl⟩

@[simp] theorem lane_conclude (session : Session) (error : Option CaptureError)
    (writeError : Option String) : (session.conclude error writeError).lane = session.lane := by
  obtain ⟨log, concluded⟩ := session.conclude_eq error writeError
  rw [concluded]

/-! ## The output -/

/-- The caller keeps the output and does not touch the recorder. -/
theorem CallerStep.recorders {session next : Session} (step : session.CallerStep next) :
    next.lane.map (·.recorder) = session.lane.map (·.recorder) := by
  cases step with
  | offer | push | close | closed =>
      rw [lane_goTo, lane_withChannel, Option.map_map]
      rfl
  | conclude => rw [lane_conclude]
  | join => rw [lane_joined]
  | _ => rfl

theorem CallerStep.lane {session next : Session} {lane : RecorderLane}
    (step : session.CallerStep next)
    (running : session.lane = some lane) :
    ∃ after, next.lane = some after ∧ after.recorder = lane.recorder := by
  have same := step.recorders
  rw [running, Option.map_some] at same
  exact Option.map_eq_some_iff.mp same

/-- An output after a step of the caller has been there before. -/
theorem CallerStep.recorder {session next : Session} (step : session.CallerStep next)
    {after : RecorderLane} (later : next.lane = some after) :
    ∃ lane, session.lane = some lane ∧ after.recorder = lane.recorder := by
  have same := step.recorders
  rw [later, Option.map_some] at same
  obtain ⟨lane, running, kept⟩ := Option.map_eq_some_iff.mp same.symm
  exact ⟨lane, running, kept.symm⟩

/-- A session keeps its output, and only the recorder's steps touch the recorder. -/
theorem Step.lane {session next : Session} {move : Move} {lane : RecorderLane}
    (step : session.Step move next) (running : session.lane = some lane) :
    ∃ after, next.lane = some after ∧ (after.recorder = lane.recorder ∨
      ∃ thread, (session.thread lane).Step thread ∧ after.recorder = thread.recorder) := by
  cases step with
  | caller step =>
      obtain ⟨after, later, same⟩ := step.lane running
      exact ⟨after, later, .inl same⟩
  | recorder known step =>
      cases running.symm.trans known
      exact ⟨_, rfl, .inr ⟨_, step, rfl⟩⟩
  | deliver | ask | finish | record | raise => exact ⟨lane, running, .inl rfl⟩

theorem phase_of_outcome {session : Session} {outcome : Outcome}
    (known : session.outcome? = some outcome) : session.phase = .returned outcome := by
  unfold outcome? at known
  split at known
  · cases known
    assumption
  · cases known

end Session

end SampleCapture
