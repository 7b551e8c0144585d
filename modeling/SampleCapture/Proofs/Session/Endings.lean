import SampleCapture.Proofs.Session.Reasons

/-!
# How a session ends

The caller draws up the result when the recorder has ended, and the result tells how: a
summary without a write error means that the recorder has finished, one with a write
error that its sink has failed, and an error of the source that nobody, so the recorder
neither, has asked for a stop.
-/

namespace SampleCapture

/-- How the recorder has ended when the caller has come to a phase after the join. -/
def CallerPhase.Meets : CallerPhase → RecorderPhase → Prop
  | .concluding _ none, recorder => ∃ written, recorder = .ended (.finished written)
  | .concluding _ (some _), recorder => ∃ fault, recorder = .ended (.failed fault)
  | .collapsing _, recorder => recorder = .ended .crashed
  | .returned (.summary summary), recorder =>
      summary.writeError = none ∧ (∃ written, recorder = .ended (.finished written)) ∨
        summary.writeError ≠ none ∧ ∃ fault, recorder = .ended (.failed fault)
  | .returned (.failure error), recorder =>
      (∃ written, recorder = .ended (.finished written)) ∨
        error = Session.crashError ∧ recorder = .ended .crashed
  | _, _ => True

theorem CallerPhase.meets_next? {phase after : CallerPhase} {effect : Effect}
    (row : phase.next? = some (effect, after)) (recorder : RecorderPhase) :
    after.Meets recorder ↔ phase.Meets recorder := by
  unfold CallerPhase.next? at row
  split at row <;> cases row <;> rfl

namespace RecorderThread

theorem Step.not_ended {thread next : RecorderThread} (step : thread.Step next)
    (ending : RecorderEnd) :
    thread.recorder.phase ≠ .ended ending := by
  intro ended
  cases step with
  | start phase | notice phase | slice phase | noticed phase | pop phase | write phase
  | count phase | flush phase | finish phase | failed phase | fail phase | leave phase
  | depart phase | release phase => cases ended.symm.trans phase

end RecorderThread

namespace Session

def recorderEnd? (session : Session) : Option RecorderEnd :=
  session.lane.bind fun lane => (session.thread lane).ending?

theorem recorderEnd?_of_phase {session : Session} {lane : RecorderLane}
    (running : session.lane = some lane) {ending : RecorderEnd}
    (ended : lane.recorder.phase = .ended ending) : session.recorderEnd? = some ending := by
  have phase : (session.thread lane).recorder.phase = .ended ending := ended
  rw [recorderEnd?, running, Option.bind_some, RecorderThread.ending?, phase]

theorem phase_of_recorderEnd? {session : Session} {ending : RecorderEnd}
    (known : session.recorderEnd? = some ending) :
    ∃ lane, session.lane = some lane ∧ lane.recorder.phase = .ended ending := by
  obtain ⟨lane, running, ended⟩ := Option.bind_eq_some_iff.mp known
  unfold RecorderThread.ending? at ended
  split at ended
  · rename_i phase
    cases ended
    exact ⟨lane, running, phase⟩
  · cases ended

/-- A recorder that has failed turns whatever the source has ended with into a summary. -/
theorem summary_of_failed {session : Session} {error : Option CaptureError} {fault : Fault}
    {reason : StopReason} (phase : session.phase = .joining error)
    (ended : session.recorderEnd? = some (.failed fault))
    (asked : session.state.reason = some reason) :
    ∃ returned, session.play [.caller, .caller] = some returned ∧
      returned.outcome? = some (.summary
        { counters := session.state.counters
          stopReason := some reason
          writeError := some (CaptureError.io fault).message }) := by
  obtain ⟨lane, running, failed⟩ := phase_of_recorderEnd? ended
  have joined : session.step? .caller = some (session.joined error (.failed fault)) := by
    simp only [step?, callerStep?, phase, running, failed]
  obtain ⟨log, concluded⟩ :=
    (session.joined error (.failed fault)).conclude_eq error
      (some (CaptureError.io fault).message)
  refine ⟨(session.joined error (.failed fault)).conclude error
    (some (CaptureError.io fault).message), ?_, ?_⟩
  · rw [play, joined, Option.bind_some]
    rfl
  · rw [concluded]
    cases error <;> simp only [outcome?, outcomeOf, state_joined, asked]

structure Settled (session : Session) (lane : RecorderLane) : Prop where
  orderly : lane.recorder.phase.Orderly
  excused : lane.recorder.phase.hasRecorded = true → session.state.reason ≠ none
  meets : session.phase.Meets lane.recorder.phase
  counters : ∀ summary, session.phase = .returned (.summary summary) →
    summary.counters = session.state.counters

/-- After the join only the recorder's end is left of it. -/
theorem meets_of_step {phase : CallerPhase} {thread next : RecorderThread} (step : thread.Step next)
    (meets : phase.Meets thread.recorder.phase) (recorder : RecorderPhase) :
    phase.Meets recorder ∧ ∀ outcome, phase ≠ .returned outcome := by
  cases phase with
  | concluding error writeError =>
      cases writeError with
      | none =>
          obtain ⟨written, ended⟩ := meets
          exact absurd ended (step.not_ended _)
      | some text =>
          obtain ⟨fault, ended⟩ := meets
          exact absurd ended (step.not_ended _)
  | collapsing effects => exact absurd meets (step.not_ended _)
  | returned outcome =>
      cases outcome with
      | summary summary =>
          rcases meets with ⟨-, written, ended⟩ | ⟨-, fault, ended⟩
          · exact absurd ended (step.not_ended _)
          · exact absurd ended (step.not_ended _)
      | failure error =>
          rcases meets with ⟨written, ended⟩ | ⟨-, ended⟩
          · exact absurd ended (step.not_ended _)
          · exact absurd ended (step.not_ended _)
  | _ => exact ⟨trivial, nofun⟩

namespace Settled

variable {session next : Session} {lane after : RecorderLane}

/-- The result fits the end of the recorder. -/
theorem conclude (settled : Settled session lane) {error : Option CaptureError}
    {writeError : Option String} (phase : session.phase = .concluding error writeError) :
    (CallerPhase.returned (session.outcomeOf error writeError)).Meets lane.recorder.phase ∧
      ∀ summary, session.outcomeOf error writeError = .summary summary →
        summary.counters = session.state.counters := by
  have meets := settled.meets
  rw [phase] at meets
  have summed (reason : Option StopReason) : (CallerPhase.returned (.summary
      { counters := session.state.counters
        stopReason := reason
        writeError := writeError })).Meets lane.recorder.phase := by
    cases writeError with
    | none => exact .inl ⟨rfl, meets⟩
    | some text => exact .inr ⟨Option.some_ne_none _, meets⟩
  unfold outcomeOf
  split
  · rename_i error reason
    constructor
    · cases writeError with
      | none => exact .inl meets
      | some text =>
          obtain ⟨fault, ended⟩ := meets
          exact absurd reason (settled.excused (by rw [ended]; rfl))
    · exact nofun
  · constructor
    · exact summed _
    · intro summary same
      cases same
      rfl

theorem callerStep (settled : Settled session lane) (step : session.CallerStep next)
    (running : session.lane = some lane) (later : next.lane = some after) :
    Settled next after := by
  obtain ⟨before, known, recorder⟩ := step.recorder later
  cases running.symm.trans known
  constructor
  case orderly =>
    rw [recorder]
    exact settled.orderly
  case excused =>
    intro recorded
    rw [recorder] at recorded
    exact (Step.caller step).lasts.given (settled.excused recorded)
  case meets =>
    rw [recorder]
    have meets := settled.meets
    cases step with
    | perform row => exact (CallerPhase.meets_next? row _).mpr meets
    | @conclude error writeError phase =>
        obtain ⟨log, concluded⟩ := session.conclude_eq error writeError
        rw [concluded]
        exact (settled.conclude phase).1
    | collapsed phase =>
        rw [phase] at meets
        exact .inr ⟨rfl, meets⟩
    | joinNobody phase alone => cases running.symm.trans alone
    | @join error _ ending phase known ended =>
        cases running.symm.trans known
        rw [ended]
        cases ending with
        | finished written => exact ⟨written, rfl⟩
        | failed fault => exact ⟨fault, rfl⟩
        | crashed => exact rfl
    | @push samples report _ channel result => rcases result with _ | _ <;> trivial
    | _ => trivial
  case counters =>
    cases step with
    | @conclude error writeError phase =>
        obtain ⟨log, concluded⟩ := session.conclude_eq error writeError
        rw [concluded]
        intro summary same
        injection same with outcome
        exact (settled.conclude phase).2 summary outcome
    | perform row =>
        intro summary same
        unfold CallerPhase.next? at row
        split at row <;> cases row <;> cases same
    | @push samples report _ channel result =>
        rcases result with _ | _ <;> exact nofun
    | @join error _ ending => cases ending <;> exact nofun
    | _ => exact nofun

/-- Every step keeps the promise of the result. -/
theorem step {move : Move} (settled : Settled session lane) (step : session.Step move next)
    (running : session.lane = some lane) (later : next.lane = some after) :
    Settled next after := by
  cases step with
  | caller step => exact settled.callerStep step running later
  | recorder known step =>
      cases running.symm.trans known
      cases Wired.lane_of_withThread later
      obtain ⟨meets, unreturned⟩ := meets_of_step step settled.meets _
      exact ⟨step.orderly settled.orderly, step.recorded settled.orderly settled.excused, meets,
        fun summary same => absurd same (unreturned _)⟩
  | deliver burst report ready =>
      cases running.symm.trans later
      refine ⟨settled.orderly, settled.excused, ?_, ?_⟩
      · rw [phase_goTo]
        split <;> trivial
      · intro summary same
        rw [phase_goTo] at same
        split at same <;> cases same
  | ask reason ready | finish error ready =>
      cases running.symm.trans later
      exact ⟨settled.orderly, settled.excused, trivial, nofun⟩
  | record reason =>
      cases running.symm.trans later
      exact ⟨settled.orderly, fun _ => Option.some_ne_none _, settled.meets, settled.counters⟩
  | raise asked =>
      cases running.symm.trans later
      exact ⟨settled.orderly, settled.excused, settled.meets, settled.counters⟩

end Settled

end Session

/-! ## The error of the source -/

def CallerPhase.error? : CallerPhase → Option CaptureError
  | .finishing error | .closing error | .checking error | .ending _ error | .joining error
  | .concluding error _ => error
  | .returned (.failure error) => some error
  | _ => none

namespace Session

/-- An error on its way to the result has come from the source, unless the recorder has
crashed. -/
def Sourced (moves : List Move) (session : Session) (lane : RecorderLane) : Prop :=
  ∀ error, session.phase.error? = some error →
    .finish (some error) ∈ moves ∨ lane.recorder.phase = .ended .crashed

/-- The caller passes the error on, and makes one up only after a crash. -/
theorem CallerStep.error? {session next : Session} (step : session.CallerStep next)
    {error : CaptureError} (later : next.phase.error? = some error) :
    session.phase.error? = some error ∨ session.phase = .collapsing [] := by
  cases step with
  | perform row =>
      left
      unfold CallerPhase.next? at row
      split at row <;> cases row
      all_goals
        rename_i phase
        rw [phase]
        exact later
  | collapsed phase => exact .inr phase
  | @conclude source writeError phase =>
      left
      obtain ⟨log, concluded⟩ := session.conclude_eq source writeError
      rw [concluded] at later
      rw [phase]
      unfold outcomeOf at later
      split at later
      · exact later
      · cases later
  | @join source _ ending phase =>
      left
      rw [phase]
      cases ending with
      | finished | failed => exact later
      | crashed => cases later
  | @push samples report _ channel result => rcases result with _ | _ <;> cases later
  | unlink phase | close phase | closed phase | endTransfer phase | wait phase | ended phase
  | joinNobody phase =>
      rw [phase]
      exact .inl later
  | asked | ingest | skip | offer | settled | report | answer => cases later

theorem Sourced.step {moves : List Move} {session next : Session} {lane after : RecorderLane}
    {move : Move} (sourced : Sourced moves session lane) (settled : Settled session lane)
    (step : session.Step move next) (running : session.lane = some lane)
    (later : next.lane = some after) : Sourced (moves ++ [move]) next after := by
  intro error known
  have kept (before : session.phase.error? = some error)
      (same : lane.recorder.phase = .ended .crashed → after.recorder.phase = .ended .crashed) :
      .finish (some error) ∈ moves ++ [move] ∨ after.recorder.phase = .ended .crashed :=
    (sourced error before).imp (List.mem_append_left _) same
  cases step with
  | caller step =>
      obtain ⟨before, present, recorder⟩ := step.recorder later
      cases running.symm.trans present
      rcases step.error? known with before | collapsing
      · exact kept before (recorder ▸ id)
      · have meets := settled.meets
        rw [collapsing] at meets
        exact .inr (recorder ▸ meets)
  | recorder present step =>
      cases running.symm.trans present
      exact kept known fun ended => absurd ended (step.not_ended _)
  | deliver burst report ready =>
      rw [phase_goTo] at known
      split at known <;> cases known
  | ask reason ready => cases known
  | finish source ready =>
      left
      apply List.mem_append_right
      cases known
      exact List.mem_singleton_self _
  | record reason | raise asked =>
      cases running.symm.trans later
      exact kept known id

end Session

end SampleCapture
