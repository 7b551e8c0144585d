import Mathlib
import SampleCapture.Proofs.Session.Runs

/-!
# Errors of the source

An error with which the source ends before anybody has asked for a stop is returned unless
a stop is asked for afterwards, before the result is drawn up: by somebody else, or by the
recorder because its sink has failed on what was still to be written.
-/

namespace SampleCapture

/-- The source has ended with the error, and the caller has not drawn up the result. -/
def CallerPhase.Aborts (error : CaptureError) : CallerPhase → Prop
  | .finishing source | .closing source | .checking source | .joining source
  | .concluding source _ => source = some error
  | _ => False

def CallerPhase.joining? : CallerPhase → Option CaptureError
  | .joining source => source
  | _ => none

theorem CallerPhase.eq_joining {phase : CallerPhase} {error : CaptureError}
    (same : phase.joining? = some error) : phase = .joining (some error) := by
  cases phase with
  | joining source => exact congrArg _ same
  | _ => cases same

def Move.isRecord : Move → Bool
  | .record _ => true
  | .caller | .recorder | .deliver _ _ | .ask _ | .finish _ | .raise => false

namespace Session

/-- Whether the recorder has recorded a failure; it has not if there is none. -/
def hasRecorded (session : Session) : Bool :=
  session.lane.elim false fun lane => lane.recorder.phase.hasRecorded

theorem hasRecorded_of_lane {session : Session} {lane : RecorderLane}
    (running : session.lane = some lane) :
    session.hasRecorded = lane.recorder.phase.hasRecorded := by
  rw [hasRecorded, running]
  rfl

/-- What holds between the end of the source and the result: there is a reason to stop exactly
if somebody has asked for a stop since, or the recorder has. -/
structure Aborting (error : CaptureError) (asked : Bool) (session : Session) : Prop where
  phase : session.phase.Aborts error
  reason : session.state.reason.isSome = (asked || session.hasRecorded)

theorem CallerStep.hasRecorded {session next : Session} (step : session.CallerStep next) :
    next.hasRecorded = session.hasRecorded := by
  have known (session : Session) : session.hasRecorded =
      (session.lane.map (·.recorder)).elim false (·.phase.hasRecorded) := by
    rw [Session.hasRecorded]
    cases session.lane <;> rfl
  rw [known, known, step.recorders]

namespace Aborting

variable {config : CaptureOptions} {output : Option Writer} {error : CaptureError} {asked : Bool}
  {session next : Session} {move : Move}

/-- The caller passes the error on until it draws up the result. -/
theorem callerStep (aborting : Aborting error asked session)
    (manned : Manned config output session)
    (calm : ∀ writer, output = some writer → writer.Steady) (step : session.CallerStep next) :
    Aborting error asked next ∨ ∃ writeError, session.phase = .concluding (some error) writeError ∧
      next.phase = .returned (session.outcomeOf (some error) writeError) := by
  have recorded := step.hasRecorded
  obtain ⟨aborts, reason⟩ := aborting
  rw [← recorded] at reason
  cases step with
  | unlink phase | close phase | closed phase | wait phase | joinNobody phase =>
      rw [phase] at aborts
      exact .inl ⟨aborts, reason⟩
  | endTransfer phase unasked =>
      rw [phase] at aborts
      cases unasked.1.symm.trans aborts
  | @join source lane ending phase running ended =>
      rw [phase] at aborts
      cases ending with
      | finished | failed => exact .inl ⟨aborts, reason⟩
      | crashed =>
          obtain ⟨writer, known, equipped⟩ := manned lane running
          have unharmed := (equipped.unharmed (calm writer known)).phase
          rw [ended] at unharmed
          exact absurd rfl unharmed
  | @conclude source writeError phase =>
      obtain ⟨log, concluded⟩ := session.conclude_eq source writeError
      rw [phase] at aborts
      cases aborts
      exact .inr ⟨writeError, phase, by rw [concluded]⟩
  | perform row =>
      unfold CallerPhase.next? at row
      split at row <;> cases row
      all_goals
        rename_i phase
        rw [phase] at aborts
        exact aborts.elim
  | asked phase | ingest phase | skip phase | offer phase | push phase | settled phase
  | report phase | answer phase | ended phase | collapsed phase =>
      rw [phase] at aborts
      exact aborts.elim

theorem recorderStep (aborting : Aborting error asked session) {writer : Writer}
    {lane : RecorderLane}
    (equipped : Equipped config writer session lane) (steady : writer.Steady)
    {thread : RecorderThread}
    (step : (session.thread lane).Step thread) :
    Aborting error asked (session.withThread thread) := by
  obtain ⟨aborts, reason⟩ := aborting
  have settled := equipped.settled
  have unharmed := step.unharmed (equipped.known.symm ▸ steady) (equipped.unharmed steady)
  have now : (session.withThread thread).hasRecorded = thread.recorder.phase.hasRecorded := rfl
  refine ⟨aborts, ?_⟩
  rw [now]
  cases recorded : thread.recorder.phase.hasRecorded with
  | true =>
      rw [Bool.or_true, Option.isSome_iff_ne_none]
      exact step.recorded settled.orderly settled.excused recorded
  | false =>
      have same := step.reason settled.orderly recorded
      have before : lane.recorder.phase.hasRecorded = false := by
        apply Bool.eq_false_iff.mpr
        intro earlier
        rcases step.hasRecorded earlier with later | crashed
        · exact absurd (recorded.symm.trans later) (by decide)
        · have sound := unharmed.phase
          rw [crashed] at sound
          exact sound rfl
      rw [hasRecorded_of_lane equipped.output, before] at reason
      change thread.shared.state.reason.isSome = _
      rw [same]
      exact reason

/-- What each step before the result keeps. -/
theorem step (aborting : Aborting error asked session) (manned : Manned config output session)
    (calm : ∀ writer, output = some writer → writer.Steady) (step : session.Step move next)
    (pending : next.outcome? = none) : Aborting error (asked || move.isRecord) next := by
  cases step with
  | caller step =>
      rw [Move.isRecord, Bool.or_false]
      apply (aborting.callerStep manned calm step).resolve_right
      rintro ⟨writeError, -, returned⟩
      rw [outcome?, returned] at pending
      cases pending
  | recorder running step =>
      obtain ⟨writer, known, equipped⟩ := manned _ running
      rw [Move.isRecord, Bool.or_false]
      exact aborting.recorderStep equipped (calm writer known) step
  | deliver burst report ready | ask reason ready | finish source ready =>
      have aborts := aborting.phase
      rw [ready] at aborts
      exact aborts.elim
  | record reason =>
      constructor
      case phase => exact aborting.phase
      case reason =>
        rw [Move.isRecord, Bool.or_true, Bool.true_or]
        rfl
  | raise raised =>
      rw [Move.isRecord, Bool.or_false]
      exact ⟨aborting.phase, aborting.reason⟩

/-- A session that has not returned had not returned before. -/
theorem pending_of_step (step : session.Step move next) (pending : next.outcome? = none) :
    session.outcome? = none := by
  cases known : session.outcome? with
  | none => rfl
  | some outcome =>
      have returned := phase_of_outcome known
      cases step with
      | caller step =>
          cases step with
          | perform row =>
              rw [returned] at row
              cases row
          | asked phase | ingest phase | skip phase | offer phase | push phase | settled phase
          | report phase | answer phase | conclude phase | unlink phase | close phase
          | closed phase | endTransfer phase | wait phase | ended phase | joinNobody phase
          | join phase | collapsed phase => cases returned.symm.trans phase
      | recorder running step =>
          change session.outcome? = none at pending
          exact absurd (pending.symm.trans known) nofun
      | deliver burst report ready | ask reason ready | finish source ready =>
          cases returned.symm.trans ready
      | record reason | raise asked => exact absurd (pending.symm.trans known) nofun

/-- What holds from the end of the source until the result. -/
theorem of_play (manned : Manned config output session)
    (calm : ∀ writer, output = some writer → writer.Steady)
    (aborting : Aborting error false session) {moves : List Move} {last : Session}
    (played : session.play moves = some last) (pending : last.outcome? = none) :
    Aborting error (moves.any Move.isRecord) last ∧ Manned config output last := by
  refine (play_induction (motive := fun past session =>
    Manned config output session ∧
      (session.outcome? = none → Aborting error (past.any Move.isRecord) session)) ?_ [] played
        ⟨manned, fun _ => aborting⟩).symm.imp_left fun kept => kept pending
  rintro past session next move step ⟨manned, before⟩
  refine ⟨manned.step step, ?_⟩
  intro pending
  have kept := (before (pending_of_step step pending)).step manned calm step pending
  simpa using kept

end Aborting

theorem any_isRecord_eq_false {moves : List Move} :
    moves.any Move.isRecord = false ↔ ∀ reason, .record reason ∉ moves := by
  rw [List.any_eq_false]
  constructor
  · intro none reason member
    exact none _ member rfl
  · intro none move member recorded
    cases move with
    | record reason => exact none reason member
    | caller | recorder | deliver | ask | finish | raise => cases recorded

/-- When the recorder has ended, it has recorded a failure exactly if it ended with one. -/
theorem hasRecorded_eq_false {config : CaptureOptions} {output : Option Writer}
    {session : Session} (manned : Manned config output session) {source : Option CaptureError}
    {writeError : Option String} (phase : session.phase = .concluding source writeError) :
    session.hasRecorded = false ↔ ∀ fault, session.recorderEnd? ≠ some (.failed fault) := by
  cases running : session.lane with
  | none => simp [Session.hasRecorded, recorderEnd?, running]
  | some lane =>
      obtain ⟨writer, -, equipped⟩ := manned lane running
      have meets := equipped.settled.meets
      rw [phase] at meets
      rw [hasRecorded_of_lane running]
      cases writeError with
      | none =>
          obtain ⟨written, ended⟩ := meets
          rw [recorderEnd?_of_phase running ended, ended]
          constructor
          · intro _ fault failed
            cases failed
          · exact fun _ => rfl
      | some text =>
          obtain ⟨fault, ended⟩ := meets
          rw [recorderEnd?_of_phase running ended, ended]
          constructor
          · intro sound
            cases sound
          · intro other
            exact absurd rfl (other fault)

/-- The source ends with an error while there is no reason to stop. -/
theorem Aborting.begin {config : CaptureOptions} {output : Option Writer} {session : Session}
    (manned : Manned config output session) (unasked : session.state.reason = none)
    (error : CaptureError) : Aborting error false (session.goTo (.finishing (some error))) := by
  refine ⟨rfl, ?_⟩
  change session.state.reason.isSome = (false || session.hasRecorded)
  rw [unasked, Bool.false_or]
  symm
  apply Bool.eq_false_iff.mpr
  intro recorded
  cases running : session.lane with
  | none => simp [Session.hasRecorded, running] at recorded
  | some lane =>
      obtain ⟨writer, -, equipped⟩ := manned lane running
      rw [hasRecorded_of_lane running] at recorded
      exact equipped.settled.excused recorded unasked

/-- An error with which the source ends while there is no reason to stop is returned exactly
if nobody asks for a stop until the result is drawn up, and the recorder, which drains the
queue and flushes in the meantime, does not end with a failure. Otherwise the result is a
summary with a reason to stop. -/
theorem transferError_reported_iff {config : CaptureOptions} {preStop : Option StopReason}
    {output : Option Writer} {before after : List Move} {waiting last returned : Session}
    {error : CaptureError} {outcome : Outcome}
    (calm : ∀ writer, output = some writer → writer.Steady)
    (played : (start config preStop output).play before = some waiting)
    (unasked : waiting.state.reason = none)
    (drained : waiting.play (.finish (some error) :: after) = some last)
    (pending : last.outcome? = none) (concluded : last.step? .caller = some returned)
    (known : returned.outcome? = some outcome) :
    (outcome = .failure error ↔
        (∀ reason, .record reason ∉ after) ∧ ∀ fault, last.recorderEnd? ≠ some (.failed fault)) ∧
      (outcome ≠ .failure error →
        ∃ summary reason, outcome = .summary summary ∧ summary.stopReason = some reason) := by
  have manned : Manned config output waiting := .of_play played
  obtain ⟨begun, moved, rest⟩ := Option.bind_eq_some_iff.mp drained
  have finish := Step.of_step? moved
  have kept := manned.step finish
  cases finish with
  | finish _ ready =>
      obtain ⟨aborting, crewed⟩ := (Aborting.begin manned unasked error).of_play kept calm rest pending
      rcases aborting.callerStep crewed calm (.of_step? concluded) with still | drawn
      · have aborts := still.phase
        rw [phase_of_outcome known] at aborts
        exact aborts.elim
      · obtain ⟨writeError, phase, result⟩ := drawn
        have drawn : outcome = last.outcomeOf (some error) writeError := by
          cases (phase_of_outcome known).symm.trans result
          rfl
        have reason := aborting.reason
        rw [← any_isRecord_eq_false, ← hasRecorded_eq_false crewed phase, drawn]
        unfold outcomeOf
        cases stop : last.state.reason with
        | none =>
            rw [stop] at reason
            have neither := Bool.or_eq_false_iff.mp reason.symm
            exact ⟨⟨fun _ => neither, fun _ => rfl⟩, fun other => absurd rfl other⟩
        | some given =>
            refine ⟨⟨nofun, ?_⟩, fun _ => ⟨_, given, rfl, rfl⟩⟩
            rintro ⟨unrecorded, sound⟩
            rw [stop, unrecorded, sound] at reason
            cases reason

/-! ## Two outputs -/

/-- A writer that accepts everything, with this end of a flush. -/
def accepting (flushed : OutputResult) : Writer where
  respond _ _ offered := .accept offered
  flushed := flushed
  calmFrom := 0
  calm _ response := by cases response

theorem steady_accepting {flushed : OutputResult} (sound : flushed ≠ .crashed) :
    (accepting flushed).Steady :=
  ⟨sound, fun _ _ _ => nofun⟩

/-- A byte is delivered and its samples are taken out of the queue. -/
def deliveringRun : List Move :=
  List.flatten [List.replicate 3 .recorder, [.deliver [0x29] none], List.replicate 8 .caller,
    List.replicate 5 .recorder]

/-- The queue is closed and the recorder takes its last steps. -/
def drainingRun (steps : Nat) : List Move :=
  List.replicate 3 .caller ++ List.replicate steps .recorder

/-- With an output that can be flushed the error is returned. -/
theorem transferError_reported_accepting :
    ∃ waiting last returned,
      (start { warmUpBytes := 0 } none (some (accepting .done))).play deliveringRun = some waiting ∧
        waiting.state.reason = none ∧
        waiting.play (.finish (some (.transfer "x")) :: (drainingRun 6 ++ [.caller])) = some last ∧
        last.step? .caller = some returned ∧
        returned.outcome? = some (.failure (.transfer "x")) := by
  have told : ((start { warmUpBytes := 0 } none (some (accepting .done))).play deliveringRun).bind
      (fun waiting =>
        (waiting.play (.finish (some (.transfer "x")) :: (drainingRun 6 ++ [.caller]))).bind
          fun last => (last.step? .caller).map fun returned =>
            (waiting.state.reason, last.outcome?.isSome, last.recorderEnd?.any (·.isFailure),
              returned.outcome?.isSome)) = some (none, false, false, true) := by cbv
  obtain ⟨waiting, played, told⟩ := Option.bind_eq_some_iff.mp told
  obtain ⟨last, drained, told⟩ := Option.bind_eq_some_iff.mp told
  obtain ⟨returned, concluded, told⟩ := Option.map_eq_some_iff.mp told
  simp only [Prod.mk.injEq, Option.isSome_eq_false_iff, Option.isNone_iff_eq_none] at told
  obtain ⟨unasked, pending, sound, ended⟩ := told
  obtain ⟨outcome, known⟩ := Option.isSome_iff_exists.mp ended
  have calm (writer : Writer) (same : some (accepting .done) = some writer) : writer.Steady :=
    Option.some.inj same ▸ steady_accepting (by decide)
  have unharmed (fault : Fault) : last.recorderEnd? ≠ some (.failed fault) := fun failed => by
    rw [failed] at sound
    cases sound
  have reported := (transferError_reported_iff calm played unasked drained pending concluded
    known).1.mpr ⟨by simp [drainingRun], unharmed⟩
  exact ⟨waiting, last, returned, played, unasked, drained, concluded, known.trans (by rw [reported])⟩

/-- With an output that cannot be flushed the same error is lost. -/
theorem transferError_lost :
    ∃ waiting returned summary,
      (start { warmUpBytes := 0 } none
        (some (accepting (.failed { detail := some "disk gone" })))).play deliveringRun =
          some waiting ∧
        waiting.state.reason = none ∧
        waiting.play (.finish (some (.transfer "x")) :: (drainingRun 9 ++ [.caller, .caller])) =
          some returned ∧
        returned.outcome? = some (.summary summary) ∧ summary.stopReason = some .writeFailed := by
  have told : ((start { warmUpBytes := 0 } none
      (some (accepting (.failed { detail := some "disk gone" })))).play deliveringRun).bind
      (fun waiting => (waiting.play (.finish (some (.transfer "x")) :: drainingRun 9)).map
        fun last => (waiting.state.reason, last.state.reason, last.recorderEnd?,
          last.phase.joining?)) =
        some (none, some .writeFailed, some (.failed { detail := some "disk gone" }),
          some (.transfer "x")) := by cbv
  obtain ⟨waiting, played, told⟩ := Option.bind_eq_some_iff.mp told
  obtain ⟨last, drained, told⟩ := Option.map_eq_some_iff.mp told
  simp only [Prod.mk.injEq] at told
  obtain ⟨unasked, asked, ended, phase⟩ := told
  obtain ⟨returned, concluded, known⟩ :=
    summary_of_failed (CallerPhase.eq_joining phase) ended asked
  refine ⟨waiting, returned, _, played, unasked, ?_, known, rfl⟩
  rw [← List.cons_append, play_append, drained]
  exact concluded

end Session

end SampleCapture
