import SampleCapture.Proofs.Session.Progress
import SampleCapture.Proofs.Session.Requests
import SampleCapture.Proofs.Session.TransferError

/-!
# The verdict of a session

The result of a session in terms of what has happened: how the source and the recorder have
ended, and who has asked for a stop first.
-/

namespace SampleCapture

def RecorderEnd.complaint? : RecorderEnd → Option String
  | .failed fault => some (CaptureError.io fault).message
  | .finished _ | .crashed => none

theorem quoted_iff (ending : Option RecorderEnd) (text : String) :
    ending.bind (·.complaint?) = some text ↔
      ∃ fault, ending = some (.failed fault) ∧ text = (CaptureError.io fault).message := by
  rcases ending with _ | _ | fault | _ <;> simp [RecorderEnd.complaint?, eq_comm]

/-- A failure of the sink raises the flag before the recorder ends. -/
def RecorderPhase.Raises (state : SharedState) : RecorderPhase → Prop
  | .failing effects _ => .raise ∈ effects ∨ state.stopping = true
  | .leaving (.failed _) | .departing (.failed _) | .releasing (.failed _) | .ended (.failed _) =>
      state.stopping = true
  | _ => True

/-- What the caller knows of the end of the recorder, from the join on. -/
def CallerPhase.Quotes (state : SharedState) (ending : Option RecorderEnd) : CallerPhase → Prop
  | .concluding _ writeError => ending ≠ some .crashed ∧ writeError = ending.bind (·.complaint?)
  | .collapsing _ => ending = some .crashed
  | .returned (.summary summary) =>
      ending ≠ some .crashed ∧ summary.writeError = ending.bind (·.complaint?)
  | .returned (.failure error) =>
      ending = some .crashed → error = Session.crashError ∧ state.stopping = true
  | _ => True

namespace RecorderPhase.Raises

variable {state later : SharedState} {phase : RecorderPhase}

theorem lasts (raises : phase.Raises state) (lasts : state.Lasts later) : phase.Raises later := by
  cases phase with
  | failing effects fault => exact raises.imp_right lasts.stopping
  | leaving ending | departing ending | releasing ending | ended ending =>
      cases ending with
      | failed fault => exact lasts.stopping raises
      | finished | crashed => trivial
  | _ => trivial

theorem phaseAfter {recorder : Recorder} (next : RecorderPhase) (raises : next.Raises state)
    (result : OutputResult) : (recorder.phaseAfter next result).Raises state := by
  cases result with
  | done => exact raises
  | failed fault => exact .inl (by simp [Recorder.failEffects, Effect.stop])
  | crashed => trivial

theorem step {thread next : RecorderThread}
    (raises : thread.recorder.phase.Raises thread.shared.state) (step : thread.Step next) :
    next.recorder.phase.Raises next.shared.state := by
  cases step with
  | @fail effect effects fault phase =>
      rw [phase] at raises
      rcases raises with member | up
      · rcases List.mem_cons.mp member with rfl | later
        · exact .inr rfl
        · exact .inl later
      · exact .inr (LoggedState.stopping_perform effect up)
  | failed phase =>
      rw [phase] at raises
      exact raises.resolve_left List.not_mem_nil
  | @leave ending phase | @depart ending phase =>
      rw [phase] at raises
      cases ending <;> exact raises
  | @release ending phase =>
      rw [phase] at raises
      dsimp only
      split
      · trivial
      · cases ending <;> exact raises
  | @pop phase channel result step => rcases result with _ | _ | ⟨byte, rest⟩ <;> trivial
  | @write slice phase => exact phaseAfter (.counting slice.length) trivial _
  | flush phase => exact phaseAfter .finishing trivial _
  | start | notice | slice | noticed | count | finish => trivial

end RecorderPhase.Raises

theorem CallerPhase.Quotes.lasts {state later : SharedState} {ending : Option RecorderEnd}
    {phase : CallerPhase} (quotes : phase.Quotes state ending) (lasts : state.Lasts later) :
    phase.Quotes later ending := by
  cases phase with
  | returned outcome =>
      cases outcome with
      | summary summary => exact quotes
      | failure error => exact fun crashed => (quotes crashed).imp_right lasts.stopping
  | _ => exact quotes

theorem CallerPhase.quotes_next? {state later : SharedState} {ending : Option RecorderEnd}
    {phase after : CallerPhase} {effect : Effect} (row : phase.next? = some (effect, after))
    (quotes : phase.Quotes state ending) : after.Quotes later ending := by
  unfold CallerPhase.next? at row
  split at row <;> cases row <;> exact quotes

namespace Session

/-- The caller does not touch the end of the recorder. -/
theorem CallerStep.recorderEnd? {session next : Session} (step : session.CallerStep next) :
    next.recorderEnd? = session.recorderEnd? := by
  -- the end is read off the recorder alone, so any shared state and any channel will do
  have known (session : Session) : session.recorderEnd? =
      (session.lane.map (·.recorder)).bind fun recorder =>
        RecorderThread.ending? { shared := {}, channel := .create 0, recorder := recorder } := by
    rw [Session.recorderEnd?]
    cases session.lane <;> rfl
  rw [known, known, step.recorders]

/-- A recorder that can still take a step has not ended, so the caller knows nothing yet. -/
theorem quotes_of_step {phase : CallerPhase} {thread next : RecorderThread}
    (step : thread.Step next)
    (meets : phase.Meets thread.recorder.phase) (state : SharedState)
    (ending : Option RecorderEnd) : phase.Quotes state ending := by
  -- the phases from the join on meet no recorder that is still starting
  obtain ⟨started, unreturned⟩ := meets_of_step step meets .starting
  cases phase with
  | concluding error writeError =>
      cases writeError with
      | none | some =>
          obtain ⟨_, ended⟩ := started
          cases ended
  | collapsing effects => cases started
  | returned outcome => exact absurd rfl (unreturned outcome)
  | _ => trivial

structure Informed (config : CaptureOptions) (output : Option Writer) (moves : List Move)
    (session : Session) : Prop extends Prompted config output moves session where
  raises : ∀ lane, session.lane = some lane → lane.recorder.phase.Raises session.state
  quotes : session.phase.Quotes session.state session.recorderEnd?

namespace Informed

variable {config : CaptureOptions} {output : Option Writer} {moves : List Move}
  {session next : Session} {move : Move}

theorem start (config : CaptureOptions) (preStop : Option StopReason) (output : Option Writer) :
    Informed config output [] (Session.start config preStop output) := by
  refine ⟨.start config preStop output, ?_, ?_⟩
  · intro lane running
    cases output with
    | none => cases running
    | some writer =>
        cases running
        trivial
  · rw [phase_start]
    trivial

theorem quotes_callerStep (informed : Informed config output moves session)
    (step : session.CallerStep next) : next.phase.Quotes next.state session.recorderEnd? := by
  have quotes := informed.quotes
  have tells := informed.tells
  cases step with
  | perform row => exact CallerPhase.quotes_next? row quotes
  | @push samples report lane channel result phase => rcases result with _ | _ <;> trivial
  | @joinNobody error phase alone =>
      have nobody : session.recorderEnd? = none := by rw [Session.recorderEnd?, alone]; rfl
      rw [nobody]
      exact ⟨(Option.some_ne_none _).symm, rfl⟩
  | @join error lane ending phase running ended =>
      rw [recorderEnd?_of_phase running ended]
      cases ending with
      | finished | failed =>
          refine ⟨?_, rfl⟩
          intro crashed
          cases crashed
      | crashed => exact rfl
  | collapsed phase =>
      rw [phase] at tells
      cases tells with
      | raised given up => exact fun _ => ⟨rfl, up⟩
  | @conclude error writeError phase =>
      obtain ⟨log, concluded⟩ := session.conclude_eq error writeError
      rw [phase] at quotes
      rw [concluded]
      dsimp only
      unfold outcomeOf
      split
      · exact fun crashed => absurd crashed quotes.1
      · exact quotes
  | asked | ingest | skip | offer | settled | report | answer | unlink | close | closed
  | endTransfer | wait | ended => trivial

theorem step (informed : Informed config output moves session) (step : session.Step move next) :
    Informed config output (moves ++ [move]) next := by
  have lasts := step.lasts
  constructor
  case toPrompted => exact informed.toPrompted.step step
  case raises =>
    intro after later
    cases step with
    | caller step =>
        obtain ⟨lane, running, same⟩ := step.recorder later
        rw [same]
        exact (informed.raises lane running).lasts lasts
    | @recorder lane thread running step =>
        cases Wired.lane_of_withThread later
        exact (informed.raises lane running).step step
    | deliver | ask | finish | record | raise => exact (informed.raises after later).lasts lasts
  case quotes =>
    cases step with
    | caller step =>
        rw [step.recorderEnd?]
        exact informed.quotes_callerStep step
    | recorder running step =>
        exact quotes_of_step step (informed.manned.settled running).meets _ _
    | deliver burst report ready =>
        rw [phase_goTo]
        split <;> trivial
    | ask | finish => trivial
    | record | raise => exact informed.quotes.lasts lasts

theorem of_play {preStop : Option StopReason}
    (played : (Session.start config preStop output).play moves = some session) :
    Informed config output moves session :=
  play_induction (motive := fun past session => Informed config output past session)
    (fun step informed => informed.step step) [] played (start config preStop output)

end Informed

/-! ## Summaries -/

/-- The caller returns an error because the source has ended with it while there is no reason
to stop, or because the recorder has crashed. -/
theorem CallerStep.failure {session next : Session} (step : session.CallerStep next)
    {error : CaptureError} (returned : next.phase = .returned (.failure error)) :
    (∃ writeError, session.phase = .concluding (some error) writeError ∧
        session.state.reason = none) ∨ session.phase = .collapsing [] := by
  cases step with
  | @conclude source writeError phase =>
      obtain ⟨log, concluded⟩ := session.conclude_eq source writeError
      rw [concluded] at returned
      injection returned with drawn
      unfold outcomeOf at drawn
      split at drawn
      · rename_i reason
        cases drawn
        exact .inl ⟨writeError, phase, reason⟩
      · cases drawn
  | collapsed phase => exact .inr phase
  | perform row =>
      unfold CallerPhase.next? at row
      split at row <;> cases row <;> cases returned
  | @push samples report lane channel result => rcases result with _ | _ <;> cases returned
  | @join source lane ending => cases ending <;> cases returned
  | asked | ingest | skip | offer | settled | report | answer | unlink | close | closed
  | endTransfer | wait | ended | joinNobody => cases returned

/-- The source has ended without an error, or with one while there was a reason to stop; the
error is not returned. -/
structure Pardoned (config : CaptureOptions) (output : Option Writer)
    (error : Option CaptureError) (moves : List Move) (session : Session) : Prop where
  informed : Informed config output moves session
  follows : session.phase.Follows (Move.results moves)
  finished : error ∈ Move.results moves
  pardon : error = none ∨ session.state.reason ≠ none
  failure : ∀ failed, session.phase = .returned (.failure failed) →
    session.recorderEnd? = some .crashed

theorem Pardoned.step {config : CaptureOptions} {output : Option Writer}
    {error : Option CaptureError} {moves : List Move} {session next : Session} {move : Move}
    (pardoned : Pardoned config output error moves session) (step : session.Step move next) :
    Pardoned config output error (moves ++ [move]) next := by
  constructor
  case informed => exact pardoned.informed.step step
  case follows => exact step.follows pardoned.follows
  case finished =>
    rw [Move.results_append]
    exact List.mem_append_left _ pardoned.finished
  case pardon => exact pardoned.pardon.imp_right step.lasts.given
  case failure =>
    intro failed returned
    cases step with
    | caller step =>
        rw [step.recorderEnd?]
        rcases step.failure returned with ⟨writeError, phase, unasked⟩ | phase
        · have follows := pardoned.follows
          have finished := pardoned.finished
          rw [phase] at follows
          rw [show Move.results moves = [some failed] from follows] at finished
          cases List.mem_singleton.mp finished
          exact absurd unasked (pardoned.pardon.resolve_left nofun)
        · have quotes := pardoned.informed.quotes
          rw [phase] at quotes
          exact quotes
    | recorder running step =>
        have meets := (pardoned.informed.manned.settled running).meets
        exact absurd returned ((meets_of_step step meets .starting).2 _)
    | deliver burst report ready =>
        rw [phase_goTo] at returned
        split at returned <;> cases returned
    | ask | finish => cases returned
    | record | raise => exact pardoned.failure failed returned

/-- Unless the recorder crashes, a source that ends without an error, or after a stop request,
ends in a summary. -/
theorem summary_of_pardon {config : CaptureOptions} {preStop : Option StopReason}
    {output : Option Writer} {before after : List Move} {waiting session : Session}
    {error : Option CaptureError} {outcome : Outcome}
    (reached : (start config preStop output).play before = some waiting)
    (played : waiting.play (.finish error :: after) = some session)
    (pardon : error = none ∨ waiting.state.reason ≠ none)
    (sound : session.recorderEnd? ≠ some .crashed) (known : session.outcome? = some outcome) :
    ∃ summary, outcome = .summary summary := by
  obtain ⟨begun, moved, rest⟩ := Option.bind_eq_some_iff.mp played
  have finish := Step.of_step? moved
  have initial : Pardoned config output error (before ++ [.finish error]) begun := by
    constructor
    case informed => exact (Informed.of_play reached).step finish
    case follows => exact finish.follows (follows_of_play reached)
    case finished =>
      rw [Move.results_append]
      exact List.mem_append_right _ (List.mem_singleton_self _)
    case pardon => exact pardon.imp_right finish.lasts.given
    case failure =>
      intro failed returned
      cases finish
      cases returned
  have pardoned := play_induction
    (motive := fun past session => Pardoned config output error past session)
    (fun step pardoned => pardoned.step step) _ rest initial
  cases outcome with
  | summary summary => exact ⟨summary, rfl⟩
  | failure failed => exact absurd (pardoned.failure failed (phase_of_outcome known)) sound

/-! ## The verdict -/

/-- The verdict on a session that has made these moves. -/
structure Verdict (config : CaptureOptions) (preStop : Option StopReason)
    (output : Option Writer) (moves : List Move) (session : Session) : Prop where
  /-- A crash of the recorder is an error of its own, whatever the source has ended with, and
  the stop flag is up. -/
  crashed : session.recorderEnd? = some .crashed → ∀ outcome, session.outcome? = some outcome →
    outcome = .failure crashError ∧ session.state.stopping = true
  /-- A summary has the reason of the first stop request of all. -/
  reason : ∀ summary, session.outcome? = some (.summary summary) →
    ∃ reason, summary.stopReason = some reason ∧
      (preStop.toList ++ (start config preStop output).requests moves).head? = some reason
  /-- The reason is the end of the transfer, which nobody else gives as a reason, only if the
  source has ended without an error and the caller then finds no other reason recorded. -/
  transferEnded : preStop ≠ some .transferEnded → .record .transferEnded ∉ moves →
    .ask .transferEnded ∉ moves → ∀ summary, session.outcome? = some (.summary summary) →
      summary.stopReason = some .transferEnded →
        ∃ before after waiting, moves = before ++ .caller :: after ∧
          (start config preStop output).play before = some waiting ∧
            waiting.state.reason = none ∧ waiting.request? .caller = some .transferEnded ∧
              .finish none ∈ before
  /-- Without a crash, a source that ends without an error ends in a summary. -/
  sound : .finish none ∈ moves → session.recorderEnd? ≠ some .crashed →
    ∀ outcome, session.outcome? = some outcome → ∃ summary, outcome = .summary summary
  /-- So does one that ends with an error when a stop has been asked for. -/
  stopped : ∀ before after error waiting, moves = before ++ .finish (some error) :: after →
    (start config preStop output).play before = some waiting → waiting.state.reason ≠ none →
      session.recorderEnd? ≠ some .crashed →
        ∀ outcome, session.outcome? = some outcome → ∃ summary, outcome = .summary summary
  /-- A summary quotes the failure of the recorder if there is one, and then the flag is up. -/
  writeError : ∀ summary, session.outcome? = some (.summary summary) → ∀ text,
    (summary.writeError = some text ↔ ∃ fault, session.recorderEnd? = some (.failed fault) ∧
        text = (CaptureError.io fault).message) ∧
      (summary.writeError = some text → session.state.stopping = true)
  /-- When the source has ended and neither thread can go on, there is a result. -/
  returns : ∀ error, .finish error ∈ moves → session.step? .caller = none →
    session.step? .recorder = none → ∃ outcome, session.outcome? = some outcome
  /-- The threads can go on only so long. -/
  finite : Move.threadSteps moves ≤ Move.budget moves + 14

theorem verdict_of_play {config : CaptureOptions} {preStop : Option StopReason}
    {output : Option Writer} {moves : List Move} {session : Session}
    (played : (start config preStop output).play moves = some session) :
    Verdict config preStop output moves session := by
  have informed := Informed.of_play played
  have follows := follows_of_play played
  have tells := informed.tells
  have quotes := informed.quotes
  have first := reason_of_play played
  rw [reason_start] at first
  constructor
  case crashed =>
    intro crashed outcome known
    rw [phase_of_outcome known, crashed] at quotes
    cases outcome with
    | summary summary => exact absurd rfl quotes.1
    | failure error => exact ⟨congrArg _ (quotes rfl).1, (quotes rfl).2⟩
  case reason =>
    intro summary known
    rw [phase_of_outcome known] at tells
    obtain ⟨reason, given⟩ := Option.ne_none_iff_exists'.mp tells.2
    refine ⟨reason, tells.1.trans given, ?_⟩
    rw [List.head?_append, Option.head?_toList, ← first, given]
  case transferEnded =>
    intro unprepared unrecorded unasked summary known ended
    rw [phase_of_outcome known] at tells
    exact transferEnded_of_play played unprepared unrecorded unasked (tells.1.symm.trans ended)
  case sound =>
    intro finished sound outcome known
    obtain ⟨before, after, rfl⟩ := List.append_of_mem finished
    rw [play_append] at played
    obtain ⟨waiting, reached, rest⟩ := Option.bind_eq_some_iff.mp played
    exact summary_of_pardon reached rest (.inl rfl) sound known
  case stopped =>
    rintro before after error waiting rfl reached given sound outcome known
    rw [play_append, reached] at played
    exact summary_of_pardon reached played (.inr given) sound known
  case writeError =>
    intro summary known text
    rw [phase_of_outcome known] at quotes
    rw [quotes.2]
    constructor
    · exact quoted_iff session.recorderEnd? text
    · intro quoted
      obtain ⟨fault, failed, -⟩ := (quoted_iff session.recorderEnd? text).mp quoted
      obtain ⟨lane, running, phase⟩ := phase_of_recorderEnd? failed
      have raises := informed.raises lane running
      rw [phase] at raises
      exact raises
  case returns =>
    intro error finished idle still
    cases pending : session.outcome? with
    | some outcome => exact ⟨outcome, rfl⟩
    | none =>
        rcases thread_step_of_finished informed.manned (.of_play played) follows finished pending with
          ⟨next, moved⟩ | ⟨next, moved⟩
        · cases idle.symm.trans moved
        · cases still.symm.trans moved
  case finite => exact threadSteps_le played

/-- Somebody asks for a stop, the source ends with an error all the same, and the output cannot
be flushed. -/
def stoppedRun : List Move :=
  List.flatten [deliveringRun, [.record .userInterrupt, .raise, .finish (some (.transfer "x"))],
    drainingRun 9]

/-- The result is a summary with the request and the failure in it. -/
theorem verdict_stopped :
    ∃ session summary,
      (start { warmUpBytes := 0 } none
        (some (accepting (.failed { detail := some "disk gone" })))).play
          (stoppedRun ++ [.caller, .caller]) = some session ∧
        session.outcome? = some (.summary summary) ∧ summary.stopReason = some .userInterrupt ∧
        summary.writeError = some (CaptureError.io { detail := some "disk gone" }).message ∧
        Verdict { warmUpBytes := 0 } none
          (some (accepting (.failed { detail := some "disk gone" })))
          (stoppedRun ++ [.caller, .caller]) session := by
  have told : ((start { warmUpBytes := 0 } none
      (some (accepting (.failed { detail := some "disk gone" })))).play stoppedRun).map
        (fun last => (last.state.reason, last.recorderEnd?, last.phase.joining?)) =
        some (some .userInterrupt, some (.failed { detail := some "disk gone" }),
          some (.transfer "x")) := by cbv
  obtain ⟨last, drained, told⟩ := Option.map_eq_some_iff.mp told
  simp only [Prod.mk.injEq] at told
  obtain ⟨asked, ended, phase⟩ := told
  obtain ⟨session, concluded, known⟩ :=
    summary_of_failed (CallerPhase.eq_joining phase) ended asked
  have played : (start { warmUpBytes := 0 } none
      (some (accepting (.failed { detail := some "disk gone" })))).play
        (stoppedRun ++ [.caller, .caller]) = some session := by
    rw [play_append, drained]
    exact concluded
  exact ⟨session, _, played, known, rfl, rfl, verdict_of_play played⟩

end Session

end SampleCapture
