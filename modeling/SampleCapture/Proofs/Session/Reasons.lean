import SampleCapture.Proofs.Session.Books

/-!
# The reason of a session

The stop requests of a run in the order in which they are recorded, whoever makes them. The
reason of the first one is the reason of the session, and it stays, as the stop flag does.
-/

namespace SampleCapture

/-! ## Who asks for what -/

def Effect.reason? : Effect → Option StopReason
  | .record reason => some reason
  | .log _ | .count _ | .raise => none

def CallerPhase.reason? (phase : CallerPhase) : Option StopReason :=
  phase.next?.bind fun row => row.1.reason?

def RecorderPhase.reason? : RecorderPhase → Option StopReason
  | .failing (effect :: _) _ => effect.reason?
  | _ => none

theorem LoggedState.reason_perform (shared : LoggedState) (effect : Effect) :
    (shared.perform effect).state.reason = shared.state.reason.or effect.reason? := by
  cases effect with
  | record reason =>
      change some (shared.state.reason.getD reason) = shared.state.reason.or (some reason)
      cases shared.state.reason <;> rfl
  | log event | count amounts | raise => exact Option.or_none.symm

theorem LoggedState.stopping_perform {shared : LoggedState} (effect : Effect)
    (up : shared.state.stopping = true) :
    (shared.perform effect).state.stopping = true := by
  cases effect with
  | raise => rfl
  | log event | count amounts | record reason => exact up

theorem LoggedState.stopping_of_perform {shared : LoggedState} {effect : Effect}
    (up : (shared.perform effect).state.stopping = true) :
    shared.state.stopping = true ∨ effect = .raise := by
  cases effect with
  | raise => exact .inr rfl
  | log event | count amounts | record reason => exact .inl up

namespace Session

def request? (session : Session) : Move → Option StopReason
  | .caller => session.phase.reason?
  | .recorder => session.lane.bind fun lane => lane.recorder.phase.reason?
  | .record reason => some reason
  | .deliver _ _ | .ask _ | .finish _ | .raise => none

def requests (session : Session) : List Move → List StopReason
  | [] => []
  | move :: moves =>
      (session.request? move).toList ++ (session.step? move).elim [] fun next => next.requests moves

end Session

/-! ## The first request decides -/

/-- What the shared state keeps from one moment to a later one. -/
structure SharedState.Lasts (state later : SharedState) : Prop where
  reason : state.reason ≠ none → later.reason = state.reason
  stopping : state.stopping = true → later.stopping = true

theorem SharedState.Lasts.refl (state : SharedState) : state.Lasts state :=
  ⟨fun _ => rfl, id⟩

theorem SharedState.Lasts.given {state later : SharedState} (lasts : state.Lasts later)
    (given : state.reason ≠ none) : later.reason ≠ none :=
  lasts.reason given ▸ given

/-- A step of the recorder carries out an effect of a failure, or it leaves the reason and the
flag alone. -/
theorem RecorderThread.Step.request {thread next : RecorderThread} (step : thread.Step next) :
    (∃ effect effects fault, thread.recorder.phase = .failing (effect :: effects) fault ∧
        next.shared.state = (thread.shared.perform effect).state) ∨
      thread.recorder.phase.reason? = none ∧
        next.shared.state.reason = thread.shared.state.reason ∧
        next.shared.state.stopping = thread.shared.state.stopping := by
  cases step with
  | fail phase => exact .inl ⟨_, _, _, phase, rfl⟩
  | start phase | notice phase | slice phase | noticed phase | pop phase | write phase
  | count phase | flush phase | finish phase | failed phase | leave phase | depart phase
  | release phase => exact .inr ⟨by rw [phase]; rfl, rfl, rfl⟩

namespace Session

/-- A step of the caller carries out the next effect of a row, or it leaves the reason and the
flag alone. -/
theorem CallerStep.request {session next : Session} (step : session.CallerStep next) :
    (∃ effect after, session.phase.next? = some (effect, after) ∧
        next = (session.perform effect).goTo after) ∨
      session.phase.reason? = none ∧ next.state.reason = session.state.reason ∧
        next.state.stopping = session.state.stopping := by
  cases step with
  | perform row => exact .inl ⟨_, _, row, rfl⟩
  | @report report phase =>
      refine .inr ⟨by rw [phase]; rfl, ?_⟩
      have same := session.counters_reported report
      exact ⟨congrArg SharedState.reason same, congrArg SharedState.stopping same⟩
  | @conclude error writeError phase =>
      obtain ⟨log, concluded⟩ := session.conclude_eq error writeError
      refine .inr ⟨by rw [phase]; rfl, ?_⟩
      rw [concluded]
      exact ⟨rfl, rfl⟩
  | @join error lane ending phase =>
      refine .inr ⟨by rw [phase]; rfl, ?_⟩
      rw [state_joined]
      exact ⟨rfl, rfl⟩
  | asked phase | ingest phase | skip phase | offer phase | push phase | settled phase
  | answer phase | unlink phase | close phase | closed phase | endTransfer phase | wait phase
  | ended phase | joinNobody phase | collapsed phase =>
      exact .inr ⟨by rw [phase]; rfl, rfl, rfl⟩

/-- A move gives a session without a reason the one that it records. -/
theorem Step.reason_eq {session next : Session} {move : Move} (step : session.Step move next) :
    next.state.reason = session.state.reason.or (session.request? move) := by
  cases step with
  | caller step =>
      rcases step.request with ⟨effect, after, row, rfl⟩ | ⟨silent, same, -⟩
      · have asked : session.request? .caller = effect.reason? := by
          rw [request?, CallerPhase.reason?, row]
          rfl
        rw [asked]
        exact session.shared.reason_perform effect
      · rw [same, request?, silent, Option.or_none]
  | @recorder lane thread running step =>
      have asked : session.request? .recorder = lane.recorder.phase.reason? := by
        rw [request?, running]
        rfl
      rw [asked]
      rcases step.request with ⟨effect, effects, fault, phase, same⟩ | ⟨silent, same, -⟩
      · change lane.recorder.phase = _ at phase
        rw [phase]
        exact (congrArg SharedState.reason same).trans (LoggedState.reason_perform _ effect)
      · change lane.recorder.phase.reason? = none at silent
        rw [silent, Option.or_none]
        exact same
  | deliver | ask | finish | raise => exact Option.or_none.symm
  | record reason =>
      change some (session.state.reason.getD reason) = session.state.reason.or (some reason)
      cases session.state.reason <;> rfl

theorem Step.lasts {session next : Session} {move : Move} (step : session.Step move next) :
    session.state.Lasts next.state := by
  constructor
  case reason =>
    intro given
    obtain ⟨reason, known⟩ := Option.ne_none_iff_exists'.mp given
    rw [step.reason_eq, known]
    rfl
  case stopping =>
    intro up
    cases step with
    | caller step =>
        rcases step.request with ⟨effect, after, row, rfl⟩ | ⟨-, -, same⟩
        · exact LoggedState.stopping_perform effect up
        · rw [same, up]
    | @recorder lane thread running step =>
        rcases step.request with ⟨effect, effects, fault, phase, same⟩ | ⟨-, -, same⟩
        · exact (congrArg SharedState.stopping same).trans (LoggedState.stopping_perform effect up)
        · exact same.trans up
    | deliver | ask | finish | record => exact up
    | raise => rfl

/-- The reason of a session is that of the first request, of those recorded in the run if
there has been none before. -/
theorem reason_of_play {session last : Session} {moves : List Move}
    (played : session.play moves = some last) :
    last.state.reason = session.state.reason.or (session.requests moves).head? := by
  induction moves generalizing session with
  | nil =>
      cases played
      exact Option.or_none.symm
  | cons move moves ih =>
      obtain ⟨next, moved, rest⟩ := Option.bind_eq_some_iff.mp played
      rw [ih rest, (Step.of_step? moved).reason_eq, requests, moved, Option.or_assoc]
      cases session.request? move <;> rfl

/-- A session that has got a reason has got it by one of its moves. -/
theorem request_of_play {session last : Session} {moves : List Move} {reason : StopReason}
    (played : session.play moves = some last) (unasked : session.state.reason = none)
    (given : last.state.reason = some reason) :
    ∃ before move after waiting, moves = before ++ move :: after ∧
      session.play before = some waiting ∧ waiting.state.reason = none ∧
        waiting.request? move = some reason := by
  induction moves generalizing session with
  | nil =>
      cases played
      cases unasked.symm.trans given
  | cons move moves ih =>
      obtain ⟨next, moved, rest⟩ := Option.bind_eq_some_iff.mp played
      cases known : next.state.reason with
      | none =>
          obtain ⟨before, later, after, waiting, rfl, reached, still, request⟩ := ih rest known
          exact ⟨move :: before, later, after, waiting, rfl, by rw [play, moved]; exact reached,
            still, request⟩
      | some first =>
          have same : first = reason := by
            have last := reason_of_play rest
            rw [known, given] at last
            exact (Option.some.inj last).symm
          refine ⟨[], move, moves, session, rfl, rfl, unasked, ?_⟩
          have asked := (Step.of_step? moved).reason_eq
          rw [unasked, known, same] at asked
          exact asked.symm

theorem reason_start (config : CaptureOptions) (preStop : Option StopReason)
    (output : Option Writer) : (start config preStop output).state.reason = preStop := by
  cases preStop <;> cases output <;> rfl

end Session

end SampleCapture
