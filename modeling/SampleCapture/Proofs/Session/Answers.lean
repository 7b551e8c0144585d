import SampleCapture.Proofs.Session.Results
import SampleCapture.Reader

/-!
# The answers to the source

The source gets one answer for each call, in the last step of the call, and nothing else
touches the answers that have been given.
-/

namespace SampleCapture

namespace Move

def delivery? : Move → Option Delivery
  | .deliver burst report => some { bytes := burst, report := report }
  | .caller | .recorder | .ask _ | .finish _ | .record _ | .raise => none

def deliveries (moves : List Move) : List Delivery :=
  moves.filterMap delivery?

theorem deliveries_append (first second : List Move) :
    deliveries (first ++ second) = deliveries first ++ deliveries second :=
  List.filterMap_append

theorem flatMap_deliveries (moves : List Move) :
    (deliveries moves).flatMap (·.bytes) = delivered moves := by
  induction moves with
  | nil => rfl
  | cons move moves ih =>
      cases move with
      | deliver burst report => exact congrArg (burst ++ ·) ih
      | caller | recorder | ask | finish | record | raise => exact ih

end Move

def CallerPhase.inCall : CallerPhase → Bool
  | .counting _ _ | .marking _ _ _ | .pushing _ _ | .settling _ _ | .reporting _
  | .answering => true
  | .atSource | .asking _ | .finishing _ | .closing _ | .checking _ | .ending _ _ | .joining _
  | .collapsing _ | .concluding _ _ | .returned _ => false

theorem CallerPhase.inCall_next? {phase after : CallerPhase} {effect : Effect}
    (row : phase.next? = some (effect, after)) : after.inCall = phase.inCall := by
  unfold CallerPhase.next? at row
  split at row <;> cases row <;> rfl

namespace Session

/-- An answer is given at the end of a call. -/
theorem CallerStep.answers {session next : Session} (step : session.CallerStep next) :
    next.answers = session.answers ∧ next.phase.inCall = session.phase.inCall ∨
      session.phase = .answering ∧ next.phase = .atSource ∧
        next.answers = session.answers.push (Intake.answer session.state) := by
  cases step with
  | perform row => exact .inl ⟨rfl, CallerPhase.inCall_next? row⟩
  | answer phase => exact .inr ⟨phase, rfl, rfl⟩
  | @push samples report lane channel result phase =>
      refine .inl ⟨rfl, ?_⟩
      rw [phase]
      rcases result with _ | _ <;> rfl
  | @conclude error writeError phase =>
      obtain ⟨log, concluded⟩ := session.conclude_eq error writeError
      refine .inl ?_
      rw [concluded, phase]
      exact ⟨rfl, rfl⟩
  | @join error lane ending phase =>
      refine .inl ?_
      rw [phase]
      cases ending <;> exact ⟨rfl, rfl⟩
  | asked phase | ingest phase | skip phase | offer phase | settled phase | report phase
  | unlink phase | close phase | closed phase | endTransfer phase | wait phase | ended phase
  | joinNobody phase | collapsed phase =>
      refine .inl ⟨rfl, ?_⟩
      rw [phase]
      rfl

/-- Only the caller gives answers. -/
theorem Step.answers {session next : Session} {move : Move} (step : session.Step move next) :
    next.answers = session.answers ∨ move = .caller ∧ session.phase = .answering ∧
      next.answers = session.answers.push (Intake.answer session.state) := by
  cases step with
  | caller step =>
      rcases step.answers with ⟨same, -⟩ | ⟨phase, -, given⟩
      · exact .inl same
      · exact .inr ⟨rfl, phase, given⟩
  | recorder | deliver | ask | finish | record | raise => exact .inl rfl

/-- There is one call in progress, or none. -/
theorem Step.called {session next : Session} {move : Move} (step : session.Step move next) :
    next.answers.size + next.phase.inCall.toNat =
      session.answers.size + session.phase.inCall.toNat + (Move.deliveries [move]).length := by
  cases step with
  | caller step =>
      rcases step.answers with ⟨same, calling⟩ | ⟨phase, after, given⟩
      · rw [same, calling]
        rfl
      · rw [phase, after, given, Array.size_push]
        rfl
  | recorder | record | raise => rfl
  | deliver burst report ready =>
      rw [ready, phase_goTo]
      split <;> rfl
  | ask reason ready | finish error ready =>
      rw [ready]
      rfl

/-- There is an answer for every call but the one in progress. -/
theorem length_deliveries_of_play {config : CaptureOptions} {preStop : Option StopReason}
    {output : Option Writer} {moves : List Move} {session : Session}
    (played : (start config preStop output).play moves = some session) :
    (Move.deliveries moves).length = session.answers.size + session.phase.inCall.toNat := by
  refine play_induction (motive := fun past session =>
    (Move.deliveries past).length = session.answers.size + session.phase.inCall.toNat)
    ?_ [] played ?_
  · intro past session next move step before
    rw [Move.deliveries_append, List.length_append, before, step.called]
  · rw [phase_start]
    cases preStop <;> cases output <;> rfl

end Session

end SampleCapture
