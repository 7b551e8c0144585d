import SampleCapture.Proofs.Session.Steps

/-!
# The result of the source

The source ends at most once in a run, and the phase of the caller tells whether it has
ended and, up to the join, with which result.
-/

namespace SampleCapture

namespace Move

def result? : Move → Option (Option CaptureError)
  | .finish error => some error
  | .caller | .recorder | .deliver _ _ | .ask _ | .record _ | .raise => none

def results (moves : List Move) : List (Option CaptureError) :=
  moves.filterMap result?

theorem mem_results {moves : List Move} {error : Option CaptureError} :
    error ∈ results moves ↔ .finish error ∈ moves := by
  rw [results, List.mem_filterMap]
  constructor
  · rintro ⟨move, member, same⟩
    cases move with
    | finish other =>
        cases same
        exact member
    | caller | recorder | deliver | ask | record | raise => cases same
  · exact fun member => ⟨_, member, rfl⟩

theorem results_append (first second : List Move) :
    results (first ++ second) = results first ++ results second :=
  List.filterMap_append

end Move

def CallerPhase.Follows (results : List (Option CaptureError)) : CallerPhase → Prop
  | .finishing error | .closing error | .checking error | .ending _ error | .joining error
  | .concluding error _ => results = [error]
  | .collapsing _ | .returned _ => ∃ error, results = [error]
  | .atSource | .asking _ | .counting _ _ | .marking _ _ _ | .pushing _ _ | .settling _ _
  | .reporting _ | .answering => results = []

theorem CallerPhase.follows_next? {phase after : CallerPhase} {effect : Effect}
    (row : phase.next? = some (effect, after)) (results : List (Option CaptureError)) :
    after.Follows results ↔ phase.Follows results := by
  unfold CallerPhase.next? at row
  split at row <;> cases row <;> rfl

namespace Session

theorem phase_start (config : CaptureOptions) (preStop : Option StopReason)
    (output : Option Writer) : (start config preStop output).phase = .atSource := by
  cases output <;> rfl

theorem CallerStep.follows {session next : Session} (step : session.CallerStep next)
    {results : List (Option CaptureError)} (follows : session.phase.Follows results) :
    next.phase.Follows results := by
  cases step with
  | perform row => exact (CallerPhase.follows_next? row results).mpr follows
  | @conclude error writeError phase =>
      obtain ⟨log, concluded⟩ := session.conclude_eq error writeError
      rw [phase] at follows
      rw [concluded]
      exact ⟨error, follows⟩
  | @join error lane ending phase =>
      rw [phase] at follows
      cases ending with
      | finished | failed => exact follows
      | crashed => exact ⟨error, follows⟩
  | @push samples report lane channel result phase =>
      rw [phase] at follows
      rcases result with _ | _ <;> exact follows
  | asked phase | ingest phase | skip phase | offer phase | settled phase | report phase
  | answer phase | unlink phase | close phase | closed phase | endTransfer phase | wait phase
  | ended phase | joinNobody phase | collapsed phase =>
      rw [phase] at follows
      exact follows

theorem Step.follows {session next : Session} {move : Move} (step : session.Step move next)
    {moves : List Move} (follows : session.phase.Follows (Move.results moves)) :
    next.phase.Follows (Move.results (moves ++ [move])) := by
  rw [Move.results_append]
  cases step with
  | caller step => exact (List.append_nil _).symm ▸ step.follows follows
  | recorder running step => exact (List.append_nil _).symm ▸ follows
  | deliver burst report ready =>
      rw [ready] at follows
      rw [phase_goTo, show Move.results moves = [] from follows]
      split <;> rfl
  | ask reason ready | finish error ready =>
      rw [ready] at follows
      rw [phase_goTo, show Move.results moves = [] from follows]
      rfl
  | record reason | raise asked => exact (List.append_nil _).symm ▸ follows

/-- Along a run the caller knows how the source has ended. -/
theorem follows_of_play {config : CaptureOptions} {preStop : Option StopReason}
    {output : Option Writer} {moves : List Move} {session : Session}
    (played : (start config preStop output).play moves = some session) :
    session.phase.Follows (Move.results moves) := by
  refine play_induction (motive := fun past session =>
    session.phase.Follows (Move.results past)) (fun step follows => step.follows follows) [] played ?_
  rw [phase_start]
  rfl

end Session

end SampleCapture
