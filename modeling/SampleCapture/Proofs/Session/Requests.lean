import SampleCapture.Proofs.Session.Results
import SampleCapture.Proofs.Session.Runs

/-!
# Stop requests in progress

How far the stop requests of a run have come, and who makes them: nobody raises the stop
flag before there is a reason, and the end of the transfer is a reason of the caller only
after the source has ended without an error.
-/

namespace SampleCapture

/-! ## Rows of effects -/

/-- How far a stop request has come of which these effects are left. -/
inductive Underway (state : SharedState) (reason : StopReason) : List Effect → Prop
  | begun : Underway state reason [.record reason, .raise]
  | recorded (given : state.reason ≠ none) : Underway state reason [.raise]
  | raised (given : state.reason ≠ none) (up : state.stopping = true) : Underway state reason []

namespace Underway

variable {state later : SharedState} {reason : StopReason} {effects : List Effect}

theorem lasts (underway : Underway state reason effects) (lasts : state.Lasts later) :
    Underway later reason effects := by
  cases underway with
  | begun => exact .begun
  | recorded given => exact .recorded (lasts.given given)
  | raised given up => exact .raised (lasts.given given) (lasts.stopping up)

theorem perform {shared : LoggedState} {effect : Effect}
    (underway : Underway shared.state reason (effect :: effects)) :
    Underway (shared.perform effect).state reason effects ∧
      (effect = .raise → shared.state.reason ≠ none) := by
  cases underway with
  | begun => exact ⟨.recorded (Option.some_ne_none _), nofun⟩
  | recorded given => exact ⟨.raised given rfl, fun _ => given⟩

/-- A stop request records no reason but its own. -/
theorem reason_of_mem (underway : Underway state reason effects) {other : StopReason}
    (member : .record other ∈ effects) : other = reason := by
  cases underway with
  | begun =>
      rcases List.mem_cons.mp member with same | impossible
      · exact Effect.record.inj same
      · cases List.mem_singleton.mp impossible
  | recorded given => cases List.mem_singleton.mp member
  | raised given up => cases member

end Underway

/-- Nothing in a row of effects raises the flag before something records a reason. -/
def Effect.Founded : List Effect → Prop
  | [] | .record _ :: _ => True
  | .raise :: _ => False
  | .log _ :: effects | .count _ :: effects => Founded effects

namespace Effect

theorem founded_append {first second : List Effect} (founded : Founded first)
    (next : Founded second) : Founded (first ++ second) := by
  induction first with
  | nil => exact next
  | cons effect effects ih =>
      cases effect with
      | record => trivial
      | raise => exact founded.elim
      | log | count => exact ih founded

theorem founded_perform {shared : LoggedState} {effect : Effect} {effects : List Effect}
    (founded : shared.state.reason ≠ none ∨ Founded (effect :: effects)) :
    ((shared.perform effect).state.reason ≠ none ∨ Founded effects) ∧
      (effect = .raise → shared.state.reason ≠ none) := by
  cases effect with
  | record reason => exact ⟨.inl (Option.some_ne_none _), nofun⟩
  | raise =>
      have given := founded.resolve_right id
      exact ⟨.inl given, fun _ => given⟩
  | log | count => exact ⟨founded, nofun⟩

end Effect

namespace Intake

/-- The effects of a burst record what they raise the flag for, and it is an overflow. -/
theorem plan_founded (intake : Intake) (receivedBefore : UInt64) (burst : List UInt8) :
    Effect.Founded (intake.plan receivedBefore burst).effects ∧
      .record .transferEnded ∉ (intake.plan receivedBefore burst).effects := by
  have marks (indices : List Nat) : Effect.Founded (indices.flatMap fun index =>
      overflowEffects (intake.liveCount + index.toUInt64)) := by
    induction indices with
    | nil => trivial
    | cons index indices ih =>
        have mark : Effect.Founded
            (overflowEffects (intake.liveCount + index.toUInt64)) := trivial
        exact Effect.founded_append mark ih
  have warmUp : Effect.Founded intake.warmUpEffects ∧
      .record .transferEnded ∉ intake.warmUpEffects := by
    unfold warmUpEffects
    split
    · exact ⟨trivial, List.not_mem_nil⟩
    · exact ⟨trivial, by simp⟩
  unfold plan
  split
  · exact ⟨trivial, List.not_mem_nil⟩
  · refine ⟨Effect.founded_append warmUp.1 (marks _), ?_⟩
    rw [List.mem_append, not_or]
    refine ⟨warmUp.2, ?_⟩
    simp [overflowEffects, Effect.stop]

theorem afterPush_founded (samples : List UInt8) (result : PushResult) :
    Effect.Founded (afterPush samples result) ∧
      .record .transferEnded ∉ afterPush samples result := by
  cases result with
  | accepted => exact ⟨trivial, by simp [afterPush]⟩
  | refused => exact ⟨trivial, by simp [afterPush, Effect.stop]⟩

end Intake

def CallerPhase.Tells (moves : List Move) (state : SharedState) : CallerPhase → Prop
  | .asking effects => ∃ reason, .ask reason ∈ moves ∧ Underway state reason effects
  | .marking effects _ _ | .settling effects _ =>
      (state.reason ≠ none ∨ Effect.Founded effects) ∧ .record .transferEnded ∉ effects
  | .ending effects error => error = none ∧ Underway state .transferEnded effects
  | .collapsing effects => Underway state .writeFailed effects
  | .joining none | .concluding none _ => state.reason ≠ none
  | .returned (.summary summary) =>
      summary.stopReason = state.reason ∧ state.reason ≠ none
  | _ => True

namespace CallerPhase.Tells

variable {moves : List Move} {state later : SharedState} {phase after : CallerPhase}

theorem lasts (tells : phase.Tells moves state) (lasts : state.Lasts later) (more : List Move) :
    phase.Tells (moves ++ more) later := by
  cases phase with
  | asking effects =>
      obtain ⟨reason, asked, underway⟩ := tells
      exact ⟨reason, List.mem_append_left _ asked, underway.lasts lasts⟩
  | marking effects | settling effects => exact ⟨tells.1.imp_left lasts.given, tells.2⟩
  | ending effects error => exact ⟨tells.1, tells.2.lasts lasts⟩
  | collapsing effects => exact Underway.lasts tells lasts
  | joining error | concluding error =>
      cases error with
      | none => exact lasts.given tells
      | some error => trivial
  | returned outcome =>
      cases outcome with
      | summary summary => exact ⟨tells.1.trans (lasts.reason tells.2).symm, lasts.given tells.2⟩
      | failure error => trivial
  | _ => trivial

theorem perform {shared : LoggedState} {effect : Effect} (tells : phase.Tells moves shared.state)
    (row : phase.next? = some (effect, after)) :
    after.Tells moves (shared.perform effect).state ∧
      (effect = .raise → shared.state.reason ≠ none) := by
  unfold CallerPhase.next? at row
  split at row
  · cases row
    obtain ⟨reason, asked, underway⟩ := tells
    exact ⟨⟨reason, asked, underway.perform.1⟩, underway.perform.2⟩
  · cases row
    have founded := Effect.founded_perform tells.1
    exact ⟨⟨founded.1, fun member => tells.2 (List.mem_cons_of_mem _ member)⟩, founded.2⟩
  · cases row
    have founded := Effect.founded_perform tells.1
    exact ⟨⟨founded.1, fun member => tells.2 (List.mem_cons_of_mem _ member)⟩, founded.2⟩
  · cases row
    exact ⟨⟨tells.1, tells.2.perform.1⟩, tells.2.perform.2⟩
  · cases row
    exact Underway.perform tells
  · cases row

end CallerPhase.Tells

namespace Session

structure Prompted (config : CaptureOptions) (output : Option Writer) (moves : List Move)
    (session : Session) : Prop where
  manned : Manned config output session
  flag : session.state.stopping = true → session.state.reason ≠ none
  /-- Whoever has still to raise the flag has given a reason. -/
  askers : 0 < session.askers → session.state.reason ≠ none
  tells : session.phase.Tells moves session.state

namespace Prompted

variable {config : CaptureOptions} {output : Option Writer} {moves : List Move}
  {session next : Session} {move : Move}

theorem start (config : CaptureOptions) (preStop : Option StopReason) (output : Option Writer) :
    Prompted config output [] (Session.start config preStop output) := by
  constructor
  case manned => exact .start config preStop output
  case flag =>
    intro up
    cases preStop with
    | none => cases output <;> cases up
    | some reason => rw [reason_start]; exact nofun
  case askers =>
    intro asked
    cases output <;> exact absurd asked (Nat.lt_irrefl 0)
  case tells =>
    rw [phase_start]
    trivial

/-- What the next phase of the caller tells. -/
theorem tells_callerStep (prompted : Prompted config output moves session)
    (step : session.CallerStep next) : next.phase.Tells moves next.state := by
  have tells := prompted.tells
  cases step with
  | perform row => exact (CallerPhase.Tells.perform tells row).1
  | @ingest burst report phase =>
      have plan := session.intake.plan_founded session.state.counters.received burst
      exact ⟨.inr plan.1, plan.2⟩
  | @push samples report lane channel result phase =>
      rcases result with _ | result
      · trivial
      · have answered := Intake.afterPush_founded samples result
        exact ⟨.inr answered.1, answered.2⟩
  | endTransfer phase unasked => exact ⟨unasked.1, .begun⟩
  | @wait error phase asked =>
      cases error with
      | none => exact prompted.flag (asked.resolve_left fun other => other rfl)
      | some error => trivial
  | @ended error phase =>
      rw [phase] at tells
      obtain ⟨rfl, underway⟩ := tells
      cases underway with
      | raised given up => exact given
  | @joinNobody error phase =>
      rw [phase] at tells
      cases error with
      | none => exact tells
      | some error => trivial
  | @join error lane ending phase =>
      rw [phase] at tells
      rw [state_joined]
      cases ending with
      | crashed => exact .begun
      | finished | failed =>
          cases error with
          | none => exact tells
          | some error => trivial
  | @conclude error writeError phase =>
      obtain ⟨log, concluded⟩ := session.conclude_eq error writeError
      rw [phase] at tells
      rw [concluded]
      dsimp only
      unfold outcomeOf
      cases error with
      | none => exact ⟨rfl, tells⟩
      | some error =>
          cases reason : session.state.reason with
          | none => trivial
          | some reason => exact ⟨reason.symm, by rw [reason]; exact nofun⟩
  | asked | skip | offer | settled | report | answer | unlink | close | closed | collapsed =>
      trivial

theorem askers_callerStep (step : session.CallerStep next) : next.askers = session.askers := by
  cases step with
  | @conclude error writeError phase =>
      obtain ⟨log, concluded⟩ := session.conclude_eq error writeError
      rw [concluded]
  | @join error lane ending => cases ending <;> rfl
  | _ => rfl

/-- Nobody raises the flag before there is a reason. -/
theorem given_of_up (prompted : Prompted config output moves session)
    (step : session.Step move next) (up : next.state.stopping = true) :
    session.state.reason ≠ none := by
  cases step with
  | caller step =>
      rcases step.request with ⟨effect, after, row, rfl⟩ | ⟨-, -, same⟩
      · have tells : session.phase.Tells moves session.shared.state := prompted.tells
        rcases LoggedState.stopping_of_perform up with before | raising
        · exact prompted.flag before
        · exact (tells.perform row).2 raising
      · exact prompted.flag (same ▸ up)
  | @recorder lane thread running step =>
      have settled := prompted.manned.settled running
      rcases step.request with ⟨effect, effects, fault, phase, same⟩ | ⟨-, -, same⟩
      · rcases LoggedState.stopping_of_perform
            ((congrArg SharedState.stopping same).symm.trans up) with
          before | rfl
        · exact prompted.flag before
        · change lane.recorder.phase = _ at phase
          have orderly := settled.orderly
          rw [phase] at orderly
          obtain ⟨written, suffix⟩ := orderly
          rcases Recorder.suffix_failEffects suffix with ⟨⟨⟩, -⟩ | ⟨⟨⟩, -⟩ | ⟨-, rfl⟩
          exact settled.excused (by rw [phase]; rfl)
      · exact prompted.flag (same.symm.trans up)
  | deliver | ask | finish | record => exact prompted.flag up
  | raise asked => exact prompted.askers asked

theorem step (prompted : Prompted config output moves session) (step : session.Step move next) :
    Prompted config output (moves ++ [move]) next := by
  have lasts := step.lasts
  constructor
  case manned => exact prompted.manned.step step
  case flag => exact fun up => lasts.given (prompted.given_of_up step up)
  case askers =>
    intro asked
    cases step with
    | caller step => exact lasts.given (prompted.askers (askers_callerStep step ▸ asked))
    | raise => exact lasts.given (prompted.askers (Nat.lt_of_lt_of_le asked (Nat.sub_le _ _)))
    | record reason => exact Option.some_ne_none _
    | recorder | deliver | ask | finish => exact lasts.given (prompted.askers asked)
  case tells =>
    cases step with
    | caller step => exact (prompted.tells_callerStep step).lasts (.refl _) _
    | recorder | record | raise => exact prompted.tells.lasts lasts _
    | deliver burst report ready =>
        rw [phase_goTo]
        split <;> trivial
    | ask reason ready =>
        exact ⟨reason, List.mem_append_right _ (List.mem_singleton_self _), .begun⟩
    | finish error ready => trivial

theorem of_play {preStop : Option StopReason}
    (played : (Session.start config preStop output).play moves = some session) :
    Prompted config output moves session :=
  play_induction (motive := fun past session => Prompted config output past session)
    (fun step prompted => prompted.step step) [] played (start config preStop output)

end Prompted

end Session

/-! ## The end of the transfer as a reason -/

/-- The recorder asks for a stop only because its sink has failed. -/
theorem RecorderPhase.Orderly.reason {phase : RecorderPhase} (orderly : phase.Orderly)
    {reason : StopReason} (asked : phase.reason? = some reason) : reason = .writeFailed := by
  cases phase with
  | failing effects fault =>
      obtain ⟨written, suffix⟩ := orderly
      cases effects with
      | nil => cases asked
      | cons effect effects =>
          rcases Recorder.suffix_failEffects suffix with ⟨rfl, -⟩ | ⟨rfl, -⟩ | ⟨rfl, -⟩
          · cases asked
          · exact (Option.some.inj asked).symm
          · cases asked
  | _ => cases asked

namespace Session

/-- The caller gives the end of the transfer as a reason only after the source has ended
without an error, or because the source has asked for it. -/
theorem Prompted.transferEnded {config : CaptureOptions} {output : Option Writer}
    {moves : List Move} {session : Session} (prompted : Prompted config output moves session)
    (follows : session.phase.Follows (Move.results moves))
    (asked : session.phase.reason? = some .transferEnded) :
    .finish none ∈ moves ∨ .ask .transferEnded ∈ moves := by
  obtain ⟨⟨effect, after⟩, row, records⟩ := Option.bind_eq_some_iff.mp asked
  have tells := prompted.tells
  have same : effect = .record .transferEnded := by
    cases effect with
    | record reason => exact congrArg _ (Option.some.inj records)
    | log | count | raise => cases records
  subst same
  unfold CallerPhase.next? at row
  split at row <;> cases row <;> rename_i phase <;> rw [phase] at tells follows
  · obtain ⟨reason, requested, underway⟩ := tells
    cases underway.reason_of_mem List.mem_cons_self
    exact .inr requested
  · exact absurd List.mem_cons_self tells.2
  · exact absurd List.mem_cons_self tells.2
  · obtain ⟨rfl, -⟩ := tells
    have finished : none ∈ Move.results moves := by
      rw [show Move.results moves = [none] from follows]
      exact List.mem_singleton_self _
    exact .inl (Move.mem_results.mp finished)
  · cases Underway.reason_of_mem tells List.mem_cons_self

/-- If nobody else gives the end of the transfer as a reason, it is the reason only if the source
has ended without an error and there was no reason until then. -/
theorem transferEnded_of_play {config : CaptureOptions} {preStop : Option StopReason}
    {output : Option Writer} {moves : List Move} {session : Session}
    (played : (start config preStop output).play moves = some session)
    (unprepared : preStop ≠ some .transferEnded) (unrecorded : .record .transferEnded ∉ moves)
    (unasked : .ask .transferEnded ∉ moves)
    (reason : session.state.reason = some .transferEnded) :
    ∃ before after waiting, moves = before ++ .caller :: after ∧
      (start config preStop output).play before = some waiting ∧ waiting.state.reason = none ∧
        waiting.request? .caller = some .transferEnded ∧ .finish none ∈ before := by
  have first := reason_of_play played
  rw [reason_start, reason] at first
  have fresh : preStop = none := by
    cases preStop with
    | none => rfl
    | some given => exact absurd first.symm unprepared
  obtain ⟨before, move, after, waiting, rfl, reached, still, request⟩ :=
    request_of_play played (by rw [reason_start, fresh]) reason
  have prompted := Prompted.of_play reached
  cases move with
  | caller =>
      refine ⟨before, after, waiting, rfl, reached, still, request, ?_⟩
      refine (prompted.transferEnded (follows_of_play reached) request).resolve_right ?_
      exact fun asked => unasked (List.mem_append_left _ asked)
  | recorder =>
      obtain ⟨lane, running, asked⟩ := Option.bind_eq_some_iff.mp request
      cases (prompted.manned.settled running).orderly.reason asked
  | record given =>
      cases request
      exact absurd (List.mem_append_right _ (List.mem_cons_self ..)) unrecorded
  | deliver | ask | finish | raise => cases request

end Session

end SampleCapture
