import SampleCapture.Proofs.Intake.Answers
import SampleCapture.Proofs.Session.Lines

/-!
# The journal of a run

All lines of a run with any consumer, those of the caller and those of others, in the order in
which they have been written. At most one of them is about a stop request, and if nobody else
has asked for the stop, the line that tells why stands directly in front of it.
-/

namespace SampleCapture

/-! ## Rows of effects -/

/-- The line tells why the caller asks for a stop. -/
def Event.Heralds : Event → StopReason → Prop
  | .overflowFlagged place, reason => reason = .hardwareOverflow place
  | .samplesRefused _ _, reason => reason = .writeFailed
  | _, _ => False

/-- No effect of the row names the line of a stop request, and a stop request inside of it comes
directly behind the line that tells why. -/
def Effect.Heralded : List Effect → Prop
  | [] => True
  | first :: rest => first.Quiet ∧
      (∀ reason, rest.head? = some (.record reason) →
        ∃ line, first.line? = some line ∧ line.Heralds reason) ∧ Heralded rest

namespace Effect

theorem Heralded.quiet {effects : List Effect} (heralded : Heralded effects) :
    ∀ effect ∈ effects, effect.Quiet := by
  induction effects with
  | nil => exact nofun
  | cons first rest ih =>
      obtain ⟨quiet, -, others⟩ := heralded
      intro effect member
      rcases List.mem_cons.mp member with rfl | later
      · exact quiet
      · exact ih others effect later

theorem heralded_stop (reason : StopReason) : Heralded (stop reason) :=
  ⟨nofun, nofun, nofun, nofun, trivial⟩

end Effect

namespace Intake

/-- The effects of a flagged byte, with others behind them that do not begin with a request. -/
theorem heralded_overflowEffects (place : UInt64) {rest : List Effect}
    (heralded : Effect.Heralded rest) (calm : ∀ reason, rest.head? ≠ some (.record reason)) :
    Effect.Heralded (overflowEffects place ++ rest) := by
  refine ⟨nofun, nofun, ?_, ?_, nofun, nofun, nofun, ?_, heralded⟩
  · rintro line named
    cases named
    rfl
  · rintro reason next
    cases next
    exact ⟨_, rfl, rfl⟩
  · exact fun reason next => absurd next (calm reason)

theorem heralded_marks (intake : Intake) (indices : List Nat) :
    let marks := indices.flatMap fun index => overflowEffects (intake.liveCount + index.toUInt64)
    Effect.Heralded marks ∧ ∀ reason, marks.head? ≠ some (.record reason) := by
  induction indices with
  | nil => exact ⟨trivial, nofun⟩
  | cons index indices ih =>
      refine ⟨?_, nofun⟩
      rw [List.flatMap_cons]
      exact heralded_overflowEffects _ ih.1 ih.2

/-- A burst asks for a stop only behind the line of a flagged byte. -/
theorem heralded_plan (intake : Intake) (receivedBefore : UInt64) (burst : List UInt8) :
    Effect.Heralded (intake.plan receivedBefore burst).effects ∧
      ∀ reason, (intake.plan receivedBefore burst).effects.head? ≠ some (.record reason) := by
  unfold plan
  split
  · exact ⟨trivial, nofun⟩
  · obtain ⟨marks, calm⟩ := intake.heralded_marks
      (flaggedIndices 0 (intake.liveOf receivedBefore burst))
    rename_i live
    rw [live] at marks calm
    unfold warmUpEffects
    split
    · exact ⟨marks, calm⟩
    · refine ⟨⟨?_, fun reason next => absurd next (calm reason), marks⟩, nofun⟩
      rintro line named
      cases named
      rfl

theorem heralded_afterPush (samples : List UInt8) (result : PushResult) :
    Effect.Heralded (afterPush samples result) ∧
      ∀ reason, (afterPush samples result).head? ≠ some (.record reason) := by
  cases result with
  | accepted => exact ⟨⟨nofun, nofun, trivial⟩, nofun⟩
  | refused =>
      refine ⟨⟨?_, ?_, Effect.heralded_stop _⟩, nofun⟩
      · rintro line named
        cases named
        rfl
      · rintro reason next
        cases next
        exact ⟨_, rfl, rfl⟩

end Intake

namespace Session

/-- A step of the caller carries out the next effect of a row, or it begins a row. One that begins
with a stop request is about the end of the transfer or a crash of the recorder. -/
theorem CallerStep.row {session next : Session} (step : session.CallerStep next) :
    (∃ effect, session.phase.next? = some (effect, next.phase)) ∨
      session.phase.next? = none ∧ Effect.Heralded next.phase.effects ∧
        ∀ reason, next.phase.effects.head? = some (.record reason) → reason = .transferEnded ∨
          ∃ lane, session.lane = some lane ∧ lane.recorder.phase = .ended .crashed := by
  cases step with
  | perform row => exact .inl ⟨_, row⟩
  | @ingest burst report phase =>
      obtain ⟨heralded, calm⟩ := session.intake.heralded_plan session.state.counters.received burst
      refine .inr ⟨by rw [phase]; rfl, heralded, fun reason next => absurd next (calm reason)⟩
  | @push samples report lane channel result phase =>
      refine .inr ⟨by rw [phase]; rfl, ?_⟩
      rw [phase_goTo]
      cases result with
      | none => exact ⟨trivial, nofun⟩
      | some result =>
          obtain ⟨heralded, calm⟩ := Intake.heralded_afterPush samples result
          exact ⟨heralded, fun reason next => absurd next (calm reason)⟩
  | endTransfer phase =>
      refine .inr ⟨by rw [phase]; rfl, Effect.heralded_stop _, ?_⟩
      rintro reason next
      cases next
      exact .inl rfl
  | @conclude error writeError phase =>
      obtain ⟨log, concluded⟩ := session.conclude_eq error writeError
      rw [concluded, phase]
      exact .inr ⟨rfl, trivial, nofun⟩
  | @join error lane ending phase running ended =>
      rw [phase]
      cases ending with
      | finished | failed => exact .inr ⟨rfl, trivial, nofun⟩
      | crashed => exact .inr ⟨rfl, Effect.heralded_stop _, fun _ _ => .inr ⟨lane, running, ended⟩⟩
  | asked phase | skip phase | offer phase | settled phase | report phase | answer phase
  | unlink phase | close phase | closed phase | wait phase | ended phase | joinNobody phase
  | collapsed phase => exact .inr ⟨by rw [phase]; rfl, trivial, nofun⟩

end Session

theorem LoggedState.lines_of_line? (shared : LoggedState) {effect : Effect} {line : Event}
    (named : effect.line? = some line) : shared.lines effect = [line] := by
  cases effect with
  | log event =>
      cases named
      rfl
  | count | record | raise => cases named

namespace CallerRun

/-! ## The journal -/

/-- The lines that a move adds to the journal: what the caller's log grows by, or the line of
somebody else's stop request. -/
def lines (run : CallerRun) (move : CallerMove) (next : CallerRun) : List Event :=
  match move with
  | .session (.record reason) => run.session.shared.lines (.record reason)
  | _ => next.session.log.toList.drop run.session.log.size

def journal (run : CallerRun) : List CallerMove → List Event
  | [] => []
  | move :: moves =>
      (run.step? move).elim [] fun next => run.lines move next ++ next.journal moves

theorem journal_snoc {first run next : CallerRun} {past : List CallerMove} {move : CallerMove}
    (reached : first.play past = some run) (moved : run.step? move = some next) :
    first.journal (past ++ [move]) = first.journal past ++ run.lines move next := by
  induction past generalizing first with
  | nil =>
      cases reached
      change (run.step? move).elim [] (fun next => run.lines move next ++ next.journal []) = _
      rw [moved]
      exact List.append_nil _
  | cons earlier past ih =>
      obtain ⟨second, stepped, rest⟩ := Option.bind_eq_some_iff.mp reached
      rw [List.cons_append, journal, journal, stepped, Option.elim_some, Option.elim_some, ih rest,
        List.append_assoc]

theorem lines_caller {run : CallerRun} {next : Session} (step : run.session.CallerStep next) :
    run.lines (.session .caller) (run.after next) = run.session.lines := by
  change next.log.toList.drop run.session.log.size = _
  rw [step.log, ← Array.length_toList, List.drop_left]

/-- A move that leaves the caller's log alone. -/
theorem lines_of_log {run next : CallerRun} {move : CallerMove}
    (other : ∀ reason, move ≠ .session (.record reason))
    (same : next.session.log = run.session.log) : run.lines move next = [] := by
  unfold lines
  split
  · exact absurd rfl (other _)
  · rw [same, ← Array.length_toList, List.drop_length]

/-- Somebody else has asked for a stop with this reason, or it is the end of the transfer. -/
def Sought (moves : List CallerMove) (reason : StopReason) : Prop :=
  .session (.ask reason) ∈ moves ∨ .session (.record reason) ∈ moves ∨ reason = .transferEnded

theorem Sought.later {moves : List CallerMove} {reason : StopReason}
    (sought : Sought moves reason)
    (move : CallerMove) : Sought (moves ++ [move]) reason :=
  sought.imp (List.mem_append_left _) (Or.imp_left (List.mem_append_left _))

/-- The line of a stop request stands directly behind the one that tells why. -/
def Told (journal : List Event) (reason : StopReason) : Prop :=
  ∃ earlier line later, journal = earlier ++ line :: .stopRequested reason :: later ∧
    line.Heralds reason

theorem Told.later {journal : List Event} {reason : StopReason} (told : Told journal reason)
    (lines : List Event) : Told (journal ++ lines) reason := by
  obtain ⟨earlier, line, later, rfl, heralds⟩ := told
  exact ⟨earlier, line, later ++ lines, by simp, heralds⟩

/-- What a journal tells about the stop requests of a run. -/
structure Reported (moves : List CallerMove) (journal : List Event) (session : Session) :
    Prop where
  still : ∀ lane, session.lane = some lane → lane.recorder.phase = .starting
  row : Effect.Heralded session.phase.effects
  stops : journal.filterMap Event.stop? = session.state.reason.toList
  /-- A request that is about to give the reason. -/
  coming : session.state.reason = none → ∀ reason,
    session.phase.effects.head? = some (.record reason) →
      Sought moves reason ∨ ∃ line, journal.getLast? = some line ∧ line.Heralds reason
  given : ∀ reason, session.state.reason = some reason →
    Sought moves reason ∨ Told journal reason

namespace Reported

variable {moves : List CallerMove} {journal : List Event} {session next : Session}

/-- What is known about the reason stays known. -/
theorem given_later (reported : Reported moves journal session) (move : CallerMove)
    (lines : List Event) {reason : StopReason} (known : session.state.reason = some reason) :
    Sought (moves ++ [move]) reason ∨ Told (journal ++ lines) reason :=
  (reported.given reason known).imp (fun sought => sought.later move) fun told => told.later lines

/-- A move that writes nothing and begins no request. -/
theorem quiet (reported : Reported moves journal session) (move : CallerMove)
    (still : ∀ lane, next.lane = some lane → lane.recorder.phase = .starting)
    (reason : next.state.reason = session.state.reason)
    (effects : next.phase.effects = session.phase.effects ∨ next.phase.effects = []) :
    Reported (moves ++ [move]) journal next := by
  constructor
  case still => exact still
  case row =>
    rcases effects with same | none
    · rw [same]
      exact reported.row
    · rw [none]
      trivial
  case stops => rw [reason, reported.stops]
  case coming =>
    rintro unasked other first
    rcases effects with same | none
    · rw [same] at first
      exact (reported.coming (reason ▸ unasked) other first).imp_left fun sought => sought.later move
    · rw [none] at first
      cases first
  case given =>
    intro other known
    exact (reported.given other (reason ▸ known)).imp_left fun sought => sought.later move

/-- The next effect of the row that the caller works through. -/
theorem perform (reported : Reported moves journal session) (step : session.CallerStep next)
    (still : ∀ lane, next.lane = some lane → lane.recorder.phase = .starting) (move : CallerMove)
    {effect : Effect} (row : session.phase.next? = some (effect, next.phase)) :
    Reported (moves ++ [move]) (journal ++ session.lines) next := by
  have effects := CallerPhase.effects_next? row
  have heralded := reported.row
  rw [effects] at heralded
  obtain ⟨-, behind, rest⟩ := heralded
  have reason : next.state.reason = session.state.reason.or effect.reason? := by
    rw [(Session.Step.caller step).reason_eq, Session.request?, CallerPhase.reason?, row]
    rfl
  constructor
  case still => exact still
  case row => exact rest
  case stops =>
    rw [List.filterMap_append, reported.stops]
    exact step.stops reported.row.quiet
  case coming =>
    intro unasked other first
    obtain ⟨line, named, heralds⟩ := behind other first
    rw [Session.lines_of_next? row, session.shared.lines_of_line? named]
    exact .inr ⟨line, List.getLast?_concat .., heralds⟩
  case given =>
    intro other known
    rw [reason] at known
    rcases Option.or_eq_some_iff.mp known with before | ⟨unasked, requested⟩
    · exact reported.given_later move _ before
    · have record : effect = .record other := by
        cases effect with
        | record given =>
            cases requested
            rfl
        | log | count | raise => cases requested
      subst record
      have first : session.phase.effects.head? = some (.record other) := by
        rw [effects]
        rfl
      rcases reported.coming unasked other first with sought | ⟨line, last, heralds⟩
      · exact .inl (sought.later move)
      · obtain ⟨earlier, rfl⟩ := List.getLast?_eq_some_iff.mp last
        refine .inr ⟨earlier, line, [], ?_, heralds⟩
        have line : session.shared.lines (.record other) = [.stopRequested other] := if_pos unasked
        rw [Session.lines_of_next? row, line, List.append_assoc]
        rfl

theorem callerStep (reported : Reported moves journal session) (step : session.CallerStep next)
    (still : ∀ lane, next.lane = some lane → lane.recorder.phase = .starting)
    (move : CallerMove) :
    Reported (moves ++ [move]) (journal ++ session.lines) next := by
  rcases step.row with ⟨effect, row⟩ | ⟨none, heralded, begins⟩
  · exact reported.perform step still move row
  · have reason : next.state.reason = session.state.reason := by
      rw [(Session.Step.caller step).reason_eq, Session.request?, CallerPhase.reason?, none]
      exact Option.or_none
    constructor
    case still => exact still
    case row => exact heralded
    case stops =>
      rw [List.filterMap_append, reported.stops]
      exact step.stops reported.row.quiet
    case coming =>
      intro unasked other first
      rcases begins other first with ended | ⟨lane, running, crashed⟩
      · exact .inl (.inr (.inr ended))
      · rw [reported.still lane running] at crashed
        cases crashed
    case given =>
      intro other known
      exact reported.given_later move _ (reason ▸ known)

/-- Somebody else's stop request. -/
theorem record (reported : Reported moves journal session) (reason : StopReason) :
    Reported (moves ++ [.session (.record reason)])
      (journal ++ session.shared.lines (.record reason))
      { session with state := session.state.record reason, askers := session.askers + 1 } := by
  constructor
  case still => exact reported.still
  case row => exact reported.row
  case stops =>
    rw [List.filterMap_append, reported.stops]
    exact session.shared.stops_lines (show Effect.Quiet (.record reason) from nofun)
  case coming => exact fun unasked => absurd unasked (Option.some_ne_none _)
  case given =>
    intro other known
    cases before : session.state.reason with
    | some first =>
        rw [SharedState.reason_record, before] at known
        exact reported.given_later _ _ (before.trans known)
    | none =>
        rw [SharedState.reason_record, before] at known
        cases known
        exact .inl (.inr (.inl (List.mem_append_right _ (List.mem_singleton_self _))))

/-- The source asks for a stop. -/
theorem ask (reported : Reported moves journal session) (reason : StopReason) :
    Reported (moves ++ [.session (.ask reason)]) journal
      (session.goTo (.asking (Effect.stop reason))) := by
  constructor
  case still => exact reported.still
  case row => exact Effect.heralded_stop reason
  case stops => exact reported.stops
  case coming =>
    rintro unasked other first
    cases first
    exact .inl (.inl (List.mem_append_right _ (List.mem_singleton_self _)))
  case given =>
    exact fun other known => (reported.given other known).imp_left fun sought => sought.later _

/-- A move that leaves the caller's log alone adds nothing to the journal. -/
theorem silent {run after : CallerRun} {move : CallerMove}
    (reported : Reported (moves ++ [move]) journal after.session)
    (other : ∀ reason, move ≠ .session (.record reason))
    (same : after.session.log = run.session.log) :
    Reported (moves ++ [move]) (journal ++ run.lines move after) after.session := by
  rw [lines_of_log other same, List.append_nil]
  exact reported

theorem step {run after : CallerRun} {move : CallerMove}
    (reported : Reported moves journal run.session)
    (step : run.Step move after) :
    Reported (moves ++ [move]) (journal ++ run.lines move after) after.session := by
  have still := step.still reported.still
  cases step with
  | session moving step =>
      cases step with
      | caller step =>
          rw [lines_caller step]
          exact reported.callerStep step still _
      | recorder => exact absurd rfl moving
      | record reason => exact reported.record reason
      | ask reason ready => exact (reported.ask reason).silent nofun rfl
      | raise asked => exact (reported.quiet _ still rfl (.inl rfl)).silent nofun rfl
      | finish error ready => exact (reported.quiet _ still rfl (.inr rfl)).silent nofun rfl
      | deliver burst report ready =>
          refine (reported.quiet _ still rfl (.inr ?_)).silent nofun rfl
          change (run.session.goTo _).phase.effects = []
          rw [Session.phase_goTo]
          split <;> rfl
  | consumer silent running use =>
      refine (reported.quiet _ still rfl (.inl rfl)).silent ?_ rfl
      rintro reason rfl
      cases silent

theorem of_play {config : CaptureOptions} {output : Option Writer} {run : CallerRun}
    (played : (CallerRun.start config output).play moves = some run) :
    Reported moves ((CallerRun.start config output).journal moves) run.session := by
  have reached : (CallerRun.start config output).play [] = some (.start config output) := rfl
  refine play_moves (motive := fun past run =>
    Reported past ((CallerRun.start config output).journal past) run.session) ?_ reached played ?_
  · intro past run next move reached moved reported
    rw [journal_snoc reached moved]
    exact reported.step (.of_step? moved)
  · have unasked : (CallerRun.start config output).session.state.reason = none :=
      Session.reason_start config none output
    have phase : (CallerRun.start config output).session.phase = .atSource :=
      Session.phase_start config none output
    refine ⟨still_start config output, ?_, ?_, ?_, ?_⟩
    · rw [phase]
      trivial
    · rw [unasked]
      rfl
    · rw [phase]
      exact nofun
    · rw [unasked]
      exact nofun

end Reported

end CallerRun

end SampleCapture
