import SampleCapture.Proofs.Intake.CallerRun

/-!
# Answers and overflows with any consumer

What the caller tells the source and others while it takes bursts, with stop requests between
any two of its steps: which calls it answers with a stop, and that it asks for one at the
first flagged live byte.
-/

namespace SampleCapture

namespace Session

/-! ## Who raises the flag -/

/-- The effects that a step of the caller begins record what they raise the flag for. -/
theorem CallerStep.founded {session next : Session} (step : session.CallerStep next) :
    (∃ effect, session.phase.next? = some (effect, next.phase) ∧
        next.state = (session.shared.perform effect).state) ∨
      Effect.Founded next.phase.effects := by
  cases step with
  | perform row => exact .inl ⟨_, row, rfl⟩
  | ingest phase => exact .inr (Intake.plan_founded _ _ _).1
  | @push samples report lane channel result phase =>
      rcases result with _ | result
      · exact .inr trivial
      · exact .inr (Intake.afterPush_founded samples result).1
  | @conclude error writeError phase =>
      obtain ⟨log, concluded⟩ := session.conclude_eq error writeError
      rw [concluded]
      exact .inr trivial
  | @join error lane ending phase => cases ending <;> exact .inr trivial
  | asked | skip | offer | settled | report | answer | unlink | close | closed | endTransfer | wait
  | ended | joinNobody | collapsed => exact .inr trivial

/-- Whoever raises the flag has given a reason, or there has been one. -/
structure Grounded (session : Session) : Prop where
  flag : session.state.stopping = true → session.state.reason ≠ none
  askers : 0 < session.askers → session.state.reason ≠ none
  effects : session.state.reason ≠ none ∨ Effect.Founded session.phase.effects

theorem Grounded.callerStep {session next : Session} (grounded : session.Grounded)
    (step : session.CallerStep next) : next.Grounded := by
  have lasts := (Step.caller step).lasts
  have founded {effect : Effect} (row : session.phase.next? = some (effect, next.phase)) :
      ((session.shared.perform effect).state.reason ≠ none ∨ Effect.Founded next.phase.effects) ∧
        (effect = .raise → session.state.reason ≠ none) :=
    Effect.founded_perform (CallerPhase.effects_next? row ▸ grounded.effects)
  constructor
  case flag =>
    intro up
    rcases step.request with ⟨effect, after, row, rfl⟩ | ⟨-, -, same⟩
    · rcases LoggedState.stopping_of_perform up with before | raising
      · exact lasts.given (grounded.flag before)
      · exact lasts.given ((founded row).2 raising)
    · exact lasts.given (grounded.flag (same ▸ up))
  case askers =>
    intro asked
    exact lasts.given (grounded.askers (Prompted.askers_callerStep step ▸ asked))
  case effects =>
    rcases step.founded with ⟨effect, row, same⟩ | begun
    · rw [same]
      exact (founded row).1
    · exact .inr begun

theorem Grounded.step {session next : Session} {move : Move} (grounded : session.Grounded)
    (still : move ≠ .recorder) (step : session.Step move next) : next.Grounded := by
  cases step with
  | caller step => exact grounded.callerStep step
  | recorder => exact absurd rfl still
  | deliver burst report ready =>
      refine ⟨grounded.flag, grounded.askers, .inr ?_⟩
      rw [phase_goTo]
      split <;> trivial
  | ask | finish => exact ⟨grounded.flag, grounded.askers, .inr trivial⟩
  | record reason =>
      exact ⟨fun _ => Option.some_ne_none _, fun _ => Option.some_ne_none _,
        .inl (Option.some_ne_none _)⟩
  | raise asked =>
      have given := grounded.askers asked
      exact ⟨fun _ => given, fun _ => given, .inl given⟩

theorem Grounded.start (config : CaptureOptions) (output : Option Writer) :
    (Session.start config none output).Grounded := by
  cases output <;> exact ⟨nofun, nofun, .inr trivial⟩

/-! ## The marks of a burst -/

/-- A step of the caller takes a burst in, carries out the next mark of one, or finds none. -/
theorem CallerStep.marks {session next : Session} (step : session.CallerStep next) :
    (∃ burst report, session.phase = .counting burst report ∧ next = session.ingest burst report) ∨
      session.phase.uncounted = [] ∧ ((∃ effect, session.phase.marks = effect :: next.phase.marks ∧
          session.request? .caller = effect.reason?) ∨
        session.phase.marks = [] ∧ next.phase.marks = []) := by
  cases step with
  | @perform effect after row =>
      refine .inr ⟨(CallerPhase.uncounted_next? row).1, ?_⟩
      rcases CallerPhase.marks_next? row with marks | none
      · refine .inl ⟨effect, marks, ?_⟩
        rw [request?, CallerPhase.reason?, row]
        rfl
      · exact .inr none
  | ingest phase => exact .inl ⟨_, _, phase, rfl⟩
  | @push samples report lane channel result phase =>
      rw [phase]
      rcases result with _ | _ <;> exact .inr ⟨rfl, .inr ⟨rfl, rfl⟩⟩
  | @conclude error writeError phase =>
      obtain ⟨log, concluded⟩ := session.conclude_eq error writeError
      rw [concluded, phase]
      exact .inr ⟨rfl, .inr ⟨rfl, rfl⟩⟩
  | @join error lane ending phase =>
      rw [phase]
      cases ending <;> exact .inr ⟨rfl, .inr ⟨rfl, rfl⟩⟩
  | asked phase | skip phase | offer phase | settled phase | report phase | answer phase
  | unlink phase | close phase | closed phase | endTransfer phase | wait phase | ended phase
  | joinNobody phase | collapsed phase =>
      rw [phase]
      exact .inr ⟨rfl, .inr ⟨rfl, rfl⟩⟩

/-- No other move of the session touches the marks. -/
theorem Step.marks {session next : Session} {move : Move} (step : session.Step move next)
    (other : move ≠ .caller) : next.phase.marks = session.phase.marks := by
  cases step with
  | caller => exact absurd rfl other
  | recorder | record | raise => rfl
  | deliver burst report ready =>
      rw [ready, phase_goTo]
      split <;> rfl
  | ask reason ready | finish error ready =>
      rw [ready]
      rfl

end Session

namespace CallerRun

/-! ## The stream so far -/

def liveUntil (warmUp : Nat) (moves : List CallerMove) (call : Nat) : List UInt8 :=
  liveBytes warmUp (((Move.deliveries (CallerMove.moves moves)).take (call + 1)).flatMap (·.bytes))

def counted (run : CallerRun) (move : CallerMove) : List UInt8 :=
  move.move?.elim [] run.session.counted

/-- The caller's side after these moves, of whose bytes these are taken in. -/
structure Tracked (warmUp : Nat) (moves : List CallerMove) (taken : List UInt8)
    (run : CallerRun) :
    Prop where
  grounded : run.session.Grounded
  sighted : Session.Sighted warmUp taken run.session
  still : ∀ lane, run.session.lane = some lane → lane.recorder.phase = .starting
  delivered : Move.delivered (CallerMove.moves moves) = taken ++ run.session.phase.uncounted
  called : (Move.deliveries (CallerMove.moves moves)).length =
    run.session.answers.size + run.session.phase.inCall.toNat

/-- Nobody else gives an overflow as a reason. -/
def Honest (moves : List CallerMove) : Prop :=
  ∀ offset, .session (.ask (.hardwareOverflow offset)) ∉ moves ∧
    .session (.record (.hardwareOverflow offset)) ∉ moves

namespace Tracked

variable {warmUp : Nat} {moves : List CallerMove} {taken : List UInt8} {run next : CallerRun}
  {move : CallerMove}

theorem step (tracked : Tracked warmUp moves taken run) (step : run.Step move next)
    (honest : Honest (moves ++ [move]))
    (bound : (Move.delivered (CallerMove.moves (moves ++ [move]))).length < UInt64.size) :
    Tracked warmUp (moves ++ [move]) (taken ++ run.counted move) next := by
  have resting := step.still tracked.still
  cases step with
  | @session move next still step =>
      have own : CallerMove.moves (moves ++ [.session move]) = CallerMove.moves moves ++ [move] :=
        CallerMove.moves_append _ _
      have delivered : Move.delivered (CallerMove.moves (moves ++ [.session move])) =
          (taken ++ run.session.counted move) ++ next.phase.uncounted := by
        have burst : Move.delivered [move] = move.burst := by simp [Move.delivered]
        rw [own, Move.delivered, List.flatMap_append, ← Move.delivered, ← Move.delivered,
          tracked.delivered, burst, List.append_assoc, step.counted, List.append_assoc]
      rw [delivered, List.length_append] at bound
      refine ⟨tracked.grounded.step still step, ?_, resting, delivered, ?_⟩
      · refine tracked.sighted.step step (fun lane running => ?_) (fun offset => ?_) (by omega)
        · rw [tracked.still lane running]
          trivial
        · have absent := honest offset
          constructor <;> rintro rfl
          · exact absent.1 (List.mem_append_right _ (List.mem_singleton_self _))
          · exact absent.2 (List.mem_append_right _ (List.mem_singleton_self _))
      · rw [own, Move.deliveries_append, List.length_append, tracked.called]
        exact step.called.symm
  | @consumer _ lane channel silent running use =>
      have own : CallerMove.moves (moves ++ [move]) = CallerMove.moves moves := by
        rw [CallerMove.moves_append, CallerMove.moves, CallerMove.moves, List.filterMap_cons,
          silent]
        exact List.append_nil _
      rw [counted, silent, Option.elim_none, List.append_nil]
      refine ⟨⟨tracked.grounded.flag, tracked.grounded.askers, tracked.grounded.effects⟩, ?_, resting,
        ?_, ?_⟩
      · exact tracked.sighted.carry rfl rfl (.refl _) (fun _ => id) (fun _ => id) rfl
      · rw [own]
        exact tracked.delivered
      · rw [own]
        exact tracked.called

theorem start (config : CaptureOptions) (output : Option Writer) :
    Tracked config.warmUpBytes.toNat [] [] (CallerRun.start config output) := by
  refine ⟨.start config output, .start config output, still_start config output, ?_, ?_⟩
  · cases output <;> rfl
  · cases output <;> rfl

theorem liveUntil_append {call : Nat} (tracked : Tracked warmUp moves taken run)
    (answered : call < run.session.answers.size) (more : List CallerMove) :
    liveUntil warmUp (moves ++ more) call = liveUntil warmUp moves call := by
  have called := tracked.called
  rw [liveUntil, liveUntil, CallerMove.moves_append, Move.deliveries_append,
    List.take_append_of_le_length (by omega)]

/-- The call that is answered now is the last one. -/
theorem liveUntil_of_answering (tracked : Tracked warmUp moves taken run)
    (phase : run.session.phase = .answering) (more : List CallerMove)
    (quiet : Move.deliveries (CallerMove.moves more) = []) :
    liveUntil warmUp (moves ++ more) run.session.answers.size = liveBytes warmUp taken := by
  have called := tracked.called
  have delivered := tracked.delivered
  rw [phase] at called delivered
  change _ = _ + 1 at called
  rw [liveUntil, CallerMove.moves_append, Move.deliveries_append, quiet, List.append_nil,
    List.take_of_length_le (Nat.le_of_eq called), Move.flatMap_deliveries, delivered]
  exact congrArg _ (List.append_nil _)

end Tracked

/-! ## The answers -/

structure Answered (warmUp : Nat) (first : CallerRun) (moves : List CallerMove)
    (run : CallerRun) : Prop where
  given : ∀ call answer, run.session.answers[call]? = some answer →
    Moment first moves fun ending => ending.session.phase = .answering ∧
      ending.session.answers.size = call ∧
        (answer = .stop ↔ ending.session.state.stopping = true)
  up : .stop ∈ run.session.answers → run.session.state.stopping = true
  lasting : run.session.answers.toList.Pairwise fun earlier later => earlier = .stop → later = .stop
  stops : ∀ call answer, run.session.answers[call]? = some answer →
    firstFlag (liveUntil warmUp moves call) ≠ none → answer = .stop
  reasons : ∀ call offset, run.session.answers[call]? = some .stop →
    run.session.state.reason = some (.hardwareOverflow offset) →
      firstFlag (liveUntil warmUp moves call) = some offset.toNat

namespace Answered

variable {warmUp : Nat} {first run next : CallerRun} {moves : List CallerMove}
  {taken : List UInt8}
  {move : CallerMove}

/-- The answers given before. -/
theorem later (answered : Answered warmUp first moves run)
    (tracked : Tracked warmUp moves taken run)
    (step : run.Step move next) {call : Nat} {answer : Answer}
    (given : run.session.answers[call]? = some answer) :
    (Moment first (moves ++ [move]) fun ending => ending.session.phase = .answering ∧
      ending.session.answers.size = call ∧
        (answer = .stop ↔ ending.session.state.stopping = true)) ∧
    (firstFlag (liveUntil warmUp (moves ++ [move]) call) ≠ none → answer = .stop) ∧
    ∀ offset, answer = .stop → next.session.state.reason = some (.hardwareOverflow offset) →
      firstFlag (liveUntil warmUp (moves ++ [move]) call) = some offset.toNat := by
  obtain ⟨inside, -⟩ := Array.getElem?_eq_some_iff.mp given
  rw [tracked.liveUntil_append inside]
  refine ⟨(answered.given call answer given).later move fun _ => id,
    answered.stops call answer given, ?_⟩
  rintro offset rfl reason
  have grounded := tracked.grounded.flag (answered.up (Array.mem_of_getElem? given))
  rw [step.lasts.reason grounded] at reason
  exact answered.reasons call offset given reason

theorem step (answered : Answered warmUp first moves run)
    (tracked : Tracked warmUp moves taken run) (reached : first.play moves = some run)
    (step : run.Step move next) : Answered warmUp first (moves ++ [move]) next := by
  have lasts := step.lasts
  have answers : next.session.answers = run.session.answers ∨ move = .session .caller ∧
      run.session.phase = .answering ∧ next.session.answers =
        run.session.answers.push (Intake.answer run.session.state) := by
    cases step with
    | session still step =>
        rcases step.answers with same | ⟨rfl, answer⟩
        · exact .inl same
        · exact .inr ⟨rfl, answer⟩
    | consumer => exact .inl rfl
  rcases answers with same | ⟨rfl, phase, pushed⟩
  · constructor <;> rw [same]
    · exact fun call answer given => (answered.later tracked step given).1
    · exact fun stopped => lasts.stopping (answered.up stopped)
    · exact answered.lasting
    · exact fun call answer given => (answered.later tracked step given).2.1
    · exact fun call offset given => (answered.later tracked step given).2.2 offset rfl
  · -- the last answer is the flag of this moment
    have stop : Intake.answer run.session.state = .stop ↔ run.session.state.stopping = true := by
      unfold Intake.answer
      split <;> simp_all
    have whole := tracked.liveUntil_of_answering phase [.session .caller] rfl
    have cases {call : Nat} {answer : Answer}
        (given : (run.session.answers.push (Intake.answer run.session.state))[call]? =
          some answer) :
        run.session.answers[call]? = some answer ∨
          call = run.session.answers.size ∧ answer = Intake.answer run.session.state := by
      rw [Array.getElem?_push] at given
      split at given
      · rename_i last
        cases given
        exact .inr ⟨last, rfl⟩
      · exact .inl given
    constructor <;> rw [pushed]
    · intro call answer given
      rcases cases given with before | ⟨rfl, rfl⟩
      · exact (answered.later tracked step before).1
      · exact .now reached ⟨phase, rfl, stop⟩
    · intro stopped
      rcases Array.mem_push.mp stopped with before | now
      · exact lasts.stopping (answered.up before)
      · exact lasts.stopping (stop.mp now.symm)
    · rw [Array.toList_push, List.pairwise_append]
      refine ⟨answered.lasting, List.pairwise_singleton _ _, ?_⟩
      rintro earlier member later last rfl
      rw [List.mem_singleton.mp last]
      exact stop.mpr (answered.up (Array.mem_toList_iff.mp member))
    · intro call answer given flagged
      rcases cases given with before | ⟨rfl, rfl⟩
      · exact (answered.later tracked step before).2.1 flagged
      · rw [whole] at flagged
        rcases tracked.sighted.raised flagged with up | member
        · exact stop.mpr up
        · rw [phase] at member
          cases member
    · intro call offset given reason
      rcases cases given with before | ⟨rfl, last⟩
      · exact (answered.later tracked step before).2.2 offset rfl reason
      · rw [whole]
        apply tracked.sighted.first
        have up := stop.mp last.symm
        rw [lasts.reason (tracked.grounded.flag up)] at reason
        rw [SharedState.promise, reason, Option.some_or]

theorem start (config : CaptureOptions) (output : Option Writer) (warmUp : Nat) :
    Answered warmUp (CallerRun.start config output) [] (CallerRun.start config output) := by
  have none : (CallerRun.start config output).session.answers = #[] := by cases output <;> rfl
  constructor <;> rw [none]
  · exact nofun
  · exact nofun
  · exact .nil
  · exact nofun
  · exact nofun

end Answered

/-! ## The first flagged byte -/

/-- The caller has asked for a stop because of the first flagged live byte, or is about to. -/
def Announced (warmUp : Nat) (first : CallerRun) (moves : List CallerMove) (taken : List UInt8)
    (run : CallerRun) : Prop :=
  ∀ place, firstFlag (liveBytes warmUp taken) = some place →
    run.session.phase.marks.findSome? Effect.reason? = some (.hardwareOverflow place.toUInt64) ∨
      ∃ call, Asked first moves run call (.hardwareOverflow place.toUInt64)

namespace Announced

variable {warmUp : Nat} {first run next : CallerRun} {moves : List CallerMove}
  {taken : List UInt8}
  {move : CallerMove}

/-- A step that takes nothing in and leaves the marks alone. -/
theorem quiet (announced : Announced warmUp first moves taken run) (step : run.Step move next)
    (marks : next.session.phase.marks = run.session.phase.marks) :
    Announced warmUp first (moves ++ [move]) taken next := by
  intro place found
  rw [marks]
  exact (announced place found).imp_right fun ⟨call, asked⟩ => ⟨call, asked.later step⟩

/-- A burst announces the first flagged live byte if there has been none before. -/
theorem ingest (announced : Announced warmUp first moves taken run)
    (sighted : Session.Sighted warmUp taken run.session) (bound : taken.length < UInt64.size)
    {burst : List UInt8} {report : Option ProgressSnapshot}
    (phase : run.session.phase = .counting burst report)
    (step : run.Step (.session .caller) (run.after (run.session.ingest burst report))) :
    Announced warmUp first (moves ++ [.session .caller]) (taken ++ burst)
      (run.after (run.session.ingest burst report)) := by
  intro place found
  have live := Session.liveBytes_append_uncounted sighted.intake sighted.received bound
  rw [phase] at live
  change liveBytes warmUp (taken ++ burst) = liveBytes warmUp taken ++
    run.session.intake.liveOf run.session.state.counters.received burst at live
  rw [live, firstFlag_append] at found
  rcases Option.or_eq_some_iff.mp found with before | ⟨-, fresh⟩
  · obtain ⟨call, asked⟩ := (announced place before).resolve_left (by rw [phase]; exact nofun)
    exact .inr ⟨call, asked.later step⟩
  · obtain ⟨index, first, rfl⟩ := Option.map_eq_some_iff.mp fresh
    left
    refine (Intake.reason_plan _ _ _).trans ?_
    rw [first, Option.map_some, sighted.liveCount, Nat.toUInt64_eq, Nat.toUInt64_eq,
      ← UInt64.ofNat_add, Nat.add_comm]

theorem step (announced : Announced warmUp first moves taken run)
    (sighted : Session.Sighted warmUp taken run.session) (bound : taken.length < UInt64.size)
    (reached : first.play moves = some run) (step : run.Step move next) :
    Announced warmUp first (moves ++ [move]) (taken ++ run.counted move) next := by
  have whole := step
  cases step with
  | consumer silent =>
      rw [counted, silent, Option.elim_none, List.append_nil]
      exact announced.quiet whole rfl
  | @session move next still step =>
      change Announced _ _ _ (taken ++ run.session.counted move) _
      by_cases caller : move = .caller
      · subst caller
        cases step with
        | caller step =>
            rcases step.marks with ⟨burst, report, phase, rfl⟩ | ⟨nothing, marks⟩
            · rw [Session.counted, phase]
              exact announced.ingest sighted bound phase whole
            · rw [Session.counted, nothing, List.append_nil]
              rcases marks with ⟨effect, row, request⟩ | ⟨none, unmarked⟩
              · intro place found
                rcases announced place found with coming | ⟨call, asked⟩
                · rw [row, List.findSome?_cons] at coming
                  cases reason : effect.reason? with
                  | some given =>
                      rw [reason] at coming request
                      cases coming
                      exact .inr ⟨_, .now reached step request⟩
                  | none =>
                      rw [reason] at coming
                      exact .inl coming
                · exact .inr ⟨call, asked.later whole⟩
              · exact announced.quiet whole (unmarked.trans none.symm)
      · have nothing : run.session.counted move = [] := by
          cases move <;> first | exact absurd rfl caller | rfl
        rw [nothing, List.append_nil]
        exact announced.quiet whole (step.marks caller)

theorem start (config : CaptureOptions) (output : Option Writer) (warmUp : Nat) :
    Announced warmUp (CallerRun.start config output) [] [] (CallerRun.start config output) := by
  intro place found
  simp [liveBytes, firstFlag] at found

end Announced

end CallerRun

end SampleCapture
