import SampleCapture.Proofs.Intake.Accounts
import SampleCapture.Proofs.Slices

/-!
# The log of a run of calls

What is in the journal of a run with any consumer, with requests to stop from anybody at any
moment: the lines of the ledger of its calls in their order, and among them one line for the
stop request that has given the reason. The offsets of flagged bytes, their number, the line
about the warm-up and the place of the stop request follow.
-/

namespace SampleCapture

namespace CallerRun

variable {config : CaptureOptions} {output : Option Writer} {moves : List CallerMove}
  {journal : List Event} {taken : List UInt8} {run next calling : CallerRun} {move : CallerMove}

/-! ## Refused calls -/

/-- A forlorn call is one of before, or it begins with the last move. -/
theorem Forlorn.earlier (forlorn : Forlorn config output (moves ++ [move]) calling)
    (reached : (CallerRun.start config output).play moves = some run) :
    Forlorn config output moves calling ∨ ∃ burst report,
      move = .session (.deliver burst report) ∧ calling = run ∧ burst ≠ [] := by
  obtain @⟨before, later, burst, report, calling, lane, split, known, running, gone, unflagged⟩ :=
    forlorn
  rcases cases_of_snoc split with ⟨rfl, same⟩ | ⟨front, rfl⟩
  · refine .inr ⟨burst, report, same, Option.some.inj (known.symm.trans reached), ?_⟩
    rintro rfl
    rw [List.append_nil] at unflagged
    exact Nat.lt_irrefl _ unflagged
  · exact .inl ⟨rfl, known, running, gone, unflagged⟩

/-- The call in progress is not forlorn if it is spared. -/
theorem Forlorn.not_spared (forlorn : Forlorn config output moves calling)
    (reached : (CallerRun.start config output).play moves = some run) (honest : Honest moves)
    (bound : (Move.delivered (CallerMove.moves moves)).length < UInt64.size)
    (same : calling.session.answers.size = run.session.answers.size) : ¬ run.session.Spared := by
  intro spared
  rcases forlorn.fate reached honest bound with ⟨-, lane, running, gone, doomed⟩ | ⟨stopped, -⟩
  · exact spared _ lane running gone doomed
  · obtain ⟨inside, -⟩ := Array.getElem?_eq_some_iff.mp stopped
    omega

/-- The samples of a call behind these are refused only if there are some and the consumer leaves
before the push has ended, and always if the consumer had left before the call. -/
structure Justified (config : CaptureOptions) (output : Option Writer) (moves : List CallerMove)
    (earlier : List Served) (served : Served) : Prop where
  refused : served.refused = true →
    sampleBytes (served.call.live config.warmUpBytes (Served.bytes earlier)) ≠ [] ∧
      Moment (CallerRun.start config output) moves fun pushing =>
        pushing.session.answers.size = earlier.length ∧
          ∃ lane, pushing.session.lane = some lane ∧ lane.channel.queue.abandoned = true
  lost : ∀ calling, Forlorn config output moves calling →
    calling.session.answers.size = earlier.length → served.refused = true

theorem Justified.later {earlier : List Served} {served : Served}
    (justified : Justified config output moves earlier served)
    (reached : (CallerRun.start config output).play moves = some run)
    (answered : ∀ burst report, move = .session (.deliver burst report) →
      earlier.length < run.session.answers.size) :
    Justified config output (moves ++ [move]) earlier served := by
  constructor
  case refused =>
    intro refused
    obtain ⟨some, moment⟩ := justified.refused refused
    exact ⟨some, moment.later move fun _ => id⟩
  case lost =>
    intro calling forlorn size
    rcases forlorn.earlier reached with before | ⟨burst, report, rfl, rfl, -⟩
    · exact justified.lost calling before size
    · exact absurd (answered burst report rfl) (by omega)

/-! ## Along a run -/

/-- The calls of a row have their lines, and are refused with good reason. -/
structure Rowed (config : CaptureOptions) (output : Option Writer) (moves : List CallerMove)
    (journal : List Event) (session : Session) (row : List Served) : Prop where
  accounts : session.phase.Accounts config.warmUpBytes
    (Move.deliveries (CallerMove.moves moves)) row
    (session.entered journal)
  justified : ∀ earlier served later, row = earlier ++ served :: later →
    Justified config output moves earlier served

namespace Rowed

variable {row : List Served}

/-- No call has been answered, or the source has ended. -/
theorem empty {session : Session} (accounts : session.phase.Accounts config.warmUpBytes
      (Move.deliveries (CallerMove.moves moves)) [] (session.entered journal)) :
    Rowed config output moves journal session [] :=
  ⟨accounts, fun earlier served later split => absurd split (by simp)⟩

/-- The same row after another move. -/
theorem keep {session : Session} (rowed : Rowed config output moves journal run.session row)
    (reached : (CallerRun.start config output).play moves = some run)
    (answered : ∀ burst report, move = .session (.deliver burst report) →
      row.length ≤ run.session.answers.size) {after : List Event}
    (accounts : session.phase.Accounts config.warmUpBytes
      (Move.deliveries (CallerMove.moves (moves ++ [move]))) row (session.entered after)) :
    Rowed config output (moves ++ [move]) after session row := by
  refine ⟨accounts, fun earlier served later split => ?_⟩
  refine (rowed.justified earlier served later split).later reached fun burst report made => ?_
  have less := answered burst report made
  rw [split, List.length_append, List.length_cons] at less
  omega

/-- One call more. -/
theorem snoc {session : Session} {last : Served}
    (rowed : Rowed config output moves journal run.session row)
    (reached : (CallerRun.start config output).play moves = some run)
    (answered : ∀ burst report, move = .session (.deliver burst report) →
      row.length ≤ run.session.answers.size) {after : List Event}
    (accounts : session.phase.Accounts config.warmUpBytes
      (Move.deliveries (CallerMove.moves (moves ++ [move]))) (row ++ [last])
        (session.entered after))
    (justified : Justified config output (moves ++ [move]) row last) :
    Rowed config output (moves ++ [move]) after session (row ++ [last]) := by
  refine ⟨accounts, fun earlier served later split => ?_⟩
  rcases cases_of_snoc split with ⟨rfl, rfl⟩ | ⟨front, rfl⟩
  · exact justified
  · refine (rowed.justified earlier served front rfl).later reached fun burst report made => ?_
    have less := answered burst report made
    rw [List.length_append, List.length_cons] at less
    omega

end Rowed

structure Posted (config : CaptureOptions) (output : Option Writer) (moves : List CallerMove)
    (journal : List Event) (taken : List UInt8) (run : CallerRun) : Prop where
  tracked : Tracked config.warmUpBytes.toNat moves taken run
  mindful : Session.Mindful config.warmUpBytes.toNat taken run.session
  reported : Reported moves journal run.session
  rowed : ∃ row, Rowed config output moves journal run.session row

/-- A move that is none of the caller's adds no ordinary line. -/
theorem entered_other (step : run.Step move next) (caller : move ≠ .session .caller)
    (effects : next.session.phase.effects.filterMap Effect.line? =
      run.session.phase.effects.filterMap Effect.line?) :
    next.session.entered (journal ++ run.lines move next) = run.session.entered journal := by
  have none (other : ∀ reason, move ≠ .session (.record reason))
      (same : next.session.log = run.session.log) : Event.ordinary (run.lines move next) = [] := by
    rw [lines_of_log other same]
    rfl
  have silent : Event.ordinary (run.lines move next) = [] := by
    cases step with
    | session still step =>
        cases step with
        | caller => exact absurd rfl caller
        | recorder => exact absurd rfl still
        | record reason =>
            exact run.session.shared.ordinary_lines (show Effect.Quiet (.record reason) from nofun)
        | deliver | ask | finish | raise => exact none nofun rfl
    | consumer silent running use =>
        refine none ?_ rfl
        rintro reason rfl
        cases silent
  rw [Session.entered, Session.entered, effects, Event.ordinary_append, silent, List.append_nil]

/-- Only the source makes calls. -/
theorem deliveries_other (other : ∀ burst report, move ≠ .session (.deliver burst report)) :
    Move.deliveries (CallerMove.moves (moves ++ [move])) =
      Move.deliveries (CallerMove.moves moves) := by
  have none : Move.deliveries (CallerMove.moves [move]) = [] := by
    cases move with
    | session move =>
        cases move with
        | deliver burst report => exact absurd rfl (other burst report)
        | caller | recorder | ask | finish | record | raise => rfl
    | pop | leave | consumer => rfl
  rw [CallerMove.moves_append, Move.deliveries_append, none, List.append_nil]

namespace Posted

/-- Between two calls the row has all that have been answered. -/
theorem length_row {row : List Served} (tracked : Tracked config.warmUpBytes.toNat moves taken run)
    (phase : run.session.phase = .atSource)
    (rowed : Rowed config output moves journal run.session row) :
    row.length = run.session.answers.size := by
  have called := tracked.called
  have accounts := rowed.accounts
  rw [phase] at called accounts
  obtain ⟨same, -⟩ := accounts
  rw [same, List.length_map] at called
  exact called

/-- The rows after a step of the caller. -/
theorem rowed_caller (posted : Posted config output moves journal taken run)
    (reached : (CallerRun.start config output).play moves = some run) (honest : Honest moves)
    (bound : (Move.delivered (CallerMove.moves moves)).length < UInt64.size) {session : Session}
    (step : run.session.CallerStep session) :
    ∃ row, Rowed config output (moves ++ [.session .caller])
      (journal ++ run.session.lines) session row := by
  obtain ⟨row, rowed⟩ := posted.rowed
  have tracked := posted.tracked
  have short := Nat.lt_of_le_of_lt tracked.length_taken_le bound
  have calls : Move.deliveries (CallerMove.moves (moves ++ [.session .caller])) =
      Move.deliveries (CallerMove.moves moves) := deliveries_other nofun
  have all := (Move.flatMap_deliveries (CallerMove.moves moves)).trans tracked.delivered
  have advances := step.advances posted.reported.row.quiet rowed.accounts tracked.sighted
    posted.mindful short all
  rw [← calls] at advances
  have answered : ∀ burst report, CallerMove.session .caller = .session (.deliver burst report) →
      row.length ≤ run.session.answers.size := nofun
  cases advances with
  | same accounts => exact ⟨row, rowed.keep reached answered accounts⟩
  | ended accounts => exact ⟨[], .empty accounts⟩
  | decided call refused last accounts inCall lost kept =>
      have size : run.session.answers.size = row.length := by
        have called := tracked.called
        rw [← calls, last, inCall, List.length_append, List.length_map] at called
        exact (Nat.succ.inj called).symm
      refine ⟨_, rowed.snoc reached answered accounts ⟨fun taken => ?_, fun calling forlorn same => ?_⟩⟩
      · obtain ⟨some, gone⟩ := lost taken
        exact ⟨some, .now reached ⟨size, gone⟩⟩
      · rcases forlorn.earlier reached with before | ⟨burst, report, impossible, -⟩
        · -- a forlorn call is not spared, so its samples are refused
          cases refused with
          | true => rfl
          | false =>
              have equal := same.trans size.symm
              exact absurd (kept rfl) (before.not_spared reached honest bound equal)
        · cases impossible

/-- The rows after the beginning of a call. -/
theorem rowed_deliver (posted : Posted config output moves journal taken run)
    (reached : (CallerRun.start config output).play moves = some run) (honest : Honest moves)
    (bound : (Move.delivered (CallerMove.moves moves)).length < UInt64.size) {burst : List UInt8}
    {report : Option ProgressSnapshot} (ready : run.session.phase = .atSource)
    {after : List Event} {phase : CallerPhase}
    (goes : phase = if burst = [] then .reporting report else .counting burst report)
    (entered : (run.session.goTo phase).entered after = run.session.entered journal) :
    ∃ row, Rowed config output (moves ++ [.session (.deliver burst report)]) after
      (run.session.goTo phase) row := by
  obtain ⟨row, rowed⟩ := posted.rowed
  have size := length_row posted.tracked ready rowed
  have accounts := rowed.accounts
  rw [ready] at accounts
  obtain ⟨last, whole⟩ := accounts
  have calls : Move.deliveries (CallerMove.moves (moves ++ [.session (.deliver burst report)])) =
      row.map (·.call) ++ [{ bytes := burst, report := report }] := by
    rw [CallerMove.moves_append, Move.deliveries_append, last]
    rfl
  by_cases empty : burst = []
  · subst empty
    rw [if_pos rfl] at goes
    subst goes
    refine ⟨row ++ [{ call := { bytes := [], report := report }, refused := false }],
      rowed.snoc reached (fun _ _ _ => Nat.le_of_eq size) ⟨?_, ?_⟩
        ⟨nofun, fun calling forlorn same => ?_⟩⟩
    · rw [calls, List.map_append]
      rfl
    · rw [entered, whole, Served.ledger_snoc, Served.lines, Served.bytes_snoc]
      simp [Delivery.opening, Delivery.live, liveBytes, flaggedIndices]
    · rcases forlorn.earlier reached with before | ⟨other, _, made, -, filled⟩
      · refine absurd ?_ (before.not_spared reached honest bound (same.trans size))
        intro asked lane running gone doomed
        rw [Doomed, ready] at doomed
        exact doomed
      · cases made
        exact absurd rfl filled
  · rw [if_neg empty] at goes
    subst goes
    refine ⟨row, rowed.keep reached (fun _ _ _ => Nat.le_of_eq size) ⟨calls, ?_⟩⟩
    rw [entered, whole]

/-- The rows after a move that leaves the caller in the same part of a call. -/
theorem rowed_keep (posted : Posted config output moves journal taken run)
    (reached : (CallerRun.start config output).play moves = some run) (step : run.Step move next)
    (other : ∀ burst report, move ≠ .session (.deliver burst report))
    (caller : move ≠ .session .caller)
    (effects : next.session.phase.effects.filterMap Effect.line? =
      run.session.phase.effects.filterMap Effect.line?)
    (accounts : ∀ calls row entered,
      run.session.phase.Accounts config.warmUpBytes calls row entered →
        next.session.phase.Accounts config.warmUpBytes calls row entered) :
    ∃ row, Rowed config output (moves ++ [move]) (journal ++ run.lines move next) next.session
      row := by
  obtain ⟨row, rowed⟩ := posted.rowed
  refine ⟨row, rowed.keep reached (fun burst report made => absurd made (other burst report)) ?_⟩
  rw [deliveries_other other, entered_other step caller effects]
  exact accounts _ _ _ rowed.accounts

theorem rowed_step (posted : Posted config output moves journal taken run)
    (reached : (CallerRun.start config output).play moves = some run) (honest : Honest moves)
    (bound : (Move.delivered (CallerMove.moves moves)).length < UInt64.size)
    (step : run.Step move next) : ∃ row, Rowed config output (moves ++ [move])
      (journal ++ run.lines move next) next.session row := by
  have whole := step
  cases step with
  | session still step =>
      cases step with
      | caller step =>
          rw [lines_caller step]
          exact posted.rowed_caller reached honest bound step
      | recorder => exact absurd rfl still
      | record | raise => exact posted.rowed_keep reached whole nofun nofun rfl fun _ _ _ => id
      | ask reason ready =>
          refine posted.rowed_keep reached whole nofun nofun ?_ fun calls row entered => ?_
          · rw [ready]
            rfl
          · rw [ready]
            exact id
      | finish error ready => exact ⟨[], .empty rfl⟩
      | deliver burst report ready =>
          apply posted.rowed_deliver reached honest bound ready rfl
          refine entered_other whole nofun ?_
          rw [ready]
          change (run.session.goTo _).phase.effects.filterMap Effect.line? = []
          rw [Session.phase_goTo]
          split <;> rfl
  | consumer silent running use =>
      refine posted.rowed_keep reached whole ?_ ?_ rfl fun _ _ _ => id
      · rintro burst report rfl
        cases silent
      · rintro rfl
        cases silent

theorem mindful_step (posted : Posted config output moves journal taken run)
    (short : taken.length < UInt64.size) (step : run.Step move next) :
    Session.Mindful config.warmUpBytes.toNat (taken ++ run.counted move) next.session := by
  have mindful := posted.mindful
  cases step with
  | @session move after still step =>
      change Session.Mindful _ (taken ++ run.session.counted move) after
      by_cases caller : move = .caller
      · subst caller
        cases step with
        | caller step => exact mindful.callerStep posted.tracked.sighted short step
      · have nothing : run.session.counted move = [] := by
          cases move <;> first | exact absurd rfl caller | rfl
        obtain ⟨booked, intake⟩ := step.other caller still
        rw [nothing, List.append_nil]
        exact ⟨intake ▸ mindful.warmedUp, booked ▸ mindful.dropouts⟩
  | consumer silent =>
      rw [counted, silent, Option.elim_none, List.append_nil]
      exact ⟨mindful.warmedUp, mindful.dropouts⟩

theorem step (posted : Posted config output moves journal taken run)
    (reached : (CallerRun.start config output).play moves = some run)
    (step : run.Step move next) (honest : Honest (moves ++ [move]))
    (bound : (Move.delivered (CallerMove.moves (moves ++ [move]))).length < UInt64.size) :
    Posted config output (moves ++ [move]) (journal ++ run.lines move next)
      (taken ++ run.counted move) next := by
  have less := Nat.lt_of_le_of_lt (length_delivered_le moves [move]) bound
  have short := Nat.lt_of_le_of_lt posted.tracked.length_taken_le less
  exact ⟨posted.tracked.step step honest bound, posted.mindful_step short step,
    posted.reported.step step, posted.rowed_step reached honest.of_append less step⟩

theorem of_play (played : (CallerRun.start config output).play moves = some run)
    (honest : Honest moves)
    (bound : (Move.delivered (CallerMove.moves moves)).length < UInt64.size) :
    ∃ taken,
      Posted config output moves ((CallerRun.start config output).journal moves) taken run := by
  have reached : (CallerRun.start config output).play [] = some (.start config output) := rfl
  refine play_moves (motive := fun past run => Honest past →
    (Move.delivered (CallerMove.moves past)).length < UInt64.size →
      ∃ taken, Posted config output past ((CallerRun.start config output).journal past) taken run)
    ?_ reached played ?_ honest bound
  · intro past run next move reached moved before honest bound
    have less := Nat.lt_of_le_of_lt (length_delivered_le past [move]) bound
    obtain ⟨taken, posted⟩ := before honest.of_append less
    rw [journal_snoc reached moved]
    exact ⟨_, posted.step reached (.of_step? moved) honest bound⟩
  · intro _ _
    have phase : (CallerRun.start config output).session.phase = .atSource :=
      Session.phase_start config none output
    refine ⟨[], .start config output, .start config output, .of_play reached, [], .empty ?_⟩
    rw [phase, Session.entered, phase]
    exact ⟨rfl, rfl⟩

end Posted

end CallerRun

/-! ## What the journal says -/

namespace CallerRun

variable {config : CaptureOptions} {output : Option Writer} {moves : List CallerMove}
  {journal : List Event} {taken : List UInt8} {run : CallerRun}

/-- What the journal of a row of whole calls is. -/
structure Exact (config : CaptureOptions) (output : Option Writer) (moves : List CallerMove)
    (journal : List Event) (run : CallerRun) (live : List UInt8) : Prop where
  /-- Apart from the stop request it is the ledger of the calls: in each call the end of the
  warm-up, the flagged bytes, a refusal, and at last the report with the dropouts so far. -/
  ledger : ∃ row, row.map (·.call) = Move.deliveries (CallerMove.moves moves) ∧
    Event.ordinary journal = Served.ledger config.warmUpBytes [] row ∧
      ∀ earlier served later, row = earlier ++ served :: later →
        Justified config output moves earlier served
  /-- The end of a warm-up is told once, if a live byte has come. -/
  warmUp : journal.filterMap Event.warmUp? =
    if config.warmUpBytes ≠ 0 ∧ live ≠ [] then [config.warmUpBytes] else []
  /-- It is told before any flagged byte is. -/
  ordered : journal.Pairwise fun first second => first.flagged? ≠ none → second.warmUp? = none
  /-- There is one line for every flagged live byte, with its place, in the order of the stream. -/
  flagged : (journal.filterMap Event.flagged?).map UInt64.toNat = flaggedIndices 0 live
  places : ∀ place, place ∈ journal.filterMap Event.flagged? ↔
    ∃ byte, live[place.toNat]? = some byte ∧ isFlagged byte = true
  increasing : (journal.filterMap Event.flagged?).Pairwise (· < ·)
  dropouts : (journal.filterMap Event.flagged?).length = run.session.state.counters.dropouts.toNat
  /-- The place among the samples is twice the one among the bytes. -/
  fields : ∀ place ∈ journal.filterMap Event.flagged?, (Event.overflowFlagged place).fields =
    [("byte_offset", .number place.toNat), ("sample_offset", .number (2 * place.toNat))]
  /-- If an overflow is the reason, the stop request is told directly behind the first flagged
  byte. -/
  overflow : ∀ place, run.session.state.reason = some (.hardwareOverflow place) →
    ∃ earlier later, journal =
        earlier ++ .overflowFlagged place :: .stopRequested (.hardwareOverflow place) :: later ∧
      earlier.filterMap Event.flagged? = []

/-- What the journal of a run is. -/
structure Logged (config : CaptureOptions) (output : Option Writer) (moves : List CallerMove)
    (journal : List Event) (run : CallerRun) : Prop where
  /-- A stop request is told if and only if there is a reason, once and with this reason. -/
  stop : journal.filterMap Event.stop? = run.session.state.reason.toList
  /-- If nobody else has asked for it, the line in front of it tells why. -/
  told : ∀ reason, run.session.state.reason = some reason → .session (.ask reason) ∉ moves →
    .session (.record reason) ∉ moves → reason ≠ .transferEnded → Told journal reason
  /-- Between two calls. -/
  exact : run.session.phase = .atSource → Exact config output moves journal run
    (liveBytes config.warmUpBytes.toNat (Move.delivered (CallerMove.moves moves)))

theorem Told.of_overflow {place : UInt64} (told : Told journal (.hardwareOverflow place)) :
    ∃ earlier later, journal =
      earlier ++ .overflowFlagged place :: .stopRequested (.hardwareOverflow place) :: later := by
  obtain ⟨earlier, line, later, split, heralds⟩ := told
  cases line with
  | overflowFlagged other =>
      cases heralds
      exact ⟨earlier, later, split⟩
  | samplesRefused count cause => cases heralds
  | _ => exact heralds.elim

/-- In strictly increasing places nothing stands in front of the least one. -/
theorem nothing_before {earlier later : List UInt64} {place : UInt64}
    (increasing : (earlier ++ place :: later).Pairwise (· < ·))
    (first : (earlier ++ place :: later).head? = some place) : earlier = [] := by
  cases earlier with
  | nil => rfl
  | cons other earlier =>
      cases first
      have less := (List.pairwise_cons.mp increasing).1 _ (List.mem_append_right _ List.mem_cons_self)
      exact absurd less (UInt64.lt_irrefl _)

theorem Posted.told (posted : Posted config output moves journal taken run) {reason : StopReason}
    (known : run.session.state.reason = some reason) (asked : .session (.ask reason) ∉ moves)
    (recorded : .session (.record reason) ∉ moves) (other : reason ≠ .transferEnded) :
    Told journal reason := by
  refine (posted.reported.given reason known).resolve_left ?_
  rintro (made | made | same)
  · exact asked made
  · exact recorded made
  · exact other same

/-- Between two calls everything that has been delivered is taken in. -/
theorem Posted.taken_eq (posted : Posted config output moves journal taken run)
    (phase : run.session.phase = .atSource) : taken = Move.delivered (CallerMove.moves moves) := by
  have delivered := posted.tracked.delivered
  rw [phase] at delivered
  exact (delivered.trans (List.append_nil _)).symm

/-- Between two calls the ordinary lines are the ledger of all calls. -/
theorem Posted.ledger (posted : Posted config output moves journal taken run)
    (phase : run.session.phase = .atSource) :
    ∃ row, row.map (·.call) = Move.deliveries (CallerMove.moves moves) ∧
      Event.ordinary journal = Served.ledger config.warmUpBytes [] row ∧
        ∀ earlier served later, row = earlier ++ served :: later →
          Justified config output moves earlier served := by
  obtain ⟨row, rowed⟩ := posted.rowed
  have accounts := rowed.accounts
  rw [Session.entered, phase] at accounts
  obtain ⟨calls, entered⟩ := accounts
  exact ⟨row, calls.symm, (List.append_nil _).symm.trans entered, rowed.justified⟩

/-- Between two calls the flagged live bytes have been counted. -/
theorem Posted.dropouts (posted : Posted config output moves journal taken run)
    (phase : run.session.phase = .atSource) (bound : taken.length < UInt64.size) :
    run.session.state.counters.dropouts.toNat =
      (flaggedIndices 0 (liveBytes config.warmUpBytes.toNat taken)).length := by
  have booked := posted.mindful.dropouts
  rw [Session.booked, phase] at booked
  have counted : run.session.state.counters.dropouts =
      (flaggedCount (liveBytes config.warmUpBytes.toNat taken)).toUInt64 :=
    (UInt64.add_zero _).symm.trans booked
  have counts := unflaggedCount_add_flaggedCount (liveBytes config.warmUpBytes.toNat taken)
  have shorter : (liveBytes config.warmUpBytes.toNat taken).length ≤ taken.length := by
    simp [liveBytes]
  rw [counted, length_flaggedIndices, toNat_toUInt64_of_lt (by omega)]

/-- An overflow that is the reason is told directly behind the first flagged byte. -/
theorem Posted.overflow (posted : Posted config output moves journal taken run)
    (honest : Honest moves) (places : journal.filterMap Event.flagged? =
      (flaggedIndices 0 (liveBytes config.warmUpBytes.toNat taken)).map Nat.toUInt64)
    (increasing : (journal.filterMap Event.flagged?).Pairwise (· < ·)) {place : UInt64}
    (reason : run.session.state.reason = some (.hardwareOverflow place)) :
    ∃ earlier later, journal =
        earlier ++ .overflowFlagged place :: .stopRequested (.hardwareOverflow place) :: later ∧
      earlier.filterMap Event.flagged? = [] := by
  have told := posted.told reason (honest place).1 (honest place).2 nofun
  obtain ⟨earlier, later, split⟩ := told.of_overflow
  refine ⟨earlier, later, split, ?_⟩
  have found : firstFlag (liveBytes config.warmUpBytes.toNat taken) = some place.toNat := by
    apply posted.tracked.sighted.first
    rw [SharedState.promise, reason, Option.some_or]
  have first : (journal.filterMap Event.flagged?).head? = some place := by
    rw [places, List.head?_map, head?_flaggedIndices, found]
    simp
  have parts : journal.filterMap Event.flagged? =
      earlier.filterMap Event.flagged? ++ place :: later.filterMap Event.flagged? := by
    rw [split, List.filterMap_append]
    rfl
  rw [parts] at first increasing
  exact nothing_before increasing first

theorem Posted.exact (posted : Posted config output moves journal taken run)
    (honest : Honest moves) (bound : (Move.delivered (CallerMove.moves moves)).length < 2 ^ 63)
    (phase : run.session.phase = .atSource) :
    Exact config output moves journal run
      (liveBytes config.warmUpBytes.toNat (Move.delivered (CallerMove.moves moves))) := by
  obtain ⟨row, calls, ledger, justified⟩ := posted.ledger phase
  have whole := posted.taken_eq phase
  rw [← whole] at bound ⊢
  have bytes : Served.bytes row = taken := by
    rw [Served.bytes, calls, Move.flatMap_deliveries, whole]
  have shorter : (liveBytes config.warmUpBytes.toNat taken).length ≤ taken.length := by
    simp [liveBytes]
  have small : taken.length < UInt64.size := Nat.lt_trans bound (by decide)
  have places := Served.flagged_of_ledger ledger
  rw [bytes] at places
  have flagged : (journal.filterMap Event.flagged?).map UInt64.toNat =
      flaggedIndices 0 (liveBytes config.warmUpBytes.toNat taken) := by
    rw [places, toNat_flaggedIndices (Nat.lt_of_le_of_lt shorter small)]
  have increasing : (journal.filterMap Event.flagged?).Pairwise (· < ·) := by
    have order := pairwise_flaggedIndices 0 (liveBytes config.warmUpBytes.toNat taken)
    rw [← flagged, List.pairwise_map] at order
    exact order.imp UInt64.lt_iff_toNat_lt.mpr
  constructor
  case ledger => exact ⟨row, calls, ledger, justified⟩
  case warmUp => rw [Served.warmUp_of_ledger ledger, bytes]
  case ordered => exact Served.ordered_of_ledger ledger
  case flagged => exact flagged
  case places =>
    intro place
    calc place ∈ journal.filterMap Event.flagged?
        ↔ place.toNat ∈ (journal.filterMap Event.flagged?).map UInt64.toNat := by
          rw [List.mem_map_of_injective fun _ _ => UInt64.toNat_inj.mp]
      _ ↔ _ := by
          rw [flagged, mem_flaggedIndices]
          simp
  case increasing => exact increasing
  case dropouts => rw [posted.dropouts phase small, ← flagged, List.length_map]
  case fields =>
    intro place member
    have named : place.toNat ∈ (journal.filterMap Event.flagged?).map UInt64.toNat :=
      List.mem_map_of_mem member
    rw [flagged] at named
    have inside := lt_of_mem_flaggedIndices named
    exact Event.fields_overflowFlagged (by omega)
  case overflow => exact fun place => posted.overflow honest places increasing

/-- The journal of any run with any consumer. -/
theorem logged_of_play (played : (CallerRun.start config output).play moves = some run)
    (honest : Honest moves) (bound : (Move.delivered (CallerMove.moves moves)).length < 2 ^ 63) :
    Logged config output moves ((CallerRun.start config output).journal moves) run := by
  have small : (Move.delivered (CallerMove.moves moves)).length < UInt64.size :=
    Nat.lt_trans bound (by decide)
  obtain ⟨taken, posted⟩ := Posted.of_play played honest small
  exact ⟨posted.reported.stops, fun _ => posted.told, posted.exact honest bound⟩

/-- The second call has a flagged byte, and somebody else asks for a stop just too late. Then the
consumer leaves, and a call comes with another flagged byte and with one whose samples are lost. -/
def strandedRun : List CallerMove :=
  List.flatten [[.session (.deliver [0x00, 0x29] none)], List.replicate 9 (.session .caller),
    [.session (.deliver [0x05, 0x28, 0x07] (some default))], List.replicate 4 (.session .caller),
    [.session (.record .userInterrupt), .session .raise], List.replicate 8 (.session .caller),
    [.leave, .consumer, .session (.deliver [0x0a, 0x0b] (some default))],
    List.replicate 13 (.session .caller)]

/-- Seven lines, of which the third is about the stop. -/
theorem logged_stranded :
    ∃ run, (CallerRun.start shortWarmUp (some Session.bursting)).play strandedRun = some run ∧
      Honest strandedRun ∧ (Move.delivered (CallerMove.moves strandedRun)).length < 2 ^ 63 ∧
      run.session.sourceReady = true ∧
      run.session.state.reason = some (.hardwareOverflow 2) ∧
      ((CallerRun.start shortWarmUp (some Session.bursting)).journal strandedRun).map
          (fun line => (line.warmUp?, line.flagged?, line.stop?, line.refused?)) =
        [(some 1, none, none, none), (none, some 2, none, none),
          (none, none, some (.hardwareOverflow 2), none), (none, none, none, none),
          (none, some 4, none, none), (none, none, none, some 2), (none, none, none, none)] ∧
      Logged shortWarmUp (some Session.bursting) strandedRun
        ((CallerRun.start shortWarmUp (some Session.bursting)).journal strandedRun) run := by
  have ended : ((CallerRun.start shortWarmUp (some Session.bursting)).play strandedRun).map
      (fun run => (run.session.sourceReady, run.session.state.reason)) =
        some (true, some (.hardwareOverflow 2)) := by cbv
  obtain ⟨run, played, same⟩ := Option.map_eq_some_iff.mp ended
  rw [Prod.mk.injEq] at same
  have honest : Honest strandedRun := by simp [Honest, strandedRun]
  have bound : (Move.delivered (CallerMove.moves strandedRun)).length < 2 ^ 63 := by decide
  exact ⟨run, played, honest, bound, same.1, same.2, by cbv, logged_of_play played honest bound⟩

end CallerRun

end SampleCapture
