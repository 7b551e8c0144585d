import SampleCapture.Proofs.Reader
import SampleCapture.Proofs.Session.Answers
import SampleCapture.Proofs.Session.File
import SampleCapture.Proofs.Session.Overflow
import SampleCapture.Proofs.Session.Progress

/-!
# Replays

A session whose source replays recorded bytes, whose output takes whatever it gets, and which
nobody else asks to stop. It ends at the first flagged live byte, or with the transfer, and
what it writes does not depend on how the bytes have been cut into reads and bursts; only how
much comes after the flagged byte does.
-/

namespace SampleCapture

namespace Move

def isRequest : Move → Bool
  | .ask _ | .record _ | .raise => true
  | .caller | .recorder | .deliver _ _ | .finish _ => false

/-- A row of moves without a request consists of steps of the threads, calls, and ends of the
source. -/
theorem length_eq {moves : List Move} (alone : ∀ move ∈ moves, move.isRequest = false) :
    moves.length = threadSteps moves + (deliveries moves).length + (results moves).length ∧
      budget moves = 14 * (delivered moves).length +
        11 * ((deliveries moves).length + (results moves).length) := by
  induction moves with
  | nil => exact ⟨rfl, rfl⟩
  | cons move moves ih =>
      obtain ⟨length, total⟩ := ih fun other member => alone other (List.mem_cons_of_mem _ member)
      have quiet := alone move List.mem_cons_self
      simp only [threadSteps, deliveries, results, delivered, budget] at length total ⊢
      rw [List.map_cons, List.sum_cons, total, List.length_cons, length, List.countP_cons,
        List.filterMap_cons, List.filterMap_cons, List.flatMap_cons, List.length_append]
      cases move with
      | ask | record | raise => cases quiet
      | caller | recorder | finish | deliver =>
          simp only [isThread, delivery?, result?, burst, allowance, List.length_cons]
          constructor <;> simp <;> omega

theorem of_isThread {move : Move} (threaded : move.isThread = true) :
    move.isRequest = false ∧ deliveries [move] = [] ∧ results [move] = [] := by
  cases move with
  | caller | recorder => exact ⟨rfl, rfl, rfl⟩
  | deliver | ask | finish | record | raise => cases threaded

end Move

theorem CallerPhase.Follows.length_le {phase : CallerPhase} {results : List (Option CaptureError)}
    (follows : phase.Follows results) : results.length ≤ 1 := by
  cases phase with
  | returned | collapsing =>
      obtain ⟨error, same⟩ := follows
      rw [same]
      exact Nat.le_refl 1
  | _ =>
      rw [show results = _ from follows]
      simp

/-- Nothing is taken in after the end of the source. -/
theorem CallerPhase.Follows.uncounted {phase : CallerPhase} {results : List (Option CaptureError)}
    (follows : phase.Follows results) (finished : results ≠ []) : phase.uncounted = [] := by
  cases phase with
  | counting => exact absurd follows finished
  | _ => rfl

namespace Session

/-! ## A session that nobody else asks to stop -/

/-- What leads to the reason and to the answers of a session with a willing output as long as
nobody else asks for a stop. -/
structure Undisturbed (config : CaptureOptions) (writer : Writer) (moves : List Move)
    (taken : List UInt8) (session : Session) : Prop where
  prompted : Prompted config (some writer) moves session
  follows : session.phase.Follows (Move.results moves)
  sighted : Sighted config.warmUpBytes.toNat taken session
  /-- The reason is an overflow, or the end of a transfer without one. -/
  reasons : ∀ reason, session.state.promise session.phase.effects = some reason →
    (∃ offset, reason = .hardwareOverflow offset) ∨ reason = .transferEnded ∧
      Move.results moves ≠ [] ∧ firstFlag (liveBytes config.warmUpBytes.toNat taken) = none
  /-- The source is stopped only because of an overflow. -/
  stops : .stop ∈ session.answers → firstFlag (liveBytes config.warmUpBytes.toNat taken) ≠ none

namespace Undisturbed

variable {config : CaptureOptions} {writer : Writer} {moves : List Move} {taken : List UInt8}
  {session next : Session} {lane : RecorderLane} {move : Move}

/-- Bytes that are still to be taken in do not change what has been promised. -/
theorem reasons_append (undisturbed : Undisturbed config writer moves taken session)
    (move : Move) {reason : StopReason}
    (promised : session.state.promise session.phase.effects = some reason) :
    (∃ offset, reason = .hardwareOverflow offset) ∨ reason = .transferEnded ∧
      Move.results (moves ++ [move]) ≠ [] ∧
        firstFlag (liveBytes config.warmUpBytes.toNat (taken ++ session.counted move)) = none := by
  refine (undisturbed.reasons reason promised).imp_right ?_
  rintro ⟨same, finished, unflagged⟩
  have nothing : session.counted move = [] := by
    cases move with
    | caller => exact undisturbed.follows.uncounted finished
    | _ => rfl
  rw [Move.results_append, nothing, List.append_nil]
  exact ⟨same, fun none => finished (List.append_eq_nil_iff.mp none).1, unflagged⟩

theorem reasons_step (undisturbed : Undisturbed config writer moves taken session)
    (running : Running config writer taken session lane) (willing : writer.Willing)
    (step : session.Step move next) (alone : move.isRequest = false) {reason : StopReason}
    (promised : next.state.promise next.phase.effects = some reason) :
    (∃ offset, reason = .hardwareOverflow offset) ∨ reason = .transferEnded ∧
      Move.results (moves ++ [move]) ≠ [] ∧
        firstFlag (liveBytes config.warmUpBytes.toNat (taken ++ session.counted move)) = none := by
  have working := running.working willing
  cases step with
  | caller step =>
      cases step.gives promised with
      | before promised => exact undisturbed.reasons_append .caller promised
      | flagged offset => exact .inl ⟨offset, rfl⟩
      | refused known opened abandoned =>
          cases running.output.symm.trans known
          cases abandoned.symm.trans (running.wired.present working opened)
      | crashed known ended =>
          cases running.output.symm.trans known
          exact absurd (by rw [ended]; rfl) working
      | ended phase down =>
          have finished := undisturbed.follows
          rw [phase] at finished
          refine .inr ⟨rfl, ?_, ?_⟩
          · rw [Move.results_append, show Move.results moves = [none] from finished]
            exact List.cons_ne_nil _ _
          · rw [counted, phase]
            apply Decidable.byContradiction
            intro flagged
            rcases undisturbed.sighted.raised (by rwa [← List.append_nil taken]) with up | member
            · cases up.symm.trans down
            · rw [phase] at member
              cases member
  | @recorder other thread known step =>
      cases running.output.symm.trans known
      refine undisturbed.reasons_append .recorder ?_
      have still : (session.withThread thread).state.reason = session.state.reason := by
        rcases step.request with ⟨effect, effects, fault, phase, -⟩ | ⟨-, same, -⟩
        · exact absurd (by rw [show lane.recorder.phase = _ from phase]; rfl) working
        · exact same
      rw [← promised, SharedState.promise, SharedState.promise, still]
      rfl
  | deliver burst report ready =>
      refine undisturbed.reasons_append (.deliver burst report) ?_
      rw [← promised, ready, phase_goTo]
      split <;> rfl
  | finish error ready =>
      refine undisturbed.reasons_append (.finish error) ?_
      rw [← promised, ready]
      rfl
  | ask | record | raise => cases alone

theorem stops_step (undisturbed : Undisturbed config writer moves taken session)
    (step : session.Step move next) (stopped : .stop ∈ next.answers) :
    firstFlag (liveBytes config.warmUpBytes.toNat (taken ++ session.counted move)) ≠ none := by
  have seen : firstFlag (liveBytes config.warmUpBytes.toNat taken) ≠ none := by
    rcases step.answers with same | ⟨-, phase, given⟩
    · exact undisturbed.stops (same ▸ stopped)
    · rw [given, Array.mem_push] at stopped
      rcases stopped with before | now
      · exact undisturbed.stops before
      · have up : session.state.stopping = true := by
          apply Decidable.byContradiction
          intro down
          rw [Intake.answer, if_neg down] at now
          cases now
        obtain ⟨reason, known⟩ := Option.ne_none_iff_exists'.mp (undisturbed.prompted.flag up)
        have promised : session.state.promise session.phase.effects = some reason := by
          rw [SharedState.promise, known, Option.some_or]
        rcases undisturbed.reasons reason promised with ⟨offset, rfl⟩ | ⟨-, finished, -⟩
        · rw [undisturbed.sighted.first offset promised]
          exact Option.some_ne_none _
        · have unended := undisturbed.follows
          rw [phase] at unended
          exact absurd unended finished
  obtain ⟨place, found⟩ := Option.ne_none_iff_exists'.mp seen
  rw [firstFlag_of_isPrefix (liveBytes_isPrefix (List.prefix_append taken _) _) found]
  exact Option.some_ne_none _

theorem step (undisturbed : Undisturbed config writer moves taken session)
    (running : Running config writer taken session lane) (willing : writer.Willing)
    (step : session.Step move next) (alone : move.isRequest = false)
    (bound : (taken ++ session.counted move).length < UInt64.size) :
    Undisturbed config writer (moves ++ [move]) (taken ++ session.counted move) next where
  prompted := undisturbed.prompted.step step
  follows := step.follows undisturbed.follows
  sighted := by
    refine undisturbed.sighted.step step (fun other known => ?_) (fun offset => ?_) bound
    · cases running.output.symm.trans known
      exact running.settled.orderly
    · constructor <;> rintro rfl <;> cases alone
  reasons _ promised := undisturbed.reasons_step running willing step alone promised
  stops stopped := undisturbed.stops_step step stopped

theorem start (config : CaptureOptions) (writer : Writer) :
    Undisturbed config writer [] [] (Session.start config none (some writer)) := by
  constructor
  case prompted => exact .start config none (some writer)
  case follows => exact rfl
  case sighted => exact .start config (some writer)
  case reasons => exact nofun
  case stops => exact nofun

theorem of_play {moves : List Move}
    (played : (Session.start config none (some writer)).play moves = some session)
    (willing : writer.Willing) (alone : ∀ move ∈ moves, move.isRequest = false)
    (bound : (Move.delivered moves).length < UInt64.size) :
    ∃ taken lane, Move.delivered moves = taken ++ session.phase.uncounted ∧
      Running config writer taken session lane ∧
      Undisturbed config writer moves taken session := by
  suffices reached : ∃ taken lane, Move.delivered moves = taken ++ session.phase.uncounted ∧
      Running config writer taken session lane ∧
      ((∀ move ∈ moves, move.isRequest = false) → Undisturbed config writer moves taken session) by
    obtain ⟨taken, lane, delivered, running, held⟩ := reached
    exact ⟨taken, lane, delivered, running, held alone⟩
  refine Running.along (motive := fun past taken session _ =>
    (∀ move ∈ past, move.isRequest = false) → Undisturbed config writer past taken session)
    (fun _ _ _ => start config writer) ?_ played bound
  intro past taken session next lane after move running _ step short before alone
  exact (before fun other member => alone other (List.mem_append_left _ member)).step running
    willing step (alone move (List.mem_append_right _ (List.mem_singleton_self move))) short

end Undisturbed

/-- A session with a willing output returns a summary without a write error, unless the source
has ended with an error. -/
theorem Equipped.summary {config : CaptureOptions} {writer : Writer} {moves : List Move}
    {session : Session} {lane : RecorderLane} (equipped : Equipped config writer session lane)
    (sourced : session.Sourced moves lane) (willing : writer.Willing) {outcome : Outcome}
    (returned : session.phase = .returned outcome)
    (clean : ∀ error, .finish (some error) ∉ moves) :
    ∃ summary written, outcome = .summary summary ∧ summary.writeError = none ∧
      lane.recorder.phase = .ended (.finished written) := by
  have working := equipped.working willing
  have meets := equipped.settled.meets
  rw [returned] at meets
  cases outcome with
  | summary summary =>
      rcases meets with ⟨none, written, ended⟩ | ⟨-, fault, ended⟩
      · exact ⟨summary, written, rfl, none, ended⟩
      · exact absurd (by rw [ended]; rfl) working
  | failure error =>
      rcases sourced error (by rw [returned]; rfl) with finished | ended
      · exact absurd finished (clean error)
      · exact absurd (by rw [ended]; rfl) working

end Session

/-! ## Replays -/

/-- A session with an output whose source replays these items. -/
structure Replay where
  config : CaptureOptions
  writer : Writer
  /-- The chunk size of the source. -/
  chunk : Nat
  /-- The interval of the progress reports, the clock that they are measured by, and when the
  transfer starts. -/
  interval : Nat
  clock : Nat → Int
  started : Int
  items : List ReadItem

namespace Replay

/-- The calls that the source makes when these are the answers that it gets, and the fault
that it ends with. -/
def transfer (replay : Replay) (answers : List Answer) : List Delivery × Option Fault :=
  let (fault, seat) := Reader.run replay.chunk replay.interval replay.clock replay.started
    Reader.answering (answers, []) replay.items
  (seat.2, fault)

/-- The session after these moves, among which those of the source are the calls and the end of
the replay, and nobody else's are. -/
structure Conducts (replay : Replay) (moves : List Move) (session : Session) : Prop where
  played : (Session.start replay.config none (some replay.writer)).play moves = some session
  alone : ∀ move ∈ moves, move.isRequest = false
  calls : Move.deliveries moves <+: (replay.transfer session.answers.toList).1
  ends : ∀ result ∈ Move.results moves,
    Move.deliveries moves = (replay.transfer session.answers.toList).1 ∧
      result = (replay.transfer session.answers.toList).2.map .io

def Rests (replay : Replay) (moves : List Move) (session : Session) : Prop :=
  ∀ move next, session.step? move = some next → ¬ replay.Conducts (moves ++ [move]) next

/-- The items are a splitting of these bytes into reads that find something, with interruptions
in between, and the output takes whatever it gets. -/
structure Reads (replay : Replay) (bytes : List UInt8) : Prop where
  readable : Reader.Readable replay.items
  content : Reader.content replay.items = bytes
  willing : replay.writer.Willing

def calls (replay : Replay) : List Delivery :=
  (Reader.course (replay.chunk - 1) replay.clock (.start replay.interval replay.started) 0
    replay.items).1

variable {replay : Replay} {bytes : List UInt8} {moves : List Move} {session : Session}

theorem Reads.transfer (reads : replay.Reads bytes) (answers : List Answer) :
    replay.transfer answers = (Reader.untilStop answers replay.calls, none) := by
  obtain ⟨ended, -⟩ := Reader.course_of_readable (replay.chunk - 1) replay.clock
    (.start replay.interval replay.started) 0 reads.readable
  have fed := Reader.stream_eq_feed Reader.answering (replay.chunk - 1) replay.clock
    (.start replay.interval replay.started) 0 (answers, []) replay.items
  rw [ended] at fed
  have fault := Reader.feed_none Reader.answering (answers, []) replay.calls
  have kept := Reader.feed_answering none answers [] replay.calls
  rw [Replay.transfer, Reader.run, fed]
  exact Prod.ext (kept.trans (List.nil_append _)) fault

theorem Reads.calls (reads : replay.Reads bytes) :
    replay.calls.flatMap (·.bytes) = bytes ∧ replay.calls.length ≤ 2 * bytes.length := by
  obtain ⟨-, carried, few⟩ := Reader.course_of_readable (replay.chunk - 1) replay.clock
    (.start replay.interval replay.started) 0 reads.readable
  rw [reads.content] at carried few
  exact ⟨carried, few⟩

/-- A run that makes all calls and ends the source without an error. -/
theorem Reads.conducts (reads : replay.Reads bytes)
    (played : (Session.start replay.config none (some replay.writer)).play moves = some session)
    (alone : ∀ move ∈ moves, move.isRequest = false)
    (made : Move.deliveries moves = Reader.untilStop session.answers.toList replay.calls)
    (ended : Move.results moves = [none]) : replay.Conducts moves session := by
  refine ⟨played, alone, ?_, ?_⟩ <;> rw [reads.transfer]
  · exact made ▸ List.prefix_refl _
  · intro result member
    rw [ended] at member
    cases List.mem_singleton.mp member
    exact ⟨made, rfl⟩

/-! ### Every replay ends -/

namespace Conducts

theorem delivered_isPrefix (conducts : replay.Conducts moves session) (reads : replay.Reads bytes) :
    Move.delivered moves <+: bytes ∧ (Move.deliveries moves).length ≤ 2 * bytes.length := by
  have made := conducts.calls
  rw [reads.transfer] at made
  obtain ⟨later, whole⟩ := made.trans (Reader.untilStop_isPrefix _ _)
  obtain ⟨carried, few⟩ := reads.calls
  rw [← whole, List.flatMap_append, Move.flatMap_deliveries] at carried
  rw [← whole, List.length_append] at few
  exact ⟨⟨_, carried⟩, by omega⟩

/-- A replay makes finitely many moves, in whatever order. -/
theorem length_le (conducts : replay.Conducts moves session) (reads : replay.Reads bytes) :
    moves.length ≤ 38 * bytes.length + 26 := by
  obtain ⟨front, few⟩ := conducts.delivered_isPrefix reads
  obtain ⟨length, budget⟩ := Move.length_eq conducts.alone
  have steps := Session.threadSteps_le conducts.played
  have ends := (Session.follows_of_play conducts.played).length_le
  have less := front.length_le
  omega

theorem play_snoc {move : Move} {next : Session} (conducts : replay.Conducts moves session)
    (moved : session.step? move = some next) :
    (Session.start replay.config none (some replay.writer)).play (moves ++ [move]) = some next := by
  rw [Session.play_append, conducts.played, Option.bind_some, Session.play, moved]
  rfl

theorem alone_snoc {move : Move} (conducts : replay.Conducts moves session)
    (quiet : move.isRequest = false) : ∀ other ∈ moves ++ [move], other.isRequest = false := by
  intro other member
  rcases List.mem_append.mp member with before | last
  · exact conducts.alone other before
  · exact List.mem_singleton.mp last ▸ quiet

/-- A step of a thread goes on with the replay. -/
theorem thread (conducts : replay.Conducts moves session) (reads : replay.Reads bytes)
    {move : Move} (threaded : move.isThread = true) {next : Session}
    (moved : session.step? move = some next) : replay.Conducts (moves ++ [move]) next := by
  obtain ⟨quiet, uncalled, unended⟩ := Move.of_isThread threaded
  have calls : Move.deliveries (moves ++ [move]) = Move.deliveries moves := by
    rw [Move.deliveries_append, uncalled, List.append_nil]
  have results : Move.results (moves ++ [move]) = Move.results moves := by
    rw [Move.results_append, unended, List.append_nil]
  refine ⟨conducts.play_snoc moved, conducts.alone_snoc quiet, ?_, ?_⟩ <;> rw [calls]
  · rcases (Session.Step.of_step? moved).answers with same | ⟨-, phase, given⟩
    · rw [same]
      exact conducts.calls
    · have made := conducts.calls
      have answered := Session.length_deliveries_of_play conducts.played
      rw [phase] at answered
      rw [reads.transfer] at made ⊢
      rw [given, Array.toList_push]
      exact Reader.prefix_untilStop_append _ _ _ made (Nat.le_of_eq answered)
  · intro result member
    rw [results] at member
    rcases (Session.Step.of_step? moved).answers with same | ⟨-, phase, -⟩
    · rw [same]
      exact conducts.ends result member
    · have follows := Session.follows_of_play conducts.played
      rw [phase] at follows
      rw [show Move.results moves = [] from follows] at member
      cases member

/-- When the source has control it makes its next call, or it ends. -/
theorem source (conducts : replay.Conducts moves session) (reads : replay.Reads bytes)
    (phase : session.phase = .atSource) :
    ∃ move next, session.step? move = some next ∧ replay.Conducts (moves ++ [move]) next := by
  have ready : session.sourceReady = true := by rw [Session.sourceReady, phase]
  have unended := Session.follows_of_play conducts.played
  rw [phase] at unended
  obtain ⟨later, whole⟩ := conducts.calls
  cases later with
  | nil =>
      rw [List.append_nil] at whole
      have moved : session.step? (.finish none) = some (session.goTo (.finishing none)) :=
        if_pos ready
      have calls : Move.deliveries (moves ++ [.finish none]) = Move.deliveries moves := by
        rw [Move.deliveries_append]
        exact List.append_nil _
      refine ⟨_, _, moved, conducts.play_snoc moved, conducts.alone_snoc rfl, ?_, ?_⟩ <;> rw [calls]
      · exact conducts.calls
      · intro result member
        rw [Move.results_append, show Move.results moves = [] from unended] at member
        cases List.mem_singleton.mp member
        refine ⟨whole, ?_⟩
        rw [reads.transfer]
        rfl
  | cons call later =>
      have moved : session.step? (.deliver call.bytes call.report) = some (session.goTo
          (if call.bytes = [] then .reporting call.report
            else .counting call.bytes call.report)) := if_pos ready
      refine ⟨_, _, moved, conducts.play_snoc moved, conducts.alone_snoc rfl, ?_, ?_⟩
      · rw [Move.deliveries_append]
        refine ⟨later, (List.append_assoc _ _ _).trans ?_⟩
        exact whole
      · intro result member
        rw [Move.results_append, show Move.results moves = [] from unended] at member
        cases member

/-- A replay goes on until its session has returned. -/
theorem progress (conducts : replay.Conducts moves session) (reads : replay.Reads bytes)
    (pending : session.outcome? = none) :
    ∃ move next, session.step? move = some next ∧ replay.Conducts (moves ++ [move]) next := by
  have manned := Session.Manned.of_play conducts.played
  have roused := Session.Roused.of_play conducts.played
  rcases Session.thread_step_or manned roused pending with ⟨next, moved⟩ | ⟨next, moved⟩ | phase
  · exact ⟨.caller, next, moved, conducts.thread reads rfl moved⟩
  · exact ⟨.recorder, next, moved, conducts.thread reads rfl moved⟩
  · exact conducts.source reads phase

theorem outcome_of_rests (conducts : replay.Conducts moves session) (reads : replay.Reads bytes)
    (rests : replay.Rests moves session) : ∃ outcome, session.outcome? = some outcome := by
  cases known : session.outcome? with
  | some outcome => exact ⟨outcome, rfl⟩
  | none =>
      obtain ⟨move, next, moved, later⟩ := conducts.progress reads known
      exact absurd later (rests move next moved)

/-- Once the session has returned, nothing can follow. -/
theorem rests_of_outcome (conducts : replay.Conducts moves session) {outcome : Outcome}
    (known : session.outcome? = some outcome) : replay.Rests moves session := by
  intro move next moved later
  have returned := Session.phase_of_outcome known
  obtain ⟨lane, equipped, -⟩ := Session.Equipped.of_play conducts.played
  obtain ⟨ending, ended⟩ := equipped.ended returned
  have quiet := later.alone move (List.mem_append_right _ (List.mem_singleton_self move))
  cases Session.Step.of_step? moved with
  | caller step =>
      have stuck : session.callerStep? = none := by rw [Session.callerStep?, returned]
      cases stuck.symm.trans moved
  | recorder running step =>
      cases equipped.output.symm.trans running
      exact step.not_ended ending ended
  | deliver _ _ ready | finish _ ready => cases returned.symm.trans ready
  | ask | record | raise => cases quiet

end Conducts

/-! ### What a replay comes to -/

/-- Why a session ends that has these live bytes and that nobody asks to stop. -/
def endReason (live : List UInt8) : StopReason :=
  (firstFlag live).elim .transferEnded fun place => .hardwareOverflow place.toUInt64

structure Result (replay : Replay) (bytes : List UInt8) (session : Session) (summary : Summary) :
    Prop where
  outcome : session.outcome? = some (.summary summary)
  stopReason :
    summary.stopReason = some (endReason (liveBytes replay.config.warmUpBytes.toNat bytes))
  writeError : summary.writeError = none
  /-- All that has been taken is in the file: the bytes up to the first flagged live one at
  least, and everything if there is none. -/
  saved : ∃ taken, taken <+: bytes ∧ session.Faithful replay.config.warmUpBytes.toNat taken ∧
    beforeFlag (liveBytes replay.config.warmUpBytes.toNat bytes) <+:
      liveBytes replay.config.warmUpBytes.toNat taken ∧
    (firstFlag (liveBytes replay.config.warmUpBytes.toNat bytes) = none → taken = bytes)

theorem Conducts.result (conducts : replay.Conducts moves session) (reads : replay.Reads bytes)
    (bound : bytes.length < UInt64.size) {outcome : Outcome}
    (known : session.outcome? = some outcome) : ∃ summary, replay.Result bytes session summary := by
  have returned := Session.phase_of_outcome known
  obtain ⟨front, -⟩ := conducts.delivered_isPrefix reads
  have short := Nat.lt_of_le_of_lt front.length_le bound
  obtain ⟨taken, lane, delivered, running, undisturbed⟩ :=
    Session.Undisturbed.of_play conducts.played reads.willing conducts.alone short
  rw [returned, show (CallerPhase.returned outcome).uncounted = [] from rfl,
    List.append_nil] at delivered
  rw [delivered] at front short
  -- the source has made all its calls and has ended without an error
  have follows := undisturbed.follows
  rw [returned] at follows
  obtain ⟨error, results⟩ := follows
  obtain ⟨made, clean⟩ := conducts.ends error (by rw [results]; exact List.mem_singleton_self _)
  rw [reads.transfer] at made clean
  cases clean
  have unharmed (error : CaptureError) : .finish (some error) ∉ moves := by
    rw [← Move.mem_results, results]
    simp
  obtain ⟨other, equipped, sourced⟩ := Session.Equipped.of_play conducts.played
  cases running.output.symm.trans equipped.output
  obtain ⟨summary, written, rfl, unfailed, finished⟩ :=
    equipped.summary sourced reads.willing returned unharmed
  have faithful := running.faithful short returned finished
  have all (unflagged : firstFlag (liveBytes replay.config.warmUpBytes.toNat taken) = none) :
      taken = bytes := by
    have onward : .stop ∉ session.answers.toList := fun stopped =>
      undisturbed.stops (Array.mem_toList_iff.mp stopped) unflagged
    rw [Reader.untilStop_of_continue onward] at made
    rw [← delivered, ← Move.flatMap_deliveries, made, reads.calls.1]
  have live := liveBytes_isPrefix front replay.config.warmUpBytes.toNat
  have tells := undisturbed.prompted.tells
  rw [returned] at tells
  obtain ⟨same, given⟩ := tells
  obtain ⟨reason, recorded⟩ := Option.ne_none_iff_exists'.mp given
  have promised : session.state.promise session.phase.effects = some reason := by
    rw [SharedState.promise, recorded, Option.some_or]
  refine ⟨summary, known, ?_, unfailed, taken, front, faithful, ?_, ?_⟩
  · rw [same, recorded]
    rcases undisturbed.reasons reason promised with ⟨offset, rfl⟩ | ⟨rfl, -, unflagged⟩
    · rw [endReason, firstFlag_of_isPrefix live (undisturbed.sighted.first offset promised)]
      simp
    · rw [endReason, ← all unflagged, unflagged]
      rfl
  · cases flag : firstFlag (liveBytes replay.config.warmUpBytes.toNat taken) with
    | none =>
        rw [all flag]
        exact beforeFlag_isPrefix _
    | some place =>
        obtain ⟨later, whole⟩ := live
        rw [← whole, beforeFlag_append_of_flagged (by rw [flag]; exact Option.some_ne_none _)]
        exact beforeFlag_isPrefix _
  · intro unflagged
    cases flag : firstFlag (liveBytes replay.config.warmUpBytes.toNat taken) with
    | none => exact all flag
    | some place => cases unflagged.symm.trans (firstFlag_of_isPrefix live flag)

/-! ### Two replays of the same bytes -/

/-- What the sessions of two replays have in common; these are the live bytes of both. -/
structure Alike (live : List UInt8) (session other : Session) (summary again : Summary) :
    Prop where
  outcome : session.outcome? = some (.summary summary)
  otherOutcome : other.outcome? = some (.summary again)
  stopReason : summary.stopReason = some (endReason live)
  sameReason : again.stopReason = summary.stopReason
  comparable : session.fileBytes <+: other.fileBytes ∨ other.fileBytes <+: session.fileBytes
  /-- The samples before the first flagged byte are in both files. -/
  begins : sampleBytes (beforeFlag live) <+: session.fileBytes
  otherBegins : sampleBytes (beforeFlag live) <+: other.fileBytes
  equal : firstFlag live = none →
    session.fileBytes = other.fileBytes ∧ summary.counters = again.counters

end Replay

/-- Everything but the size of the file has room in the counters, so they follow from what has
been delivered. -/
theorem Session.Faithful.counters_eq {warmUp : Nat} {delivered : List UInt8}
    {session other : Session} (faithful : session.Faithful warmUp delivered)
    (again : other.Faithful warmUp delivered) : session.state.counters = other.state.counters := by
  have file := faithful.file.trans again.file.symm
  have received : session.state.counters.received.toNat = other.state.counters.received.toNat :=
    faithful.received.trans again.received.symm
  have saved : session.state.counters.saved.toNat = other.state.counters.saved.toNat := by
    have halves := faithful.halves
    rw [file, again.halves] at halves
    omega
  have dropouts : session.state.counters.dropouts.toNat = other.state.counters.dropouts.toNat := by
    have accounted := faithful.accounted
    have reaccounted := again.accounted
    rw [received, saved] at accounted
    omega
  have written : session.state.counters.written = other.state.counters.written := by
    rw [faithful.written, again.written, file]
  cases first : session.state.counters
  cases second : other.state.counters
  rw [first, second] at received saved dropouts written
  simp only [Counters.mk.injEq]
  exact ⟨UInt64.toNat_inj.mp received, UInt64.toNat_inj.mp saved, written,
    UInt64.toNat_inj.mp dropouts⟩

namespace Replay

/-- The chunk size of a replay and the splitting of its bytes into reads make no difference but
in how much comes after the first flagged byte. -/
theorem alike_of_reads {first second : Replay} {bytes : List UInt8} {moves others : List Move}
    {session other : Session} (reads : first.Reads bytes) (rereads : second.Reads bytes)
    (warmUp : second.config.warmUpBytes = first.config.warmUpBytes)
    (bound : bytes.length < UInt64.size) (conducts : first.Conducts moves session)
    (reconducts : second.Conducts others other) :
    moves.length ≤ 38 * bytes.length + 26 ∧ others.length ≤ 38 * bytes.length + 26 ∧
      (first.Rests moves session → second.Rests others other → ∃ summary again,
        Alike (liveBytes first.config.warmUpBytes.toNat bytes) session other summary again) := by
  refine ⟨conducts.length_le reads, reconducts.length_le rereads, fun rests rerests => ?_⟩
  obtain ⟨outcome, known⟩ := conducts.outcome_of_rests reads rests
  obtain ⟨reoutcome, reknown⟩ := reconducts.outcome_of_rests rereads rerests
  obtain ⟨summary, result⟩ := conducts.result reads bound known
  obtain ⟨again, reresult⟩ := reconducts.result rereads bound reknown
  obtain ⟨returned, reason, -, taken, front, faithful, begins, whole⟩ := result
  obtain ⟨rereturned, rereason, -, retaken, refront, refaithful, rebegins, rewhole⟩ := reresult
  rw [warmUp] at rereason refaithful rebegins rewhole
  have comparable : session.fileBytes <+: other.fileBytes ∨ other.fileBytes <+: session.fileBytes := by
    rw [faithful.file, refaithful.file]
    rcases List.prefix_or_prefix_of_prefix front refront with shorter | longer
    · exact .inl (sampleBytes_isPrefix (liveBytes_isPrefix shorter _))
    · exact .inr (sampleBytes_isPrefix (liveBytes_isPrefix longer _))
  refine ⟨summary, again, returned, rereturned, reason, rereason.trans reason.symm, comparable,
    ?_, ?_, ?_⟩
  · rw [faithful.file]
    exact sampleBytes_isPrefix begins
  · rw [refaithful.file]
    exact sampleBytes_isPrefix rebegins
  · intro unflagged
    rw [whole unflagged] at faithful
    rw [rewhole unflagged] at refaithful
    rw [faithful.summed summary returned, refaithful.summed again rereturned]
    exact ⟨faithful.file.trans refaithful.file.symm, faithful.counters_eq refaithful⟩

/-- The warm-up byte on its own, an interrupted read, and the rest in chunks of two. -/
def splitReplay : Replay where
  config := Session.hesitantConfig
  writer := Session.hesitant
  chunk := 2
  interval := 1
  clock _ := 0
  started := 0
  items := [.data [0x00], .fault { kind := .interrupted }, .data [0x29, 0x28, 0x05]]

def splitRun : List Move :=
  List.flatten [List.replicate 3 .recorder, [.deliver [0x00] none], List.replicate 4 .caller,
    [.deliver [0x29, 0x28] none], List.replicate 12 .caller, List.replicate 7 .recorder,
    [.finish none], List.replicate 3 .caller, List.replicate 6 .recorder, List.replicate 2 .caller]

/-- The same bytes in one read, with other sizes of queue and slices. -/
def wholeReplay : Replay where
  config := { warmUpBytes := 1 }
  writer := Session.hesitant
  chunk := 4
  interval := 1
  clock _ := 0
  started := 0
  items := [.data [0x00, 0x29, 0x28, 0x05]]

def wholeRun : List Move :=
  List.flatten [List.replicate 3 .recorder, [.deliver [0x00, 0x29, 0x28, 0x05] none],
    List.replicate 13 .caller, List.replicate 6 .recorder, [.finish none],
    List.replicate 3 .caller, List.replicate 6 .recorder, List.replicate 2 .caller]

theorem reads_splitReplay : splitReplay.Reads [0x00, 0x29, 0x28, 0x05] where
  readable := by simp [Reader.Readable, splitReplay, Fault.isInterrupted]
  content := rfl
  willing := Session.willing_hesitant

theorem reads_wholeReplay : wholeReplay.Reads [0x00, 0x29, 0x28, 0x05] where
  readable := by simp [Reader.Readable, wholeReplay]
  content := rfl
  willing := Session.willing_hesitant

theorem conducts_splitRun :
    ∃ session, splitReplay.Conducts splitRun session ∧ session.outcome?.isSome = true ∧
      session.fileBytes = [3, 5] := by
  have told : ((Session.start splitReplay.config none (some splitReplay.writer)).play splitRun).map
      (fun session => (session.answers.toList, session.outcome?.isSome, session.fileBytes)) =
        some ([.continue, .stop], true, [3, 5]) := by cbv
  obtain ⟨session, played, told⟩ := Option.map_eq_some_iff.mp told
  simp only [Prod.mk.injEq] at told
  obtain ⟨answers, returned, file⟩ := told
  refine ⟨session, reads_splitReplay.conducts played (by decide) ?_ rfl, returned, file⟩
  rw [answers]
  cbv

theorem conducts_wholeRun :
    ∃ session, wholeReplay.Conducts wholeRun session ∧ session.outcome?.isSome = true ∧
      session.fileBytes = [3, 5, 1, 3] := by
  have told : ((Session.start wholeReplay.config none (some wholeReplay.writer)).play wholeRun).map
      (fun session => (session.answers.toList, session.outcome?.isSome, session.fileBytes)) =
        some ([.stop], true, [3, 5, 1, 3]) := by cbv
  obtain ⟨session, played, told⟩ := Option.map_eq_some_iff.mp told
  simp only [Prod.mk.injEq] at told
  obtain ⟨answers, returned, file⟩ := told
  refine ⟨session, reads_wholeReplay.conducts played (by decide) ?_ rfl, returned, file⟩
  rw [answers]
  cbv

/-- The second file has two more samples, which come after the flagged byte. -/
theorem alike_splitReplay :
    ∃ session other summary again, splitReplay.Conducts splitRun session ∧
      wholeReplay.Conducts wholeRun other ∧ session.fileBytes = [3, 5] ∧
      other.fileBytes = [3, 5, 1, 3] ∧
      Alike (liveBytes 1 [0x00, 0x29, 0x28, 0x05]) session other summary again := by
  obtain ⟨session, conducts, returned, file⟩ := conducts_splitRun
  obtain ⟨other, reconducts, rereturned, refile⟩ := conducts_wholeRun
  obtain ⟨outcome, known⟩ := Option.isSome_iff_exists.mp returned
  obtain ⟨reoutcome, reknown⟩ := Option.isSome_iff_exists.mp rereturned
  obtain ⟨-, -, alike⟩ := alike_of_reads reads_splitReplay reads_wholeReplay rfl (by decide)
    conducts reconducts
  obtain ⟨summary, again, alike⟩ := alike (conducts.rests_of_outcome known)
    (reconducts.rests_of_outcome reknown)
  exact ⟨session, other, summary, again, conducts, reconducts, file, refile, alike⟩

end Replay

end SampleCapture
