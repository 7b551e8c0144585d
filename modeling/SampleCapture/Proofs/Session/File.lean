import Mathlib
import SampleCapture.Proofs.Session.Runs

/-!
# The file of a session

However the output behaves and whenever it fails, the file holds a first part of the
samples of what has been delivered.
-/

namespace SampleCapture

namespace Session

/-- The file is a first part of the samples at every moment of every run of fewer than `2 ^ 63`
bytes. When the caller has returned, it falls short of the bytes counted as written by no more
than the buffer, and exceeds them by less than a slice. -/
theorem fileBytes_prefix {config : CaptureOptions} {preStop : Option StopReason} {writer : Writer}
    {moves : List Move} {session : Session}
    (played : (start config preStop (some writer)).play moves = some session)
    (bound : 2 * (Move.delivered moves).length < UInt64.size) :
    session.fileBytes <+:
        sampleBytes (liveBytes config.warmUpBytes.toNat (Move.delivered moves)) ∧
      ∀ outcome, session.outcome? = some outcome →
        session.state.counters.written.toNat ≤
            session.fileBytes.length + config.normalize.writeBufferBytes.toNat ∧
          session.fileBytes.length ≤
            session.state.counters.written.toNat + (config.normalize.writeSliceBytes.toNat - 1) := by
  obtain ⟨taken, lane, delivered, running⟩ := Running.of_play played (by omega)
  have file : session.fileBytes = lane.recorder.sink.file.stored.toList := by
    rw [fileBytes, running.output]
    rfl
  constructor
  · obtain ⟨rest, whole, -⟩ := running.flow.carried
    have front : session.fileBytes <+: sampleBytes (liveBytes config.warmUpBytes.toNat taken) := by
      rw [file, ← whole, Sink.stream, List.append_assoc]
      exact List.prefix_append _ _
    apply front.trans
    rw [delivered, liveBytes_append, sampleBytes_append]
    exact List.prefix_append _ _
  · intro outcome known
    have returned := phase_of_outcome known
    obtain ⟨ending, ended⟩ := running.toEquipped.ended returned
    obtain ⟨written, surplus, counted, total, -, short⟩ := running.flow.tally
    have bytes : session.state.counters.written = written.toUInt64 := by
      rw [booked, returned, ended] at counted
      simpa [CallerPhase.owed, RecorderPhase.uncounted] using counted
    have small := running.length_stream_le
    have received : taken.length ≤ (Move.delivered moves).length := by
      rw [delivered, List.length_append]
      omega
    have exact : session.state.counters.written.toNat = written := by
      rw [bytes, Nat.toUInt64_eq, UInt64.toNat_ofNat_of_lt' (by omega)]
    have fits := running.flow.fits
    rw [Sink.Fits, running.bufferBytes] at fits
    rw [Sink.stream, List.length_append] at total
    rw [running.sliceBytes] at short
    rw [file, exact]
    omega

/-- A writer that accepts three bytes and then crashes its thread. -/
def brittle : Writer where
  respond call _ _ := if call = 0 then .accept 3 else .crash
  flushed := .done
  calmFrom := 0
  calm _ response := by split at response <;> cases response

/-- Two bytes are written out when the source has ended, and the caller learns of the crash. -/
def brittleRun : List Move :=
  List.flatten [[.deliver [0x29, 0x29] none], List.replicate 8 .caller, [.finish none],
    List.replicate 6 .caller, List.replicate 12 .recorder, List.replicate 4 .caller]

/-- Of four samples counted as written three are in the file after the crash. -/
theorem brittle_prefix :
    ∃ session, (start { warmUpBytes := 0 } none (some brittle)).play brittleRun = some session ∧
      session.fileBytes = [3, 5, 3] ∧
      session.fileBytes <+: sampleBytes (liveBytes 0 (Move.delivered brittleRun)) ∧
      session.state.counters.written.toNat ≤ 3 + 65536 ∧
      3 ≤ session.state.counters.written.toNat + 49 := by
  have told : ((start { warmUpBytes := 0 } none (some brittle)).play brittleRun).map
      (fun session => (session.outcome?.isSome, session.fileBytes)) =
        some (true, [3, 5, 3]) := by cbv
  obtain ⟨session, played, same⟩ := Option.map_eq_some_iff.mp told
  obtain ⟨ended, file⟩ := Prod.mk.inj same
  obtain ⟨outcome, known⟩ := Option.isSome_iff_exists.mp ended
  obtain ⟨front, bounds⟩ := fileBytes_prefix played (by decide)
  obtain ⟨lower, upper⟩ := bounds outcome known
  rw [file] at lower upper
  exact ⟨session, played, file, front, lower, upper⟩

/-! ## Nothing is lost silently -/

/-- The session has returned a summary without a write error or an error of the source, which
any error is unless the recorder has crashed. -/
def ReportsNoLoss (session : Session) : Prop :=
  match session.outcome? with
  | some (.summary summary) => summary.writeError = none
  | some (.failure _) => session.recorderEnd? ≠ some .crashed
  | none => False

/-- The file and the counters are those of a capture in which nothing is lost. -/
structure Faithful (warmUp : Nat) (delivered : List UInt8) (session : Session) : Prop where
  file : session.fileBytes = sampleBytes (liveBytes warmUp delivered)
  received : session.state.counters.received.toNat = delivered.length
  written : session.state.counters.written = session.fileBytes.length.toUInt64
  /-- The counter of the written bytes is the first to wrap. -/
  unwrapped : 2 * delivered.length < UInt64.size →
    session.state.counters.written.toNat = session.fileBytes.length
  halves : session.fileBytes.length = 2 * session.state.counters.saved.toNat
  accounted : session.state.counters.saved.toNat + session.state.counters.dropouts.toNat =
    session.state.counters.received.toNat - min session.state.counters.received.toNat warmUp
  summed : ∀ summary, session.outcome? = some (.summary summary) →
    summary.counters = session.state.counters

/-- Only a recorder that has finished leads to such a result. -/
theorem Equipped.finished {config : CaptureOptions} {writer : Writer} {session : Session}
    {lane : RecorderLane} (equipped : Equipped config writer session lane)
    (reported : session.ReportsNoLoss) :
    ∃ outcome written, session.phase = .returned outcome ∧
      lane.recorder.phase = .ended (.finished written) := by
  have meets := equipped.settled.meets
  unfold ReportsNoLoss at reported
  split at reported
  · rename_i summary known
    have returned := phase_of_outcome known
    rw [returned] at meets
    rcases meets with ⟨-, written, ended⟩ | ⟨failed, -⟩
    · exact ⟨_, written, returned, ended⟩
    · exact absurd reported failed
  · rename_i error known
    have returned := phase_of_outcome known
    rw [returned] at meets
    rcases meets with ⟨written, ended⟩ | ⟨-, ended⟩
    · exact ⟨_, written, returned, ended⟩
    · exact absurd (recorderEnd?_of_phase equipped.output ended) reported
  · exact reported.elim

/-- When the recorder has finished and the caller has returned, all samples are in the file. -/
theorem Running.complete {config : CaptureOptions} {writer : Writer} {taken : List UInt8}
    {session : Session} {lane : RecorderLane} (running : Running config writer taken session lane)
    {outcome : Outcome} (returned : session.phase = .returned outcome) {count : UInt64}
    (finished : lane.recorder.phase = .ended (.finished count)) :
    lane.recorder.sink.file.stored.toList =
        sampleBytes (liveBytes config.warmUpBytes.toNat taken) ∧
      lane.recorder.sink.stream = lane.recorder.sink.file.stored.toList := by
  have complete : lane.recorder.phase.status = .complete := by
    rw [finished]
    rfl
  have empty := (running.flow.settled complete).1
  have caller := running.wired.caller
  have recorder := running.wired.recorder
  rw [returned] at caller
  rw [finished] at recorder
  change lane.channel.producer = .gone at caller
  change lane.channel.consumer = .gone at recorder
  obtain ⟨rest, whole, moving⟩ := running.flow.carried
  have nothing : rest = [] := by
    rw [moving (by rw [complete]; decide), RecorderLane.transit, finished, recorder, caller,
      returned, (running.wired.drained (.inr complete)).2]
    rfl
  have stream : lane.recorder.sink.stream = lane.recorder.sink.file.stored.toList := by
    rw [Sink.stream, empty, List.append_nil]
  rw [nothing, List.append_nil, stream] at whole
  exact ⟨whole, stream⟩

/-- When all samples are in the file, the counters tell so. -/
theorem Running.faithful {config : CaptureOptions} {writer : Writer} {taken : List UInt8}
    {session : Session} {lane : RecorderLane} (running : Running config writer taken session lane)
    (bound : taken.length < UInt64.size) {outcome : Outcome}
    (returned : session.phase = .returned outcome) {count : UInt64}
    (finished : lane.recorder.phase = .ended (.finished count)) :
    session.Faithful config.warmUpBytes.toNat taken := by
  have working : lane.recorder.phase.status ≠ .broken := by
    rw [finished]
    exact nofun
  obtain ⟨whole, stream⟩ := running.complete returned finished
  have file : session.fileBytes = lane.recorder.sink.file.stored.toList := by
    rw [fileBytes, running.output]
    rfl
  have counts := unflaggedCount_add_flaggedCount (liveBytes config.warmUpBytes.toNat taken)
  have live : (liveBytes config.warmUpBytes.toNat taken).length =
      taken.length - config.warmUpBytes.toNat := List.length_drop
  have size : session.fileBytes.length =
      2 * unflaggedCount (liveBytes config.warmUpBytes.toNat taken) := by
    rw [file, whole, length_sampleBytes]
  have booked : session.booked = session.state.counters := by
    rw [Session.booked, returned]
    exact Counters.add_zero _
  have received : session.state.counters.received.toNat = taken.length := by
    rw [← booked, running.books.received, Nat.toUInt64_eq, UInt64.toNat_ofNat_of_lt' bound]
  have saved : session.state.counters.saved.toNat =
      unflaggedCount (liveBytes config.warmUpBytes.toNat taken) := by
    rw [← booked, running.books.saved lane running.output working, Nat.toUInt64_eq,
      UInt64.toNat_ofNat_of_lt' (by omega)]
  have dropouts : session.state.counters.dropouts.toNat =
      flaggedCount (liveBytes config.warmUpBytes.toNat taken) := by
    rw [← booked, running.books.dropouts, Nat.toUInt64_eq,
      UInt64.toNat_ofNat_of_lt' (by omega)]
  have written : session.state.counters.written = session.fileBytes.length.toUInt64 := by
    obtain ⟨total, surplus, counted, same, exact, -⟩ := running.flow.tally
    rw [exact working, stream, ← file] at same
    rw [booked, finished] at counted
    rw [← same, Nat.add_zero, ← counted]
    exact (UInt64.add_zero _).symm
  constructor
  case file => exact file.trans whole
  case received => exact received
  case written => exact written
  case unwrapped =>
    intro short
    rw [written, Nat.toUInt64_eq, UInt64.toNat_ofNat_of_lt' (by omega)]
  case halves => rw [size, saved]
  case accounted =>
    rw [saved, dropouts, counts, live, received]
    omega
  case summed =>
    intro summary known
    exact running.settled.counters summary (phase_of_outcome known)

/-- A session whose result reports no loss has lost nothing: the file holds the samples of all
that has been delivered, and the counters agree with it; past `2 ^ 64` bytes the counter that
the warm-up is measured by has wrapped. An output that is only slow or
interrupted never leads to another result, and an error that is returned without a crash is
the one that the source has ended with. -/
theorem faithful_of_reportsNoLoss {config : CaptureOptions} {preStop : Option StopReason}
    {writer : Writer} {moves : List Move} {session : Session}
    (played : (start config preStop (some writer)).play moves = some session) :
    (session.ReportsNoLoss → (Move.delivered moves).length < UInt64.size →
        session.Faithful config.warmUpBytes.toNat (Move.delivered moves)) ∧
      (writer.Willing → ∀ outcome, session.outcome? = some outcome → session.ReportsNoLoss) ∧
      ∀ error, session.outcome? = some (.failure error) →
        session.recorderEnd? ≠ some .crashed → .finish (some error) ∈ moves := by
  obtain ⟨lane, equipped, sourced⟩ := Equipped.of_play played
  refine ⟨?_, ?_, ?_⟩
  · intro reported bound
    obtain ⟨taken, lane, delivered, running⟩ := Running.of_play played bound
    obtain ⟨outcome, written, returned, finished⟩ := running.toEquipped.finished reported
    have all : Move.delivered moves = taken := by
      rw [delivered, returned]
      exact List.append_nil _
    rw [all] at bound ⊢
    exact running.faithful bound returned finished
  · intro willing outcome known
    have working := equipped.working willing
    have meets := equipped.settled.meets
    rw [phase_of_outcome known] at meets
    unfold ReportsNoLoss
    rw [known]
    cases outcome with
    | summary summary =>
        rcases meets with ⟨none, -⟩ | ⟨-, fault, ended⟩
        · exact none
        · rw [ended] at working
          exact absurd rfl working
    | failure error =>
        rcases meets with ⟨written, ended⟩ | ⟨-, ended⟩
        · dsimp only
          rw [recorderEnd?_of_phase equipped.output ended]
          exact nofun
        · rw [ended] at working
          exact absurd rfl working
  · intro error known alive
    have brought : session.phase.error? = some error := by
      rw [phase_of_outcome known]
      rfl
    apply (sourced error brought).resolve_right
    intro ended
    exact alive (recorderEnd?_of_phase equipped.output ended)

/-- A writer that is interrupted in its first call and then accepts one byte in each. -/
def hesitant : Writer where
  respond call _ _ := if call = 0 then .fail { kind := .interrupted } else .accept 1
  flushed := .done
  calmFrom := 1
  calm late response := by
    split at response
    · omega
    · cases response

theorem willing_hesitant : hesitant.Willing := by
  refine ⟨rfl, ?_⟩
  intro call stored offered
  by_cases first : call = 0
  · exact .inr ⟨_, if_pos first, rfl⟩
  · exact .inl ⟨0, if_neg first⟩

/-- A short queue, so that the samples of the burst go into it in two pieces. -/
def hesitantConfig : CaptureOptions where
  warmUpBytes := 1
  queueCapacity := 3
  writeSliceBytes := 2

/-- A burst with one byte of warm-up and a flagged one, and the end of the source. -/
def hesitantRun : List Move :=
  List.flatten [List.replicate 3 .recorder, [.deliver [0x00, 0x29, 0x28, 0x05] none],
    List.replicate 8 .caller, List.replicate 2 .recorder, List.replicate 5 .caller,
    List.replicate 10 .recorder, [.finish none], List.replicate 3 .caller,
    List.replicate 6 .recorder, List.replicate 2 .caller]

/-- The samples of both unflagged live bytes are in the file. -/
theorem hesitant_faithful :
    ∃ session, (start hesitantConfig none (some hesitant)).play hesitantRun = some session ∧
      session.ReportsNoLoss ∧ session.fileBytes = [3, 5, 1, 3] ∧
      session.Faithful 1 (Move.delivered hesitantRun) := by
  have told : ((start hesitantConfig none (some hesitant)).play hesitantRun).map
      (fun session => (session.outcome?.isSome, session.fileBytes)) =
        some (true, [3, 5, 1, 3]) := by cbv
  obtain ⟨session, played, same⟩ := Option.map_eq_some_iff.mp told
  obtain ⟨ended, file⟩ := Prod.mk.inj same
  obtain ⟨outcome, known⟩ := Option.isSome_iff_exists.mp ended
  obtain ⟨faithful, reported, -⟩ := faithful_of_reportsNoLoss played
  have report := reported willing_hesitant outcome known
  exact ⟨session, played, report, file, faithful report (by decide)⟩

end Session

end SampleCapture
