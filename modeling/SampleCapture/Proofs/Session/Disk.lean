import Mathlib
import SampleCapture.Output.Script
import SampleCapture.Proofs.Session.Runs

/-!
# What is counted and what is in the file

The recorder counts a slice as written when its sink has taken it, and a buffered sink may
still hold it back. When the session is over, the file has everything that is counted
exactly if the buffer was empty when it was let go of; otherwise what is missing is what the
buffer still held.
-/

namespace SampleCapture

namespace Sink

/-- A write that does not succeed has taken nothing, or it leaves nothing in the buffer. -/
theorem Write.stream_or_pending {sink : Sink} {bytes : List UInt8} {outcome : OutputResult × Sink}
    (way : sink.Write bytes outcome) (failed : outcome.1 ≠ .done) :
    outcome.2.stream = sink.stream ∨ outcome.2.pending = [] := by
  have passed {sink : Sink} {capacity : Nat}
      (empty : capacity ≤ bytes.length → sink.pending = [])
      (failed : (sink.passOrKeep capacity bytes).1 ≠ .done) :
      (sink.passOrKeep capacity bytes).2.pending = [] := by
    unfold passOrKeep at failed ⊢
    split
    · rename_i large
      exact empty large
    · rename_i small
      rw [if_neg small] at failed
      exact absurd rfl failed
  cases way with
  | direct none => exact .inr (by simp [pending, pass, none])
  | @room buffer held fits =>
      refine .inr (passed (fun large => ?_) failed)
      have size : sink.pending.length = buffer.pending.size := by simp [pending, held]
      exact List.eq_nil_of_length_eq_zero (by omega)
  | emptied held done =>
      have emptied := (Emptied.emptyBuffer held).complete.mp done
      exact .inr (passed (fun _ => emptied) failed)
  | stuck held _ => exact .inl (Emptied.emptyBuffer held).stream

/-- An empty buffer is empty when it is let go of. -/
theorem pending_release {sink : Sink} (empty : sink.pending = []) : sink.release.pending = [] := by
  cases held : sink.buffer with
  | none => simpa [release, held] using empty
  | some buffer =>
      have nothing : buffer.pending.toList = [] := by simpa [pending, held] using empty
      cases crashed : sink.crashed with
      | true => simpa [release, held, crashed] using empty
      | false => simp [release, held, crashed, emptyBuffer, nothing, Writer.pump, pending]

end Sink

namespace Session

/-- All that the sink has taken is counted, or nothing of it is kept back. -/
def Squared (session : Session) (lane : RecorderLane) : Prop :=
  session.booked.written + lane.recorder.phase.uncounted.toUInt64 =
      lane.recorder.sink.stream.length.toUInt64 ∨
    lane.recorder.sink.pending = []

namespace Squared

variable {config : CaptureOptions} {writer : Writer} {taken : List UInt8}
  {session next : Session} {lane after : RecorderLane} {move : Move}

/-- While the sink works, all that it has taken is counted. -/
theorem of_working (running : Running config writer taken session lane)
    (working : lane.recorder.phase.status ≠ .broken) : session.Squared lane := by
  obtain ⟨written, surplus, counted, total, exact, -⟩ := running.flow.tally
  rw [exact working, Nat.add_zero] at total
  exact .inl (by rw [counted, total])

/-- A step that neither counts nor touches the sink. -/
theorem still (squared : session.Squared lane)
    (sink : after.recorder.sink = lane.recorder.sink)
    (counted : next.booked.written + after.recorder.phase.uncounted.toUInt64 =
      session.booked.written + lane.recorder.phase.uncounted.toUInt64) :
    next.Squared after := by
  rw [Squared, sink, counted]
  exact squared

/-- A step of the recorder behind which its sink has failed. -/
theorem recorderStep (running : Running config writer taken session lane)
    (squared : session.Squared lane) {thread : RecorderThread}
    (step : (session.thread lane).Step thread)
    (broken : thread.recorder.phase.status = .broken) :
    (session.withThread thread).Squared
      { channel := thread.channel, recorder := thread.recorder, log := thread.shared.log } := by
  have booked : (session.withThread thread).booked.written =
      session.booked.written + lane.recorder.phase.uncounted.toUInt64 := by
    rw [booked_withThread step running.settled.orderly]
    rfl
  have counted : (session.withThread thread).booked.written + Nat.toUInt64 0 =
      session.booked.written + lane.recorder.phase.uncounted.toUInt64 :=
    (UInt64.add_zero _).trans booked
  cases step with
  | @write slice known =>
      change lane.recorder.phase = _ at known
      have working : lane.recorder.phase.status ≠ .broken := by
        rw [known]
        intro same
        cases same
      have failed : (lane.recorder.sink.writeAll slice).1 ≠ .done := by
        intro done
        simp only [Session.thread, RecorderThread.afterSink, done, Recorder.phaseAfter] at broken
        cases broken
      have none : (lane.recorder.phaseAfter (.counting slice.length)
          (lane.recorder.sink.writeAll slice).1).uncounted = 0 := by
        cases result : (lane.recorder.sink.writeAll slice).1 with
        | done => exact absurd result failed
        | failed fault | crashed => rfl
      rcases (lane.recorder.sink.writes slice).stream_or_pending failed with same | empty
      · obtain ⟨written, surplus, before, total, exact, -⟩ := running.flow.tally
        rw [exact working, Nat.add_zero] at total
        left
        simp only [Session.thread, RecorderThread.afterSink]
        simp only [Session.thread, RecorderThread.afterSink] at counted
        rw [none, same, counted, before, total]
      · exact .inr empty
  | flush known =>
      change lane.recorder.phase = _ at known
      have working : lane.recorder.phase.status ≠ .broken := by
        rw [known]
        intro same
        cases same
      have none : (lane.recorder.phaseAfter .finishing lane.recorder.sink.flush.1).uncounted = 0 := by
        cases lane.recorder.sink.flush.1 <;> rfl
      obtain ⟨written, surplus, before, total, exact, -⟩ := running.flow.tally
      rw [exact working, Nat.add_zero] at total
      left
      have same := lane.recorder.sink.flushes.flushed.stream
      simp only [Session.thread, RecorderThread.afterSink]
      simp only [Session.thread, RecorderThread.afterSink] at counted
      rw [none, same, counted, before, total]
  | release known =>
      rcases squared with all | empty
      · left
        have same := lane.recorder.sink.release_stream.2
        simp only [Session.thread]
        simp only [Session.thread] at counted
        rw [same, ← all]
        exact counted
      · exact .inr (Sink.pending_release empty)
  | failed known | fail known | leave known | depart known =>
      exact squared.still rfl counted
  | pop known =>
      exact absurd ((status_afterPop _).1.symm.trans broken) (by decide)
  | start | notice | slice | noticed | count | finish => cases broken

/-- Every step keeps it. -/
theorem step (running : Running config writer taken session lane)
    (later : Running config writer (taken ++ session.counted move) next after)
    (squared : session.Squared lane) (step : session.Step move next) : next.Squared after := by
  by_cases broken : after.recorder.phase.status = .broken
  · cases step with
    | caller step =>
        obtain ⟨before, known, same⟩ := step.recorder later.output
        cases running.output.symm.trans known
        exact squared.still (by rw [same]) (by rw [same, step.written])
    | recorder known step =>
        cases running.output.symm.trans known
        cases Wired.lane_of_withThread later.output
        exact squared.recorderStep running step broken
    | deliver burst report ready =>
        cases running.output.symm.trans later.output
        refine squared.still rfl ?_
        rw [booked, booked, ready, phase_goTo]
        split <;> rfl
    | ask reason ready | finish error ready =>
        cases running.output.symm.trans later.output
        refine squared.still rfl ?_
        rw [booked, booked, ready]
        rfl
    | record | raise =>
        cases running.output.symm.trans later.output
        exact squared
  · exact .of_working later broken

theorem of_play {preStop : Option StopReason} {moves : List Move}
    (played : (start config preStop (some writer)).play moves = some session)
    (bound : (Move.delivered moves).length < UInt64.size) :
    ∃ taken lane, Move.delivered moves = taken ++ session.phase.uncounted ∧
      Running config writer taken session lane ∧ session.Squared lane := by
  refine Running.along (motive := fun _ _ session lane => session.Squared lane) ?_ ?_ played bound
  · intro lane running
    refine .of_working running ?_
    cases running.output
    exact nofun
  · intro past taken session next lane after move running later step _ squared
    exact squared.step running later step

end Squared

/-- Only the recorder touches the file. -/
theorem CallerStep.fileBytes {session next : Session} (step : session.CallerStep next) :
    next.fileBytes = session.fileBytes := by
  have known (session : Session) : session.fileBytes =
      (session.lane.map (·.recorder)).elim [] (·.sink.file.stored.toList) := by
    rw [Session.fileBytes]
    cases session.lane <;> rfl
  rw [known, known, step.recorders]

/-- What the sink has taken and its buffer still holds. -/
def unwritten (session : Session) : List UInt8 :=
  session.lane.elim [] fun lane => lane.recorder.sink.pending

/-- What the sink has taken is in the file or still in the buffer. -/
theorem Running.stream_eq {config : CaptureOptions} {writer : Writer} {taken : List UInt8}
    {session : Session} {lane : RecorderLane} (running : Running config writer taken session lane) :
    lane.recorder.sink.stream = session.fileBytes ++ session.unwritten ∧
      session.unwritten = lane.recorder.sink.pending := by
  rw [fileBytes, unwritten, running.output]
  exact ⟨rfl, rfl⟩

/-- When the caller has returned and bytes are kept back, all that the sink has taken is
counted. -/
theorem Squared.length_stream {config : CaptureOptions} {writer : Writer} {taken : List UInt8}
    {session : Session} {lane : RecorderLane} (squared : session.Squared lane)
    (running : Running config writer taken session lane) (bound : 2 * taken.length < UInt64.size)
    {outcome : Outcome} (returned : session.phase = .returned outcome)
    (kept : lane.recorder.sink.pending ≠ []) :
    lane.recorder.sink.stream.length = session.state.counters.written.toNat := by
  obtain ⟨ending, ended⟩ := running.toEquipped.ended returned
  have small := running.length_stream_le
  have all := squared.resolve_right kept
  rw [booked, returned, ended] at all
  have same : session.state.counters.written = lane.recorder.sink.stream.length.toUInt64 := by
    simpa [CallerPhase.owed, RecorderPhase.uncounted] using all
  rw [same, toNat_toUInt64_of_lt (by omega)]

/-- The first so many of these samples are in the file. -/
def OnDisk (session : Session) (samples : List UInt8) (count : Nat) : Prop :=
  ∃ front, front <+: samples ∧ front.length = count ∧ front <+: session.fileBytes

/-- When a session returns a summary, all samples that it counts as written are in the file
exactly if its buffer is empty; what the buffer still holds is counted and is what the file
misses. It never holds anything in a session without a write error. -/
theorem onDisk_iff {config : CaptureOptions} {preStop : Option StopReason} {writer : Writer}
    {moves : List Move} {session : Session} {summary : Summary}
    (played : (start config preStop (some writer)).play moves = some session)
    (bound : 2 * (Move.delivered moves).length < UInt64.size)
    (known : session.outcome? = some (.summary summary)) :
    (session.OnDisk (sampleBytes (liveBytes config.warmUpBytes.toNat (Move.delivered moves)))
        summary.counters.written.toNat ↔ session.unwritten = []) ∧
      (session.unwritten ≠ [] →
        session.fileBytes ++ session.unwritten <+:
            sampleBytes (liveBytes config.warmUpBytes.toNat (Move.delivered moves)) ∧
          (session.fileBytes ++ session.unwritten).length = summary.counters.written.toNat) ∧
      (summary.writeError = none → session.unwritten = []) := by
  obtain ⟨taken, lane, delivered, running, squared⟩ := Squared.of_play played (by omega)
  have returned := phase_of_outcome known
  have received : taken.length ≤ (Move.delivered moves).length := by
    rw [delivered, List.length_append]
    omega
  obtain ⟨stream, held⟩ := running.stream_eq
  have front := running.stream_isPrefix session.phase.uncounted
  rw [← delivered] at front
  rw [running.settled.counters summary returned]
  obtain ⟨surplus, total⟩ := running.written_of_returned (by omega) returned
  have whole (rest : session.unwritten ≠ []) :=
    squared.length_stream running (by omega) returned (held ▸ rest)
  refine ⟨⟨?_, ?_⟩, ?_, ?_⟩
  · rintro ⟨part, -, size, inside⟩
    apply Decidable.byContradiction
    intro rest
    have long := whole rest
    have short := inside.length_le
    have some := List.length_pos_iff.mpr rest
    rw [stream, List.length_append] at long
    omega
  · intro empty
    rw [stream, empty, List.append_nil] at front total
    refine ⟨session.fileBytes.take session.state.counters.written.toNat, ?_, ?_,
      List.take_prefix _ _⟩
    · exact (List.take_prefix _ _).trans front
    · rw [List.length_take]
      omega
  · intro rest
    rw [← stream]
    exact ⟨front, whole rest⟩
  · intro sound
    have meets := running.settled.meets
    rw [returned] at meets
    rcases meets with ⟨-, count, finished⟩ | ⟨failed, -⟩
    · rw [held]
      exact (running.flow.settled (by rw [finished]; rfl)).1
    · exact absurd sound failed

/-- A writer that fails in its first calls and then accepts everything. -/
def failing (calls : Nat) : Writer where
  respond call _ offered := if call < calls then .fail {} else .accept offered
  flushed := .done
  calmFrom := 0
  calm _ response := by
    split at response
    · cases response
      rfl
    · cases response

/-- One byte is delivered before the source fails; its samples are written when the queue has been
closed, and the failure comes with the flush. -/
def failingRun : List Move :=
  List.flatten [[.deliver [0x01] none], List.replicate 8 .caller,
    [.finish (some (.transfer "x"))], List.replicate 3 .caller, List.replicate 15 .recorder]

/-- The summary of such a run counts both samples of the byte. -/
theorem failing_summary (writer : Writer) (file : List UInt8)
    (told : ((start { warmUpBytes := 0 } none (some writer)).play failingRun).map
      (fun session => (session.phase, session.recorderEnd?, session.state.reason,
        session.state.counters.written.toNat, session.fileBytes)) =
          some (.joining (some (.transfer "x")), some (.failed {}), some .writeFailed, 2, file)) :
    ∃ session summary, (start { warmUpBytes := 0 } none (some writer)).play
        (failingRun ++ [.caller, .caller]) = some session ∧
      session.outcome? = some (.summary summary) ∧ summary.writeError ≠ none ∧
      summary.counters.written.toNat = 2 ∧ session.fileBytes = file := by
  obtain ⟨waiting, played, told⟩ := Option.map_eq_some_iff.mp told
  simp only [Prod.mk.injEq] at told
  obtain ⟨phase, ended, reason, written, kept⟩ := told
  obtain ⟨session, concluded, known⟩ := summary_of_failed phase ended reason
  refine ⟨session, _, ?_, known, Option.some_ne_none _, written, ?_⟩
  · rw [play_append, played]
    exact concluded
  · obtain ⟨joined, first, rest⟩ := Option.bind_eq_some_iff.mp concluded
    obtain ⟨last, second, same⟩ := Option.bind_eq_some_iff.mp rest
    cases same
    rw [(CallerStep.of_step? second).fileBytes, (CallerStep.of_step? first).fileBytes, kept]

/-- A writer that fails once: the flush fails, but both samples are written when the sink is let
go of. -/
theorem onDisk_retried :
    ∃ session summary, (start { warmUpBytes := 0 } none (some (failing 1))).play
        (failingRun ++ [.caller, .caller]) = some session ∧
      session.outcome? = some (.summary summary) ∧ summary.writeError ≠ none ∧
      session.OnDisk (sampleBytes (liveBytes 0 (Move.delivered (failingRun ++ [.caller, .caller]))))
        summary.counters.written.toNat := by
  obtain ⟨session, summary, played, known, failed, written, file⟩ :=
    failing_summary (failing 1) [1, 1] (by cbv)
  obtain ⟨counted, missing, -⟩ := onDisk_iff played (by decide) known
  refine ⟨session, summary, played, known, failed, counted.mpr ?_⟩
  apply Decidable.byContradiction
  intro rest
  have long := (missing rest).2
  rw [file, written, List.length_append] at long
  exact rest (List.eq_nil_of_length_eq_zero (Nat.add_left_cancel long))

/-- A file that accepts nothing: both samples are counted as written, and the file is empty. -/
theorem onDisk_violated :
    ∃ session summary, (start { warmUpBytes := 0 } none
        (some ({ limit := some 0 } : WriterScript).writer)).play
          (failingRun ++ [.caller, .caller]) = some session ∧
      session.outcome? = some (.summary summary) ∧
      ¬ session.OnDisk (sampleBytes (liveBytes 0 (Move.delivered (failingRun ++ [.caller, .caller]))))
        summary.counters.written.toNat := by
  obtain ⟨session, summary, played, known, -, written, empty⟩ :=
    failing_summary ({ limit := some 0 } : WriterScript).writer [] (by cbv)
  refine ⟨session, summary, played, known, ?_⟩
  rintro ⟨front, -, size, inside⟩
  rw [empty] at inside
  rw [List.eq_nil_of_prefix_nil inside, written] at size
  cases size

end Session

end SampleCapture
