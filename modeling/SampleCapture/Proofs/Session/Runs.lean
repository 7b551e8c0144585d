import SampleCapture.Proofs.Session.Endings
import SampleCapture.Proofs.Session.Flow

/-!
# Runs of a session

Everything that holds along a run with an output, for any configuration, any writer, and any
row of moves: the parties are wired, the books are kept, the samples are on their way, and
the result fits the end of the recorder. A session that may have no output keeps the same
for the one that it has.
-/

namespace SampleCapture

/-- A slice has at least one byte. -/
theorem CaptureOptions.one_le_writeSliceBytes (config : CaptureOptions) :
    1 ≤ config.normalize.writeSliceBytes.toNat := by
  unfold normalize clampWord
  dsimp only
  split
  · decide
  · split
    · decide
    · rename_i low _
      exact Nat.le_of_not_lt fun small => low (UInt64.lt_iff_toNat_lt.mpr small)

namespace Session

structure Equipped (config : CaptureOptions) (writer : Writer) (session : Session)
    (lane : RecorderLane) : Prop where
  output : session.lane = some lane
  wired : Wired session.phase lane
  settled : Settled session lane
  sliceBytes : lane.recorder.sliceBytes = config.normalize.writeSliceBytes.toNat
  bufferBytes : lane.recorder.sink.capacity = config.normalize.writeBufferBytes.toNat
  known : lane.recorder.sink.writer = writer
  unharmed : writer.Steady → lane.recorder.Unharmed
  working : writer.Willing → lane.recorder.phase.status ≠ .broken

/-- The same with the books and the samples of the bytes taken in, as long as they can be
counted. -/
structure Running (config : CaptureOptions) (writer : Writer) (taken : List UInt8)
    (session : Session) (lane : RecorderLane) : Prop
    extends Equipped config writer session lane where
  books : Books config.warmUpBytes.toNat taken session
  flow : Flow (sampleBytes (liveBytes config.warmUpBytes.toNat taken)) session lane

namespace Equipped

variable {config : CaptureOptions} {writer : Writer} {session next : Session}
  {lane after : RecorderLane}
  {move : Move}

theorem start (config : CaptureOptions) (preStop : Option StopReason) (writer : Writer) :
    ∃ lane, Equipped config writer (Session.start config preStop (some writer)) lane := by
  apply Exists.intro
  constructor
  case output => rfl
  case wired =>
    refine ⟨.create _, rfl, rfl, Nat.le_max_right _ _, ?_⟩
    rintro (impossible | impossible) <;> cases impossible
  case settled => exact ⟨trivial, nofun, trivial, nofun⟩
  case sliceBytes => exact Nat.max_eq_left config.one_le_writeSliceBytes
  case bufferBytes => rfl
  case known => rfl
  case unharmed => exact fun _ => ⟨rfl, nofun⟩
  case working => exact fun _ => nofun

theorem step (equipped : Equipped config writer session lane) (step : session.Step move next) :
    ∃ after, Equipped config writer next after := by
  obtain ⟨after, later, change⟩ := step.lane equipped.output
  have wired := equipped.wired.step step equipped.output later
  have settled := equipped.settled.step step equipped.output later
  rcases change with same | ⟨thread, moved, same⟩
  · obtain ⟨-, -, -, sliceBytes, bufferBytes, known, unharmed, working⟩ := equipped
    rw [← same] at sliceBytes bufferBytes known unharmed working
    exact ⟨after, later, wired, settled, sliceBytes, bufferBytes, known, unharmed, working⟩
  · have fixed := moved.fixed
    have steady (steady : writer.Steady) : lane.recorder.sink.writer.Steady :=
      equipped.known ▸ steady
    have willing (willing : writer.Willing) : lane.recorder.sink.writer.Willing :=
      equipped.known ▸ willing
    refine ⟨after, later, wired, settled, ?_, ?_, ?_, ?_, ?_⟩
    · rw [same]
      exact fixed.sliceBytes.trans equipped.sliceBytes
    · rw [same]
      exact fixed.capacity.trans equipped.bufferBytes
    · rw [same]
      exact fixed.writer.trans equipped.known
    · intro calm
      rw [same]
      exact moved.unharmed (steady calm) (equipped.unharmed calm)
    · intro eager
      rw [same]
      exact moved.working (willing eager) (equipped.unharmed eager.steady)
        (equipped.working eager)

theorem of_play {preStop : Option StopReason} {moves : List Move}
    (played : (Session.start config preStop (some writer)).play moves = some session) :
    ∃ lane, Equipped config writer session lane ∧ session.Sourced moves lane := by
  refine play_induction (motive := fun past session =>
    ∃ lane, Equipped config writer session lane ∧ session.Sourced past lane) ?_ [] played ?_
  · rintro past session next move step ⟨lane, equipped, sourced⟩
    obtain ⟨after, kept⟩ := equipped.step step
    exact ⟨after, kept, sourced.step equipped.settled step equipped.output kept.output⟩
  · obtain ⟨lane, equipped⟩ := start config preStop writer
    exact ⟨lane, equipped, nofun⟩

/-- When the caller has returned, the recorder has ended. -/
theorem ended (equipped : Equipped config writer session lane) {outcome : Outcome}
    (returned : session.phase = .returned outcome) :
    ∃ ending, lane.recorder.phase = .ended ending := by
  have meets := equipped.settled.meets
  rw [returned] at meets
  cases outcome with
  | summary summary =>
      rcases meets with ⟨-, written, ended⟩ | ⟨-, fault, ended⟩
      · exact ⟨_, ended⟩
      · exact ⟨_, ended⟩
  | failure error =>
      rcases meets with ⟨written, ended⟩ | ⟨-, ended⟩
      · exact ⟨_, ended⟩
      · exact ⟨_, ended⟩

end Equipped

/-! ## With an output or without one -/

/-- Every recorder of the session is one of the configured output. -/
def Manned (config : CaptureOptions) (output : Option Writer) (session : Session) : Prop :=
  ∀ lane, session.lane = some lane →
    ∃ writer, output = some writer ∧ Equipped config writer session lane

namespace Manned

variable {config : CaptureOptions} {output : Option Writer} {session next : Session} {move : Move}

theorem step (manned : Manned config output session) (step : session.Step move next) :
    Manned config output next := by
  intro after later
  have before : ∃ lane, session.lane = some lane := by
    cases step with
    | caller step =>
        obtain ⟨lane, running, -⟩ := step.recorder later
        exact ⟨lane, running⟩
    | recorder running step => exact ⟨_, running⟩
    | deliver | ask | finish | record | raise => exact ⟨after, later⟩
  obtain ⟨lane, running⟩ := before
  obtain ⟨writer, known, equipped⟩ := manned lane running
  obtain ⟨other, kept⟩ := equipped.step step
  cases later.symm.trans kept.output
  exact ⟨writer, known, kept⟩

theorem start (config : CaptureOptions) (preStop : Option StopReason) (output : Option Writer) :
    Manned config output (Session.start config preStop output) := by
  cases output with
  | none => exact fun lane running => by cases running
  | some writer =>
      obtain ⟨lane, equipped⟩ := Equipped.start config preStop writer
      intro other running
      cases running.symm.trans equipped.output
      exact ⟨writer, rfl, equipped⟩

theorem of_play {preStop : Option StopReason} {moves : List Move}
    (played : (Session.start config preStop output).play moves = some session) :
    Manned config output session :=
  play_induction (motive := fun _ session => Manned config output session)
    (fun step manned => manned.step step) [] played (.start config preStop output)

theorem wired (manned : Manned config output session) {lane : RecorderLane}
    (running : session.lane = some lane) : Wired session.phase lane := by
  obtain ⟨writer, -, equipped⟩ := manned lane running
  exact equipped.wired

theorem settled (manned : Manned config output session) {lane : RecorderLane}
    (running : session.lane = some lane) : Settled session lane := by
  obtain ⟨writer, -, equipped⟩ := manned lane running
  exact equipped.settled

end Manned

/-! ## The samples on their way -/

namespace Running

variable {config : CaptureOptions} {writer : Writer} {taken : List UInt8}
  {session next : Session} {lane : RecorderLane} {move : Move}

theorem start (config : CaptureOptions) (preStop : Option StopReason) (writer : Writer) :
    ∃ lane, Running config writer [] (Session.start config preStop (some writer)) lane := by
  have quiet : (Session.start config preStop (some writer)).booked = {} := by
    rcases preStop with _ | reason <;> rfl
  obtain ⟨lane, equipped⟩ := Equipped.start config preStop writer
  cases equipped.output
  refine ⟨_, equipped, .start _ _ _, ?_⟩
  constructor
  case carried =>
    refine ⟨[], ?_, fun _ => rfl⟩
    simp [liveBytes, sampleBytes, Sink.stream, Sink.pending, Recorder.start]
  case tally =>
    refine ⟨0, 0, ?_, rfl, fun _ => rfl, Nat.le_max_right _ _⟩
    rw [quiet]
    rfl
  case slice =>
    intro slice writing
    cases writing
  case sound => exact fun _ => rfl
  case settled =>
    intro complete
    cases complete
  case fits => exact Nat.zero_le _

theorem samples (running : Running config writer taken session lane)
    (bound : taken.length < UInt64.size) (move : Move) :
    sampleBytes (liveBytes config.warmUpBytes.toNat (taken ++ session.counted move)) =
      sampleBytes (liveBytes config.warmUpBytes.toNat taken) ++ session.fresh move :=
  sampleBytes_append_counted running.books.intake running.books.received bound move

theorem step (running : Running config writer taken session lane)
    (step : session.Step move next) (bound : taken.length < UInt64.size) :
    ∃ after, Running config writer (taken ++ session.counted move) next after := by
  obtain ⟨after, equipped⟩ := running.toEquipped.step step
  have same {other : RecorderLane} (known : session.lane = some other) : lane = other :=
    Option.some.inj (running.output.symm.trans known)
  have orderly := running.settled.orderly
  refine ⟨after, equipped, running.books.step step (fun _ known => same known ▸ running.wired)
    (fun _ known => same known ▸ orderly) bound, ?_⟩
  rw [running.samples bound move]
  exact running.flow.step step running.output equipped.output running.wired orderly

/-- Along a run holds whatever each step keeps, which may speak of the moves made so far; what
the run has delivered is taken in, but for a burst that is still to be counted. -/
theorem along {preStop : Option StopReason}
    {motive : List Move → List UInt8 → Session → RecorderLane → Prop}
    (initial : ∀ lane, Running config writer [] (Session.start config preStop (some writer)) lane →
      motive [] [] (Session.start config preStop (some writer)) lane)
    (keeps : ∀ {past : List Move} {taken : List UInt8} {session next : Session}
        {lane after : RecorderLane}
      {move : Move}, Running config writer taken session lane →
        Running config writer (taken ++ session.counted move) next after →
          session.Step move next → (taken ++ session.counted move).length < UInt64.size →
            motive past taken session lane →
              motive (past ++ [move]) (taken ++ session.counted move) next after)
    {moves : List Move}
    (played : (Session.start config preStop (some writer)).play moves = some session)
    (bound : (Move.delivered moves).length < UInt64.size) :
    ∃ taken lane, Move.delivered moves = taken ++ session.phase.uncounted ∧
      Running config writer taken session lane ∧ motive moves taken session lane := by
  refine play_induction (motive := fun past session =>
    (Move.delivered past).length < UInt64.size →
      ∃ taken lane, Move.delivered past = taken ++ session.phase.uncounted ∧
        Running config writer taken session lane ∧ motive past taken session lane) ?_ [] played ?_
    bound
  · intro past session next move step before bound
    have delivered : Move.delivered (past ++ [move]) = Move.delivered past ++ move.burst := by
      simp [Move.delivered]
    rw [delivered, List.length_append] at bound
    obtain ⟨taken, lane, known, running, held⟩ := before (Nat.lt_of_add_right_lt bound)
    have short : taken.length < UInt64.size := by
      rw [known, List.length_append] at bound
      omega
    obtain ⟨after, kept⟩ := running.step step short
    have whole : Move.delivered past ++ move.burst =
        (taken ++ session.counted move) ++ next.phase.uncounted := by
      rw [known, List.append_assoc, step.counted, List.append_assoc]
    refine ⟨_, after, delivered.trans whole, kept, keeps running kept step ?_ held⟩
    have lengths := congrArg List.length whole
    rw [List.length_append, List.length_append] at lengths
    omega
  · intro _
    obtain ⟨lane, running⟩ := start config preStop writer
    exact ⟨[], lane, rfl, running, initial lane running⟩

theorem of_play {preStop : Option StopReason} {moves : List Move}
    (played : (Session.start config preStop (some writer)).play moves = some session)
    (bound : (Move.delivered moves).length < UInt64.size) :
    ∃ taken lane, Move.delivered moves = taken ++ session.phase.uncounted ∧
      Running config writer taken session lane := by
  obtain ⟨taken, lane, delivered, running, -⟩ :=
    along (motive := fun _ _ _ _ => True) (fun _ _ => trivial) (fun _ _ _ _ _ => trivial) played
      bound
  exact ⟨taken, lane, delivered, running⟩

/-- The sink gets at most two samples for each byte taken in. -/
theorem length_stream_le (running : Running config writer taken session lane) :
    lane.recorder.sink.stream.length ≤ 2 * taken.length := by
  obtain ⟨rest, whole, -⟩ := running.flow.carried
  have lengths := congrArg List.length whole
  rw [List.length_append] at lengths
  have all := length_sampleBytes_liveBytes_le config.warmUpBytes.toNat taken
  omega

/-- The stream of the sink is a first part of the samples. -/
theorem stream_isPrefix (running : Running config writer taken session lane) (more : List UInt8) :
    lane.recorder.sink.stream <+:
      sampleBytes (liveBytes config.warmUpBytes.toNat (taken ++ more)) := by
  obtain ⟨rest, whole, -⟩ := running.flow.carried
  rw [liveBytes_append, sampleBytes_append, ← whole, List.append_assoc]
  exact List.prefix_append _ _

/-- When the caller has returned, what is counted as written is in the stream of the sink. -/
theorem written_of_returned (running : Running config writer taken session lane)
    (bound : 2 * taken.length < UInt64.size) {outcome : Outcome}
    (returned : session.phase = .returned outcome) :
    ∃ surplus, session.state.counters.written.toNat + surplus =
      lane.recorder.sink.stream.length := by
  obtain ⟨ending, ended⟩ := running.toEquipped.ended returned
  obtain ⟨written, surplus, counted, total, -⟩ := running.flow.tally
  have small := running.length_stream_le
  have same : session.state.counters.written = written.toUInt64 := by
    rw [booked, returned, ended] at counted
    simpa [CallerPhase.owed, RecorderPhase.uncounted] using counted
  exact ⟨surplus, by rw [same, toNat_toUInt64_of_lt (by omega), total]⟩

end Running

end Session

end SampleCapture
