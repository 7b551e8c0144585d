import SampleCapture.Proofs.Intake.Plan
import SampleCapture.Proofs.Session.Wiring

/-!
# The books of a session

The counters together with what the caller still owes them are the booked counters. They
change only when a burst is taken in, when the recorder counts what it has written, and
when decoded samples have nowhere to go.
-/

namespace SampleCapture

/-! ## What the caller owes -/

/-- What the caller has still to count of the burst that it has taken in. -/
def CallerPhase.owed : CallerPhase → Counters
  | .marking effects samples _ =>
      (Effect.total effects).add { saved := (samples.length / 2).toUInt64 }
  | .pushing samples _ => { saved := (samples.length / 2).toUInt64 }
  | .asking effects | .settling effects _ | .ending effects _ | .collapsing effects =>
      Effect.total effects
  | .atSource | .counting _ _ | .reporting _ | .answering | .finishing _ | .closing _
  | .checking _ | .joining _ | .concluding _ _ | .returned _ => {}

theorem CallerPhase.owed_next? {phase after : CallerPhase} {effect : Effect}
    (row : phase.next? = some (effect, after)) : phase.owed = effect.amounts.add after.owed := by
  unfold CallerPhase.next? at row
  split at row <;> cases row <;> simp [CallerPhase.owed, Effect.total, Counters.add_assoc]

/-- The burst that has been delivered but not taken in. -/
def CallerPhase.uncounted : CallerPhase → List UInt8
  | .counting burst _ => burst
  | _ => []

theorem CallerPhase.uncounted_next? {phase after : CallerPhase} {effect : Effect}
    (row : phase.next? = some (effect, after)) : phase.uncounted = [] ∧ after.uncounted = [] := by
  unfold CallerPhase.next? at row
  split at row <;> cases row <;> exact ⟨rfl, rfl⟩

namespace Session

/-- The counters with what the caller owes them. -/
def booked (session : Session) : Counters :=
  session.state.counters.add session.phase.owed

def counted (session : Session) : Move → List UInt8
  | .caller => session.phase.uncounted
  | .recorder | .deliver _ _ | .ask _ | .finish _ | .record _ | .raise => []

def gain (session : Session) : Counters :=
  session.intake.amounts session.state.counters.received session.phase.uncounted

/-- Where decoded samples are lost: there is no queue, or it has been abandoned while the
producer can still put something in. -/
def Unheard (session : Session) : Prop :=
  ∀ lane, session.lane = some lane →
    lane.channel.queue.abandoned = true ∧ lane.channel.producer.hasClosed = false

theorem booked_perform {session : Session} {effect : Effect} {phase : CallerPhase}
    (row : session.phase.next? = some (effect, phase)) :
    ((session.perform effect).goTo phase).booked = session.booked := by
  have counters : ((session.perform effect).goTo phase).state.counters =
      session.state.counters.add effect.amounts := session.shared.counters_perform effect
  rw [booked, booked, counters, CallerPhase.owed_next? row, Counters.add_assoc]
  rfl

/-- Taking in a burst books everything that it adds to the counters. -/
theorem booked_ingest {session : Session} {burst : List UInt8} {report : Option ProgressSnapshot}
    (phase : session.phase = .counting burst report) :
    (session.ingest burst report).booked =
      session.booked.add (session.intake.amounts session.state.counters.received burst) := by
  have counters : (session.ingest burst report).state.counters =
      session.state.counters.add { received := burst.length.toUInt64 } := rfl
  have owed : (session.ingest burst report).phase.owed =
      (Effect.total (session.intake.plan session.state.counters.received burst).effects).add
        { saved :=
            ((session.intake.plan session.state.counters.received burst).samples.length
              / 2).toUInt64 } := rfl
  rw [booked, booked, phase, counters, owed, Intake.total_plan, Intake.plan_samples,
    length_sampleBytes, Nat.mul_div_cancel_left _ (by decide)]
  simp [CallerPhase.owed, Intake.amounts, Counters.add]

theorem counters_reported (session : Session) (report : Option ProgressSnapshot) :
    (session.shared.performAll (Intake.reportEffects session.state report)).state =
      session.state := by
  cases report <;> rfl

/-- A push that has not been refused leaves the books as they are. -/
theorem booked_push {session : Session} {samples : List UInt8}
    {report : Option ProgressSnapshot} (phase : session.phase = .pushing samples report)
    (channel : Channel) {result : Option PushResult} (taken : result ≠ some .refused) :
    ((session.withChannel channel).goTo (.afterPush samples report result)).booked =
      session.booked := by
  rw [booked, booked, phase]
  rcases result with _ | _ | _
  · rfl
  · simp [CallerPhase.afterPush, CallerPhase.owed, Intake.afterPush, Effect.total, Effect.amounts]
  · exact absurd rfl taken

/-- A step of the caller adds its gain to the books, less the samples that are lost. -/
theorem CallerStep.booked {session next : Session} (step : session.CallerStep next) :
    ∃ lost, next.booked.add { saved := lost } = session.booked.add session.gain ∧
      (lost = 0 ∨ session.Unheard) := by
  cases step with
  | perform row =>
      refine ⟨0, ?_, .inl rfl⟩
      have nothing : session.gain = {} := by
        rw [gain, (CallerPhase.uncounted_next? row).1, Intake.amounts_nil]
      rw [booked_perform row, nothing]
  | ingest phase =>
      refine ⟨0, ?_, .inl rfl⟩
      rw [booked_ingest phase, gain, phase]
      exact Counters.add_zero _
  | @skip samples report phase nothing =>
      refine ⟨(samples.length / 2).toUInt64, ?_, ?_⟩
      · simp [Session.booked, gain, phase, CallerPhase.uncounted, CallerPhase.owed, Effect.total]
      · rcases nothing with alone | rfl
        · right
          intro lane running
          cases alone.symm.trans running
        · exact .inl rfl
  | offer phase running filled =>
      refine ⟨0, ?_, .inl rfl⟩
      simp [Session.booked, gain, phase, CallerPhase.uncounted, CallerPhase.owed, Effect.total, Counters.add]
  | @push samples report lane channel result phase running step =>
      have nothing : session.gain = {} := by simp [gain, phase, CallerPhase.uncounted]
      by_cases refused : result = some .refused
      · subst refused
        refine ⟨(samples.length / 2).toUInt64, ?_, .inr fun other known => ?_⟩
        · rw [nothing]
          simp [Session.booked, phase, CallerPhase.owed, CallerPhase.afterPush,
            Intake.afterPush, Effect.total, Effect.amounts, Effect.stop]
        · cases running.symm.trans known
          cases step with
          | refused ready nonempty abandoned =>
              exact ⟨abandoned, by rw [ready]; rfl⟩
      · refine ⟨0, ?_, .inl rfl⟩
        rw [booked_push phase channel refused, nothing]
  | @report report phase =>
      refine ⟨0, ?_, .inl rfl⟩
      have still := session.counters_reported report
      simp [Session.booked, gain, phase, CallerPhase.uncounted, CallerPhase.owed,
        Session.withShared, goTo, still]
  | @conclude error writeError phase =>
      refine ⟨0, ?_, .inl rfl⟩
      obtain ⟨log, concluded⟩ := session.conclude_eq error writeError
      rw [concluded]
      simp [Session.booked, gain, phase, CallerPhase.uncounted, CallerPhase.owed]
  | @join error lane ending phase running ended =>
      refine ⟨0, ?_, .inl rfl⟩
      cases ending <;>
        simp [Session.booked, gain, phase, CallerPhase.uncounted, CallerPhase.owed, joined, Effect.total_stop]
  | asked phase | settled phase | answer phase | unlink phase | close phase | closed phase
  | endTransfer phase | wait phase | ended phase | joinNobody phase | collapsed phase =>
      refine ⟨0, ?_, .inl rfl⟩
      simp [Session.booked, gain, phase, CallerPhase.uncounted, CallerPhase.owed, goTo, withChannel, Effect.total]

end Session

/-! ## The books -/

namespace Session

/-- The books of a session that has taken in these bytes. They miss saved samples only
after a failure of the sink. -/
structure Books (warmUp : Nat) (taken : List UInt8) (session : Session) : Prop where
  intake : session.intake.warmUpBytes.toNat = warmUp
  received : session.booked.received = taken.length.toUInt64
  dropouts : session.booked.dropouts = (flaggedCount (liveBytes warmUp taken)).toUInt64
  saved : ∀ lane, session.lane = some lane → lane.recorder.phase.status ≠ .broken →
    session.booked.saved = (unflaggedCount (liveBytes warmUp taken)).toUInt64

theorem CallerStep.warmUpBytes {session next : Session} (step : session.CallerStep next) :
    next.intake.warmUpBytes = session.intake.warmUpBytes := by
  cases step with
  | ingest phase => exact Intake.plan_warmUpBytes _ _ _
  | @conclude error writeError phase =>
      obtain ⟨log, concluded⟩ := session.conclude_eq error writeError
      rw [concluded]
  | join => rw [intake_joined]
  | _ => rfl

/-- A step of the recorder books what it counts as written. -/
theorem booked_withThread {session : Session} {lane : RecorderLane} {after : RecorderThread}
    (step : (session.thread lane).Step after) (orderly : lane.recorder.phase.Orderly) :
    (session.withThread after).booked =
      session.booked.add { written := lane.recorder.phase.uncounted.toUInt64 } := by
  have counters : (session.withThread after).state.counters =
      session.state.counters.add { written := lane.recorder.phase.uncounted.toUInt64 } :=
    step.counters orderly
  rw [booked, booked, counters, Counters.add_assoc, Counters.add_assoc]
  exact congrArg _ (Counters.add_comm _ _)

/-- While the sink works, samples are not lost. -/
theorem heard {session : Session} {lane : RecorderLane} (running : session.lane = some lane)
    (wired : Wired session.phase lane) (working : lane.recorder.phase.status ≠ .broken) :
    ¬ session.Unheard := by
  intro unheard
  obtain ⟨abandoned, opened⟩ := unheard lane running
  rw [wired.present working opened] at abandoned
  cases abandoned

/-- The intake cuts the rest of the warm-up off a burst. -/
theorem liveBytes_append_uncounted {session : Session} {warmUp : Nat} {taken : List UInt8}
    (intake : session.intake.warmUpBytes.toNat = warmUp)
    (received : session.booked.received = taken.length.toUInt64)
    (bound : taken.length < UInt64.size) :
    liveBytes warmUp (taken ++ session.phase.uncounted) =
      liveBytes warmUp taken ++
        session.intake.liveOf session.state.counters.received session.phase.uncounted := by
  cases phase : session.phase with
  | counting burst report =>
      rw [booked, phase] at received
      have before : session.state.counters.received.toNat = taken.length := by
        have same : session.state.counters.received = taken.length.toUInt64 := by
          simpa [CallerPhase.owed] using received
        rw [same, Nat.toUInt64_eq, UInt64.toNat_ofNat_of_lt' bound]
      rw [Intake.liveOf, before, intake, liveBytes_append]
  | _ => simp [CallerPhase.uncounted, Intake.liveOf, liveBytes]

namespace Books

variable {warmUp : Nat} {taken : List UInt8} {session next : Session}

/-- The live bytes of a burst come behind those of the bytes before it. -/
theorem live_append (books : Books warmUp taken session) (bound : taken.length < UInt64.size) :
    liveBytes warmUp (taken ++ session.phase.uncounted) =
      liveBytes warmUp taken ++
        session.intake.liveOf session.state.counters.received session.phase.uncounted :=
  liveBytes_append_uncounted books.intake books.received bound

theorem callerStep (books : Books warmUp taken session) (step : session.CallerStep next)
    (wired : ∀ lane, session.lane = some lane → Wired session.phase lane)
    (bound : taken.length < UInt64.size) :
    Books warmUp (taken ++ session.phase.uncounted) next := by
  obtain ⟨lost, balance, heard⟩ := step.booked
  constructor
  case intake => rw [step.warmUpBytes, books.intake]
  case received =>
    have received := congrArg Counters.received balance
    simp only [Counters.add, gain, Intake.amounts, books.received, UInt64.add_zero] at received
    rw [received, List.length_append]
    simp
  case dropouts =>
    have dropouts := congrArg Counters.dropouts balance
    simp only [Counters.add, gain, Intake.amounts, books.dropouts, UInt64.add_zero] at dropouts
    rw [dropouts, books.live_append bound]
    simp [flaggedCount]
  case saved =>
    intro after later working
    obtain ⟨lane, running, same⟩ := step.recorder later
    rw [same] at working
    -- a sink that works has not abandoned the queue, so nothing is lost
    have kept : lost = 0 :=
      heard.resolve_right (Session.heard running (wired lane running) working)
    have saved := congrArg Counters.saved balance
    simp only [Counters.add, gain, Intake.amounts, books.saved lane running working, kept,
      UInt64.add_zero] at saved
    rw [saved, books.live_append bound]
    simp [unflaggedCount]

/-- The books after a move that is none of the caller's and counts nothing but written
bytes. -/
theorem carry (books : Books warmUp taken session)
    (intake : next.intake = session.intake)
    (written : ∃ amount, next.booked = session.booked.add { written := amount })
    (recorder : ∀ after, next.lane = some after → ∃ lane, session.lane = some lane ∧
      (after.recorder.phase.status ≠ .broken → lane.recorder.phase.status ≠ .broken)) :
    Books warmUp taken next := by
  obtain ⟨amount, same⟩ := written
  constructor
  case intake => rw [intake, books.intake]
  case received =>
    rw [same, ← books.received]
    exact UInt64.add_zero _
  case dropouts =>
    rw [same, ← books.dropouts]
    exact UInt64.add_zero _
  case saved =>
    intro after later working
    obtain ⟨lane, running, healthy⟩ := recorder after later
    rw [same, ← books.saved lane running (healthy working)]
    exact UInt64.add_zero _

theorem recorderStep (books : Books warmUp taken session) {lane : RecorderLane}
    (running : session.lane = some lane) (orderly : lane.recorder.phase.Orderly)
    {after : RecorderThread} (step : (session.thread lane).Step after) :
    Books warmUp taken (session.withThread after) := by
  refine books.carry rfl ⟨_, booked_withThread step orderly⟩ ?_
  intro last later
  cases Wired.lane_of_withThread later
  exact ⟨lane, running, fun working broken => working (step.broken broken)⟩

/-- Every step keeps the books, with the bytes that it takes in. -/
theorem step {move : Move} (books : Books warmUp taken session) (step : session.Step move next)
    (wired : ∀ lane, session.lane = some lane → Wired session.phase lane)
    (orderly : ∀ lane, session.lane = some lane → lane.recorder.phase.Orderly)
    (bound : taken.length < UInt64.size) : Books warmUp (taken ++ session.counted move) next := by
  cases step with
  | caller step => exact books.callerStep step wired bound
  | recorder running step =>
      rw [counted, List.append_nil]
      exact books.recorderStep running (orderly _ running) step
  | deliver burst report ready =>
      rw [counted, List.append_nil]
      refine books.carry rfl ⟨0, ?_⟩ fun after later => ⟨after, later, id⟩
      rw [booked, booked, ready]
      dsimp only [phase_goTo]
      split <;> exact (Counters.add_zero _).symm
  | ask reason ready | finish error ready =>
      rw [counted, List.append_nil]
      refine books.carry rfl ⟨0, ?_⟩ fun after later => ⟨after, later, id⟩
      rw [booked, booked, ready]
      exact (Counters.add_zero _).symm
  | record reason | raise asked =>
      rw [counted, List.append_nil]
      exact books.carry rfl ⟨0, (Counters.add_zero _).symm⟩ fun after later => ⟨after, later, id⟩

theorem start (config : CaptureOptions) (preStop : Option StopReason) (output : Option Writer) :
    Books config.warmUpBytes.toNat [] (Session.start config preStop output) := by
  have counters : (Session.start config preStop output).booked = {} := by
    rcases preStop with _ | reason <;> rcases output with _ | writer <;> rfl
  constructor
  case intake => rcases output with _ | writer <;> rfl
  case received =>
    rw [counters]
    rfl
  case dropouts =>
    rw [counters]
    simp [liveBytes, flaggedCount]
  case saved =>
    intro lane _ _
    rw [counters]
    simp [liveBytes, unflaggedCount]

end Books

/-- What has been delivered is what has been taken in and the burst still to be counted. -/
theorem Step.counted {session next : Session} {move : Move} (step : session.Step move next) :
    session.phase.uncounted ++ move.burst = session.counted move ++ next.phase.uncounted := by
  cases step with
  | caller step =>
      have fresh : next.phase.uncounted = [] := by
        cases step with
        | perform row => exact (CallerPhase.uncounted_next? row).2
        | @push samples report lane channel result => rcases result with _ | _ | _ <;> rfl
        | @conclude error writeError =>
            obtain ⟨log, concluded⟩ := session.conclude_eq error writeError
            rw [concluded]
            rfl
        | @join error lane ending => cases ending <;> rfl
        | _ => rfl
      rw [fresh]
      rfl
  | recorder running step => exact List.append_nil _
  | deliver burst report ready =>
      rw [ready]
      change burst = (if burst = [] then CallerPhase.reporting report
        else .counting burst report).uncounted
      split
      · assumption
      · rfl
  | ask reason ready | finish error ready =>
      rw [ready]
      rfl
  | record reason | raise asked => exact List.append_nil _

end Session

end SampleCapture
