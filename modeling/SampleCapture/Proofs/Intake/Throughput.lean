import SampleCapture.Proofs.Intake.Stream

/-!
# Measuring without saving

An intake without a queue goes through the same states as one with an unbounded queue, step
by step, as long as the consumer stays. What only the second one has is taken away by
`IntakeSetup.throughput`: the queue, and the counter of saved bytes. Every call commutes with this
and is answered alike, so that whole rows of calls are.
-/

namespace SampleCapture

/-! ## What a measurement leaves out -/

/-- The same as if nothing had been saved. -/
def LoggedState.unsaved (shared : LoggedState) : LoggedState :=
  { shared with
    state := { shared.state with counters := { shared.state.counters with saved := 0 } } }

/-- The same intake as if it only measured the throughput. -/
def IntakeSetup.throughput (setup : IntakeSetup) : IntakeSetup where
  shared := setup.shared.unsaved
  intake := setup.intake
  queue := none

namespace LoggedState

theorem unsaved_perform (shared : LoggedState) {effect : Effect} (free : effect.amounts.saved = 0) :
    (shared.perform effect).unsaved = shared.unsaved.perform effect := by
  cases effect with
  | log event => rfl
  | raise => rfl
  | count amounts =>
      change amounts.saved = 0 at free
      simp [perform, unsaved, SharedState.count, Counters.add, free]
  | record reason =>
      by_cases first : shared.state.reason = none <;>
        simp [perform, unsaved, note, SharedState.record, first]

theorem unsaved_performAll (shared : LoggedState) {effects : List Effect}
    (free : ∀ effect ∈ effects, effect.amounts.saved = 0) :
    (shared.performAll effects).unsaved = shared.unsaved.performAll effects := by
  induction effects generalizing shared with
  | nil => rfl
  | cons effect effects ih =>
      have first := shared.unsaved_perform (free effect List.mem_cons_self)
      have later := ih (shared.perform effect) fun other member =>
        free other (List.mem_cons_of_mem _ member)
      rw [first] at later
      exact later

/-- Saving is all that a measurement does not see. -/
theorem unsaved_save (shared : LoggedState) (count : UInt64) :
    (shared.perform (.count { saved := count })).unsaved = shared.unsaved := by
  simp [perform, unsaved, SharedState.count, Counters.add]

end LoggedState

/-- Before the samples are queued, nothing is counted as saved. -/
theorem Intake.saved_plan (intake : Intake) (receivedBefore : UInt64) (burst : List UInt8)
    {effect : Effect} (member : effect ∈ (intake.plan receivedBefore burst).effects) :
    effect.amounts.saved = 0 := by
  unfold plan at member
  split at member
  · cases member
  · rcases List.mem_append.mp member with line | marks
    · unfold warmUpEffects at line
      split at line
      · cases line
      · rw [List.mem_singleton.mp line]
        rfl
    · obtain ⟨index, -, mark⟩ := List.mem_flatMap.mp marks
      simp only [overflowEffects, Effect.stop, List.mem_cons, List.not_mem_nil, or_false] at mark
      rcases mark with rfl | rfl | rfl | rfl <;> rfl

theorem ByteQueue.abandoned_offer (queue : ByteQueue) (bytes : List UInt8) :
    (queue.offer bytes).2.abandoned = queue.abandoned := by
  unfold offer
  split
  · rfl
  · split
    · rfl
    · split <;> rfl

theorem ByteQueue.offer_ne_refused {queue : ByteQueue} (present : queue.abandoned = false)
    (bytes : List UInt8) : (queue.offer bytes).1 ≠ .refused := by
  unfold offer
  rw [present]
  split
  · exact nofun
  · split
    · rename_i gone
      cases gone
    · split <;> exact nofun

namespace IntakeSetup

def Attended (setup : IntakeSetup) : Prop :=
  ∀ queue, setup.queue = some queue → queue.abandoned = false

theorem attended_start (warmUpBytes : UInt64) (saving : Bool) :
    (start warmUpBytes saving).Attended := by
  intro queue filled
  cases saving with
  | true =>
      cases filled
      rfl
  | false => cases filled

/-! ## One call -/

theorem throughput_marked (setup : IntakeSetup) (intake : Intake) (burst : List UInt8) :
    (setup.marked intake burst).throughput = setup.throughput.marked intake burst := by
  have counted : (setup.shared.perform (Intake.countReceived burst)).unsaved =
      setup.shared.unsaved.perform (Intake.countReceived burst) := setup.shared.unsaved_perform rfl
  have shared := (setup.shared.perform (Intake.countReceived burst)).unsaved_performAll
    fun _ => intake.saved_plan setup.shared.state.counters.received burst
  rw [counted] at shared
  simp only [throughput, marked, shared]
  rfl

theorem push_of_queue {setup : IntakeSetup} {queue : ByteQueue} (filled : setup.queue = some queue)
    (samples : List UInt8) :
    setup.push samples =
      { setup with
        shared := setup.shared.performAll (Intake.afterPush samples
          (if (queue.offer samples).1 = .refused then .refused else .accepted))
        queue := some (queue.offer samples).2 } := by
  rw [push, filled]

/-- Queueing samples is all that a measurement does not do. -/
theorem throughput_push {setup : IntakeSetup} (attended : setup.Attended) (samples : List UInt8) :
    (setup.push samples).throughput = setup.throughput := by
  cases filled : setup.queue with
  | none => rw [push, filled]
  | some queue =>
      rw [push_of_queue filled, if_neg (ByteQueue.offer_ne_refused (attended queue filled) samples)]
      simp only [throughput]
      rw [Intake.afterPush, LoggedState.performAll, List.foldl_cons, List.foldl_nil,
        LoggedState.unsaved_save]

theorem throughput_ingest {setup : IntakeSetup} (attended : setup.Attended) (intake : Intake)
    (burst : List UInt8) :
    (setup.ingest intake burst).throughput = setup.throughput.ingest intake burst := by
  have still : (setup.marked intake burst).Attended := attended
  have received : setup.throughput.shared.state.counters.received =
      setup.shared.state.counters.received := rfl
  rw [ingest_eq, ingest_eq, received]
  dsimp only
  rw [← throughput_marked]
  split
  · rfl
  · rw [throughput_push still]
    rfl

/-- A call that delivers a burst is answered alike. -/
theorem deliver_throughput {setup : IntakeSetup} (attended : setup.Attended) (burst : List UInt8)
    (report : Option ProgressSnapshot) :
    setup.throughput.deliver burst report =
      ((setup.deliver burst report).1, (setup.deliver burst report).2.throughput) := by
  have line (shared : LoggedState) :
      (shared.performAll (Intake.reportEffects shared.state report)).unsaved =
      shared.unsaved.performAll (Intake.reportEffects shared.unsaved.state report) := by
    cases report <;> rfl
  cases running : setup.intake with
  | none => simp only [deliver, throughput, running]
  | some intake =>
      have taken : (if burst = [] then setup.throughput else setup.throughput.ingest intake burst) =
          (if burst = [] then setup else setup.ingest intake burst).throughput := by
        split
        · rfl
        · exact (throughput_ingest attended intake burst).symm
      have same : setup.throughput.intake = some intake := running
      rw [deliver, deliver, same, running]
      dsimp only
      rw [taken]
      generalize (if burst = [] then setup else setup.ingest intake burst) = after
      simp only [throughput, line]
      rw [← line]
      rfl

theorem Attended.push {setup : IntakeSetup} (attended : setup.Attended) (samples : List UInt8) :
    (setup.push samples).Attended := by
  cases filled : setup.queue with
  | none =>
      rw [IntakeSetup.push, filled]
      exact attended
  | some queue =>
      rw [push_of_queue filled]
      rintro after ⟨⟩
      rw [ByteQueue.abandoned_offer]
      exact attended queue filled

theorem Attended.deliver {setup : IntakeSetup} (attended : setup.Attended) (burst : List UInt8)
    (report : Option ProgressSnapshot) : (setup.deliver burst report).2.Attended := by
  unfold IntakeSetup.deliver
  split
  · exact attended
  · rename_i intake running
    change (if burst = [] then setup else setup.ingest intake burst).Attended
    split
    · exact attended
    · have still : (setup.marked intake burst).Attended := attended
      rw [ingest_eq]
      dsimp only
      split
      · exact still
      · exact still.push _

theorem Attended.drain {setup : IntakeSetup} (attended : setup.Attended) (limit : Nat) :
    (setup.drain limit).2.Attended := by
  cases filled : setup.queue with
  | none =>
      rw [IntakeSetup.drain, consumerView, filled]
      exact attended
  | some queue =>
      obtain ⟨left, same, -, abandoned, -⟩ := drain_took filled limit
      rw [same]
      intro other known
      cases known
      exact abandoned.trans (attended queue filled)

end IntakeSetup

/-! ## Rows of calls -/

namespace IntakeRun

def measuring (warmUpBytes : UInt64) : IntakeRun where
  setup := .start warmUpBytes false

def throughput (run : IntakeRun) : IntakeRun where
  setup := run.setup.throughput

def answer? (run : IntakeRun) : IntakeCall → Option Answer
  | .deliver burst report => (run.setup.deliver burst report).1
  | .ask _ | .drain _ | .dropConsumer => none

def answers (run : IntakeRun) : List IntakeCall → List Answer
  | [] => []
  | call :: calls => (run.answer? call).toList ++ (run.step call).answers calls

theorem throughput_start (warmUpBytes : UInt64) :
    (start warmUpBytes).throughput = measuring warmUpBytes := rfl

/-- A measurement is answered alike, and goes on alike. -/
theorem throughput_step {run : IntakeRun} (attended : run.setup.Attended) (call : IntakeCall) :
    run.throughput.answer? call = run.answer? call ∧
      run.throughput.step call = (run.step call).throughput := by
  cases call with
  | deliver burst report =>
      have same := IntakeSetup.deliver_throughput attended burst report
      simp only [answer?, step, throughput, same, and_self]
  | ask reason =>
      have free : ∀ effect ∈ Effect.stop reason, effect.amounts.saved = 0 := by
        simp [Effect.stop, Effect.amounts]
      have shared := run.setup.shared.unsaved_performAll free
      refine ⟨rfl, ?_⟩
      simp only [step, throughput, IntakeSetup.throughput, IntakeSetup.askStop,
        LoggedState.askStop, shared]
  | drain limit =>
      have setup : (run.setup.drain limit).2.throughput = run.setup.throughput := by
        cases filled : run.setup.queue with
        | none => rw [IntakeSetup.drain, IntakeSetup.consumerView, filled]; rfl
        | some queue =>
            obtain ⟨left, same, -⟩ := IntakeSetup.drain_took filled limit
            rw [same]
            rfl
      refine ⟨rfl, ?_⟩
      simp only [step, throughput, setup]
      rfl
  | dropConsumer => exact ⟨rfl, rfl⟩

theorem attended_step {run : IntakeRun} (attended : run.setup.Attended) {call : IntakeCall}
    (staying : call ≠ .dropConsumer) : (run.step call).setup.Attended := by
  cases call with
  | deliver burst report => exact attended.deliver burst report
  | ask reason => exact attended
  | drain limit => exact attended.drain limit
  | dropConsumer => exact absurd rfl staying

theorem throughput_run {run : IntakeRun} (attended : run.setup.Attended) {calls : List IntakeCall}
    (staying : .dropConsumer ∉ calls) :
    run.throughput.answers calls = run.answers calls ∧
      run.throughput.run calls = (run.run calls).throughput := by
  induction calls generalizing run with
  | nil => exact ⟨rfl, rfl⟩
  | cons call calls ih =>
      rw [List.mem_cons, not_or] at staying
      obtain ⟨answer, step⟩ := throughput_step attended call
      obtain ⟨answers, later⟩ := ih (attended_step attended (Ne.symm staying.1)) staying.2
      constructor
      · rw [IntakeRun.answers, IntakeRun.answers, answer, step, answers]
      · change (run.throughput.step call).run calls = ((run.step call).run calls).throughput
        rw [step, later]

/-- While the consumer is there, all unflagged live bytes count as saved. -/
theorem Metered.saved {warmUpBytes : UInt64} {calls : List IntakeCall} {run : IntakeRun}
    {intake : Intake} {queue : ByteQueue}
    (metered : Metered warmUpBytes calls run intake queue)
    (present : calls.any IntakeCall.isDrop = false)
    (bound : (IntakeCall.delivered calls).length < UInt64.size) :
    run.counters.saved.toNat =
      unflaggedCount (liveBytes warmUpBytes.toNat (IntakeCall.delivered calls)) := by
  have counts :=
    unflaggedCount_add_flaggedCount (liveBytes warmUpBytes.toNat (IntakeCall.delivered calls))
  have shorter : (liveBytes warmUpBytes.toNat (IntakeCall.delivered calls)).length ≤
      (IntakeCall.delivered calls).length := by
    simp [liveBytes]
  rw [(metered.complete present).2]
  exact toNat_toUInt64_of_le (by omega) bound

/-- How a measurement compares with a capture after the same calls. -/
structure Simulates (warmUpBytes : UInt64) (calls : List IntakeCall)
    (measured captured : IntakeRun) :
    Prop where
  answers : (measuring warmUpBytes).answers calls = (start warmUpBytes).answers calls
  events : measured.setup.shared.log = captured.setup.shared.log
  stopping : measured.setup.shared.state.stopping = captured.setup.shared.state.stopping
  reason : measured.setup.shared.state.reason = captured.setup.shared.state.reason
  received : measured.counters.received = captured.counters.received
  dropouts : measured.counters.dropouts = captured.counters.dropouts
  /-- The measurement saves nothing, the capture all unflagged live bytes. -/
  unsaved : measured.counters.saved = 0
  saved : captured.counters.saved.toNat =
    unflaggedCount (liveBytes warmUpBytes.toNat (IntakeCall.delivered calls))
  /-- There is no other difference but the queue. -/
  alike : measured.setup = captured.setup.throughput

/-- A measurement simulates a capture whose consumer stays, call by call. -/
theorem simulates_of_run (warmUpBytes : UInt64) (calls : List IntakeCall)
    (staying : .dropConsumer ∉ calls)
    (bound : (IntakeCall.delivered calls).length < UInt64.size) :
    Simulates warmUpBytes calls ((measuring warmUpBytes).run calls)
      ((start warmUpBytes).run calls) := by
  have attended : (start warmUpBytes).setup.Attended := IntakeSetup.attended_start warmUpBytes true
  obtain ⟨answers, run⟩ := throughput_run attended staying
  rw [throughput_start] at answers run
  obtain ⟨_, _, metered⟩ := Metered.of_run warmUpBytes calls bound
  have saved := metered.saved (IntakeCall.any_isDrop_eq_false.mpr staying) bound
  rw [run]
  exact ⟨answers, rfl, rfl, rfl, rfl, rfl, rfl, saved, rfl⟩

/-- The second live byte is flagged, and somebody asks for a stop before that. -/
def measuredCalls : List IntakeCall :=
  [.deliver [0x01, 0x29] none, .drain 1, .ask .userInterrupt,
    .deliver [0xfe, 0x03] (some ⟨0, 4, 4, 0, 0⟩), .deliver [] none]

theorem simulates_measuredCalls :
    .dropConsumer ∉ measuredCalls ∧ (IntakeCall.delivered measuredCalls).length < UInt64.size ∧
      (measuring 1).answers measuredCalls = [.continue, .stop, .stop] ∧
      ((measuring 1).run measuredCalls).counters = { received := 4, dropouts := 1 } ∧
      Simulates 1 measuredCalls ((measuring 1).run measuredCalls) ((start 1).run measuredCalls) :=
  ⟨by simp [measuredCalls], by decide, by cbv, by cbv,
    simulates_of_run 1 measuredCalls (by simp [measuredCalls]) (by decide)⟩

end IntakeRun

end SampleCapture
