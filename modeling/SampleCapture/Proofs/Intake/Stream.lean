import Mathlib
import SampleCapture.Intake.Setup
import SampleCapture.Proofs.Intake.Plan

/-!
# The intake over a whole stream

The counters and the content of an unbounded queue are functions of the stream that has
been delivered so far, however it has been cut into bursts, and whatever else is done in
between: stop requests, withdrawals, and the departure of the consumer.
-/

namespace SampleCapture

/-! ## Calls -/

inductive IntakeCall where
  | deliver (burst : List UInt8) (report : Option ProgressSnapshot)
  | ask (reason : StopReason)
  | drain (limit : Nat)
  | dropConsumer

namespace IntakeCall

def burst : IntakeCall → List UInt8
  | .deliver burst _ => burst
  | .ask _ | .drain _ | .dropConsumer => []

def delivered (calls : List IntakeCall) : List UInt8 :=
  calls.flatMap burst

def isDrop : IntakeCall → Bool
  | .dropConsumer => true
  | .deliver _ _ | .ask _ | .drain _ => false

/-- The bytes that a row of calls delivers before the consumer is dropped. -/
def heard : List IntakeCall → List UInt8
  | [] => []
  | call :: calls => if call.isDrop then [] else call.burst ++ heard calls

theorem any_isDrop_eq_false {calls : List IntakeCall} :
    calls.any isDrop = false ↔ .dropConsumer ∉ calls := by
  rw [List.any_eq_false]
  constructor
  · intro none member
    exact none _ member rfl
  · intro none call member dropped
    cases call with
    | dropConsumer => exact none member
    | deliver | ask | drain => cases dropped

theorem heard_append (first second : List IntakeCall) :
    heard (first ++ second) = heard first ++ if first.any isDrop then [] else heard second := by
  induction first with
  | nil => rfl
  | cons call calls ih =>
      rw [List.cons_append, heard, heard, List.any_cons]
      cases call.isDrop with
      | true => rfl
      | false => simp [ih]

theorem delivered_append (first second : List IntakeCall) :
    delivered (first ++ second) = delivered first ++ delivered second :=
  List.flatMap_append

/-- While the consumer is there, it is there for everything. -/
theorem heard_of_present {calls : List IntakeCall} (present : calls.any isDrop = false) :
    heard calls = delivered calls := by
  induction calls with
  | nil => rfl
  | cons call calls ih =>
      obtain ⟨staying, later⟩ := Bool.or_eq_false_iff.mp present
      rw [heard, staying, ih later]
      rfl

end IntakeCall

structure IntakeRun where
  setup : IntakeSetup
  drained : List UInt8 := []

namespace IntakeRun

def start (warmUpBytes : UInt64) : IntakeRun where
  setup := .start warmUpBytes true

def counters (run : IntakeRun) : Counters :=
  run.setup.shared.state.counters

def queued (run : IntakeRun) : List UInt8 :=
  run.setup.queue.elim [] (·.bytes)

/-- Everything that has come out of the queue or is still in it. -/
def stream (run : IntakeRun) : List UInt8 :=
  run.drained ++ run.queued

def gotten : Option Withdrawal → List UInt8
  | some (.bytes taken) => taken
  | _ => []

def step (run : IntakeRun) : IntakeCall → IntakeRun
  | .deliver burst report => { run with setup := (run.setup.deliver burst report).2 }
  | .ask reason => { run with setup := run.setup.askStop reason }
  | .drain limit =>
      let (withdrawal, setup) := run.setup.drain limit
      { setup := setup, drained := run.drained ++ gotten withdrawal }
  | .dropConsumer => { run with setup := run.setup.dropConsumer }

def run (run : IntakeRun) (calls : List IntakeCall) : IntakeRun :=
  calls.foldl step run

end IntakeRun

/-! ## One burst -/

namespace ByteQueue

/-- An unbounded queue after samples have been put in; without a consumer it gets nothing. -/
def receive (queue : ByteQueue) (samples : List UInt8) : ByteQueue :=
  if queue.abandoned then queue else { queue with bytes := queue.bytes ++ samples }

/-- What counts of these amounts; without a consumer nothing counts as saved. -/
def credit (queue : ByteQueue) (amounts : Counters) : Counters :=
  if queue.abandoned then { amounts with saved := 0 } else amounts

theorem offer_of_unbounded {queue : ByteQueue} (unbounded : queue.capacity = 0)
    {samples : List UInt8} (nonempty : samples ≠ []) :
    queue.offer samples =
      (if queue.abandoned then .refused else .taken, queue.receive samples) := by
  have fits : queue.excess samples = [] ∧ queue.fill samples =
      { queue with bytes := queue.bytes ++ samples } := by
    simp [excess, fill, fitting, room, unbounded]
  rw [offer, if_neg nonempty, fits.1, fits.2, receive]
  split <;> rfl

theorem receive_nil (queue : ByteQueue) : queue.receive [] = queue := by
  rw [receive, List.append_nil, ite_self]

theorem receive_capacity (queue : ByteQueue) (samples : List UInt8) :
    (queue.receive samples).capacity = queue.capacity := by
  unfold receive
  split <;> rfl

theorem receive_abandoned (queue : ByteQueue) (samples : List UInt8) :
    (queue.receive samples).abandoned = queue.abandoned := by
  unfold receive
  split <;> rfl

end ByteQueue

namespace IntakeSetup

variable {setup : IntakeSetup} {intake : Intake} {queue : ByteQueue}

theorem queue_push (filled : setup.queue = some queue) (unbounded : queue.capacity = 0)
    {samples : List UInt8} (nonempty : samples ≠ []) :
    (setup.push samples).queue = some (queue.receive samples) := by
  rw [push, filled]
  dsimp only
  rw [ByteQueue.offer_of_unbounded unbounded nonempty]

theorem counters_push (filled : setup.queue = some queue) (unbounded : queue.capacity = 0)
    {samples : List UInt8} (nonempty : samples ≠ []) :
    (setup.push samples).shared.state.counters =
      setup.shared.state.counters.add
        (queue.credit { saved := (samples.length / 2).toUInt64 }) := by
  rw [push, filled]
  dsimp only
  rw [ByteQueue.offer_of_unbounded unbounded nonempty, LoggedState.counters_performAll,
    ByteQueue.credit]
  cases queue.abandoned with
  | true => rfl
  | false => exact congrArg _ (Counters.add_zero _)

theorem intake_push (setup : IntakeSetup) (samples : List UInt8) :
    (setup.push samples).intake = setup.intake := by
  unfold push
  split <;> rfl

/-- A burst has been counted and marked, and its samples are still to be queued. -/
def marked (setup : IntakeSetup) (intake : Intake) (burst : List UInt8) : IntakeSetup :=
  let plan := intake.plan setup.shared.state.counters.received burst
  { setup with
    shared := (setup.shared.perform (Intake.countReceived burst)).performAll plan.effects
    intake := some plan.intake }

theorem ingest_eq (setup : IntakeSetup) (intake : Intake) (burst : List UInt8) :
    setup.ingest intake burst =
      let samples := sampleBytes (intake.liveOf setup.shared.state.counters.received burst)
      if samples = [] then setup.marked intake burst
      else (setup.marked intake burst).push samples := by
  rw [← Intake.plan_samples]
  rfl

theorem counters_marked (setup : IntakeSetup) (intake : Intake) (burst : List UInt8) :
    (setup.marked intake burst).shared.state.counters = setup.shared.state.counters.add
      { intake.amounts setup.shared.state.counters.received burst with saved := 0 } := by
  rw [marked, LoggedState.counters_performAll, LoggedState.counters_perform, Intake.total_plan,
    Counters.add_assoc]
  simp [Intake.countReceived, Effect.amounts, Intake.amounts, Counters.add]

theorem intake_ingest (setup : IntakeSetup) (intake : Intake) (burst : List UInt8) :
    (setup.ingest intake burst).intake =
      some (intake.plan setup.shared.state.counters.received burst).intake := by
  rw [ingest_eq]
  dsimp only
  split
  · rfl
  · exact intake_push _ _

theorem queue_ingest (filled : setup.queue = some queue) (unbounded : queue.capacity = 0)
    (burst : List UInt8) :
    (setup.ingest intake burst).queue =
      some (queue.receive
        (sampleBytes (intake.liveOf setup.shared.state.counters.received burst))) := by
  have unmoved : (setup.marked intake burst).queue = some queue := filled
  rw [ingest_eq]
  dsimp only
  split
  · rename_i nothing
    rw [nothing, unmoved, ByteQueue.receive_nil]
  · rename_i nonempty
    exact queue_push unmoved unbounded nonempty

theorem counters_ingest (filled : setup.queue = some queue) (unbounded : queue.capacity = 0)
    (burst : List UInt8) :
    (setup.ingest intake burst).shared.state.counters =
      setup.shared.state.counters.add
        (queue.credit (intake.amounts setup.shared.state.counters.received burst)) := by
  have half := length_sampleBytes (intake.liveOf setup.shared.state.counters.received burst)
  have unmoved : (setup.marked intake burst).queue = some queue := filled
  rw [ingest_eq]
  dsimp only
  split
  · rename_i nothing
    have none : unflaggedCount (intake.liveOf setup.shared.state.counters.received burst) = 0 := by
      rw [nothing, List.length_nil] at half
      omega
    rw [counters_marked, ByteQueue.credit, Intake.amounts, none]
    split <;> rfl
  · rename_i nonempty
    rw [counters_push unmoved unbounded nonempty, half, Nat.mul_div_cancel_left _ (by decide),
      counters_marked, Counters.add_assoc]
    cases gone : queue.abandoned <;>
      simp [ByteQueue.credit, gone, Intake.amounts, Counters.add]

/-- What an intake with an unbounded queue has of a burst when it has taken it. -/
structure Took (setup : IntakeSetup) (intake : Intake) (queue : ByteQueue) (burst : List UInt8)
    (next : IntakeSetup) : Prop where
  goesOn : ∃ after, next.intake = some after ∧ after.warmUpBytes = intake.warmUpBytes
  counted : next.shared.state.counters = setup.shared.state.counters.add
    (queue.credit (intake.amounts setup.shared.state.counters.received burst))
  queued : next.queue =
    some (queue.receive (sampleBytes (intake.liveOf setup.shared.state.counters.received burst)))

theorem deliver_took (running : setup.intake = some intake) (filled : setup.queue = some queue)
    (unbounded : queue.capacity = 0) (burst : List UInt8) (report : Option ProgressSnapshot) :
    setup.Took intake queue burst (setup.deliver burst report).2 := by
  have quiet (state : SharedState) : Effect.total (Intake.reportEffects state report) = {} := by
    cases report <;> rfl
  rw [deliver, running]
  dsimp only
  by_cases empty : burst = []
  · subst empty
    have none : sampleBytes (intake.liveOf setup.shared.state.counters.received []) = [] := by
      simp [Intake.liveOf, liveBytes, sampleBytes]
    constructor
    case goesOn => exact ⟨intake, running, rfl⟩
    case counted =>
      rw [if_pos rfl, LoggedState.counters_performAll, quiet, Intake.amounts_nil, ByteQueue.credit]
      exact congrArg _ (ite_self _).symm
    case queued =>
      rw [none, ByteQueue.receive_nil]
      exact filled
  · rw [if_neg empty]
    constructor
    case goesOn => exact ⟨_, intake_ingest _ _ _, Intake.plan_warmUpBytes _ _ _⟩
    case counted =>
      rw [LoggedState.counters_performAll, quiet, Counters.add_zero]
      exact counters_ingest filled unbounded burst
    case queued => exact queue_ingest filled unbounded burst

/-- A withdrawal takes what it gets from the front of the queue. -/
theorem drain_took (filled : setup.queue = some queue) (limit : Nat) :
    ∃ left : ByteQueue, (setup.drain limit).2 = { setup with queue := some left } ∧
      left.capacity = queue.capacity ∧ left.abandoned = queue.abandoned ∧
      IntakeRun.gotten (setup.drain limit).1 ++ left.bytes = queue.bytes := by
  have same : setup = { setup with queue := some queue } := by
    rw [← filled]
  rw [drain, consumerView, filled]
  cases gone : queue.abandoned with
  | true =>
      rw [Option.filter_some_neg (by simp [gone])]
      exact ⟨queue, same, rfl, gone, rfl⟩
  | false =>
      rw [Option.filter_some_pos (by simp [gone])]
      dsimp only
      split
      · exact ⟨queue, same, rfl, gone, rfl⟩
      · refine ⟨(queue.withdraw limit).2, rfl, ?_⟩
        dsimp only
        unfold ByteQueue.withdraw
        split
        · exact ⟨rfl, gone, rfl⟩
        · split
          · split <;> exact ⟨rfl, gone, rfl⟩
          · exact ⟨rfl, gone, List.take_append_drop _ _⟩

end IntakeSetup

/-! ## Whole runs -/

namespace IntakeRun

open IntakeCall

def tally (warmUp : Nat) (stream heard : List UInt8) : Counters where
  received := stream.length.toUInt64
  saved := (unflaggedCount (liveBytes warmUp heard)).toUInt64
  dropouts := (flaggedCount (liveBytes warmUp stream)).toUInt64

/-- What holds of a run, and of its intake and its queue, after a row of calls. -/
structure Metered (warmUpBytes : UInt64) (calls : List IntakeCall) (run : IntakeRun)
    (intake : Intake) (queue : ByteQueue) : Prop where
  running : run.setup.intake = some intake
  filled : run.setup.queue = some queue
  warmUp : intake.warmUpBytes = warmUpBytes
  unbounded : queue.capacity = 0
  abandoned : queue.abandoned = calls.any isDrop
  empty : queue.abandoned = true → queue.bytes = []
  counters : run.counters = tally warmUpBytes.toNat (delivered calls) (heard calls)
  carried : queue.abandoned = false →
    run.drained ++ queue.bytes = sampleBytes (liveBytes warmUpBytes.toNat (delivered calls))

namespace Metered

variable {warmUpBytes : UInt64} {calls : List IntakeCall} {run : IntakeRun} {intake : Intake}
  {queue : ByteQueue}

theorem start (warmUpBytes : UInt64) :
    Metered warmUpBytes [] (IntakeRun.start warmUpBytes) (.start warmUpBytes) (.create 0) := by
  have nothing : liveBytes warmUpBytes.toNat (delivered []) = [] := List.drop_nil
  constructor
  case counters =>
    change _ = tally warmUpBytes.toNat (delivered []) (delivered [])
    rw [tally, nothing]
    rfl
  case carried =>
    rw [nothing]
    exact fun _ => rfl
  all_goals first | rfl | exact nofun

/-- The live bytes of the next burst. -/
theorem live (metered : Metered warmUpBytes calls run intake queue)
    (bound : (delivered calls).length < UInt64.size) (burst : List UInt8) :
    liveBytes warmUpBytes.toNat (delivered calls ++ burst) =
      liveBytes warmUpBytes.toNat (delivered calls) ++
        intake.liveOf run.counters.received burst := by
  have received : run.counters.received.toNat = (delivered calls).length := by
    rw [metered.counters, tally, Nat.toUInt64_eq, UInt64.toNat_ofNat_of_lt' bound]
  rw [liveBytes_append, Intake.liveOf, received, metered.warmUp]

/-- The counters after a burst, of which the consumer gets its samples if it is there. -/
theorem tally_append (metered : Metered warmUpBytes calls run intake queue)
    (bound : (delivered calls).length < UInt64.size) (burst : List UInt8) :
    tally warmUpBytes.toNat (delivered calls ++ burst)
        (heard calls ++ if calls.any isDrop then [] else burst) =
      run.counters.add (queue.credit (intake.amounts run.counters.received burst)) := by
  have live := metered.live bound burst
  rw [Intake.amounts, ByteQueue.credit, metered.abandoned]
  generalize run.counters.received = before at live ⊢
  rw [metered.counters]
  cases present : calls.any isDrop with
  | true => simp [tally, live, Counters.add, flaggedCount]
  | false =>
      simp [tally, heard_of_present present, live, Counters.add, flaggedCount, unflaggedCount]

theorem deliver (metered : Metered warmUpBytes calls run intake queue) (burst : List UInt8)
    (report : Option ProgressSnapshot)
    (bound : (delivered (calls ++ [.deliver burst report])).length < UInt64.size) :
    ∃ after left, Metered warmUpBytes (calls ++ [.deliver burst report])
      (run.step (.deliver burst report)) after left := by
  have stream : delivered (calls ++ [.deliver burst report]) = delivered calls ++ burst := by
    simp [delivered, IntakeCall.burst]
  have part : heard (calls ++ [.deliver burst report]) =
      heard calls ++ if calls.any isDrop then [] else burst := by
    simp [heard_append, heard, isDrop, IntakeCall.burst]
  rw [stream, List.length_append] at bound
  have short : (delivered calls).length < UInt64.size := by omega
  have took := run.setup.deliver_took metered.running metered.filled metered.unbounded burst report
  obtain ⟨after, goesOn, same⟩ := took.goesOn
  refine ⟨after, queue.receive (sampleBytes (intake.liveOf run.counters.received burst)), ?_⟩
  constructor
  case running => exact goesOn
  case filled => exact took.queued
  case warmUp => exact same.trans metered.warmUp
  case unbounded => rw [ByteQueue.receive_capacity, metered.unbounded]
  case abandoned =>
    rw [ByteQueue.receive_abandoned, metered.abandoned]
    simp [isDrop]
  case empty =>
    intro gone
    rw [ByteQueue.receive_abandoned] at gone
    rw [ByteQueue.receive, gone, if_pos rfl]
    exact metered.empty gone
  case counters =>
    rw [stream, part, metered.tally_append short burst]
    exact took.counted
  case carried =>
    intro present
    rw [ByteQueue.receive_abandoned] at present
    rw [stream, metered.live short burst, sampleBytes_append, ← metered.carried present,
      ByteQueue.receive, present, List.append_assoc]
    rfl

/-- A call that delivers nothing leaves the counters alone, and what has come out of the queue
or is still in it, unless it drops the consumer. -/
theorem quiet (metered : Metered warmUpBytes calls run intake queue) {call : IntakeCall}
    (silent : call.burst = []) {next : IntakeRun} {left : ByteQueue}
    (running : next.setup.intake = run.setup.intake) (filled : next.setup.queue = some left)
    (counters : next.counters = run.counters) (capacity : left.capacity = queue.capacity)
    (abandoned : left.abandoned = (queue.abandoned || call.isDrop))
    (empty : left.abandoned = true → left.bytes = [])
    (carried : left.abandoned = false →
      next.drained ++ left.bytes = run.drained ++ queue.bytes) :
    Metered warmUpBytes (calls ++ [call]) next intake left := by
  have stream : delivered (calls ++ [call]) = delivered calls := by
    simp [delivered, silent]
  have part : heard (calls ++ [call]) = heard calls := by
    simp [heard_append, heard, silent]
  constructor
  case running => exact running.trans metered.running
  case filled => exact filled
  case warmUp => exact metered.warmUp
  case unbounded => exact capacity.trans metered.unbounded
  case abandoned => simp [abandoned, metered.abandoned]
  case empty => exact empty
  case counters => rw [stream, part, counters, metered.counters]
  case carried =>
    intro present
    have before : queue.abandoned = false := by
      rw [abandoned, Bool.or_eq_false_iff] at present
      exact present.1
    rw [stream, carried present, metered.carried before]

theorem step (metered : Metered warmUpBytes calls run intake queue) (call : IntakeCall)
    (bound : (delivered (calls ++ [call])).length < UInt64.size) :
    ∃ after left, Metered warmUpBytes (calls ++ [call]) (run.step call) after left := by
  cases call with
  | deliver burst report => exact metered.deliver burst report bound
  | ask reason =>
      exact ⟨_, _, metered.quiet rfl rfl metered.filled rfl rfl (Bool.or_false _).symm
        metered.empty fun _ => rfl⟩
  | drain limit =>
      obtain ⟨left, same, capacity, abandoned, bytes⟩ := IntakeSetup.drain_took metered.filled limit
      have setup : (run.step (.drain limit)).setup = { run.setup with queue := some left } := same
      have counters : (run.step (.drain limit)).counters = run.counters := by
        rw [IntakeRun.counters, setup]
        rfl
      refine ⟨_, left, metered.quiet rfl (by rw [setup]) (by rw [setup]) counters capacity ?_ ?_ ?_⟩
      · rw [abandoned]
        exact (Bool.or_false _).symm
      · intro gone
        rw [metered.empty (abandoned ▸ gone)] at bytes
        exact (List.append_eq_nil_iff.mp bytes).2
      · intro _
        rw [← bytes, ← List.append_assoc]
        rfl
  | dropConsumer =>
      have filled : (run.step .dropConsumer).setup.queue = some queue.abandon := by
        rw [IntakeRun.step, IntakeSetup.dropConsumer, metered.filled]
        rfl
      exact ⟨_, queue.abandon, metered.quiet rfl rfl filled rfl rfl (Bool.or_true _).symm
        (fun _ => rfl) nofun⟩

/-- What a whole row of calls comes to. -/
theorem of_run (warmUpBytes : UInt64) (calls : List IntakeCall)
    (bound : (delivered calls).length < UInt64.size) :
    ∃ intake queue,
      Metered warmUpBytes calls ((IntakeRun.start warmUpBytes).run calls) intake queue := by
  induction calls using List.reverseRecOn with
  | nil => exact ⟨_, _, start warmUpBytes⟩
  | append_singleton calls call ih =>
      have short : (delivered calls).length < UInt64.size := by
        rw [delivered_append, List.length_append] at bound
        omega
      obtain ⟨intake, queue, metered⟩ := ih short
      rw [run, List.foldl_append]
      exact metered.step call bound

end Metered

/-! ## The stream decides -/

structure Exact (warmUpBytes : UInt64) (calls : List IntakeCall) (run : IntakeRun) : Prop where
  received : run.counters.received.toNat = (delivered calls).length
  /-- Flagged bytes of the warm-up do not count. -/
  dropouts : run.counters.dropouts.toNat =
    flaggedCount (liveBytes warmUpBytes.toNat (delivered calls))
  /-- With a consumer nothing is lost, and everything counts as saved. -/
  complete : .dropConsumer ∉ calls →
    run.stream = sampleBytes (liveBytes warmUpBytes.toNat (delivered calls)) ∧
      run.counters.saved.toNat =
        unflaggedCount (liveBytes warmUpBytes.toNat (delivered calls))
  /-- From the departure of the consumer on the queue is empty and nothing more is saved. -/
  frozen : ∀ earlier later, calls = earlier ++ .dropConsumer :: later →
    run.queued = [] ∧
      run.counters.saved = ((start warmUpBytes).run earlier).counters.saved
  /-- Another cut of the same stream comes to the same. -/
  uncut : .dropConsumer ∉ calls → ∀ others, .dropConsumer ∉ others →
    delivered others = delivered calls →
      ((start warmUpBytes).run others).stream = run.stream ∧
        ((start warmUpBytes).run others).counters = run.counters

namespace Metered

variable {warmUpBytes : UInt64} {calls : List IntakeCall} {run : IntakeRun} {intake : Intake}
  {queue : ByteQueue}

theorem queued (metered : Metered warmUpBytes calls run intake queue) :
    run.queued = queue.bytes := by
  rw [IntakeRun.queued, metered.filled]
  rfl

theorem complete (metered : Metered warmUpBytes calls run intake queue)
    (present : calls.any isDrop = false) :
    run.stream = sampleBytes (liveBytes warmUpBytes.toNat (delivered calls)) ∧
      run.counters = tally warmUpBytes.toNat (delivered calls) (delivered calls) := by
  constructor
  · rw [stream, metered.queued]
    exact metered.carried (metered.abandoned.trans present)
  · rw [metered.counters, heard_of_present present]

end Metered

theorem toNat_toUInt64_of_le {count : Nat} {stream : List UInt8} (most : count ≤ stream.length)
    (bound : stream.length < UInt64.size) : count.toUInt64.toNat = count :=
  toNat_toUInt64_of_lt (Nat.lt_of_le_of_lt most bound)

/-- Whatever else is done, the counters and the content of the queue are those of the stream
that has been delivered. -/
theorem exact_of_run (warmUpBytes : UInt64) (calls : List IntakeCall)
    (bound : (delivered calls).length < UInt64.size) :
    Exact warmUpBytes calls ((start warmUpBytes).run calls) := by
  obtain ⟨intake, queue, metered⟩ := Metered.of_run warmUpBytes calls bound
  have counts := unflaggedCount_add_flaggedCount (liveBytes warmUpBytes.toNat (delivered calls))
  have shorter : (liveBytes warmUpBytes.toNat (delivered calls)).length ≤
      (delivered calls).length := by
    simp [liveBytes]
  constructor
  case received =>
    rw [metered.counters]
    exact toNat_toUInt64_of_le (Nat.le_refl _) bound
  case dropouts =>
    rw [metered.counters]
    exact toNat_toUInt64_of_le (by omega) bound
  case complete =>
    intro staying
    obtain ⟨stream, counters⟩ := metered.complete (any_isDrop_eq_false.mpr staying)
    refine ⟨stream, ?_⟩
    rw [counters]
    exact toNat_toUInt64_of_le (by omega) bound
  case frozen =>
    rintro earlier later rfl
    have short : (delivered earlier).length < UInt64.size := by
      rw [delivered_append, List.length_append] at bound
      omega
    obtain ⟨_, _, before⟩ := Metered.of_run warmUpBytes earlier short
    have part : heard (earlier ++ .dropConsumer :: later) = heard earlier := by
      simp [heard_append, heard, isDrop]
    constructor
    · rw [metered.queued]
      refine metered.empty (metered.abandoned.trans ?_)
      simp [isDrop]
    · rw [metered.counters, before.counters, tally, part]
      rfl
  case uncut =>
    intro staying others stayed same
    obtain ⟨_, _, other⟩ := Metered.of_run warmUpBytes others (same ▸ bound)
    obtain ⟨stream, counters⟩ := metered.complete (any_isDrop_eq_false.mpr staying)
    obtain ⟨otherStream, otherCounters⟩ := other.complete (any_isDrop_eq_false.mpr stayed)
    rw [same] at otherStream otherCounters
    exact ⟨otherStream.trans stream.symm, otherCounters.trans counters.symm⟩

/-- The one byte of the warm-up is flagged, a stop is asked for, some samples are drained, and
a burst comes after the consumer has gone. -/
def abandonedCalls : List IntakeCall :=
  [.deliver [0x00, 0x29] none, .deliver [] none, .deliver [0xfe, 0x01] none, .ask .userInterrupt,
    .drain 3, .dropConsumer, .deliver [0x01, 0x00] none, .drain 4]

theorem exact_abandoned :
    (delivered abandonedCalls).length < UInt64.size ∧
      ((start 1).run abandonedCalls).counters = { received := 6, saved := 2, dropouts := 2 } ∧
      ((start 1).run abandonedCalls).drained.length = 3 ∧
      Exact 1 abandonedCalls ((start 1).run abandonedCalls) :=
  ⟨by decide, by cbv, by cbv, exact_of_run 1 abandonedCalls (by decide)⟩

end IntakeRun

end SampleCapture
