import SampleCapture.Proofs.Intake.Stream

/-!
# After the warm-up

How much of a burst belongs to the warm-up is worked out anew for every burst, from the
counter of received bytes. Anybody may add to that counter, and it wraps. Once a live byte
has come, a burst is taken whole exactly if the counter stands at the length of the warm-up
or above; a counter that has wrapped cuts bytes off again.
-/

namespace SampleCapture

inductive IntakeTurn where
  | call (request : IntakeCall)
  | count (amounts : Counters)

namespace IntakeTurn

def deliver (burst : List UInt8) (report : Option ProgressSnapshot) : IntakeTurn :=
  .call (.deliver burst report)

def received : IntakeTurn → Nat
  | .call request => request.burst.length
  | .count amounts => amounts.received.toNat

/-- What a row of turns adds to the counter of received bytes, without any wrapping. -/
def counted (turns : List IntakeTurn) : Nat :=
  (turns.map received).sum

theorem counted_append (first second : List IntakeTurn) :
    counted (first ++ second) = counted first + counted second := by
  simp [counted]

theorem counted_cons (turn : IntakeTurn) (turns : List IntakeTurn) :
    counted (turn :: turns) = turn.received + counted turns :=
  List.sum_cons

end IntakeTurn

namespace IntakeRun

open IntakeTurn (counted)

def turn (run : IntakeRun) : IntakeTurn → IntakeRun
  | .call request => run.step request
  | .count amounts => { run with setup := run.setup.count amounts }

def play (run : IntakeRun) (turns : List IntakeTurn) : IntakeRun :=
  turns.foldl turn run

theorem play_snoc (run : IntakeRun) (turns : List IntakeTurn) (last : IntakeTurn) :
    run.play (turns ++ [last]) = (run.play turns).turn last :=
  List.foldl_append

/-- What the intake would keep of a burst if it came now. -/
def live (run : IntakeRun) (burst : List UInt8) : List UInt8 :=
  run.setup.intake.elim [] (·.liveOf run.counters.received burst)

def Captured (warmUpBytes : UInt64) (turns : List IntakeTurn) : Prop :=
  ∃ earlier burst report later, turns = earlier ++ .deliver burst report :: later ∧
    ((start warmUpBytes).play earlier).live burst ≠ []

/-- A burst is taken whole: nothing is cut off, all samples go into the queue while there is a
consumer, and all flagged bytes are counted. -/
structure TakesWhole (run : IntakeRun) (burst : List UInt8) (report : Option ProgressSnapshot) :
    Prop where
  whole : run.live burst = burst
  queued : run.setup.consumerView ≠ none →
    (run.step (.deliver burst report)).stream = run.stream ++ sampleBytes burst
  dropouts : (run.step (.deliver burst report)).counters.dropouts =
    run.counters.dropouts + (flaggedCount burst).toUInt64

/-- The warm-up is over for good: from the first live byte on every burst is taken whole. -/
def Warmed (warmUpBytes : UInt64) (turns : List IntakeTurn) : Prop :=
  ∀ earlier burst report later, turns = earlier ++ .deliver burst report :: later →
    Captured warmUpBytes earlier → ((start warmUpBytes).play earlier).TakesWhole burst report

/-! ## The course of the counter -/

/-- A run with an intake and an unbounded queue, whose counter of received bytes holds what
the turns have added, modulo `2 ^ 64`. -/
structure Counting (warmUpBytes : UInt64) (turns : List IntakeTurn) (run : IntakeRun) (intake : Intake)
    (queue : ByteQueue) : Prop where
  running : run.setup.intake = some intake
  filled : run.setup.queue = some queue
  warmUp : intake.warmUpBytes = warmUpBytes
  unbounded : queue.capacity = 0
  received : run.counters.received.toNat = counted turns % UInt64.size

namespace Counting

variable {warmUpBytes : UInt64} {turns : List IntakeTurn} {run : IntakeRun} {intake : Intake}
  {queue : ByteQueue}

theorem start (warmUpBytes : UInt64) :
    Counting warmUpBytes [] (IntakeRun.start warmUpBytes) (.start warmUpBytes) (.create 0) :=
  ⟨rfl, rfl, rfl, rfl, rfl⟩

/-- The counter after an addition. -/
theorem received_add (counting : Counting warmUpBytes turns run intake queue) (amount : UInt64)
    (last : IntakeTurn) (same : amount.toNat = last.received % UInt64.size) :
    (run.counters.received + amount).toNat = counted (turns ++ [last]) % UInt64.size := by
  have total : counted (turns ++ [last]) = counted turns + last.received := by
    simp [IntakeTurn.counted]
  rw [UInt64.toNat_add, counting.received, same, total]
  exact (Nat.add_mod _ _ _).symm

/-- A turn that adds nothing and keeps the intake and the bound of the queue. -/
theorem quiet (counting : Counting warmUpBytes turns run intake queue) {last : IntakeTurn}
    (silent : last.received = 0) {next : IntakeRun} {left : ByteQueue}
    (running : next.setup.intake = run.setup.intake) (filled : next.setup.queue = some left)
    (capacity : left.capacity = queue.capacity) (counters : next.counters = run.counters) :
    Counting warmUpBytes (turns ++ [last]) next intake left := by
  refine ⟨running.trans counting.running, filled, counting.warmUp,
    capacity.trans counting.unbounded, ?_⟩
  have still := counting.received_add 0 last (by rw [silent]; rfl)
  rwa [UInt64.add_zero, ← counters] at still

theorem turn (counting : Counting warmUpBytes turns run intake queue) (last : IntakeTurn) :
    ∃ after left, Counting warmUpBytes (turns ++ [last]) (run.turn last) after left := by
  rcases last with (⟨burst, report⟩ | reason | limit | _) | amounts
  · have took := run.setup.deliver_took counting.running counting.filled counting.unbounded burst
      report
    obtain ⟨after, goesOn, same⟩ := took.goesOn
    refine ⟨after, _, goesOn, took.queued, same.trans counting.warmUp, ?_, ?_⟩
    · rw [ByteQueue.receive_capacity, counting.unbounded]
    · have counters : (run.turn (.deliver burst report)).counters.received =
          run.counters.received + burst.length.toUInt64 := by
        change ((run.setup.deliver burst report).2.shared.state.counters).received = _
        rw [took.counted, ByteQueue.credit]
        split <;> rfl
      rw [IntakeTurn.deliver] at counters
      rw [counters]
      refine counting.received_add _ _ ?_
      rw [Nat.toUInt64_eq, UInt64.toNat_ofNat']
      rfl
  · exact ⟨_, _, counting.quiet rfl rfl counting.filled rfl rfl⟩
  · obtain ⟨left, same, capacity, -⟩ := IntakeSetup.drain_took counting.filled limit
    have setup : (run.turn (.call (.drain limit))).setup = { run.setup with queue := some left } :=
      same
    refine ⟨_, left, counting.quiet rfl (by rw [setup]) (by rw [setup]) capacity ?_⟩
    rw [counters, setup]
    rfl
  · have filled : (run.turn (.call .dropConsumer)).setup.queue = some queue.abandon := by
      change run.setup.queue.map ByteQueue.abandon = _
      rw [counting.filled]
      rfl
    exact ⟨_, _, counting.quiet rfl rfl filled rfl rfl⟩
  · refine ⟨intake, queue, counting.running, counting.filled, counting.warmUp,
      counting.unbounded, counting.received_add amounts.received _ ?_⟩
    exact (Nat.mod_eq_of_lt amounts.received.toNat_lt).symm

theorem of_play (warmUpBytes : UInt64) (turns : List IntakeTurn) :
    ∃ intake queue, Counting warmUpBytes turns ((IntakeRun.start warmUpBytes).play turns) intake
      queue := by
  induction turns using List.reverseRecOn with
  | nil => exact ⟨_, _, start warmUpBytes⟩
  | append_singleton turns last ih =>
      obtain ⟨intake, queue, counting⟩ := ih
      rw [play_snoc]
      exact counting.turn last

/-! ## The next burst -/

/-- What is left of the warm-up is cut off the next burst. -/
theorem live (counting : Counting warmUpBytes turns run intake queue) (burst : List UInt8) :
    run.live burst = burst.drop (warmUpBytes.toNat - counted turns % UInt64.size) := by
  rw [IntakeRun.live, counting.running, Option.elim_some, Intake.liveOf, liveBytes,
    counting.received, counting.warmUp]

theorem live_eq_self_iff (counting : Counting warmUpBytes turns run intake queue)
    (burst : List UInt8) :
    run.live burst = burst ↔ burst = [] ∨ warmUpBytes.toNat ≤ counted turns % UInt64.size := by
  rw [counting.live]
  constructor
  · intro whole
    have lengths := congrArg List.length whole
    rw [List.length_drop] at lengths
    rcases Nat.eq_zero_or_pos burst.length with none | some
    · exact .inl (List.eq_nil_of_length_eq_zero none)
    · exact .inr (by omega)
  · rintro (rfl | past)
    · exact List.drop_nil
    · rw [Nat.sub_eq_zero_of_le past, List.drop_zero]

theorem takesWhole (counting : Counting warmUpBytes turns run intake queue)
    {burst : List UInt8} (whole : run.live burst = burst) (report : Option ProgressSnapshot) :
    run.TakesWhole burst report := by
  have took := run.setup.deliver_took counting.running counting.filled counting.unbounded burst
    report
  have kept : intake.liveOf run.setup.shared.state.counters.received burst = burst := by
    rwa [IntakeRun.live, counting.running] at whole
  constructor
  case whole => exact whole
  case queued =>
    intro present
    have staying : queue.abandoned = false := by
      rw [IntakeSetup.consumerView, counting.filled] at present
      simpa [Option.filter_some] using present
    have queued := took.queued
    rw [kept, ByteQueue.receive, staying] at queued
    change run.drained ++ (run.setup.deliver burst report).2.queue.elim [] (·.bytes) = _
    rw [queued, IntakeRun.stream, IntakeRun.queued, counting.filled]
    exact (List.append_assoc _ _ _).symm
  case dropouts =>
    change ((run.setup.deliver burst report).2.shared.state.counters).dropouts = _
    rw [took.counted, ByteQueue.credit, Intake.amounts, kept]
    split <;> rfl

end Counting

/-! ## When the warm-up is over -/

/-- The first live byte lies behind the warm-up, unless the counter has wrapped before. -/
theorem le_counted_of_captured {warmUpBytes : UInt64} {turns : List IntakeTurn}
    (captured : Captured warmUpBytes turns) (small : counted turns < UInt64.size) :
    warmUpBytes.toNat ≤ counted turns := by
  obtain ⟨earlier, burst, report, later, rfl, live⟩ := captured
  obtain ⟨_, _, counting⟩ := Counting.of_play warmUpBytes earlier
  rw [IntakeTurn.counted_append, IntakeTurn.counted_cons] at small ⊢
  -- As nothing has wrapped, the counter holds the plain sum when the burst comes.
  rw [counting.live, ne_eq, List.drop_eq_nil_iff, Nat.mod_eq_of_lt (by omega)] at live
  have length : (IntakeTurn.deliver burst report).received = burst.length := rfl
  omega

/-- The warm-up is over for good exactly if no burst after the first live byte finds the counter
of received bytes below the length of the warm-up; and so it is if fewer than `2 ^ 64` bytes
are counted in all. -/
theorem warmed_iff (warmUpBytes : UInt64) (turns : List IntakeTurn) :
    (Warmed warmUpBytes turns ↔ ∀ earlier burst report later,
      turns = earlier ++ .deliver burst report :: later → Captured warmUpBytes earlier →
        burst = [] ∨ warmUpBytes.toNat ≤ counted earlier % UInt64.size) ∧
      (counted turns < UInt64.size → Warmed warmUpBytes turns) := by
  have exactly : Warmed warmUpBytes turns ↔ ∀ earlier burst report later,
      turns = earlier ++ .deliver burst report :: later → Captured warmUpBytes earlier →
        burst = [] ∨ warmUpBytes.toNat ≤ counted earlier % UInt64.size := by
    refine forall₅_congr fun earlier burst report later _ => forall_congr' fun _ => ?_
    obtain ⟨_, _, counting⟩ := Counting.of_play warmUpBytes earlier
    rw [← counting.live_eq_self_iff]
    exact ⟨fun taken => taken.whole, fun whole => counting.takesWhole whole report⟩
  refine ⟨exactly, fun small => exactly.mpr ?_⟩
  rintro earlier burst report later rfl captured
  rw [IntakeTurn.counted_append] at small
  have short : counted earlier < UInt64.size := by omega
  rw [Nat.mod_eq_of_lt short]
  exact .inr (le_counted_of_captured captured short)

/-- The second byte is live, and after a small addition a flagged one comes. -/
def steadyTurns : List IntakeTurn :=
  [.deliver [0x01, 0x01] none, .count { received := 5, dropouts := 7 }, .deliver [0x00, 0x03] none]

theorem warmed_steadyTurns :
    IntakeTurn.counted steadyTurns < UInt64.size ∧ Captured 1 (steadyTurns.take 2) ∧
      ((start 1).play steadyTurns).counters = { received := 9, saved := 2, dropouts := 8 } ∧
      Warmed 1 steadyTurns :=
  ⟨by decide,
    ⟨[], [0x01, 0x01], none, [.count { received := 5, dropouts := 7 }], rfl, by decide⟩,
    by cbv, (warmed_iff 1 steadyTurns).2 (by decide)⟩

/-- The second byte is live, and an addition brings the counter back to zero. -/
def wrappedTurns : List IntakeTurn :=
  [.deliver [0x01, 0x01] none, .count { received := 18446744073709551614 }, .deliver [0x01] none]

/-- After the counter has wrapped, an unflagged byte is cut off. -/
theorem warmUp_resumes :
    ((start 1).play wrappedTurns).counters = { received := 1, saved := 1 } ∧
      ((start 1).play wrappedTurns).stream = sampleBytes [0x01] ∧ ¬ Warmed 1 wrappedTurns := by
  refine ⟨by cbv, by cbv, fun warmed => ?_⟩
  have taken := warmed (wrappedTurns.take 2) [0x01] none [] rfl
    ⟨[], [0x01, 0x01], none, [.count { received := 18446744073709551614 }], rfl, by decide⟩
  exact absurd taken.whole (by decide)

end IntakeRun

end SampleCapture
