import SampleCapture.Proofs.Session.Disk

/-!
# The balance of input and output

The caller counts a burst as saved when the queue has taken all of its samples, the recorder
counts slice by slice. Where a bounded queue refuses the rest of a push, a first part of it
may have been written already, so that more is written than the saved bytes account for. The
difference is less than the push that was refused, and there is none without a bound.
-/

namespace SampleCapture

/-! ## Refusals -/

def Event.refused? : Event → Option Nat
  | .samplesRefused count _ => some count
  | _ => none

def Effect.refused? : Effect → Option Nat
  | .log event => event.refused?
  | .count _ | .record _ | .raise => none

/-- The samples of a burst that the queue has still to take. -/
def CallerPhase.pledged : CallerPhase → List UInt8
  | .marking _ samples _ | .pushing samples _ => samples
  | _ => []

theorem CallerPhase.pledged_next? {phase after : CallerPhase} {effect : Effect}
    (row : phase.next? = some (effect, after)) : after.pledged = phase.pledged := by
  unfold CallerPhase.next? at row
  split at row <;> cases row <;> rfl

theorem LoggedState.refusals_perform (shared : LoggedState) (effect : Effect) :
    (shared.perform effect).log.toList.filterMap Event.refused? =
      shared.log.toList.filterMap Event.refused? ++ effect.refused?.toList := by
  cases effect with
  | log event =>
      cases refused : event.refused? <;> simp [perform, note, Effect.refused?, refused]
  | count amounts => simp [perform, Effect.refused?]
  | record reason =>
      simp only [perform]
      split <;> simp [note, Effect.refused?, Event.refused?]
  | raise => simp [perform, Effect.refused?]

/-- The effects before the queue report no refusal. -/
theorem Intake.refusals_plan (intake : Intake) (receivedBefore : UInt64) (burst : List UInt8) :
    (intake.plan receivedBefore burst).effects.filterMap Effect.refused? = [] := by
  unfold plan
  split
  · rfl
  · rw [List.filterMap_append, List.filterMap_flatMap]
    have quiet : intake.warmUpEffects.filterMap Effect.refused? = [] := by
      unfold warmUpEffects
      split <;> rfl
    rw [quiet, List.nil_append, List.flatMap_eq_nil_iff]
    exact fun _ _ => rfl

namespace Session

def refusals (session : Session) : List Nat :=
  session.log.toList.filterMap Event.refused?

/-- The same with those that are still to be logged. -/
def rebuffs (session : Session) : List Nat :=
  session.refusals ++ session.phase.effects.filterMap Effect.refused?

/-- What has been counted as saved, with what the caller is going to count for certain. -/
def secured (session : Session) : UInt64 :=
  session.state.counters.saved + (Effect.total session.phase.effects).saved

theorem rebuffs_perform {session : Session} {effect : Effect} {phase : CallerPhase}
    (row : session.phase.next? = some (effect, phase)) :
    ((session.perform effect).goTo phase).rebuffs = session.rebuffs := by
  have log : ((session.perform effect).goTo phase).refusals =
      session.refusals ++ effect.refused?.toList := session.shared.refusals_perform effect
  rw [rebuffs, rebuffs, log, CallerPhase.effects_next? row, List.append_assoc]
  cases refused : effect.refused? <;> simp [refused]

theorem secured_perform {session : Session} {effect : Effect} {phase : CallerPhase}
    (row : session.phase.next? = some (effect, phase)) :
    ((session.perform effect).goTo phase).secured = session.secured := by
  have counters : ((session.perform effect).goTo phase).state.counters =
      session.state.counters.add effect.amounts := session.shared.counters_perform effect
  rw [secured, secured, counters, CallerPhase.effects_next? row]
  exact UInt64.add_assoc _ _ _

theorem refusals_note (session : Session) {event : Event} (quiet : event.refused? = none) :
    (session.perform (.log event)).refusals = session.refusals := by
  have noted := session.shared.refusals_perform (.log event)
  rw [Effect.refused?, quiet, Option.toList_none, List.append_nil] at noted
  exact noted

theorem refusals_conclude (session : Session) (error : Option CaptureError)
    (writeError : Option String) :
    (session.conclude error writeError).refusals = session.refusals := by
  unfold conclude
  split
  · exact session.refusals_note rfl
  · exact (refusals_note _ rfl).trans (session.refusals_note rfl)
  · exact session.refusals_note rfl

theorem refusals_reported (session : Session) (report : Option ProgressSnapshot) :
    (session.withShared (session.shared.performAll
      (Intake.reportEffects session.state report))).refusals = session.refusals := by
  cases report with
  | none => rfl
  | some report => exact session.refusals_note rfl

theorem rebuffs_start (config : CaptureOptions) (preStop : Option StopReason)
    (output : Option Writer) : (start config preStop output).rebuffs = [] := by
  cases preStop <;> cases output <;> rfl

end Session

/-! ## The samples in the hands of the threads -/

def RecorderLane.load (lane : RecorderLane) (phase : CallerPhase) : Nat :=
  lane.recorder.sink.stream.length + (lane.transit phase).length

theorem RecorderLane.load_eq (lane : RecorderLane) (phase : CallerPhase) :
    lane.load phase = lane.recorder.sink.stream.length + lane.recorder.phase.inHand.length +
      lane.channel.consumer.inHand.length + lane.channel.queue.bytes.length +
        lane.channel.producer.remainder.length + phase.prepared.length := by
  simp only [load, transit, List.length_append]
  omega

/-- A push puts into the queue no more than it has to put in. -/
theorem Channel.ProducerStep.length_le {channel next : Channel} {result : Option PushResult}
    (step : channel.ProducerStep next result) :
    next.queue.bytes.length + next.producer.remainder.length ≤
      channel.queue.bytes.length + channel.producer.remainder.length := by
  cases abandoned : channel.queue.abandoned with
  | false =>
      obtain ⟨put, grown, moved, -⟩ := step.conserves abandoned
      rw [grown, moved, List.length_append, List.length_append]
      omega
  | true =>
      rw [step.queue_of_abandoned abandoned]
      cases step with
      | put _ _ present | last _ _ present | piece _ present =>
          rw [present] at abandoned
          cases abandoned
      | nothing | refused | woke | left => exact Nat.le_add_right _ _

/-- A step of the recorder brings no samples that it did not have. -/
theorem RecorderThread.Step.load_le {session : Session} {lane : RecorderLane}
    {thread : RecorderThread}
    (step : (session.thread lane).Step thread)
    (filled : ∀ slice, lane.recorder.phase = .writing slice → slice ≠ []) (phase : CallerPhase) :
    RecorderLane.load
        { channel := thread.channel, recorder := thread.recorder, log := thread.shared.log } phase ≤
      lane.load phase := by
  rw [RecorderLane.load_eq, RecorderLane.load_eq]
  cases step with
  | start known | notice known | finish known | failed known | fail known | count known =>
      change lane.recorder.phase = _ at known
      rw [known]
      exact Nat.le_refl _
  | slice known | noticed known =>
      change lane.recorder.phase = _ at known
      rw [known]
      simp [Session.thread, beginSlice, goTo, perform, Channel.beginPop, RecorderPhase.inHand,
        ConsumerPhase.inHand]
  | @pop known channel result step =>
      change lane.recorder.phase = _ at known
      have hand : (RecorderPhase.afterPop result).inHand = result.getD [] := by
        rcases result with _ | _ | ⟨byte, rest⟩ <;> rfl
      have conserved := congrArg List.length step.conserves
      have remainder := step.remainder
      simp only [Session.thread, List.length_append] at conserved remainder
      have idle : lane.recorder.phase.inHand = [] := by rw [known]; rfl
      simp only [Session.thread, RecorderThread.goTo, hand, idle, remainder, List.length_nil]
      omega
  | @depart ending known channel result step =>
      change lane.recorder.phase = _ at known
      have conserved := congrArg List.length step.conserves
      have remainder := step.remainder
      simp only [Session.thread, List.length_append] at conserved remainder
      have idle : lane.recorder.phase.inHand = [] := by rw [known]; rfl
      have none : (RecorderPhase.releasing ending).inHand = [] := rfl
      simp only [Session.thread, RecorderThread.goTo, idle, none, remainder]
      omega
  | @write slice known =>
      change lane.recorder.phase = _ at known
      obtain ⟨taken, rest, split, stream, -⟩ :=
        ((lane.recorder.sink.writes slice).took (filled slice known)).taken
      have none : (lane.recorder.phaseAfter (.counting slice.length)
          (lane.recorder.sink.writeAll slice).1).inHand = [] := by
        cases (lane.recorder.sink.writeAll slice).1 <;> rfl
      have parts := congrArg List.length split
      rw [List.length_append] at parts
      have hand : lane.recorder.phase.inHand = slice := by rw [known]; rfl
      simp only [Session.thread, RecorderThread.afterSink, hand, none, stream, List.length_append,
        List.length_nil]
      omega
  | flush known =>
      change lane.recorder.phase = _ at known
      have none : (lane.recorder.phaseAfter .finishing lane.recorder.sink.flush.1).inHand = [] := by
        cases lane.recorder.sink.flush.1 <;> rfl
      have stream := lane.recorder.sink.flushes.flushed.stream
      have idle : lane.recorder.phase.inHand = [] := by rw [known]; rfl
      simp only [Session.thread, RecorderThread.afterSink, idle, none, stream]
      exact Nat.le_refl _
  | release known =>
      change lane.recorder.phase = _ at known
      have stream := lane.recorder.sink.release_stream.2
      simp only [Session.thread, known, stream, RecorderPhase.inHand]
      exact Nat.le_refl _
  | leave known =>
      change lane.recorder.phase = _ at known
      rw [known]
      change lane.recorder.sink.stream.length + 0 + 0 + 0 +
        lane.channel.producer.remainder.length + phase.prepared.length ≤ _
      omega

namespace Session

/-! ## What a step of the caller books -/

/-- What a step that takes so many samples in does to the accounts. -/
inductive Entry (fresh : Nat) (session next : Session) (lane after : RecorderLane) : Prop where
  /-- What is taken in is pledged, and only that. -/
  | pledged (secured : next.secured = session.secured) (rebuffs : next.rebuffs = session.rebuffs)
      (pledged : next.phase.pledged.length = session.phase.pledged.length + fresh)
      (load : after.load next.phase ≤ lane.load session.phase + fresh)
  /-- The queue has taken all of a push. -/
  | accepted (nothing : fresh = 0)
      (secured : next.secured = session.secured + (session.phase.pledged.length / 2).toUInt64)
      (rebuffs : next.rebuffs = session.rebuffs) (done : next.phase.pledged = [])
      (load : after.load next.phase ≤ lane.load session.phase)
  /-- The queue has refused what was left of a push. -/
  | refused {samples rest : List UInt8} {report : Option ProgressSnapshot} {effects : List Effect}
      (pushing : session.phase = .pushing samples report)
      (ready : lane.channel.producer = .ready rest) (filled : rest ≠ [])
      (abandoned : lane.channel.queue.abandoned = true) (secured : next.secured = session.secured)
      (rebuffs : next.rebuffs = session.rebuffs ++ [samples.length])
      (settles : next.phase = .settling effects report)
      (load : after.load next.phase + rest.length ≤ lane.load session.phase)

/-- A step that takes nothing in and leaves the accounts alone. -/
theorem Entry.quiet {session next : Session} {lane after : RecorderLane}
    (secured : next.secured = session.secured) (rebuffs : next.rebuffs = session.rebuffs)
    (pledged : next.phase.pledged = session.phase.pledged)
    (load : after.load next.phase ≤ lane.load session.phase) :
    Entry 0 session next lane after :=
  .pledged secured rebuffs (congrArg List.length pledged) load

/-- A step from a known phase that leaves the accounts alone. -/
theorem Entry.still {session next : Session} {lane after : RecorderLane} {phase : CallerPhase}
    (same : session.phase = phase)
    (saved : next.state.counters.saved = session.state.counters.saved)
    (refusals : next.refusals = session.refusals)
    (total : (Effect.total next.phase.effects).saved = (Effect.total phase.effects).saved)
    (effects : next.phase.effects.filterMap Effect.refused? =
      phase.effects.filterMap Effect.refused?)
    (pledged : next.phase.pledged = phase.pledged)
    (load : after.load next.phase ≤ lane.load phase) : Entry 0 session next lane after := by
  subst same
  refine .quiet ?_ ?_ pledged load
  · rw [secured, secured, saved, total]
  · rw [rebuffs, rebuffs, refusals, effects]

theorem CallerStep.entry {session next : Session} {lane after : RecorderLane}
    (step : session.CallerStep next) (running : session.lane = some lane)
    (later : next.lane = some after) :
    Entry (session.fresh .caller).length session next lane after := by
  -- only a step that counts a burst takes something in
  have idle {phase : CallerPhase} (same : session.phase = phase) (none : phase.uncounted = []) :
      (session.fresh .caller).length = 0 := by
    rw [fresh_of_phase same none]
    rfl
  cases step with
  | perform row =>
      cases running.symm.trans later
      rw [idle rfl (CallerPhase.uncounted_next? row).1]
      refine .quiet (secured_perform row) (rebuffs_perform row) (CallerPhase.pledged_next? row) ?_
      rw [RecorderLane.load_eq, RecorderLane.load_eq]
      exact Nat.le_of_eq (congrArg _ (congrArg List.length (CallerPhase.prepared_next? row)))
  | @ingest burst report phase =>
      cases running.symm.trans later
      have total := session.intake.total_plan session.state.counters.received burst
      have samples : (session.ingest burst report).phase.pledged = session.fresh .caller := by
        rw [fresh, counted, phase]
        exact Intake.plan_samples _ _ _
      refine .pledged ?_ ?_ ?_ ?_
      · rw [secured, secured, phase]
        change session.state.counters.saved + 0 +
          (Effect.total (session.intake.plan session.state.counters.received burst).effects).saved =
            session.state.counters.saved + 0
        rw [total]
        exact UInt64.add_zero _
      · rw [rebuffs, rebuffs, phase]
        exact congrArg (session.refusals ++ ·) (Intake.refusals_plan _ _ _)
      · rw [samples, phase]
        exact (Nat.zero_add _).symm
      · have prepared : (session.ingest burst report).phase.prepared = session.fresh .caller := samples
        rw [RecorderLane.load_eq, RecorderLane.load_eq, prepared, phase]
        exact Nat.le_refl _
  | skip phase nothing =>
      cases running.symm.trans later
      rw [idle phase rfl]
      rcases nothing with alone | rfl
      · cases running.symm.trans alone
      · exact .still phase rfl rfl rfl rfl rfl (Nat.le_refl _)
  | offer phase known filled =>
      cases running.symm.trans known
      cases Wired.lane_of_withChannel running later
      rw [idle phase rfl]
      refine .still phase rfl rfl rfl rfl rfl ?_
      rw [RecorderLane.load_eq, RecorderLane.load_eq]
      simp only [Channel.beginPush, ProducerPhase.remainder, CallerPhase.prepared, phase_goTo,
        List.length_nil]
      omega
  | @push samples report _ channel result phase known step =>
      cases running.symm.trans known
      cases Wired.lane_of_withChannel running later
      rw [idle phase rfl]
      have moved := step.length_le
      have load : RecorderLane.load { lane with channel := channel } (.pushing samples report) ≤
          lane.load (.pushing samples report) := by
        rw [RecorderLane.load_eq, RecorderLane.load_eq]
        dsimp only
        rw [step.inHand]
        omega
      rcases result with _ | _ | _
      · exact .still phase rfl rfl rfl rfl rfl load
      · refine .accepted rfl ?_ ?_ rfl ?_
        · rw [secured, secured, phase]
          change session.state.counters.saved + ((samples.length / 2).toUInt64 + 0) =
            session.state.counters.saved + 0 + (samples.length / 2).toUInt64
          rw [UInt64.add_zero, UInt64.add_zero]
        · rw [rebuffs, rebuffs, phase]
          rfl
        · rw [phase]
          exact load
      · cases step with
        | @refused rest ready filled abandoned =>
            refine .refused phase ready filled abandoned ?_ ?_ rfl ?_
            · rw [secured, secured, phase]
              rfl
            · rw [rebuffs, rebuffs, phase]
              exact (List.append_nil _).symm ▸ rfl
            · rw [RecorderLane.load_eq, RecorderLane.load_eq, phase, ready]
              exact Nat.le_of_eq (by
                simp only [ProducerPhase.remainder, CallerPhase.prepared, CallerPhase.afterPush,
                  phase_goTo, List.length_nil]
                omega)
  | close phase known =>
      cases running.symm.trans known
      cases Wired.lane_of_withChannel running later
      rw [idle phase rfl]
      refine .still phase rfl rfl rfl rfl rfl ?_
      rw [RecorderLane.load_eq, RecorderLane.load_eq]
      simp only [Channel.beginClose, ByteQueue.close, ProducerPhase.remainder,
        CallerPhase.prepared, phase_goTo, List.length_nil]
      omega
  | closed phase known step =>
      cases running.symm.trans known
      cases Wired.lane_of_withChannel running later
      rw [idle phase rfl]
      have moved := step.length_le
      refine .still phase rfl rfl rfl rfl rfl ?_
      rw [RecorderLane.load_eq, RecorderLane.load_eq]
      dsimp only [phase_goTo]
      rw [step.inHand]
      simp only [CallerPhase.prepared, List.length_nil]
      omega
  | @report report phase =>
      cases running.symm.trans later
      rw [idle phase rfl]
      have saved := congrArg (·.counters.saved) (session.counters_reported report)
      exact .still phase saved (session.refusals_reported report) rfl rfl rfl (Nat.le_refl _)
  | @conclude error writeError phase =>
      rw [lane_conclude] at later
      cases running.symm.trans later
      rw [idle phase rfl]
      have refusals := session.refusals_conclude error writeError
      obtain ⟨log, concluded⟩ := session.conclude_eq error writeError
      rw [concluded] at refusals ⊢
      exact .still phase rfl refusals rfl rfl rfl (Nat.le_refl _)
  | @join error _ ending phase known ended =>
      rw [lane_joined] at later
      cases running.symm.trans later
      rw [idle phase rfl]
      cases ending <;> exact .still phase rfl rfl rfl rfl rfl (Nat.le_refl _)
  | asked phase | settled phase | answer phase | unlink phase | endTransfer phase | wait phase
  | ended phase | joinNobody phase | collapsed phase =>
      cases running.symm.trans later
      rw [idle phase rfl]
      exact .still phase rfl rfl rfl rfl rfl (Nat.le_refl _)

/-- A move of the source or of somebody else touches neither the queue nor the accounts. -/
structure Aside (session next : Session) : Prop where
  lane : next.lane = session.lane
  secured : next.secured = session.secured
  rebuffs : next.rebuffs = session.rebuffs
  pledged : next.phase.pledged = session.phase.pledged
  prepared : next.phase.prepared = session.phase.prepared
  hosts : ∀ producer, session.phase.Hosts producer → next.phase.Hosts producer

theorem Aside.load {session next : Session} (aside : session.Aside next) (lane : RecorderLane) :
    lane.load next.phase = lane.load session.phase := by
  rw [RecorderLane.load_eq, RecorderLane.load_eq, aside.prepared]

theorem Aside.goTo {session : Session} {phase : CallerPhase} (ready : session.phase = .atSource)
    (hosts : ∀ producer, phase.Hosts producer ↔ producer = .idle) (pledged : phase.pledged = [])
    (prepared : phase.prepared = []) (total : (Effect.total phase.effects).saved = 0)
    (refused : phase.effects.filterMap Effect.refused? = []) : session.Aside (session.goTo phase) where
  lane := rfl
  secured := by
    rw [Session.secured, Session.secured, ready, phase_goTo, total]
    rfl
  rebuffs := by
    rw [Session.rebuffs, Session.rebuffs, ready, phase_goTo, refused]
    rfl
  pledged := by rw [ready, phase_goTo, pledged]; rfl
  prepared := by rw [ready, phase_goTo, prepared]; rfl
  hosts producer held := by
    rw [ready] at held
    exact (hosts producer).mpr held

theorem Step.aside {session next : Session} {move : Move} (step : session.Step move next)
    (caller : move ≠ .caller) (recorder : move ≠ .recorder) : session.Aside next := by
  cases step with
  | caller => exact absurd rfl caller
  | recorder => exact absurd rfl recorder
  | deliver burst report ready =>
      split <;> exact .goTo ready (fun _ => .rfl) rfl rfl rfl rfl
  | ask | finish => exact .goTo ‹_› (fun _ => .rfl) rfl rfl rfl rfl
  | record | raise => exact ⟨rfl, rfl, rfl, rfl, rfl, fun _ => id⟩

theorem Step.entry {config : CaptureOptions} {writer : Writer} {taken : List UInt8}
    {session next : Session} {lane after : RecorderLane} {move : Move}
    (running : Running config writer taken session lane) (step : session.Step move next)
    (later : next.lane = some after) :
    Entry (session.fresh move).length session next lane after := by
  have whole := step
  cases step with
  | caller step => exact step.entry running.output later
  | @recorder _ thread known step =>
      cases running.output.symm.trans known
      cases Wired.lane_of_withThread later
      rw [fresh_of_counted rfl]
      have counters := step.counters running.settled.orderly
      refine .quiet ?_ rfl rfl (step.load_le (fun slice writing => ?_) session.phase)
      · change thread.shared.state.counters.saved + _ = session.state.counters.saved + _
        rw [counters]
        exact congrArg (· + _) (UInt64.add_zero _)
      · exact (running.flow.slice slice writing).1
  | deliver | ask | finish | record | raise =>
      have aside := whole.aside nofun nofun
      cases running.output.symm.trans (aside.lane.symm.trans later)
      rw [fresh_of_counted rfl]
      exact .quiet aside.secured aside.rebuffs aside.pledged (Nat.le_of_eq (aside.load lane))

end Session

/-! ## The queue -/

structure Channel.Remains (channel next : Channel) : Prop where
  capacity : next.queue.capacity = channel.queue.capacity
  gone : channel.queue.abandoned = true → next.queue.abandoned = true

theorem Channel.Remains.refl (channel : Channel) : channel.Remains channel :=
  ⟨rfl, id⟩

/-- The recorder may wake a producer, but it does not move it. -/
theorem RecorderThread.Step.remains {thread next : RecorderThread} (step : thread.Step next) :
    thread.channel.Remains next.channel ∧
      (next.channel.producer = thread.channel.producer ∨
        next.channel.producer = thread.channel.producer.woken) := by
  cases step with
  | pop known step | depart known step =>
      exact ⟨⟨step.capacity, fun gone => step.abandoned.trans gone⟩, step.producer⟩
  | leave => exact ⟨⟨rfl, fun _ => rfl⟩, .inl rfl⟩
  | start | notice | slice | noticed | write | count | flush | finish | failed | fail | release =>
      exact ⟨⟨rfl, id⟩, .inl rfl⟩

namespace Session

theorem CallerStep.remains {session next : Session} {lane after : RecorderLane}
    (step : session.CallerStep next) (running : session.lane = some lane)
    (later : next.lane = some after) : lane.channel.Remains after.channel := by
  cases step with
  | offer phase known | close phase known =>
      cases running.symm.trans known
      cases Wired.lane_of_withChannel running later
      exact ⟨rfl, id⟩
  | push phase known step | closed phase known step =>
      cases running.symm.trans known
      cases Wired.lane_of_withChannel running later
      exact ⟨step.capacity, fun gone => step.abandoned.trans gone⟩
  | conclude | join =>
      simp only [lane_conclude, lane_joined] at later
      cases running.symm.trans later
      exact .refl _
  | _ =>
      cases running.symm.trans later
      exact .refl _

/-- The caller is in a push that it has just begun, or that has not returned in this step. -/
theorem CallerStep.pushing {session next : Session} {lane after : RecorderLane}
    (step : session.CallerStep next) (running : session.lane = some lane)
    (later : next.lane = some after) {samples : List UInt8} {report : Option ProgressSnapshot}
    (known : next.phase = .pushing samples report) :
    after.channel.producer = .ready samples ∨
      session.phase = .pushing samples report ∧
        lane.channel.ProducerStep after.channel none := by
  cases step with
  | perform row =>
      unfold CallerPhase.next? at row
      split at row <;> cases row <;> cases known
  | offer phase present =>
      cases running.symm.trans present
      cases Wired.lane_of_withChannel running later
      cases known
      exact .inl rfl
  | @push _ _ _ channel result phase present step =>
      cases running.symm.trans present
      cases Wired.lane_of_withChannel running later
      rcases result with _ | _
      · cases known
        exact .inr ⟨phase, step⟩
      · cases known
  | @conclude error writeError =>
      obtain ⟨log, concluded⟩ := session.conclude_eq error writeError
      rw [concluded] at known
      cases known
  | @join error lane ending => cases ending <;> cases known
  | _ => cases known

/-- After a refusal the queue is abandoned for good. From then on, as without a bound, a push
goes in as a whole or not at all. -/
structure Resolute (capacity : Nat) (session : Session) (lane : RecorderLane) : Prop where
  fixed : lane.channel.queue.capacity = capacity
  gone : session.rebuffs ≠ [] → lane.channel.queue.abandoned = true
  whole : session.rebuffs ≠ [] ∨ capacity = 0 → ∀ samples report,
    session.phase = .pushing samples report →
      lane.channel.producer = .ready samples ∨ lane.channel.producer = .owing

namespace Resolute

variable {capacity fresh : Nat} {session next : Session} {lane after : RecorderLane}

/-- A push that has put nothing in has not been cut in two. -/
theorem producerStep {channel : Channel} {samples : List UInt8}
    (step : lane.channel.ProducerStep channel none)
    (firm : lane.channel.queue.abandoned = true ∨ lane.channel.queue.capacity = 0)
    (whole : lane.channel.producer = .ready samples ∨ lane.channel.producer = .owing) :
    channel.producer = .owing := by
  cases step with
  | put => rfl
  | piece ready present full =>
      rcases firm with gone | unbounded
      · rw [present] at gone
        cases gone
      · exact absurd (ByteQueue.excess_of_unbounded unbounded _) full
  | left closing => rcases whole with same | same <;> cases closing.symm.trans same

theorem callerStep (resolute : session.Resolute capacity lane) (step : session.CallerStep next)
    (running : session.lane = some lane) (later : next.lane = some after) :
    next.Resolute capacity after := by
  have remains := step.remains running later
  have entry := step.entry running later
  have gone (rebuffed : next.rebuffs ≠ []) : after.channel.queue.abandoned = true := by
    apply remains.gone
    cases entry with
    | pledged _ same | accepted _ _ same => exact resolute.gone (same ▸ rebuffed)
    | refused pushing ready filled abandoned => exact abandoned
  constructor
  case fixed => exact remains.capacity.trans resolute.fixed
  case gone => exact gone
  case whole =>
    intro firm samples report known
    rcases step.pushing running later known with begun | ⟨phase, step⟩
    · exact .inl begun
    · right
      have same : next.rebuffs = session.rebuffs := by
        cases entry with
        | pledged _ same | accepted _ _ same => exact same
        | refused _ _ _ _ _ _ settles => cases known.symm.trans settles
      rw [same] at firm
      exact producerStep step (firm.imp resolute.gone resolute.fixed.trans)
        (resolute.whole firm samples report phase)

theorem start (config : CaptureOptions) (preStop : Option StopReason) (writer : Writer)
    (running : (Session.start config preStop (some writer)).lane = some lane) :
    (Session.start config preStop (some writer)).Resolute config.queueCapacity.toNat lane := by
  have none := rebuffs_start config preStop (some writer)
  cases running
  constructor
  case fixed => rfl
  case gone => exact fun rebuffed => absurd none rebuffed
  case whole => exact fun _ samples report known => by cases known

/-- The caller goes on to a phase without a push. -/
theorem goTo (resolute : session.Resolute capacity lane) {before phase : CallerPhase}
    (known : session.phase = before)
    (effects : phase.effects.filterMap Effect.refused? = before.effects.filterMap Effect.refused?)
    (idle : ∀ samples report, phase ≠ .pushing samples report) :
    (session.goTo phase).Resolute capacity lane := by
  have same : (session.goTo phase).rebuffs = session.rebuffs := by
    rw [rebuffs, rebuffs, known]
    exact congrArg (session.refusals ++ ·) effects
  refine ⟨resolute.fixed, same ▸ resolute.gone, ?_⟩
  intro _ samples report pushing
  exact absurd pushing (idle samples report)

theorem step {move : Move} (resolute : session.Resolute capacity lane)
    (step : session.Step move next) (running : session.lane = some lane)
    (later : next.lane = some after) : next.Resolute capacity after := by
  cases step with
  | caller step => exact resolute.callerStep step running later
  | recorder known step =>
      cases running.symm.trans known
      cases Wired.lane_of_withThread later
      obtain ⟨remains, waking⟩ := step.remains
      constructor
      case fixed => exact remains.capacity.trans resolute.fixed
      case gone => exact fun rebuffed => remains.gone (resolute.gone rebuffed)
      case whole =>
        intro firm samples report known
        change _ = lane.channel.producer ∨ _ = lane.channel.producer.woken at waking
        rcases resolute.whole firm samples report known with same | same <;>
          (rw [same] at waking; rcases waking with still | still)
        · exact .inl still
        · exact .inl still
        · exact .inr still
        · exact .inr still
  | deliver burst report ready =>
      cases running.symm.trans later
      by_cases nothing : burst = []
      · rw [if_pos nothing]
        exact resolute.goTo ready rfl nofun
      · rw [if_neg nothing]
        exact resolute.goTo ready rfl nofun
  | ask reason ready | finish error ready =>
      cases running.symm.trans later
      exact resolute.goTo ready rfl nofun
  | record reason | raise asked =>
      cases running.symm.trans later
      exact ⟨resolute.fixed, resolute.gone, resolute.whole⟩

end Resolute

/-! ## The accounts -/

/-- The accounts of a session that has taken in so many samples: so many device bytes are
counted as saved for good, and so many samples have been spilt, that is, the recorder has got
them out of a push that was then refused. -/
structure Balanced (capacity samples certain spilt : Nat) (session : Session)
    (lane : RecorderLane) :
    Prop where
  secured : session.secured = certain.toUInt64
  even : 2 ∣ session.phase.pledged.length
  fewer : 2 * certain + session.phase.pledged.length ≤ samples
  load : lane.load session.phase ≤ 2 * certain + session.phase.pledged.length + spilt
  /-- Only the first refusal spills, and less than what it refuses. -/
  little : spilt ≤ session.rebuffs.headD 0 - 1
  unbounded : capacity = 0 → spilt = 0

namespace Balanced

variable {capacity samples certain spilt fresh : Nat} {session next : Session}
  {lane after : RecorderLane}

theorem step (balanced : Balanced capacity samples certain spilt session lane)
    (resolute : session.Resolute capacity lane) (entry : Entry fresh session next lane after)
    (pairs : 2 ∣ fresh) :
    ∃ certain spilt, Balanced capacity (samples + fresh) certain spilt next after := by
  obtain ⟨secured, even, fewer, load, spill, unbounded⟩ := balanced
  cases entry with
  | pledged same rebuffs pledged more =>
      refine ⟨certain, spilt, same.trans secured, ?_, ?_, ?_, rebuffs ▸ spill, unbounded⟩ <;>
        rw [pledged]
      · exact Nat.dvd_add even pairs
      · omega
      · omega
  | accepted nothing counted rebuffs done less =>
      refine ⟨certain + session.phase.pledged.length / 2, spilt, ?_, ?_, ?_, ?_, rebuffs ▸ spill,
        unbounded⟩
      · rw [counted, secured]
        simp
      all_goals
        rw [done, List.length_nil]
        omega
  | @refused pushed rest report effects pushing ready filled abandoned same rebuffs settles less =>
      have pledged : session.phase.pledged = pushed := by rw [pushing]; rfl
      have nothing : next.phase.pledged = [] := by rw [settles]; rfl
      have some := List.length_pos_iff.mpr filled
      -- after a first refusal, and without a bound, none of the push has gone in
      have untouched (firm : session.rebuffs ≠ [] ∨ capacity = 0) : rest = pushed := by
        rcases resolute.whole firm pushed report pushing with whole | owing
        · cases ready.symm.trans whole
          rfl
        · cases ready.symm.trans owing
      rw [pledged] at fewer load
      refine ⟨certain, spilt + (pushed.length - rest.length), same.trans secured, ?_, ?_, ?_, ?_, ?_⟩
      · rw [nothing]
        exact Nat.dvd_zero 2
      · rw [nothing, List.length_nil]
        omega
      · rw [nothing, List.length_nil]
        omega
      · rw [rebuffs]
        cases before : session.rebuffs with
        | nil =>
            rw [before] at spill
            simp only [List.headD_nil, List.nil_append, List.headD_cons] at spill ⊢
            omega
        | cons first others =>
            rw [before] at spill
            rw [untouched (.inl (by rw [before]; exact List.cons_ne_nil _ _)), Nat.sub_self]
            exact spill
      · intro none
        rw [untouched (.inr none), Nat.sub_self]
        exact unbounded none

theorem start (config : CaptureOptions) (preStop : Option StopReason) (writer : Writer)
    (running : (Session.start config preStop (some writer)).lane = some lane) (capacity : Nat) :
    Balanced capacity 0 0 0 (Session.start config preStop (some writer)) lane := by
  cases running
  constructor
  case secured => cases preStop <;> rfl
  case even => exact Nat.dvd_zero 2
  case fewer => exact Nat.le_refl 0
  case load => exact Nat.le_refl 0
  case little => exact Nat.zero_le _
  case unbounded => exact fun _ => rfl

end Balanced

/-- The accounts along a run. -/
theorem balanced_of_play {config : CaptureOptions} {preStop : Option StopReason} {writer : Writer}
    {moves : List Move} {session : Session}
    (played : (start config preStop (some writer)).play moves = some session)
    (bound : (Move.delivered moves).length < UInt64.size) :
    ∃ taken lane, Move.delivered moves = taken ++ session.phase.uncounted ∧
      Running config writer taken session lane ∧
      session.Resolute config.queueCapacity.toNat lane ∧
      ∃ certain spilt, Balanced config.queueCapacity.toNat
        (sampleBytes (liveBytes config.warmUpBytes.toNat taken)).length certain spilt session
          lane := by
  refine Running.along (motive := fun _ taken session lane =>
    session.Resolute config.queueCapacity.toNat lane ∧
      ∃ certain spilt, Balanced config.queueCapacity.toNat
        (sampleBytes (liveBytes config.warmUpBytes.toNat taken)).length certain spilt session
          lane) ?_ ?_ played bound
  · intro lane running
    have empty : (sampleBytes (liveBytes config.warmUpBytes.toNat [])).length = 0 := by
      simp [liveBytes, sampleBytes]
    rw [empty]
    exact ⟨.start config preStop writer running.output, 0, 0,
      .start config preStop writer running.output _⟩
  · rintro past taken session next lane after move running later step short
      ⟨resolute, certain, spilt, balanced⟩
    have entry := step.entry running later.output
    have short : taken.length < UInt64.size := by
      rw [List.length_append] at short
      omega
    refine ⟨resolute.step step running.output later.output, ?_⟩
    rw [running.samples short move, List.length_append]
    exact balanced.step resolute entry (by rw [fresh, length_sampleBytes]; exact Nat.dvd_mul_right ..)

/-- What is written is at most the samples of the saved bytes and those that were spilt: fewer
than the samples of the first push that was refused, and none without a refusal or without a
bound on the queue. -/
theorem written_le_twice_saved {config : CaptureOptions} {preStop : Option StopReason}
    {writer : Writer} {moves : List Move} {session : Session} {outcome : Outcome}
    (played : (start config preStop (some writer)).play moves = some session)
    (bound : 2 * (Move.delivered moves).length < UInt64.size)
    (known : session.outcome? = some outcome) :
    session.state.counters.written.toNat ≤
        2 * session.state.counters.saved.toNat + (session.refusals.headD 0 - 1) ∧
      (config.queueCapacity = 0 ∨ session.refusals = [] →
        session.state.counters.written.toNat ≤ 2 * session.state.counters.saved.toNat) ∧
      ∀ summary, outcome = .summary summary → summary.counters = session.state.counters := by
  obtain ⟨taken, lane, delivered, running, -, certain, spilt, balanced⟩ :=
    balanced_of_play played (by omega)
  have returned := phase_of_outcome known
  obtain ⟨secured, -, fewer, load, little, unbounded⟩ := balanced
  have received : taken.length ≤ (Move.delivered moves).length := by
    rw [delivered, List.length_append]
    omega
  have live := length_sampleBytes_liveBytes_le config.warmUpBytes.toNat taken
  obtain ⟨surplus, total⟩ := running.written_of_returned (by omega) returned
  have saved : session.state.counters.saved.toNat = certain := by
    rw [Session.secured, returned] at secured
    have same : session.state.counters.saved = certain.toUInt64 :=
      (UInt64.add_zero _).symm.trans secured
    rw [same, toNat_toUInt64_of_lt (by omega)]
  have log : session.rebuffs = session.refusals := by
    rw [rebuffs, returned]
    exact List.append_nil _
  have less : session.state.counters.written.toNat ≤ 2 * certain + spilt := by
    rw [RecorderLane.load, returned] at load
    change _ ≤ 2 * certain + 0 + spilt at load
    omega
  rw [log] at little
  rw [saved]
  refine ⟨by omega, ?_, ?_⟩
  · rintro (none | calm)
    · have nothing := unbounded (by rw [none]; rfl)
      omega
    · rw [calm, List.headD_nil] at little
      omega
  · rintro summary rfl
    exact running.settled.counters summary returned

/-- A queue for two slices, each of which nearly fills the buffer. -/
def splittingConfig : CaptureOptions where
  warmUpBytes := 0
  queueCapacity := 1022
  writeSliceBytes := 511
  writeBufferBytes := 512

/-- The caller waits for room with two samples left; the recorder counts a first slice and
fails to write the second one, and the push is refused. -/
def spillingRun : List Move :=
  List.flatten [[.deliver (List.replicate 512 0x29) none], List.replicate 3 .caller,
    List.replicate 17 .recorder, List.replicate 7 .caller, [.finish none],
    List.replicate 3 .caller]

set_option maxRecDepth 100000 in
/-- The summary of that run counts a slice as written and no byte as saved. -/
theorem spilling_summary :
    ∃ session summary, (start splittingConfig none (some (failing 1))).play
        (spillingRun ++ [.caller, .caller]) = some session ∧
      session.outcome? = some (.summary summary) ∧
      summary.counters.written.toNat = 511 ∧ summary.counters.saved.toNat = 0 := by
  have told : ((start splittingConfig none (some (failing 1))).play spillingRun).map
      (fun session => (session.phase, session.recorderEnd?, session.state.reason,
        session.state.counters.written.toNat, session.state.counters.saved.toNat)) =
          some (.joining none, some (.failed {}), some .writeFailed, 511, 0) := by cbv
  obtain ⟨waiting, played, told⟩ := Option.map_eq_some_iff.mp told
  simp only [Prod.mk.injEq] at told
  obtain ⟨phase, ended, reason, written, saved⟩ := told
  obtain ⟨session, concluded, known⟩ := summary_of_failed phase ended reason
  refine ⟨session, _, ?_, known, written, saved⟩
  rw [play_append, played]
  exact concluded

set_option maxRecDepth 100000 in
theorem length_delivered_spillingRun :
    2 * (Move.delivered (spillingRun ++ [.caller, .caller])).length < UInt64.size := by
  have size : (Move.delivered (spillingRun ++ [.caller, .caller])).length = 512 := by cbv
  rw [size]
  decide

/-- The slice is one that was spilt. -/
theorem spilling_written_le :
    ∃ session summary, (start splittingConfig none (some (failing 1))).play
        (spillingRun ++ [.caller, .caller]) = some session ∧
      session.outcome? = some (.summary summary) ∧
      511 ≤ 2 * summary.counters.saved.toNat + (session.refusals.headD 0 - 1) := by
  obtain ⟨session, summary, played, known, written, -⟩ := spilling_summary
  obtain ⟨less, -, same⟩ := written_le_twice_saved played length_delivered_spillingRun known
  refine ⟨session, summary, played, known, ?_⟩
  rw [same summary rfl] at written ⊢
  rw [← written]
  exact less

/-- More is written than the saved bytes account for. -/
theorem written_gt_twice_saved :
    ∃ session summary, (start splittingConfig none (some (failing 1))).play
        (spillingRun ++ [.caller, .caller]) = some session ∧
      session.outcome? = some (.summary summary) ∧
      2 * summary.counters.saved.toNat < summary.counters.written.toNat := by
  obtain ⟨session, summary, played, known, written, saved⟩ := spilling_summary
  refine ⟨session, summary, played, known, ?_⟩
  rw [written, saved]
  decide

end Session

end SampleCapture
