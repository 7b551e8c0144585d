import SampleCapture.Proofs.Intake.Journal
import SampleCapture.Proofs.Intake.Ledger
import SampleCapture.Proofs.Intake.Signals

/-!
# The accounts of a journal

How the lines of a run come to be those of the ledger of its calls: what the caller has written
of the call in progress, together with what it is about to write, is always the beginning of
what the ledger has for that call.
-/

namespace SampleCapture

/-! ## What the intake goes by -/

namespace Intake

theorem warmedUp_plan (intake : Intake) (receivedBefore : UInt64) (burst : List UInt8) :
    (intake.plan receivedBefore burst).intake.warmedUp = true ↔
      intake.warmedUp = true ∨ intake.liveOf receivedBefore burst ≠ [] := by
  unfold plan
  split
  · rename_i none
    simp [none]
  · rename_i some
    simp [some]

/-- The lines that a burst brings before its samples are queued. -/
theorem lines_plan (intake : Intake) (receivedBefore : UInt64) (burst : List UInt8) :
    (intake.plan receivedBefore burst).effects.filterMap Effect.line? =
      (if intake.warmedUp = false ∧ intake.liveOf receivedBefore burst ≠ [] then
          [.warmUpComplete intake.warmUpBytes]
        else []) ++
        (flaggedIndices 0 (intake.liveOf receivedBefore burst)).map fun index =>
          .overflowFlagged (intake.liveCount + index.toUInt64) := by
  have marks (indices : List Nat) : (indices.flatMap fun index =>
      overflowEffects (intake.liveCount + index.toUInt64)).filterMap Effect.line? =
        indices.map fun index => .overflowFlagged (intake.liveCount + index.toUInt64) := by
    induction indices with
    | nil => rfl
    | cons index indices ih =>
        rw [List.flatMap_cons, List.filterMap_append, ih]
        rfl
  unfold plan
  split
  · rename_i none
    simp [none, flaggedIndices]
  · rename_i some
    rw [some, List.filterMap_append, marks, warmUpEffects]
    cases intake.warmedUp <;> simp [Effect.line?]

end Intake

namespace Session

theorem CallerStep.dropouts {session next : Session} (step : session.CallerStep next) :
    next.booked.dropouts = session.booked.dropouts + (flaggedCount
      (session.intake.liveOf session.state.counters.received session.phase.uncounted)).toUInt64 := by
  obtain ⟨lost, balance, -⟩ := step.booked
  have dropouts := congrArg Counters.dropouts balance
  simpa [Counters.add, gain, Intake.amounts] using dropouts

/-- The caller touches the intake only when it takes a burst in. -/
theorem CallerStep.intake {session next : Session} (step : session.CallerStep next) :
    (∃ burst report, session.phase = .counting burst report ∧
        next = session.ingest burst report) ∨
      session.phase.uncounted = [] ∧ next.intake = session.intake := by
  cases step with
  | ingest phase => exact .inl ⟨_, _, phase, rfl⟩
  | perform row => exact .inr ⟨(CallerPhase.uncounted_next? row).1, rfl⟩
  | @conclude error writeError phase =>
      obtain ⟨log, concluded⟩ := session.conclude_eq error writeError
      rw [concluded, phase]
      exact .inr ⟨rfl, rfl⟩
  | join phase =>
      rw [phase]
      exact .inr ⟨rfl, intake_joined ..⟩
  | asked phase | skip phase | offer phase | push phase | settled phase | report phase
  | answer phase | unlink phase | close phase | closed phase | endTransfer phase | wait phase
  | ended phase | joinNobody phase | collapsed phase =>
      rw [phase]
      exact .inr ⟨rfl, rfl⟩

/-- What neither the caller nor the recorder does changes neither the books nor the intake. -/
theorem Step.other {session next : Session} {move : Move} (step : session.Step move next)
    (caller : move ≠ .caller) (recorder : move ≠ .recorder) :
    next.booked = session.booked ∧ next.intake = session.intake := by
  cases step with
  | caller => exact absurd rfl caller
  | recorder => exact absurd rfl recorder
  | deliver burst report ready =>
      refine ⟨?_, rfl⟩
      rw [booked, booked, ready, phase_goTo]
      split <;> rfl
  | ask reason ready =>
      refine ⟨?_, rfl⟩
      rw [booked, booked, ready, phase_goTo, CallerPhase.owed, Effect.total_stop]
      rfl
  | finish error ready =>
      refine ⟨?_, rfl⟩
      rw [booked, booked, ready]
      rfl
  | record | raise => exact ⟨rfl, rfl⟩

structure Mindful (warmUp : Nat) (taken : List UInt8) (session : Session) : Prop where
  warmedUp : session.intake.warmedUp = true ↔
    session.intake.warmUpBytes = 0 ∨ liveBytes warmUp taken ≠ []
  dropouts : session.booked.dropouts = (flaggedCount (liveBytes warmUp taken)).toUInt64

namespace Mindful

variable {warmUp : Nat} {taken : List UInt8} {session next : Session}

theorem callerStep (mindful : Mindful warmUp taken session)
    (sighted : Sighted warmUp taken session) (bound : taken.length < UInt64.size)
    (step : session.CallerStep next) :
    Mindful warmUp (taken ++ session.phase.uncounted) next := by
  have live := liveBytes_append_uncounted sighted.intake sighted.received bound
  constructor
  case dropouts =>
    rw [step.dropouts, mindful.dropouts, live]
    simp [flaggedCount]
  case warmedUp =>
    rcases step.intake with ⟨burst, report, phase, rfl⟩ | ⟨none, same⟩
    · rw [phase] at live ⊢
      change liveBytes warmUp (taken ++ burst) = liveBytes warmUp taken ++
        session.intake.liveOf session.state.counters.received burst at live
      change (session.intake.plan _ burst).intake.warmedUp = true ↔
        (session.intake.plan _ burst).intake.warmUpBytes = 0 ∨ liveBytes warmUp (taken ++ burst) ≠ []
      rw [Intake.warmedUp_plan, Intake.plan_warmUpBytes, mindful.warmedUp, live, or_assoc, ne_eq,
        ne_eq, ne_eq, List.append_eq_nil_iff, Decidable.not_and_iff_or_not]
    · rw [none, List.append_nil, same]
      exact mindful.warmedUp

theorem start (config : CaptureOptions) (output : Option Writer) :
    Mindful config.warmUpBytes.toNat [] (Session.start config none output) := by
  have live : liveBytes config.warmUpBytes.toNat [] = [] := by simp [liveBytes]
  have fresh : (Session.start config none output).intake = .start config.warmUpBytes := by
    cases output <;> rfl
  constructor
  case warmedUp =>
    rw [live, fresh]
    simp [Intake.start]
  case dropouts =>
    rw [live]
    cases output <;> rfl

/-- The lines that a burst brings are the opening ones of its call. -/
theorem opening (mindful : Mindful warmUp taken session) (sighted : Sighted warmUp taken session)
    (bound : taken.length < UInt64.size) {burst : List UInt8} {report : Option ProgressSnapshot}
    (phase : session.phase = .counting burst report) :
    let call : Delivery := { bytes := burst, report := report }
    session.intake.liveOf session.state.counters.received burst =
        call.live session.intake.warmUpBytes taken ∧
      (session.intake.plan session.state.counters.received burst).effects.filterMap Effect.line? =
        call.opening session.intake.warmUpBytes taken := by
  intro call
  have same : session.intake.liveOf session.state.counters.received burst =
      call.live session.intake.warmUpBytes taken := by
    have live := liveBytes_append_uncounted sighted.intake sighted.received bound
    rw [phase, liveBytes_append] at live
    rw [Delivery.live, sighted.intake]
    exact (List.append_cancel_left live).symm
  refine ⟨same, ?_⟩
  have fresh : session.intake.warmedUp = false ↔
      session.intake.warmUpBytes ≠ 0 ∧ liveBytes warmUp taken = [] := by
    rw [← Bool.not_eq_true, mindful.warmedUp, not_or, not_ne_iff]
  have places : ((flaggedIndices 0 (call.live session.intake.warmUpBytes taken)).map fun index =>
      Event.overflowFlagged (session.intake.liveCount + index.toUInt64)) =
        (flaggedIndices (liveBytes warmUp taken).length
          (call.live session.intake.warmUpBytes taken)).map fun place =>
            .overflowFlagged place.toUInt64 := by
    rw [← Nat.add_zero (liveBytes warmUp taken).length, flaggedIndices_add, List.map_map,
      sighted.liveCount]
    refine List.map_congr_left fun index _ => ?_
    simp
  rw [Intake.lines_plan, same, Delivery.opening, sighted.intake, places]
  simp only [fresh, and_assoc]

end Mindful

end Session

/-! ## The call in progress -/

/-- The ordinary lines of a journal, with those that the caller is about to add. -/
def Session.entered (session : Session) (journal : List Event) : List Event :=
  Event.ordinary journal ++ session.phase.effects.filterMap Effect.line?

/-- The last call has all its lines up to its samples, and these are its samples. -/
structure Opened (warmUp : UInt64) (calls : List Delivery) (row : List Served)
    (entered : List Event) (samples : List UInt8) (call : Delivery) : Prop where
  calls : calls = row.map (·.call) ++ [call]
  entered : entered = Served.ledger warmUp [] row ++ call.opening warmUp (Served.bytes row)
  samples : samples = sampleBytes (call.live warmUp (Served.bytes row))

/-- How the lines stand when the caller is in this phase: the calls of the row have theirs, but
for the line of a report that is still to come. After the end of the source there is no row. -/
def CallerPhase.Accounts (warmUp : UInt64) (calls : List Delivery) (row : List Served)
    (entered : List Event) : CallerPhase → Prop
  | .atSource | .asking _ | .answering =>
      calls = row.map (·.call) ∧ entered = Served.ledger warmUp [] row
  | .counting burst report =>
      calls = row.map (·.call) ++ [{ bytes := burst, report := report }] ∧
        entered = Served.ledger warmUp [] row
  | .marking _ samples report =>
      ∃ call : Delivery, call.report = report ∧ Opened warmUp calls row entered samples call
  | .pushing samples report => samples ≠ [] ∧
      ∃ call : Delivery, call.report = report ∧ Opened warmUp calls row entered samples call
  | .settling _ report | .reporting report =>
      calls = row.map (·.call) ∧
        entered ++ reportLines warmUp (Served.bytes row) report = Served.ledger warmUp [] row
  | .finishing _ | .closing _ | .checking _ | .ending _ _ | .joining _ | .collapsing _
  | .concluding _ _ | .returned _ => row = []

theorem CallerPhase.accounts_next? {phase after : CallerPhase} {effect : Effect}
    (row : phase.next? = some (effect, after)) (warmUp : UInt64) (calls : List Delivery)
    (served : List Served) (entered : List Event) :
    after.Accounts warmUp calls served entered ↔ phase.Accounts warmUp calls served entered := by
  unfold CallerPhase.next? at row
  split at row <;> cases row <;> rfl

namespace Session

theorem entered_perform {session next : Session} {effect : Effect}
    (row : session.phase.next? = some (effect, next.phase)) (quiet : effect.Quiet)
    (journal : List Event) :
    next.entered (journal ++ session.lines) = session.entered journal := by
  rw [entered, entered, Event.ordinary_append, lines_of_next? row,
    session.shared.ordinary_lines quiet, CallerPhase.effects_next? row, List.append_assoc]
  cases named : effect.line? <;> simp [named]

/-- A step outside of a row adds its own lines and those of the row that it begins. -/
theorem entered_of_empty {session next : Session} (empty : session.phase.effects = [])
    (journal : List Event) :
    next.entered (journal ++ session.lines) = session.entered journal ++
      (Event.ordinary session.lines ++ next.phase.effects.filterMap Effect.line?) := by
  rw [entered, entered, empty, Event.ordinary_append]
  simp

/-- A step that writes nothing and begins no row with a line. -/
theorem entered_of_silent {session next : Session} {phase : CallerPhase}
    (before : session.phase = phase) (empty : phase.effects = []) (silent : session.lines = [])
    (nothing : next.phase.effects.filterMap Effect.line? = []) (journal : List Event) :
    next.entered (journal ++ session.lines) = session.entered journal := by
  rw [entered_of_empty (by rw [before, empty]) journal, silent, nothing]
  exact List.append_nil _

end Session

/-- A call gets the rest of its lines, the report apart, when it is known whether its samples are
refused. -/
theorem Opened.decide {warmUp : UInt64} {calls : List Delivery} {row : List Served}
    {entered : List Event} {samples : List UInt8} {call : Delivery}
    (opened : Opened warmUp calls row entered samples call) (refused : Bool) :
    let served := row ++ [{ call := call, refused := refused }]
    calls = served.map (·.call) ∧
      (entered ++ if refused then
        [.samplesRefused samples.length .queueDisconnected] else []) ++
          reportLines warmUp (Served.bytes served) call.report = Served.ledger warmUp [] served := by
  intro served
  refine ⟨?_, ?_⟩
  · rw [opened.calls, List.map_append]
    rfl
  · rw [Served.ledger_snoc, Served.lines, Served.bytes_snoc, opened.entered, opened.samples,
      List.nil_append]
    simp only [List.append_assoc, Delivery.refusal]

/-! ## The steps of the caller -/

namespace Session

/-- Samples are refused only if there are some and the consumer has left. -/
def Spurned (session : Session) (samples : List UInt8) : Prop :=
  samples ≠ [] ∧ ∃ lane, session.lane = some lane ∧ lane.channel.queue.abandoned = true

/-- No call that is doomed is in progress. -/
def Spared (session : Session) : Prop :=
  ∀ asked lane, session.lane = some lane → lane.channel.queue.abandoned = true →
    ¬ CallerRun.Doomed asked session lane

inductive Advances (warmUp : UInt64) (calls : List Delivery) (row : List Served)
    (entered : List Event) (session next : Session) : Prop where
  | same (accounts : next.phase.Accounts warmUp calls row entered) :
      Advances warmUp calls row entered session next
  /-- It becomes known whether the samples of the call are refused. -/
  | decided (call : Delivery) (refused : Bool) (last : calls = row.map (·.call) ++ [call])
      (accounts : next.phase.Accounts warmUp calls
        (row ++ [{ call := call, refused := refused }]) entered)
      (inCall : session.phase.inCall = true)
      (lost : refused = true →
        session.Spurned (sampleBytes (call.live warmUp (Served.bytes row))))
      (kept : refused = false → session.Spared) : Advances warmUp calls row entered session next
  /-- The source has ended. -/
  | ended (accounts : next.phase.Accounts warmUp calls [] entered) :
      Advances warmUp calls row entered session next

variable {warmUp : UInt64} {calls : List Delivery} {row : List Served} {session next : Session}
  {journal : List Event} {taken : List UInt8}

/-- Taking a burst in brings the opening lines of its call. -/
theorem advances_ingest (sighted : Sighted warmUp.toNat taken session)
    (mindful : Mindful warmUp.toNat taken session) (bound : taken.length < UInt64.size)
    {burst : List UInt8} {report : Option ProgressSnapshot}
    (phase : session.phase = .counting burst report)
    (accounts : session.phase.Accounts warmUp calls row (session.entered journal))
    (all : calls.flatMap (·.bytes) = taken ++ session.phase.uncounted) :
    Advances warmUp calls row ((session.ingest burst report).entered (journal ++ session.lines))
      session (session.ingest burst report) := by
  rw [phase] at accounts all
  obtain ⟨last, entered⟩ := accounts
  have before : Served.bytes row = taken := by
    rw [last, List.flatMap_append] at all
    exact List.append_cancel_right (all.trans (congrArg _ (List.append_nil burst).symm))
  have known : session.intake.warmUpBytes = warmUp := UInt64.toNat_inj.mp sighted.intake
  obtain ⟨live, opening⟩ := mindful.opening sighted bound phase
  rw [known] at live opening
  have silent : session.lines = [] := by rw [lines, phase]; rfl
  rw [entered_of_empty (by rw [phase]; rfl) journal, silent, entered]
  refine .same ⟨{ bytes := burst, report := report }, rfl, last, ?_, ?_⟩
  · rw [before]
    exact congrArg _ opening
  · rw [before, ← live]
    exact Intake.plan_samples ..

/-- A report has the flagged live bytes of its own call. -/
theorem advances_report (mindful : Mindful warmUp.toNat taken session)
    {report : Option ProgressSnapshot} (phase : session.phase = .reporting report)
    (accounts : session.phase.Accounts warmUp calls row (session.entered journal))
    (all : calls.flatMap (·.bytes) = taken ++ session.phase.uncounted) :
    let next := (session.withShared
      (session.shared.performAll (Intake.reportEffects session.state report))).goTo .answering
    Advances warmUp calls row (next.entered (journal ++ session.lines)) session next := by
  intro next
  rw [phase] at accounts all
  obtain ⟨last, entered⟩ := accounts
  have whole : Served.bytes row = taken := by
    rw [last] at all
    exact all.trans (List.append_nil _)
  have dropouts : session.state.counters.dropouts =
      (flaggedCount (liveBytes warmUp.toNat taken)).toUInt64 := by
    rw [← mindful.dropouts, booked, phase]
    exact (UInt64.add_zero _).symm
  have told : session.lines = reportLines warmUp (Served.bytes row) report := by
    rw [lines, phase, whole, reportLines, ← dropouts]
    cases report <;> rfl
  have plain : Event.ordinary (reportLines warmUp (Served.bytes row) report) =
      reportLines warmUp (Served.bytes row) report := by
    cases report <;> rfl
  refine .same ⟨last, ?_⟩
  rw [entered_of_empty (by rw [phase]; rfl) journal, told, plain, ← entered]
  exact congrArg _ (List.append_nil _)

/-- A push that ends says whether the samples of the call are refused. -/
theorem advances_push {samples : List UInt8} {call : Delivery} {lane : RecorderLane}
    {channel : Channel}
    {result : Option PushResult}
    (opened : Opened warmUp calls row (session.entered journal) samples call)
    (filled : samples ≠ []) (phase : session.phase = .pushing samples call.report)
    (running : session.lane = some lane) (step : lane.channel.ProducerStep channel result) :
    let next := (session.withChannel channel).goTo (.afterPush samples call.report result)
    Advances warmUp calls row (next.entered (journal ++ session.lines)) session next := by
  intro next
  have silent : session.lines = [] := by rw [lines, phase]; rfl
  have entered : next.entered (journal ++ session.lines) = _ :=
    entered_of_empty (by rw [phase]; rfl) journal
  rw [silent] at entered ⊢
  have inCall : session.phase.inCall = true := by rw [phase]; rfl
  rcases result with _ | _ | _
  · rw [entered]
    refine .same ⟨filled, call, rfl, ?_⟩
    rw [show Event.ordinary [] ++ next.phase.effects.filterMap Effect.line? = [] from rfl,
      List.append_nil]
    exact opened
  · rw [entered]
    refine .decided call false opened.calls (opened.decide false) inCall
      (absurd · Bool.false_ne_true) fun _ => ?_
    intro asked other known gone doomed
    cases running.symm.trans known
    rw [CallerRun.Doomed, phase] at doomed
    obtain ⟨rest, left, ready⟩ := doomed
    cases step with
    | nothing empty =>
        cases ready.symm.trans empty
        exact left rfl
    | last _ _ present => cases gone.symm.trans present
    | woke owing => cases ready.symm.trans owing
  · rw [entered]
    refine .decided call true opened.calls (opened.decide true) inCall (fun _ => ?_)
      (absurd ·.symm Bool.false_ne_true)
    cases step with
    | refused ready nonempty abandoned =>
        exact ⟨opened.samples ▸ filled, lane, running, abandoned⟩

theorem CallerStep.advances (step : session.CallerStep next)
    (quiet : ∀ effect ∈ session.phase.effects, effect.Quiet)
    (accounts : session.phase.Accounts warmUp calls row (session.entered journal))
    (sighted : Sighted warmUp.toNat taken session) (mindful : Mindful warmUp.toNat taken session)
    (bound : taken.length < UInt64.size)
    (all : calls.flatMap (·.bytes) = taken ++ session.phase.uncounted) :
    Advances warmUp calls row (next.entered (journal ++ session.lines)) session next := by
  cases step with
  | perform row =>
      have named := quiet _ (by rw [CallerPhase.effects_next? row]; exact List.mem_cons_self)
      rw [entered_perform row named]
      exact .same ((CallerPhase.accounts_next? row ..).mpr accounts)
  | asked phase | settled phase | answer phase =>
      rw [entered_of_silent phase rfl (by rw [lines, phase]; rfl) rfl]
      rw [phase] at accounts
      exact .same accounts
  | ingest phase => exact advances_ingest sighted mindful bound phase accounts all
  | @skip samples report phase nothing =>
      rw [entered_of_silent phase rfl (by rw [lines, phase]; rfl) rfl]
      have inCall : session.phase.inCall = true := by rw [phase]; rfl
      have unfolded := accounts
      rw [phase] at unfolded
      obtain ⟨call, rfl, opened⟩ := unfolded
      refine .decided call false opened.calls ?_ inCall (absurd · Bool.false_ne_true) fun _ => ?_
      · have decided := opened.decide false
        exact ⟨decided.1, (congrArg (· ++ _) (List.append_nil _)).symm.trans decided.2⟩
      · intro asked lane running gone doomed
        rw [CallerRun.Doomed, phase] at doomed
        rcases nothing with alone | none
        · cases running.symm.trans alone
        · exact doomed none
  | @offer samples report lane phase running filled =>
      rw [entered_of_silent phase rfl (by rw [lines, phase]; rfl) rfl]
      rw [phase] at accounts
      exact .same ⟨filled, accounts⟩
  | @push samples report lane channel result phase running step =>
      have unfolded := accounts
      rw [phase] at unfolded
      obtain ⟨filled, call, rfl, opened⟩ := unfolded
      exact advances_push opened filled phase running step
  | report phase => exact advances_report mindful phase accounts all
  | unlink phase | close phase | closed phase | endTransfer phase | wait phase | ended phase
  | joinNobody phase | collapsed phase => exact .ended rfl
  | @join error lane ending phase => cases ending <;> exact .ended rfl
  | @conclude error writeError phase =>
      obtain ⟨log, concluded⟩ := session.conclude_eq error writeError
      rw [concluded]
      exact .ended rfl

end Session

end SampleCapture
