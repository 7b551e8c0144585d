import SampleCapture.Proofs.Intake.Overflow
import SampleCapture.Proofs.Session.Requests

/-!
# The overflow of a session

What the caller has made of the bytes that it has taken in. If the reason of a session is an
overflow, it is that of the first flagged live byte; and once a flagged live byte has been
taken in, there is a reason and the stop flag is raised, or the caller is about to see to it.
-/

namespace SampleCapture

/-- The reason that there is, or that these effects give. -/
def SharedState.promise (state : SharedState) (effects : List Effect) : Option StopReason :=
  state.reason.or (effects.findSome? Effect.reason?)

theorem LoggedState.promise_perform (shared : LoggedState) (effect : Effect)
    (effects : List Effect) :
    (shared.perform effect).state.promise effects = shared.state.promise (effect :: effects) := by
  rw [SharedState.promise, SharedState.promise, shared.reason_perform, Option.or_assoc,
    List.findSome?_cons]
  cases effect.reason? <;> rfl

/-! ## What a burst asks for -/

namespace Intake

theorem liveCount_plan (intake : Intake) (receivedBefore : UInt64) (burst : List UInt8) :
    (intake.plan receivedBefore burst).intake.liveCount =
      intake.liveCount + (intake.liveOf receivedBefore burst).length.toUInt64 := by
  unfold plan
  split
  · rename_i none
    rw [none]
    exact (UInt64.add_zero _).symm
  · rename_i some
    rw [some]

/-- The first reason that a burst gives is its first flagged live byte. -/
theorem reason_plan (intake : Intake) (receivedBefore : UInt64) (burst : List UInt8) :
    (intake.plan receivedBefore burst).effects.findSome? Effect.reason? =
      (firstFlag (intake.liveOf receivedBefore burst)).map fun place =>
        .hardwareOverflow (intake.liveCount + place.toUInt64) := by
  have quiet : intake.warmUpEffects.findSome? Effect.reason? = none := by
    unfold warmUpEffects
    split <;> rfl
  have marks (indices : List Nat) :
      (indices.flatMap fun index =>
        overflowEffects (intake.liveCount + index.toUInt64)).findSome? Effect.reason? =
          indices.head?.map fun index => .hardwareOverflow (intake.liveCount + index.toUInt64) := by
    cases indices <;> rfl
  unfold plan
  split
  · rename_i none
    rw [none]
    rfl
  · rename_i some
    rw [some, List.findSome?_append, quiet, Option.none_or, marks, head?_flaggedIndices]
    simp

/-- A burst with a flagged live byte raises the flag. -/
theorem raise_mem_plan {intake : Intake} {receivedBefore : UInt64} {burst : List UInt8}
    (flagged : firstFlag (intake.liveOf receivedBefore burst) ≠ none) :
    .raise ∈ (intake.plan receivedBefore burst).effects := by
  unfold plan
  split
  · rename_i none
    rw [none] at flagged
    exact absurd rfl flagged
  · rename_i some
    rw [some] at flagged
    have first := head?_flaggedIndices 0 (intake.liveOf receivedBefore burst)
    rw [some] at first
    apply List.mem_append_right
    cases indices : flaggedIndices 0 _ with
    | nil =>
        rw [indices] at first
        exact absurd (Option.map_eq_none_iff.mp first.symm) flagged
    | cons index rest =>
        rw [List.flatMap_cons]
        exact List.mem_append_left _ (by simp [overflowEffects, Effect.stop])

end Intake

/-- The effects of a burst that the caller is still to carry out before it pushes. -/
def CallerPhase.marks : CallerPhase → List Effect
  | .marking effects _ _ => effects
  | _ => []

theorem CallerPhase.marks_next? {phase after : CallerPhase} {effect : Effect}
    (row : phase.next? = some (effect, after)) :
    phase.marks = effect :: after.marks ∨ phase.marks = [] ∧ after.marks = [] := by
  unfold CallerPhase.next? at row
  split at row <;> cases row
  · exact .inr ⟨rfl, rfl⟩
  · exact .inl rfl
  · exact .inr ⟨rfl, rfl⟩
  · exact .inr ⟨rfl, rfl⟩
  · exact .inr ⟨rfl, rfl⟩

namespace Session

theorem CallerStep.received {session next : Session} (step : session.CallerStep next) :
    next.booked.received = session.booked.received + session.phase.uncounted.length.toUInt64 := by
  obtain ⟨lost, balance, -⟩ := step.booked
  have received := congrArg Counters.received balance
  simpa [Counters.add, gain, Intake.amounts] using received

/-- Where a reason comes from that there is after a step of the caller, or is going to be. -/
inductive Gives (session : Session) : StopReason → Prop where
  | before {reason : StopReason}
      (promised : session.state.promise session.phase.effects = some reason) : Gives session reason
  | flagged (offset : UInt64) : Gives session (.hardwareOverflow offset)
  | refused {lane : RecorderLane} (running : session.lane = some lane)
      (opened : lane.channel.producer.hasClosed = false)
      (abandoned : lane.channel.queue.abandoned = true) : Gives session .writeFailed
  | ended (phase : session.phase = .checking none) (down : session.state.stopping = false) :
      Gives session .transferEnded
  | crashed {lane : RecorderLane} (running : session.lane = some lane)
      (ended : lane.recorder.phase = .ended .crashed) : Gives session .writeFailed

theorem CallerStep.gives {session next : Session} (step : session.CallerStep next)
    {reason : StopReason} (promised : next.state.promise next.phase.effects = some reason) :
    session.Gives reason := by
  -- a step that leaves the reason alone brings at most the effects that it starts with
  have apart (same : next.state.reason = session.state.reason)
      (brings : next.phase.effects.findSome? Effect.reason? = some reason → session.Gives reason) :
      session.Gives reason := by
    rcases Option.or_eq_some_iff.mp promised with known | ⟨-, brought⟩
    · refine .before ?_
      rw [SharedState.promise, ← same, known, Option.some_or]
    · exact brings brought
  cases step with
  | @perform effect phase row =>
      refine .before ?_
      rw [CallerPhase.effects_next? row, ← promised]
      exact (session.shared.promise_perform effect phase.effects).symm
  | ingest phase =>
      refine apart rfl fun brought => ?_
      obtain ⟨place, -, rfl⟩ := Option.map_eq_some_iff.mp
        ((Intake.reason_plan _ _ _).symm.trans brought)
      exact .flagged _
  | @push samples report lane channel result phase running step =>
      refine apart rfl fun brought => ?_
      rcases result with _ | _ | _
      · cases brought
      · cases brought
      · cases brought
        cases step with
        | refused ready nonempty abandoned => exact .refused running (by rw [ready]; rfl) abandoned
  | @endTransfer error phase unasked =>
      refine apart rfl fun brought => ?_
      obtain ⟨rfl, down⟩ := unasked
      cases brought
      exact .ended phase down
  | @join error lane ending phase running ended =>
      refine apart (by rw [state_joined]) fun brought => ?_
      cases ending with
      | finished | failed => cases brought
      | crashed =>
          cases brought
          exact .crashed running ended
  | @report report phase =>
      exact apart (congrArg SharedState.reason (session.counters_reported report)) nofun
  | @conclude error writeError phase =>
      obtain ⟨log, concluded⟩ := session.conclude_eq error writeError
      rw [concluded] at apart
      exact apart rfl nofun
  | skip | offer | asked | settled | answer | unlink | close | closed | wait | ended | joinNobody
  | collapsed => exact apart rfl nofun

structure Sighted (warmUp : Nat) (taken : List UInt8) (session : Session) : Prop where
  intake : session.intake.warmUpBytes.toNat = warmUp
  received : session.booked.received = taken.length.toUInt64
  liveCount : session.intake.liveCount = (liveBytes warmUp taken).length.toUInt64
  /-- An overflow that is a reason, or about to become one, is the first. -/
  first : ∀ offset, session.state.promise session.phase.effects = some (.hardwareOverflow offset) →
    firstFlag (liveBytes warmUp taken) = some offset.toNat
  seen : firstFlag (liveBytes warmUp taken) ≠ none →
    session.state.promise session.phase.marks ≠ none
  raised : firstFlag (liveBytes warmUp taken) ≠ none →
    session.state.stopping = true ∨ .raise ∈ session.phase.marks

namespace Sighted

variable {warmUp : Nat} {taken : List UInt8} {session next : Session}

/-- A step that takes nothing in and gives no overflow as a reason. -/
theorem carry (sighted : Sighted warmUp taken session) (intake : next.intake = session.intake)
    (received : next.booked.received = session.booked.received)
    (lasts : session.state.Lasts next.state)
    (given : ∀ offset, next.state.reason = some (.hardwareOverflow offset) →
      session.state.reason = some (.hardwareOverflow offset))
    (effects : ∀ offset,
      next.phase.effects.findSome? Effect.reason? = some (.hardwareOverflow offset) →
        session.phase.effects.findSome? Effect.reason? = some (.hardwareOverflow offset))
    (marks : next.phase.marks = session.phase.marks) : Sighted warmUp taken next := by
  constructor
  case intake => rw [intake, sighted.intake]
  case received => rw [received, sighted.received]
  case liveCount => rw [intake, sighted.liveCount]
  case first =>
    intro offset promised
    apply sighted.first
    cases known : next.state.reason with
    | some reason =>
        rw [SharedState.promise, known, Option.some_or] at promised
        rw [SharedState.promise, given offset (known.trans promised), Option.some_or]
    | none =>
        rw [SharedState.promise, known, Option.none_or] at promised
        cases before : session.state.reason with
        | none => rw [SharedState.promise, before, Option.none_or, effects offset promised]
        | some reason =>
            exact absurd known (lasts.given (by rw [before]; exact Option.some_ne_none _))
  case seen =>
    intro flagged nothing
    obtain ⟨unasked, unmarked⟩ := Option.or_eq_none_iff.mp nothing
    apply sighted.seen flagged
    rw [marks] at unmarked
    rw [SharedState.promise, unmarked, Option.or_none]
    cases before : session.state.reason with
    | none => rfl
    | some reason =>
        exact absurd unasked (lasts.given (by rw [before]; exact Option.some_ne_none _))
  case raised =>
    intro flagged
    rw [marks]
    exact (sighted.raised flagged).imp_left lasts.stopping

theorem perform (sighted : Sighted warmUp taken session) {effect : Effect} {phase : CallerPhase}
    (row : session.phase.next? = some (effect, phase)) :
    Sighted warmUp taken ((session.perform effect).goTo phase) := by
  have promise (effects : List Effect) :
      ((session.perform effect).goTo phase).state.promise effects =
        session.state.promise (effect :: effects) := session.shared.promise_perform effect effects
  have reason : ((session.perform effect).goTo phase).state.reason =
      session.state.reason.or effect.reason? := session.shared.reason_perform effect
  constructor
  case intake => exact sighted.intake
  case received => rw [booked_perform row, sighted.received]
  case liveCount => exact sighted.liveCount
  case first =>
    intro offset promised
    rw [phase_goTo, promise, ← CallerPhase.effects_next? row] at promised
    exact sighted.first offset promised
  case seen =>
    intro flagged
    have before := sighted.seen flagged
    rw [phase_goTo]
    rcases CallerPhase.marks_next? row with marks | ⟨nothing, still⟩
    · rw [promise, ← marks]
      exact before
    · rw [nothing, SharedState.promise, List.findSome?_nil, Option.or_none] at before
      rw [still, SharedState.promise, List.findSome?_nil, Option.or_none, reason]
      obtain ⟨given, known⟩ := Option.ne_none_iff_exists'.mp before
      rw [known, Option.some_or]
      exact Option.some_ne_none _
  case raised =>
    intro flagged
    rw [phase_goTo]
    rcases sighted.raised flagged with up | member
    · exact .inl (session.shared.stopping_perform effect up)
    · rcases CallerPhase.marks_next? row with marks | ⟨nothing, -⟩
      · rw [marks] at member
        rcases List.mem_cons.mp member with rfl | later
        · exact .inl rfl
        · exact .inr later
      · rw [nothing] at member
        cases member

theorem ingest (sighted : Sighted warmUp taken session) {burst : List UInt8}
    {report : Option ProgressSnapshot} (phase : session.phase = .counting burst report)
    (bound : (taken ++ burst).length < UInt64.size) :
    Sighted warmUp (taken ++ burst) (session.ingest burst report) := by
  have short : taken.length < UInt64.size := by
    rw [List.length_append] at bound
    omega
  have live := liveBytes_append_uncounted sighted.intake sighted.received short
  rw [phase] at live
  change liveBytes warmUp (taken ++ burst) = liveBytes warmUp taken ++
    session.intake.liveOf session.state.counters.received burst at live
  have size : (liveBytes warmUp (taken ++ burst)).length ≤ (taken ++ burst).length := by
    simp [liveBytes]
  have reasons := session.intake.reason_plan session.state.counters.received burst
  constructor
  case intake => rw [← sighted.intake]; exact congrArg _ (Intake.plan_warmUpBytes _ _ _)
  case received =>
    have received := (CallerStep.ingest phase).received
    rw [phase, sighted.received] at received
    rw [received, List.length_append]
    simp [CallerPhase.uncounted]
  case liveCount =>
    refine (Intake.liveCount_plan _ _ _).trans ?_
    rw [live, sighted.liveCount, List.length_append]
    simp
  case first =>
    intro offset promised
    change session.state.promise
      (session.intake.plan session.state.counters.received burst).effects = _ at promised
    rw [SharedState.promise, reasons] at promised
    have before := sighted.first offset
    rw [SharedState.promise, phase] at before
    rw [live]
    cases known : session.state.reason with
    | some reason =>
        rw [known, Option.some_or] at promised before
        exact firstFlag_append_of_some (before promised) _
    | none =>
        have unflagged : firstFlag (liveBytes warmUp taken) = none := by
          apply Decidable.byContradiction
          intro flagged
          have promise := sighted.seen flagged
          rw [SharedState.promise, known, phase] at promise
          exact promise rfl
        rw [known, Option.none_or] at promised
        obtain ⟨place, found, same⟩ := Option.map_eq_some_iff.mp promised
        have inside := firstFlag_lt found
        rw [live, List.length_append] at size
        rw [firstFlag_append, unflagged, found, Option.none_or, Option.map_some]
        cases same
        rw [sighted.liveCount, Nat.toUInt64_eq, Nat.toUInt64_eq, ← UInt64.ofNat_add,
          UInt64.toNat_ofNat_of_lt' (by omega), Nat.add_comm]
  case seen =>
    intro flagged nothing
    change session.state.promise
      (session.intake.plan session.state.counters.received burst).effects = none at nothing
    rw [SharedState.promise, reasons, Option.or_eq_none_iff, Option.map_eq_none_iff] at nothing
    rw [live, firstFlag_append, nothing.2, Option.map_none, Option.or_none] at flagged
    have before := sighted.seen flagged
    rw [SharedState.promise, nothing.1, phase] at before
    exact before rfl
  case raised =>
    intro flagged
    cases fresh : firstFlag (session.intake.liveOf session.state.counters.received burst) with
    | some place =>
        exact .inr (Intake.raise_mem_plan (by rw [fresh]; exact Option.some_ne_none _))
    | none =>
        rw [live, firstFlag_append, fresh, Option.map_none, Option.or_none] at flagged
        refine (sighted.raised flagged).imp_right fun member => ?_
        rw [phase] at member
        cases member

/-- Every step of the caller keeps it, with the bytes that it takes in. -/
theorem callerStep (sighted : Sighted warmUp taken session) (step : session.CallerStep next)
    (bound : (taken ++ session.phase.uncounted).length < UInt64.size) :
    Sighted warmUp (taken ++ session.phase.uncounted) next := by
  have received := step.received
  have lasts := (Step.caller step).lasts
  -- what all steps have in common that take nothing in
  have quiet {before : CallerPhase} (phase : session.phase = before)
      (none : before.uncounted = []) (unmarked : before.marks = [])
      (intake : next.intake = session.intake)
      (same : next.state.reason = session.state.reason)
      (effects : ∀ offset, next.phase.effects.findSome? Effect.reason? ≠
        some (.hardwareOverflow offset)) (marks : next.phase.marks = []) :
      Sighted warmUp (taken ++ session.phase.uncounted) next := by
    rw [phase, none] at received ⊢
    rw [List.append_nil]
    refine sighted.carry intake (received.trans (UInt64.add_zero _)) lasts
      (fun offset given => same ▸ given) (fun offset given => absurd given (effects offset)) ?_
    rw [marks, phase, unmarked]
  cases step with
  | perform row =>
      rw [(CallerPhase.uncounted_next? row).1, List.append_nil]
      exact sighted.perform row
  | ingest phase =>
      rw [phase] at bound ⊢
      exact sighted.ingest phase bound
  | skip phase | offer phase | asked phase | settled phase | answer phase | unlink phase
  | close phase | closed phase | wait phase | ended phase | joinNobody phase
  | collapsed phase => exact quiet phase rfl rfl rfl rfl nofun rfl
  | endTransfer phase => exact quiet phase rfl rfl rfl rfl nofun rfl
  | @push samples report lane channel result phase =>
      rcases result with _ | _ | _ <;> exact quiet phase rfl rfl rfl rfl nofun rfl
  | @report report phase =>
      exact quiet phase rfl rfl rfl
        (congrArg SharedState.reason (session.counters_reported report)) nofun rfl
  | @conclude error writeError phase =>
      obtain ⟨log, concluded⟩ := session.conclude_eq error writeError
      rw [concluded] at quiet ⊢
      exact quiet phase rfl rfl rfl rfl nofun rfl
  | @join error lane ending phase =>
      cases ending <;> exact quiet phase rfl rfl rfl rfl nofun rfl

/-- What a step of the recorder does to the reason. -/
theorem recorderStep (sighted : Sighted warmUp taken session) {lane : RecorderLane}
    (running : session.lane = some lane) (orderly : lane.recorder.phase.Orderly)
    {thread : RecorderThread} (step : (session.thread lane).Step thread) :
    Sighted warmUp taken (session.withThread thread) := by
  refine sighted.carry rfl ?_ (Step.recorder running step).lasts ?_ (fun _ => id) rfl
  · rw [booked_withThread step orderly]
    exact UInt64.add_zero _
  · intro offset given
    have reason := (Step.recorder running step).reason_eq
    rw [given, request?, running] at reason
    cases known : session.state.reason with
    | some reason' =>
        rw [known, Option.some_or] at reason
        exact reason.symm
    | none =>
        rw [known, Option.none_or] at reason
        cases orderly.reason reason.symm

/-- Every step keeps it, unless somebody else gives an overflow as a reason. -/
theorem step {move : Move} (sighted : Sighted warmUp taken session)
    (step : session.Step move next)
    (orderly : ∀ lane, session.lane = some lane → lane.recorder.phase.Orderly)
    (honest : ∀ offset, move ≠ .ask (.hardwareOverflow offset) ∧
      move ≠ .record (.hardwareOverflow offset))
    (bound : (taken ++ session.counted move).length < UInt64.size) :
    Sighted warmUp (taken ++ session.counted move) next := by
  have lasts := step.lasts
  cases step with
  | caller step => exact sighted.callerStep step bound
  | recorder running step =>
      rw [counted, List.append_nil]
      exact sighted.recorderStep running (orderly _ running) step
  | deliver burst report ready =>
      rw [counted, List.append_nil]
      by_cases nothing : burst = []
      · rw [if_pos nothing] at lasts ⊢
        refine sighted.carry rfl ?_ lasts (fun _ => id) (fun _ given => by cases given)
          (by rw [ready]; rfl)
        rw [booked, booked, ready]
        rfl
      · rw [if_neg nothing] at lasts ⊢
        refine sighted.carry rfl ?_ lasts (fun _ => id) (fun _ given => by cases given)
          (by rw [ready]; rfl)
        rw [booked, booked, ready]
        rfl
  | ask reason ready =>
      rw [counted, List.append_nil]
      refine sighted.carry rfl ?_ lasts (fun _ => id) (fun offset given => ?_) (by rw [ready]; rfl)
      · rw [booked, booked, ready]
        rfl
      · cases given
        exact absurd rfl (honest offset).1
  | finish error ready =>
      rw [counted, List.append_nil]
      refine sighted.carry rfl ?_ lasts (fun _ => id) (fun _ given => by cases given)
        (by rw [ready]; rfl)
      rw [booked, booked, ready]
      rfl
  | record reason =>
      rw [counted, List.append_nil]
      refine sighted.carry rfl rfl lasts (fun offset given => ?_) (fun _ => id) rfl
      have named := given
      simp only [SharedState.reason_record] at named
      cases known : session.state.reason with
      | some other =>
          rw [known] at named
          exact named
      | none =>
          rw [known] at named
          cases named
          exact absurd rfl (honest offset).2
  | raise asked =>
      rw [counted, List.append_nil]
      exact sighted.carry rfl rfl lasts (fun _ => id) (fun _ => id) rfl

theorem start (config : CaptureOptions) (output : Option Writer) :
    Sighted config.warmUpBytes.toNat [] (Session.start config none output) := by
  have live : liveBytes config.warmUpBytes.toNat [] = [] := by simp [liveBytes]
  have state : (Session.start config none output).state = {} := by cases output <;> rfl
  constructor
  case intake => cases output <;> rfl
  case received => cases output <;> rfl
  case liveCount =>
    rw [live]
    cases output <;> rfl
  case first =>
    intro offset promised
    rw [state, phase_start] at promised
    cases promised
  case seen => exact fun flagged => absurd (congrArg firstFlag live) flagged
  case raised => exact fun flagged => absurd (congrArg firstFlag live) flagged

end Sighted

end Session

end SampleCapture
