import SampleCapture.Proofs.Intake.CallerRun
import SampleCapture.Proofs.Session.Progress

/-!
# What goes into the queue

As long as no push is refused, the samples of everything taken in are in the queue, or have
been, or are on their way into it; and once the consumer has left, the samples of the next
burst that has any are refused.
-/

namespace SampleCapture

namespace CallerRun

/-! ## Without a refusal -/

def fresh (run : CallerRun) (move : CallerMove) : List UInt8 :=
  move.move?.elim [] run.session.fresh

/-- Where the samples of a run are as long as no push is refused, and what the caller has
counted of them. -/
structure Stocked (samples : List UInt8) (run : CallerRun) (lane : RecorderLane) : Prop where
  hosts : run.session.phase.Hosts lane.channel.producer
  stream : run.session.rebuffs = [] →
    run.accepted ++ (lane.channel.producer.remainder ++ run.session.phase.prepared) = samples
  saved : run.session.rebuffs = [] → ∃ certain, run.session.secured = certain.toUInt64 ∧
    2 * certain + run.session.phase.pledged.length = samples.length

namespace Stocked

variable {samples : List UInt8} {run next : CallerRun} {lane : RecorderLane} {move : CallerMove}

theorem callerStep (stocked : Stocked samples run lane) {next : Session}
    (step : run.session.CallerStep next) (running : run.session.lane = some lane)
    (even : 2 ∣ samples.length) :
    ∃ after, next.lane = some after ∧
      Stocked (samples ++ run.session.fresh .caller) (run.after next) after := by
  obtain ⟨after, later, -⟩ := step.lane running
  have entry := step.entry running later
  have before (firm : next.rebuffs = []) : run.session.rebuffs = [] := by
    cases entry with
    | pledged _ same | accepted _ _ same => exact same.symm.trans firm
    | refused _ _ _ _ _ same => exact (List.append_eq_nil_iff.mp (same.symm.trans firm)).1
  refine ⟨after, later, step.hosts running later stocked.hosts, fun firm => ?_, fun firm => ?_⟩
  · cases step.passes running later stocked.hosts with
    | on put grown _ whole =>
        have accepted : (run.after next).accepted = run.accepted ++ put := by
          rw [CallerRun.after, Session.queued_of_lane running, Session.queued_of_lane later, grown,
            List.drop_left]
        rw [accepted, ← stocked.stream (before firm), List.append_assoc]
        change run.accepted ++
          (put ++ (after.channel.producer.remainder ++ next.phase.prepared)) = _
        rw [whole]
        simp only [List.append_assoc]
    | refused _ _ settles =>
        -- the refusal is going to be logged
        change next.rebuffs = [] at firm
        simp [Session.rebuffs, settles, CallerPhase.effects, Intake.afterPush, Effect.refused?,
          Event.refused?] at firm
  · obtain ⟨certain, secured, total⟩ := stocked.saved (before firm)
    rw [List.length_append]
    cases entry with
    | pledged same _ pledged =>
        refine ⟨certain, same.trans secured, ?_⟩
        change 2 * certain + next.phase.pledged.length = _
        omega
    | accepted nothing counted _ done =>
        refine ⟨certain + run.session.phase.pledged.length / 2, ?_, ?_⟩
        · refine counted.trans ?_
          rw [secured]
          simp
        · change 2 * _ + next.phase.pledged.length = _
          rw [done, List.length_nil]
          omega
    | refused _ _ _ _ _ same => exact absurd (same.symm.trans firm) (by simp)

theorem step (stocked : Stocked samples run lane) (step : run.Step move next)
    (running : run.session.lane = some lane) (even : 2 ∣ samples.length) :
    ∃ after, next.session.lane = some after ∧ Stocked (samples ++ run.fresh move) next after := by
  cases step with
  | @session move next still step =>
      change ∃ after, next.lane = some after ∧
        Stocked (samples ++ run.session.fresh move) (run.after next) after
      by_cases caller : move = .caller
      · subst caller
        cases step with
        | caller step => exact stocked.callerStep step running even
      · have aside := step.aside caller still
        have nothing : run.session.counted move = [] := by
          cases move <;> first | exact absurd rfl caller | rfl
        have accepted : (run.after next).accepted = run.accepted := by
          have queued : next.queued = run.session.queued := by
            rw [Session.queued, Session.queued, aside.lane]
          rw [CallerRun.after, queued, List.drop_length]
          exact List.append_nil _
        rw [Session.fresh_of_counted nothing, List.append_nil]
        refine ⟨lane, aside.lane.trans running, aside.hosts _ stocked.hosts, fun firm => ?_,
          fun firm => ?_⟩
        · rw [accepted]
          change _ ++ (_ ++ next.phase.prepared) = _
          rw [aside.prepared]
          exact stocked.stream (aside.rebuffs.symm.trans firm)
        · obtain ⟨certain, secured, total⟩ := stocked.saved (aside.rebuffs.symm.trans firm)
          refine ⟨certain, aside.secured.trans secured, ?_⟩
          change 2 * certain + next.phase.pledged.length = _
          rw [aside.pledged, total]
  | @consumer _ _ channel silent known use =>
      cases running.symm.trans known
      rw [fresh, silent, Option.elim_none, List.append_nil]
      refine ⟨{ lane with channel := channel }, ?_, ?_, fun firm => ?_, stocked.saved⟩
      · exact Session.lane_withChannel_of_lane running channel
      · rcases use.producer with same | woken
        · exact same ▸ stocked.hosts
        · exact woken ▸ stocked.hosts.woken
      · have remainder : channel.producer.remainder = lane.channel.producer.remainder := by
          rcases use.producer with same | woken
          · rw [same]
          · rw [woken, ProducerPhase.remainder_woken]
        change run.accepted ++ (channel.producer.remainder ++ run.session.phase.prepared) = samples
        rw [remainder]
        exact stocked.stream firm

theorem start (config : CaptureOptions) (output : Option Writer)
    (running : (CallerRun.start config output).session.lane = some lane) :
    Stocked [] (CallerRun.start config output) lane := by
  cases output with
  | none => cases running
  | some writer =>
      cases running
      exact ⟨rfl, fun _ => rfl, fun _ => ⟨0, rfl, rfl⟩⟩

end Stocked

/-! ## After the consumer has left -/

/-- The samples of the call in progress are going to be refused, or have been refused; then the
caller has asked for a stop. -/
def Doomed (asked : Prop) (session : Session) (lane : RecorderLane) : Prop :=
  match session.phase with
  | .counting _ _ => session.fresh .caller ≠ []
  | .marking _ samples _ => samples ≠ []
  | .pushing _ _ => ∃ rest, rest ≠ [] ∧ lane.channel.producer = .ready rest
  | .settling effects _ => (∃ samples, effects = Intake.afterPush samples .refused) ∨
      effects = Effect.stop .writeFailed ∨
        asked ∧ (effects = [.raise] ∨ effects = [] ∧ session.state.stopping = true)
  | .reporting _ | .answering => asked ∧ session.state.stopping = true
  | _ => False

theorem Doomed.counting {asked : Prop} {session : Session} {lane : RecorderLane}
    {burst : List UInt8}
    {report : Option ProgressSnapshot} (phase : session.phase = .counting burst report)
    (lost : session.fresh .caller ≠ []) : Doomed asked session lane := by
  rw [Doomed, phase]
  exact lost

/-- What others do does not save the call. -/
theorem Doomed.keep {asked later : Prop} {session next : Session} {lane after : RecorderLane}
    (doomed : Doomed asked session lane) (mono : asked → later)
    (phase : next.phase = session.phase) (fresh : next.fresh .caller = session.fresh .caller)
    (up : session.state.stopping = true → next.state.stopping = true)
    (ready : ∀ rest, lane.channel.producer = .ready rest → after.channel.producer = .ready rest) :
    Doomed later next after := by
  unfold Doomed at doomed ⊢
  rw [phase]
  cases known : session.phase <;> rw [known] at doomed
  case counting => exact fresh ▸ doomed
  case marking => exact doomed
  case pushing =>
    obtain ⟨rest, filled, same⟩ := doomed
    exact ⟨rest, filled, ready rest same⟩
  case settling =>
    rcases doomed with row | row | ⟨made, row | ⟨row, raised⟩⟩
    · exact .inl row
    · exact .inr (.inl row)
    · exact .inr (.inr ⟨mono made, .inl row⟩)
    · exact .inr (.inr ⟨mono made, .inr ⟨row, up raised⟩⟩)
  case reporting => exact ⟨mono doomed.1, up doomed.2⟩
  case answering => exact ⟨mono doomed.1, up doomed.2⟩
  all_goals exact doomed.elim

/-- The call goes on in the same way, or ends with a stop. -/
theorem Doomed.callerStep {asked : Prop} {session next : Session} {lane : RecorderLane}
    (doomed : Doomed asked session lane) (step : session.CallerStep next)
    (running : session.lane = some lane) (gone : lane.channel.queue.abandoned = true) :
    (∃ after, next.lane = some after ∧ next.answers = session.answers ∧
        Doomed (asked ∨ session.request? .caller = some .writeFailed) next after) ∨
      asked ∧ next.answers = session.answers.push .stop := by
  unfold Doomed at doomed
  cases step with
  | @perform effect after row =>
      refine .inl ⟨lane, running, rfl, ?_⟩
      have request : session.request? .caller = effect.reason? := by
        rw [Session.request?, CallerPhase.reason?, row]
        rfl
      rw [request]
      unfold CallerPhase.next? at row
      split at row <;> cases row <;> rename_i phase <;> rw [phase] at doomed
      · exact doomed.elim
      · exact doomed
      · rcases doomed with ⟨samples, same⟩ | same | ⟨made, same | ⟨same, -⟩⟩
        · cases same
          exact .inr (.inl rfl)
        · cases same
          exact .inr (.inr ⟨.inr rfl, .inl rfl⟩)
        · cases same
          exact .inr (.inr ⟨.inl made, .inr ⟨rfl, rfl⟩⟩)
        · cases same
      · exact doomed.elim
      · exact doomed.elim
  | @ingest burst report phase =>
      refine .inl ⟨lane, running, rfl, ?_⟩
      rw [phase] at doomed
      change (session.intake.plan session.state.counters.received burst).samples ≠ []
      rw [Intake.plan_samples]
      rw [Session.fresh, Session.counted, phase] at doomed
      exact doomed
  | skip phase nothing =>
      rw [phase] at doomed
      rcases nothing with alone | none
      · cases running.symm.trans alone
      · exact absurd none doomed
  | @offer samples report _ phase known filled =>
      cases running.symm.trans known
      refine .inl ⟨{ lane with channel := lane.channel.beginPush samples }, ?_, rfl, samples, filled,
        rfl⟩
      exact Session.lane_withChannel_of_lane running _
  | @push samples report _ channel result phase known step =>
      cases running.symm.trans known
      rw [phase] at doomed
      obtain ⟨rest, filled, ready⟩ := doomed
      refine .inl ⟨{ lane with channel := channel }, ?_, rfl, ?_⟩
      · exact Session.lane_withChannel_of_lane running channel
      cases step with
      | nothing empty =>
          cases ready.symm.trans empty
          exact absurd rfl filled
      | refused => exact .inl ⟨samples, rfl⟩
      | put _ _ present | last _ _ present | piece _ present => cases gone.symm.trans present
      | woke other | left other => cases ready.symm.trans other
  | settled phase =>
      rw [phase] at doomed
      rcases doomed with ⟨samples, same⟩ | same | ⟨made, same | ⟨-, up⟩⟩
      · cases same
      · cases same
      · cases same
      · exact .inl ⟨lane, running, rfl, .inl made, up⟩
  | @report report phase =>
      rw [phase] at doomed
      refine .inl ⟨lane, running, rfl, .inl doomed.1, ?_⟩
      have same := congrArg SharedState.stopping (session.counters_reported report)
      exact same.trans doomed.2
  | answer phase =>
      rw [phase] at doomed
      refine .inr ⟨doomed.1, ?_⟩
      change session.answers.push (Intake.answer session.state) = _
      rw [Intake.answer, if_pos doomed.2]
  | asked phase | conclude phase | unlink phase | close phase | closed phase | endTransfer phase
  | wait phase | ended phase | joinNobody phase | join phase | collapsed phase =>
      rw [phase] at doomed
      exact doomed.elim

/-- The caller does not have to wait for anybody. -/
theorem Doomed.callerStep? {asked : Prop} {session : Session} {lane : RecorderLane}
    (doomed : Doomed asked session lane) (running : session.lane = some lane) :
    ∃ next, session.callerStep? = some next := by
  unfold Doomed at doomed
  cases phase : session.phase <;> rw [phase] at doomed
  case pushing samples report =>
    obtain ⟨rest, -, ready⟩ := doomed
    obtain ⟨moved, step⟩ := Channel.producerStep?_of_ready ready
    simp [Session.callerStep?, phase, running, step]
  case marking effects samples report =>
    cases effects <;> simp [Session.callerStep?, phase]
  case settling effects report =>
    cases effects <;> simp [Session.callerStep?, phase]
  case counting | reporting | answering => simp [Session.callerStep?, phase]
  all_goals exact doomed.elim

/-- Left alone, the caller ends the call with a stop. -/
theorem Doomed.returns {asked : Prop} {run : CallerRun} {lane : RecorderLane}
    (doomed : Doomed asked run.session lane) (running : run.session.lane = some lane)
    (gone : lane.channel.queue.abandoned = true)
    (hosts : run.session.phase.Hosts lane.channel.producer) :
    ∃ count last, run.play (List.replicate count (.session .caller)) = some last ∧
      last.session.answers = run.session.answers.push .stop := by
  -- each step leaves less to do
  induction left : run.session.effort using Nat.strongRecOn generalizing asked run lane with
  | ind effort ih =>
      obtain ⟨next, moved⟩ := doomed.callerStep? running
      have stepped : run.step? (.session .caller) = some (run.after next) := by
        change (run.session.callerStep?).map run.after = _
        rw [moved]
        rfl
      have step := Session.CallerStep.of_step? moved
      rcases doomed.callerStep step running gone with ⟨after, later, same, doomed⟩ | ⟨-, pushed⟩
      · have less := step.effort fun lane known => by
          cases running.symm.trans known
          exact hosts
        have rest : ∃ count last,
            (run.after next).play (List.replicate count (.session .caller)) = some last ∧
              last.session.answers = next.answers.push .stop :=
          ih _ (left ▸ less) doomed later ((step.remains running later).gone gone)
            (step.hosts running later hosts) rfl
        obtain ⟨count, last, played, stopped⟩ := rest
        refine ⟨count + 1, last, ?_, ?_⟩
        · rw [List.replicate_succ, play, stepped]
          exact played
        · exact stopped.trans (congrArg (·.push .stop) same)
      · refine ⟨1, run.after next, ?_, pushed⟩
        rw [List.replicate_one, play, stepped]
        rfl

/-- A call that is doomed, or has been: it is answered with a stop, and the caller has asked for
one because the samples have not been taken. -/
def Fate (first : CallerRun) (moves : List CallerMove) (call : Nat) (run : CallerRun) : Prop :=
  (run.session.answers.size = call ∧ ∃ lane, run.session.lane = some lane ∧
      lane.channel.queue.abandoned = true ∧
        Doomed (Asked first moves run call .writeFailed) run.session lane) ∨
    run.session.answers[call]? = some .stop ∧ Asked first moves run call .writeFailed

theorem Fate.step {first run next : CallerRun} {moves : List CallerMove} {move : CallerMove}
    {call : Nat}
    (fate : Fate first moves call run) (reached : first.play moves = some run)
    (step : run.Step move next) : Fate first (moves ++ [move]) call next := by
  have whole := step
  rcases fate with ⟨size, lane, running, gone, doomed⟩ | ⟨stopped, asked⟩
  · cases step with
    | @session move next still step =>
        cases step with
        | caller step =>
            rcases doomed.callerStep step running gone with
              ⟨after, later, same, doomed⟩ | ⟨asked, pushed⟩
            · refine .inl ⟨(congrArg Array.size same).trans size, after, later, ?_, ?_⟩
              · exact (step.remains running later).gone gone
              · refine doomed.keep ?_ rfl rfl id fun _ => id
                rintro (asked | request)
                · exact asked.later whole
                · exact size ▸ .now reached step request
            · refine .inr ⟨?_, asked.later whole⟩
              change next.answers[call]? = _
              rw [pushed, ← size, Array.getElem?_push_size]
        | recorder => exact absurd rfl still
        | deliver _ _ ready | ask _ ready | finish _ ready =>
            unfold Doomed at doomed
            rw [ready] at doomed
            exact doomed.elim
        | record reason =>
            exact .inl ⟨size, lane, running, gone,
              doomed.keep (fun asked => asked.later whole) rfl rfl id fun _ => id⟩
        | raise =>
            exact .inl ⟨size, lane, running, gone,
              doomed.keep (fun asked => asked.later whole) rfl rfl (fun _ => rfl) fun _ => id⟩
    | @consumer _ _ channel silent known use =>
        cases running.symm.trans known
        refine .inl ⟨size, { lane with channel := channel }, ?_, use.abandoned gone, ?_⟩
        · exact Session.lane_withChannel_of_lane running channel
        · refine doomed.keep (fun asked => asked.later whole) rfl rfl id fun rest ready => ?_
          rcases use.producer with same | woken
          · exact same.trans ready
          · exact woken.trans (by rw [ready]; rfl)
  · refine .inr ⟨?_, asked.later whole⟩
    cases step with
    | session still step =>
        rcases step.answers with same | ⟨-, -, pushed⟩
        · exact (congrArg (·[call]?) same).trans stopped
        · obtain ⟨inside, -⟩ := Array.getElem?_eq_some_iff.mp stopped
          refine (congrArg (·[call]?) pushed).trans ?_
          rw [Array.getElem?_push, if_neg (by omega)]
          exact stopped
    | consumer => exact stopped

end CallerRun

end SampleCapture
