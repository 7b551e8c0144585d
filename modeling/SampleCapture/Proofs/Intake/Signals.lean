import SampleCapture.Proofs.Intake.Answers
import SampleCapture.Proofs.Intake.Stock

/-!
# The signals of the caller

What the caller tells the source and others in a run with any consumer: the answers follow
the stop flag, the reason of an overflow is the place of the first flagged live byte, however
the stream has been cut, and up to there the samples are all in the queue.
-/

namespace SampleCapture

/-- Outside of a call nothing is left of a burst. -/
theorem CallerPhase.nothing_of_free {phase : CallerPhase} (free : phase.inCall = false) :
    phase.uncounted = [] ∧ phase.marks = [] := by
  cases phase with
  | counting | marking => cases free
  | pushing | settling | reporting | answering => cases free
  | atSource | asking | finishing | closing | checking | ending | joining | collapsing
  | concluding | returned => exact ⟨rfl, rfl⟩

namespace CallerRun

theorem Honest.of_append {first second : List CallerMove} (honest : Honest (first ++ second)) :
    Honest first := fun offset =>
  ⟨fun member => (honest offset).1 (List.mem_append_left _ member),
    fun member => (honest offset).2 (List.mem_append_left _ member)⟩

theorem delivered_append (first second : List CallerMove) :
    Move.delivered (CallerMove.moves (first ++ second)) =
      Move.delivered (CallerMove.moves first) ++ Move.delivered (CallerMove.moves second) := by
  rw [CallerMove.moves_append, Move.delivered, List.flatMap_append]
  rfl

theorem length_delivered_le (first second : List CallerMove) :
    (Move.delivered (CallerMove.moves first)).length ≤
      (Move.delivered (CallerMove.moves (first ++ second))).length := by
  rw [delivered_append, List.length_append]
  exact Nat.le_add_right _ _

/-- No more is taken in than has been delivered. -/
theorem Tracked.length_taken_le {warmUp : Nat} {moves : List CallerMove} {taken : List UInt8}
    {run : CallerRun} (tracked : Tracked warmUp moves taken run) :
    taken.length ≤ (Move.delivered (CallerMove.moves moves)).length := by
  rw [tracked.delivered, List.length_append]
  exact Nat.le_add_right _ _

/-- The samples of what a move takes in come behind those before. -/
theorem Tracked.samples {warmUp : Nat} {moves : List CallerMove} {taken : List UInt8}
    {run : CallerRun}
    (tracked : Tracked warmUp moves taken run) (bound : taken.length < UInt64.size)
    (move : CallerMove) :
    sampleBytes (liveBytes warmUp (taken ++ run.counted move)) =
      sampleBytes (liveBytes warmUp taken) ++ run.fresh move := by
  have sighted := tracked.sighted
  cases known : move.move? with
  | some own =>
      rw [counted, fresh, known]
      exact Session.sampleBytes_append_counted sighted.intake sighted.received bound own
  | none =>
      rw [counted, fresh, known]
      simp

structure Watched (warmUp : Nat) (first : CallerRun) (moves : List CallerMove)
    (taken : List UInt8)
    (run : CallerRun) : Prop where
  tracked : Tracked warmUp moves taken run
  answered : Answered warmUp first moves run
  announced : Announced warmUp first moves taken run
  stocked : ∀ lane, run.session.lane = some lane →
    Stocked (sampleBytes (liveBytes warmUp taken)) run lane

namespace Watched

variable {warmUp : Nat} {first run next : CallerRun} {moves : List CallerMove}
  {taken : List UInt8}
  {move : CallerMove}

theorem step (watched : Watched warmUp first moves taken run)
    (reached : first.play moves = some run)
    (step : run.Step move next) (honest : Honest (moves ++ [move]))
    (bound : (Move.delivered (CallerMove.moves (moves ++ [move]))).length < UInt64.size) :
    Watched warmUp first (moves ++ [move]) (taken ++ run.counted move) next := by
  have tracked := watched.tracked
  have short : taken.length < UInt64.size :=
    Nat.lt_of_le_of_lt (Nat.le_trans tracked.length_taken_le (length_delivered_le moves _)) bound
  refine ⟨tracked.step step honest bound, watched.answered.step tracked reached step,
    watched.announced.step tracked.sighted short reached step, fun after later => ?_⟩
  obtain ⟨lane, running⟩ := step.lane later
  obtain ⟨other, same, stocked⟩ := (watched.stocked lane running).step step running
    (by rw [length_sampleBytes]; exact Nat.dvd_mul_right ..)
  cases later.symm.trans same
  rw [tracked.samples short]
  exact stocked

theorem of_play {config : CaptureOptions} {output : Option Writer}
    (played : (CallerRun.start config output).play moves = some run) (honest : Honest moves)
    (bound : (Move.delivered (CallerMove.moves moves)).length < UInt64.size) :
    ∃ taken, Watched config.warmUpBytes.toNat (CallerRun.start config output) moves taken run := by
  have reached : (CallerRun.start config output).play [] = some (.start config output) := rfl
  refine play_induction (motive := fun past run => Honest past →
    (Move.delivered (CallerMove.moves past)).length < UInt64.size →
      ∃ taken, Watched config.warmUpBytes.toNat (CallerRun.start config output) past taken run)
    ?_ reached played ?_ honest bound
  · intro past run next move reached step before honest bound
    have less := Nat.lt_of_le_of_lt (length_delivered_le past [move]) bound
    obtain ⟨taken, watched⟩ := before honest.of_append less
    exact ⟨_, watched.step reached step honest bound⟩
  · intro _ _
    refine ⟨[], .start config output, .start config output _, .start config output _, ?_⟩
    intro lane running
    have none : sampleBytes (liveBytes config.warmUpBytes.toNat []) = [] := by
      simp [liveBytes, sampleBytes]
    rw [none]
    exact .start config output running

end Watched

/-- The moment of a call that has an unflagged live byte, with the consumer already gone. -/
inductive Forlorn (config : CaptureOptions) (output : Option Writer) (moves : List CallerMove) :
    CallerRun → Prop where
  | intro {before later : List CallerMove} {burst : List UInt8} {report : Option ProgressSnapshot}
      {calling : CallerRun} {lane : RecorderLane}
      (split : moves = before ++ .session (.deliver burst report) :: later)
      (reached : (CallerRun.start config output).play before = some calling)
      (running : calling.session.lane = some lane) (gone : lane.channel.queue.abandoned = true)
      (unflagged : unflaggedCount (liveBytes config.warmUpBytes.toNat
          (Move.delivered (CallerMove.moves before))) <
        unflaggedCount (liveBytes config.warmUpBytes.toNat
          (Move.delivered (CallerMove.moves before) ++ burst))) :
      Forlorn config output moves calling

/-- What the caller tells in a run of these moves. -/
structure Signals (config : CaptureOptions) (output : Option Writer) (moves : List CallerMove)
    (run : CallerRun) : Prop where
  /-- A call is answered with a stop exactly if the flag is up at its end. -/
  flag : ∀ call answer, run.session.answers[call]? = some answer →
    Moment (CallerRun.start config output) moves fun ending => ending.session.phase = .answering ∧
      ending.session.answers.size = call ∧
        (answer = .stop ↔ ending.session.state.stopping = true)
  /-- After a stop there is no other answer. -/
  lasting : run.session.answers.toList.Pairwise fun earlier later => earlier = .stop → later = .stop
  /-- The first flagged live byte of all calls is a reason to stop, and it is the reason if there
  was none at that moment. -/
  met : ∀ place, run.session.phase.inCall = false →
    firstFlag (liveBytes config.warmUpBytes.toNat (Move.delivered (CallerMove.moves moves))) =
      some place →
    ∃ call, Asked (CallerRun.start config output) moves run call (.hardwareOverflow place.toUInt64)
  /-- An overflow that is the reason is the first one, and the call with its byte is the first
  that is answered with a stop. -/
  first : ∀ offset, run.session.state.reason = some (.hardwareOverflow offset) →
    firstFlag (liveBytes config.warmUpBytes.toNat (Move.delivered (CallerMove.moves moves))) =
      some offset.toNat ∧
    ∀ call answer, run.session.answers[call]? = some answer →
      (answer = .stop ↔ offset.toNat < (liveUntil config.warmUpBytes.toNat moves call).length)
  /-- Up to there the queue has got all samples, unless a push has been refused. -/
  good : ∀ offset, run.session.state.reason = some (.hardwareOverflow offset) →
    run.session.phase = .atSource → run.session.lane ≠ none → run.session.refusals = [] →
      offset.toNat ≤ run.session.state.counters.saved.toNat ∧
      run.accepted.take (2 * offset.toNat) = sampleBytes
        ((liveBytes config.warmUpBytes.toNat (Move.delivered (CallerMove.moves moves))).take
          offset.toNat) ∧
      2 * offset.toNat ≤ run.accepted.length
  /-- A call with an unflagged live byte that is made after the consumer has left is answered with
  a stop, for which the refused push is a reason. -/
  lost : ∀ calling, Forlorn config output moves calling →
    calling.session.answers.size < run.session.answers.size →
      run.session.answers[calling.session.answers.size]? = some .stop ∧
        Asked (CallerRun.start config output) moves run calling.session.answers.size .writeFailed
  /-- Until then the caller waits for nobody. -/
  returns : ∀ calling, Forlorn config output moves calling →
    run.session.answers.size = calling.session.answers.size →
      ∃ count last, run.play (List.replicate count (.session .caller)) = some last ∧
        last.session.answers = run.session.answers.push .stop

namespace Watched

variable {config : CaptureOptions} {output : Option Writer} {run : CallerRun}
  {moves : List CallerMove}
  {taken : List UInt8}

theorem live_isPrefix {warmUp : Nat} {first : CallerRun}
    (watched : Watched warmUp first moves taken run) :
    liveBytes warmUp taken <+: liveBytes warmUp (Move.delivered (CallerMove.moves moves)) := by
  rw [watched.tracked.delivered]
  exact liveBytes_isPrefix (List.prefix_append _ _) _

theorem liveUntil_isPrefix (warmUp : Nat) (moves : List CallerMove) (call : Nat) :
    liveUntil warmUp moves call <+: liveBytes warmUp (Move.delivered (CallerMove.moves moves)) := by
  refine liveBytes_isPrefix ?_ _
  obtain ⟨rest, whole⟩ := List.take_prefix (call + 1) (Move.deliveries (CallerMove.moves moves))
  exact ⟨rest.flatMap (·.bytes), by rw [← List.flatMap_append, whole, Move.flatMap_deliveries]⟩

theorem first_of_reason {warmUp : Nat} {first : CallerRun}
    (watched : Watched warmUp first moves taken run) {offset : UInt64}
    (reason : run.session.state.reason = some (.hardwareOverflow offset)) :
    firstFlag (liveBytes warmUp taken) = some offset.toNat := by
  apply watched.tracked.sighted.first
  rw [SharedState.promise, reason, Option.some_or]

/-- Between two calls all samples have gone into the queue. -/
theorem accepted_of_firm {warmUp : Nat} {first : CallerRun}
    (watched : Watched warmUp first moves taken run) (bound : taken.length < UInt64.size)
    (phase : run.session.phase = .atSource) (present : run.session.lane ≠ none)
    (firm : run.session.refusals = []) :
    run.accepted = sampleBytes (liveBytes warmUp taken) ∧
      2 * run.session.state.counters.saved.toNat =
        (sampleBytes (liveBytes warmUp taken)).length := by
  obtain ⟨lane, running⟩ := Option.ne_none_iff_exists'.mp present
  obtain ⟨hosts, stream, saved⟩ := watched.stocked lane running
  have calm : run.session.rebuffs = [] := by
    rw [Session.rebuffs, firm, phase]
    rfl
  have whole := stream calm
  obtain ⟨certain, secured, total⟩ := saved calm
  rw [phase] at hosts whole total
  change lane.channel.producer = .idle at hosts
  rw [hosts] at whole
  have accepted : run.accepted = sampleBytes (liveBytes warmUp taken) :=
    (List.append_nil _).symm.trans whole
  refine ⟨accepted, ?_⟩
  have less := length_sampleBytes_liveBytes_le warmUp taken
  change 2 * certain + 0 = _ at total
  rw [Session.secured, phase] at secured
  have same : run.session.state.counters.saved = certain.toUInt64 :=
    (UInt64.add_zero _).symm.trans secured
  rw [same, toNat_toUInt64_of_lt (by omega)]
  exact total

/-- A burst that brings an unflagged live byte brings samples. -/
theorem fresh_of_counting {warmUp : Nat} {first : CallerRun}
    (watched : Watched warmUp first moves taken run) (bound : taken.length < UInt64.size)
    {burst : List UInt8} {report : Option ProgressSnapshot}
    (phase : run.session.phase = .counting burst report)
    (unflagged : unflaggedCount (liveBytes warmUp taken) <
      unflaggedCount (liveBytes warmUp (taken ++ burst))) : run.session.fresh .caller ≠ [] := by
  have sighted := watched.tracked.sighted
  have samples := Session.sampleBytes_append_counted sighted.intake sighted.received bound .caller
  have counted : run.session.counted .caller = burst := by
    rw [Session.counted, phase]
    rfl
  intro none
  rw [counted, none, List.append_nil] at samples
  have same := congrArg List.length samples
  rw [length_sampleBytes, length_sampleBytes] at same
  omega

/-- An overflow that is the reason is the first one of all that has been delivered, and divides
the answers. -/
theorem first_of_overflow {warmUp : Nat} {first : CallerRun}
    (watched : Watched warmUp first moves taken run) {offset : UInt64}
    (reason : run.session.state.reason = some (.hardwareOverflow offset)) :
    firstFlag (liveBytes warmUp (Move.delivered (CallerMove.moves moves))) = some offset.toNat ∧
      ∀ call answer, run.session.answers[call]? = some answer →
        (answer = .stop ↔ offset.toNat < (liveUntil warmUp moves call).length) := by
  have found := firstFlag_of_isPrefix watched.live_isPrefix (watched.first_of_reason reason)
  refine ⟨found, fun call answer given => ⟨?_, fun inside => ?_⟩⟩
  · rintro rfl
    exact firstFlag_lt (watched.answered.reasons call offset given reason)
  · have flagged := firstFlag_of_lt (liveUntil_isPrefix warmUp moves call) found inside
    exact watched.answered.stops call answer given (by rw [flagged]; exact Option.some_ne_none _)

/-- The samples before the overflow that is the reason have been counted and accepted. -/
theorem good_of_overflow {warmUp : Nat} {first : CallerRun}
    (watched : Watched warmUp first moves taken run) (bound : taken.length < UInt64.size)
    {offset : UInt64} (reason : run.session.state.reason = some (.hardwareOverflow offset))
    (phase : run.session.phase = .atSource) (present : run.session.lane ≠ none)
    (firm : run.session.refusals = []) :
    offset.toNat ≤ run.session.state.counters.saved.toNat ∧
      run.accepted.take (2 * offset.toNat) = sampleBytes
        ((liveBytes warmUp (Move.delivered (CallerMove.moves moves))).take offset.toNat) ∧
      2 * offset.toNat ≤ run.accepted.length := by
  obtain ⟨accepted, saved⟩ := watched.accepted_of_firm bound phase present firm
  have delivered := watched.tracked.delivered
  rw [phase] at delivered
  change _ = taken ++ [] at delivered
  rw [delivered, List.append_nil]
  have found := watched.first_of_reason reason
  have samples : (sampleBytes ((liveBytes warmUp taken).take offset.toNat)).length =
      2 * offset.toNat := by
    rw [length_sampleBytes_of_unflagged (firstFlag_take found), List.length_take,
      Nat.min_eq_left (Nat.le_of_lt (firstFlag_lt found))]
  have front := sampleBytes_isPrefix (List.take_prefix offset.toNat (liveBytes warmUp taken))
  have short := front.length_le
  rw [samples] at short
  rw [accepted]
  refine ⟨by omega, ?_, short⟩
  rw [← samples]
  exact (List.prefix_iff_eq_take.mp front).symm

/-- Between two calls the first flagged live byte has been asked for. -/
theorem asked_of_found {warmUp : Nat} {first : CallerRun}
    (watched : Watched warmUp first moves taken run) (free : run.session.phase.inCall = false)
    {place : Nat}
    (found : firstFlag (liveBytes warmUp (Move.delivered (CallerMove.moves moves))) = some place) :
    ∃ call, Asked first moves run call (.hardwareOverflow place.toUInt64) := by
  obtain ⟨nothing, marks⟩ := CallerPhase.nothing_of_free free
  rw [watched.tracked.delivered, nothing, List.append_nil] at found
  refine (watched.announced place found).resolve_left ?_
  rw [marks]
  exact nofun

end Watched

/-- The samples of a forlorn call are lost. -/
theorem Forlorn.fate {config : CaptureOptions} {output : Option Writer} {moves : List CallerMove}
    {calling run : CallerRun} (forlorn : Forlorn config output moves calling)
    (played : (CallerRun.start config output).play moves = some run) (honest : Honest moves)
    (bound : (Move.delivered (CallerMove.moves moves)).length < UInt64.size) :
    Fate (CallerRun.start config output) moves calling.session.answers.size run := by
  obtain @⟨before, later, burst, report, calling, lane, split, reached, running, gone, unflagged⟩ :=
    forlorn
  have whole : moves = (before ++ [.session (.deliver burst report)]) ++ later := by
    rw [split, List.append_assoc]
    rfl
  rw [whole] at honest bound
  rw [split, play_append, reached, Option.bind_some] at played
  obtain ⟨next, moved, rest⟩ := Option.bind_eq_some_iff.mp played
  have made := play_snoc reached moved
  have short := Nat.lt_of_le_of_lt (length_delivered_le _ later) bound
  obtain ⟨taken, watched⟩ := Watched.of_play made honest.of_append short
  rw [whole]
  refine play_induction (motive := fun past => Fate (CallerRun.start config output) past
    calling.session.answers.size) (fun reached step fate => fate.step reached step) made rest ?_
  have filled : burst ≠ [] := by
    rintro rfl
    rw [List.append_nil] at unflagged
    exact Nat.lt_irrefl _ unflagged
  have step := Step.of_step? moved
  cases step with
  | session still step =>
      cases step with
      | deliver _ _ ready =>
          refine .inl ⟨rfl, lane, running, gone, ?_⟩
          have phase : (calling.session.goTo (if burst = [] then .reporting report
              else .counting burst report)).phase = .counting burst report := by
            rw [Session.phase_goTo, if_neg filled]
          have delivered := watched.tracked.delivered
          have last :
              Move.delivered (CallerMove.moves [.session (.deliver burst report)]) = burst :=
            List.append_nil burst
          rw [delivered_append, last] at delivered
          change _ = taken ++ (calling.session.goTo _).phase.uncounted at delivered
          rw [phase] at delivered
          cases List.append_cancel_right delivered
          have less := Nat.lt_of_le_of_lt (length_delivered_le before _) short
          exact .counting phase (watched.fresh_of_counting less phase unflagged)
  | consumer silent => cases silent

/-- What the caller tells in any run with any consumer. -/
theorem signals_of_play {config : CaptureOptions} {output : Option Writer}
    {moves : List CallerMove}
    {run : CallerRun} (played : (CallerRun.start config output).play moves = some run)
    (honest : Honest moves)
    (bound : (Move.delivered (CallerMove.moves moves)).length < UInt64.size) :
    Signals config output moves run := by
  obtain ⟨taken, watched⟩ := Watched.of_play played honest bound
  have short : taken.length < UInt64.size := by
    rw [watched.tracked.delivered, List.length_append] at bound
    omega
  refine ⟨watched.answered.given, watched.answered.lasting,
    fun place free found => watched.asked_of_found free found,
    fun offset reason => watched.first_of_overflow reason,
    fun offset reason phase => watched.good_of_overflow short reason phase, ?_, ?_⟩
  · intro calling forlorn answered
    rcases forlorn.fate played honest bound with ⟨size, -⟩ | told
    · omega
    · exact told
  · intro calling forlorn pending
    rcases forlorn.fate played honest bound with ⟨-, lane, running, gone, doomed⟩ | ⟨stopped, -⟩
    · exact doomed.returns running gone (watched.stocked lane running).hosts
    · obtain ⟨inside, -⟩ := Array.getElem?_eq_some_iff.mp stopped
      omega

def shortWarmUp : CaptureOptions where
  warmUpBytes := 1

/-- The third live byte is flagged, in the second of two calls. -/
def overtakenRun : List CallerMove :=
  List.flatten [[.session (.deliver [0x00, 0x29] none)], List.replicate 9 (.session .caller),
    [.pop 2, .consumer, .session (.deliver [0x05, 0x28, 0x07] none)],
    List.replicate 12 (.session .caller)]

/-- The consumer leaves, somebody else asks for a stop, and a byte comes that is lost. -/
def forsakenRun : List CallerMove :=
  List.flatten [[.leave, .consumer, .session (.record .userInterrupt), .session .raise,
    .session (.deliver [0x0b] none)], List.replicate 9 (.session .caller)]

/-- The source is told to stop by the second call and by all after it. -/
theorem signals_overtaken :
    ∃ run last, (CallerRun.start shortWarmUp (some Session.bursting)).play overtakenRun = some run ∧
      run.session.state.reason = some (.hardwareOverflow 2) ∧
      run.accepted = [3, 5, 1, 3, 1, 3] ∧
      Signals shortWarmUp (some Session.bursting) overtakenRun run ∧
      run.play forsakenRun = some last ∧ last.session.refusals = [2] ∧
      last.session.answers.toList = [.continue, .stop, .stop] ∧
      Signals shortWarmUp (some Session.bursting) (overtakenRun ++ forsakenRun) last := by
  have told : ((CallerRun.start shortWarmUp (some Session.bursting)).play overtakenRun).map
      (fun run => (run.session.state.reason, run.accepted)) =
        some (some (.hardwareOverflow 2), [3, 5, 1, 3, 1, 3]) := by cbv
  have retold : ((CallerRun.start shortWarmUp (some Session.bursting)).play
      (overtakenRun ++ forsakenRun)).map
        (fun run => (run.session.refusals, run.session.answers.toList)) =
          some ([2], [.continue, .stop, .stop]) := by cbv
  obtain ⟨run, played, told⟩ := Option.map_eq_some_iff.mp told
  obtain ⟨last, replayed, retold⟩ := Option.map_eq_some_iff.mp retold
  simp only [Prod.mk.injEq] at told retold
  have honest : Honest (overtakenRun ++ forsakenRun) := by
    simp [Honest, overtakenRun, forsakenRun]
  have rest := replayed
  rw [play_append, played, Option.bind_some] at rest
  exact ⟨run, last, played, told.1, told.2, signals_of_play played honest.of_append (by decide),
    rest, retold.1, retold.2, signals_of_play replayed honest (by decide)⟩

end CallerRun

end SampleCapture
