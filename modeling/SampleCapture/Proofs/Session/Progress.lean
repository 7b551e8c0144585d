import SampleCapture.Proofs.Queue.Wakeups
import SampleCapture.Proofs.Session.Effort
import SampleCapture.Proofs.Session.Results
import SampleCapture.Queue.Exchange

/-!
# Progress

As long as the caller has not returned, one of the two threads can take a step, or the
source has control. Together with the bound on their steps this means that a session
whose source ends comes to a result under every schedule.
-/

namespace SampleCapture

/-! ## Who can go on -/

namespace Channel

/-- A producer at the lock never has to wait for its step. -/
theorem producerStep?_of_ready {channel : Channel} {rest : List UInt8}
    (ready : channel.producer = .ready rest) :
    ∃ moved, channel.producerStep? = some moved := by
  by_cases nothing : rest = []
  · subst nothing
    exact ⟨_, (channel.producerStep?_eq_some_iff _ _).mpr (.nothing ready)⟩
  cases present : channel.queue.abandoned with
  | true => exact ⟨_, (channel.producerStep?_eq_some_iff _ _).mpr (.refused ready nothing present)⟩
  | false =>
      by_cases fits : channel.queue.excess rest = []
      · by_cases unbounded : channel.queue.capacity = 0
        · exact ⟨_, (channel.producerStep?_eq_some_iff _ _).mpr
            (.put ready nothing present unbounded)⟩
        · exact ⟨_, (channel.producerStep?_eq_some_iff _ _).mpr
            (.last ready nothing present unbounded fits)⟩
      · exact ⟨_, (channel.producerStep?_eq_some_iff _ _).mpr (.piece ready present fits)⟩

/-- Nor has a consumer. -/
theorem consumerStep?_of_ready {channel : Channel} {limit : Nat}
    (ready : channel.consumer = .ready limit) :
    ∃ moved, channel.consumerStep? = some moved := by
  by_cases zero : limit = 0
  · subst zero
    exact ⟨_, (channel.consumerStep?_eq_some_iff _ _).mpr (.nothing ready)⟩
  by_cases empty : channel.queue.bytes = []
  · cases closed : channel.queue.closed with
    | true => exact ⟨_, (channel.consumerStep?_eq_some_iff _ _).mpr (.ended ready zero empty closed)⟩
    | false => exact ⟨_, (channel.consumerStep?_eq_some_iff _ _).mpr (.wait ready zero empty closed)⟩
  · by_cases unbounded : channel.queue.capacity = 0
    · exact ⟨_, (channel.consumerStep?_eq_some_iff _ _).mpr (.take ready zero empty unbounded)⟩
    · exact ⟨_, (channel.consumerStep?_eq_some_iff _ _).mpr (.make ready zero empty unbounded)⟩

theorem asleep_of_pushWaits {channel : Channel} (waits : channel.pushWaits = true) :
    ∃ rest, channel.producer = .asleep rest := by
  unfold pushWaits at waits
  split at waits
  · exact ⟨_, by assumption⟩
  · cases waits

theorem asleep_of_popWaits {channel : Channel} (waits : channel.popWaits = true) :
    ∃ limit, channel.consumer = .asleep limit := by
  unfold popWaits at waits
  split at waits
  · exact ⟨_, by assumption⟩
  · cases waits

end Channel

/-- A recorder that has not ended and does not wait for bytes can go on. -/
theorem RecorderThread.step?_of_up {thread : RecorderThread}
    (hosts : thread.recorder.phase.Hosts thread.recorder.sliceBytes thread.channel.consumer)
    (running : ∀ ending, thread.recorder.phase ≠ .ended ending)
    (up : ∀ limit, thread.channel.consumer ≠ .asleep limit) :
    ∃ next, thread.step? = some next := by
  cases phase : thread.recorder.phase with
  | popping =>
      rw [phase] at hosts
      have moved : ∃ moved, thread.channel.consumerStep? = some moved := by
        rcases hosts with ready | asleep | ⟨taken, -, -, owing⟩
        · exact Channel.consumerStep?_of_ready ready
        · exact absurd asleep (up _)
        · exact ⟨_, (thread.channel.consumerStep?_eq_some_iff _ _).mpr (.woke owing)⟩
      obtain ⟨moved, step⟩ := moved
      simp [step?, phase, step]
  | departing ending =>
      rw [phase] at hosts
      have step := (thread.channel.consumerStep?_eq_some_iff _ _).mpr (.left hosts)
      simp [step?, phase, step]
  | ended ending => exact absurd phase (running ending)
  | failing effects fault => cases effects <;> simp [step?, phase]
  | checking =>
      simp only [step?, phase]
      split <;> exact ⟨_, rfl⟩
  | starting | noticing | writing | counting | flushing | finishing | leaving | releasing =>
      simp [step?, phase]

/-! ## The queue of a session -/

def CallerPhase.usesQueue : CallerPhase → Bool
  | .pushing _ _ | .closing _ => true
  | _ => false

theorem CallerPhase.usesQueue_next? {phase after : CallerPhase} {effect : Effect}
    (row : phase.next? = some (effect, after)) : after.usesQueue = false := by
  unfold CallerPhase.next? at row
  split at row <;> cases row <;> rfl

namespace Session

/-- Nobody waits in vain at the queue, and there is one if the caller uses it. -/
structure Roused (session : Session) : Prop where
  alert : ∀ {lane}, session.lane = some lane → lane.channel.Alert
  queue : session.phase.usesQueue = true → ∃ lane, session.lane = some lane

namespace Roused

variable {session next : Session}

theorem start (config : CaptureOptions) (preStop : Option StopReason) (output : Option Writer) :
    (start config preStop output).Roused := by
  cases output with
  | none => exact ⟨nofun, nofun⟩
  | some writer =>
      refine ⟨?_, nofun⟩
      rintro lane ⟨⟩
      exact .create _

theorem callerStep (roused : session.Roused) (step : session.CallerStep next)
    (wired : ∀ lane, session.lane = some lane → Wired session.phase lane) : next.Roused := by
  cases step with
  | perform row =>
      refine ⟨roused.alert, fun uses => ?_⟩
      rw [phase_goTo, CallerPhase.usesQueue_next? row] at uses
      cases uses
  | @offer samples report lane phase running =>
      have hosts := (wired lane running).caller
      rw [phase] at hosts
      constructor
      case alert =>
        rintro after later
        cases Wired.lane_of_withChannel running later
        exact (roused.alert running).beginPush hosts _
      case queue => exact fun _ => ⟨_, lane_withChannel_of_lane running _⟩
  | @push samples report lane channel result phase running step =>
      constructor
      case alert =>
        rintro after later
        cases Wired.lane_of_withChannel running later
        exact (roused.alert running).producerStep (wired lane running).linked step
      case queue => exact fun _ => ⟨_, lane_withChannel_of_lane running _⟩
  | @close error lane phase running =>
      constructor
      case alert =>
        rintro after later
        cases Wired.lane_of_withChannel running later
        exact .beginClose
      case queue => exact fun _ => ⟨_, lane_withChannel_of_lane running _⟩
  | @closed error lane channel result phase running step =>
      refine ⟨?_, nofun⟩
      rintro after later
      cases Wired.lane_of_withChannel running later
      exact (roused.alert running).producerStep (wired lane running).linked step
  | @conclude error writeError phase =>
      obtain ⟨log, concluded⟩ := session.conclude_eq error writeError
      rw [concluded]
      exact ⟨roused.alert, nofun⟩
  | @join error lane ending =>
      refine ⟨fun later => roused.alert (by rwa [lane_joined] at later), fun uses => ?_⟩
      cases ending <;> cases uses
  | asked | ingest | skip | settled | report | answer | unlink | endTransfer | wait | ended
  | joinNobody | collapsed => exact ⟨roused.alert, nofun⟩

theorem recorderStep (roused : session.Roused) {lane : RecorderLane}
    (running : session.lane = some lane)
    (wired : Wired session.phase lane) {thread : RecorderThread}
    (step : (session.thread lane).Step thread) : (session.withThread thread).Roused := by
  have alert := roused.alert running
  have hosts := wired.recorder
  refine ⟨?_, fun _ => ⟨_, rfl⟩⟩
  rintro after later
  cases Wired.lane_of_withThread later
  cases step with
  | slice phase | noticed phase =>
      change lane.recorder.phase = _ at phase
      rw [phase] at hosts
      exact alert.beginPop hosts _
  | pop phase step => exact alert.consumerStep step
  | leave phase => exact alert.beginLeave
  | depart phase step => exact alert.consumerStep step
  | start | notice | write | count | flush | finish | failed | fail | release => exact alert

theorem step {move : Move} (roused : session.Roused) (step : session.Step move next)
    (wired : ∀ lane, session.lane = some lane → Wired session.phase lane) : next.Roused := by
  cases step with
  | caller step => exact roused.callerStep step wired
  | recorder running step => exact roused.recorderStep running (wired _ running) step
  | deliver burst report ready =>
      refine ⟨roused.alert, fun uses => ?_⟩
      rw [phase_goTo] at uses
      split at uses <;> cases uses
  | ask reason ready | finish error ready => exact ⟨roused.alert, nofun⟩
  | record reason | raise asked => exact ⟨roused.alert, roused.queue⟩

theorem of_play {config : CaptureOptions} {preStop : Option StopReason} {output : Option Writer}
    {moves : List Move} (played : (Session.start config preStop output).play moves = some session) :
    session.Roused := by
  refine (play_induction (motive := fun _ session =>
    Manned config output session ∧ session.Roused) ?_ [] played
      ⟨.start config preStop output, .start config preStop output⟩).2
  rintro past session next move step ⟨manned, roused⟩
  exact ⟨manned.step step, roused.step step fun _ running => manned.wired running⟩

end Roused

/-! ## No standstill -/

section Standstill

variable {config : CaptureOptions} {output : Option Writer} {session : Session}

/-- The caller can go on, unless the source has control, a push waits for room, the recorder
has still to end, or there is nothing left to do. -/
theorem callerStep?_or (manned : Manned config output session) (roused : session.Roused)
    (pending : session.outcome? = none) :
    (∃ next, session.callerStep? = some next) ∨ session.phase = .atSource ∨
      ∃ lane, session.lane = some lane ∧
        ((∃ rest, lane.channel.producer = .asleep rest) ∨
          lane.channel.producer = .gone ∧ ∀ ending, lane.recorder.phase ≠ .ended ending) := by
  cases phase : session.phase with
  | atSource => exact .inr (.inl rfl)
  | pushing samples report =>
      obtain ⟨lane, running⟩ := roused.queue (by rw [phase]; rfl)
      have hosts := (manned.wired running).caller
      rw [phase] at hosts
      have moves {moved : Channel × Option PushResult}
          (step : lane.channel.producerStep? = some moved) :
          ∃ next, session.callerStep? = some next := by
        simp [callerStep?, phase, running, step]
      rcases hosts with owing | ⟨rest, -, ready | asleep⟩
      · exact .inl (moves ((lane.channel.producerStep?_eq_some_iff _ _).mpr (.woke owing)))
      · obtain ⟨moved, step⟩ := Channel.producerStep?_of_ready ready
        exact .inl (moves step)
      · exact .inr (.inr ⟨lane, running, .inl ⟨rest, asleep⟩⟩)
  | closing error =>
      obtain ⟨lane, running⟩ := roused.queue (by rw [phase]; rfl)
      have hosts := (manned.wired running).caller
      rw [phase] at hosts
      have step := (lane.channel.producerStep?_eq_some_iff _ _).mpr (.left hosts)
      exact .inl (by simp [callerStep?, phase, running, step])
  | joining error =>
      cases running : session.lane with
      | none => exact .inl (by simp [callerStep?, phase, running])
      | some lane =>
          have hosts := (manned.wired running).caller
          rw [phase] at hosts
          cases recorder : lane.recorder.phase with
          | ended ending => exact .inl (by simp [callerStep?, phase, running, recorder])
          | _ => exact .inr (.inr ⟨lane, rfl, .inr ⟨hosts, by simp [recorder]⟩⟩)
  | checking error =>
      simp only [callerStep?, phase]
      split <;> exact .inl ⟨_, rfl⟩
  | finishing error =>
      simp only [callerStep?, phase]
      split <;> exact .inl ⟨_, rfl⟩
  | returned outcome =>
      rw [outcome?, phase] at pending
      cases pending
  | asking effects | collapsing effects =>
      cases effects <;> exact .inl (by simp [callerStep?, phase])
  | marking effects samples report =>
      cases effects <;> exact .inl (by simp [callerStep?, phase])
  | settling effects report =>
      cases effects <;> exact .inl (by simp [callerStep?, phase])
  | ending effects error =>
      cases effects <;> exact .inl (by simp [callerStep?, phase])
  | counting | reporting | answering | concluding => exact .inl (by simp [callerStep?, phase])

/-- A recorder that waits for bytes has an open queue and nobody who has still to wake it. -/
theorem producer_of_dozing {lane : RecorderLane} (roused : session.Roused)
    (running : session.lane = some lane) (linked : lane.channel.Linked) {limit : Nat}
    (dozing : lane.channel.consumer = .asleep limit) :
    lane.channel.producer ≠ .gone ∧ ∀ rest, lane.channel.producer ≠ .asleep rest := by
  have alert := roused.alert running
  constructor
  · intro gone
    have opened := (alert.consumer dozing (by rw [gone]; rfl)).2
    rw [linked.closed, gone] at opened
    cases opened
  · intro rest asleep
    exact alert.apart asleep dozing

/-- Nobody waits for room in the queue of a recorder that has ended. -/
theorem producer_of_ended {lane : RecorderLane} (manned : Manned config output session)
    (roused : session.Roused) (running : session.lane = some lane) {ending : RecorderEnd}
    (ended : lane.recorder.phase = .ended ending) (rest : List UInt8) :
    lane.channel.producer ≠ .asleep rest := by
  intro asleep
  have wired := manned.wired running
  have gone := wired.recorder
  rw [ended] at gone
  change lane.channel.consumer = .gone at gone
  have present := ((roused.alert running).producer asleep (by rw [gone]; rfl)).2
  rw [wired.linked.abandoned, gone] at present
  cases present

/-- While the caller has not returned, somebody can go on. -/
theorem thread_step_or (manned : Manned config output session) (roused : session.Roused)
    (pending : session.outcome? = none) :
    (∃ next, session.callerStep? = some next) ∨ (∃ next, session.recorderStep? = some next) ∨
      session.phase = .atSource := by
  rcases callerStep?_or manned roused pending with moved | source | ⟨lane, running, waiting⟩
  · exact .inl moved
  · exact .inr (.inr source)
  have wired := manned.wired running
  have unended : ∀ ending, lane.recorder.phase ≠ .ended ending := by
    rcases waiting with ⟨rest, asleep⟩ | ⟨-, unended⟩
    · intro ending ended
      exact producer_of_ended manned roused running ended rest asleep
    · exact unended
  have up : ∀ limit, lane.channel.consumer ≠ .asleep limit := by
    intro limit dozing
    obtain ⟨staying, awake⟩ := producer_of_dozing roused running wired.linked dozing
    rcases waiting with ⟨rest, asleep⟩ | ⟨gone, -⟩
    · exact awake rest asleep
    · exact staying gone
  obtain ⟨thread, step⟩ := (session.thread lane).step?_of_up wired.recorder unended up
  refine .inr (.inl ⟨session.withThread thread, ?_⟩)
  rw [recorderStep?, running, Option.bind_some, step, Option.map_some]

/-- Once the source has ended, it is up to the two threads. -/
theorem thread_step_of_finished (manned : Manned config output session) (roused : session.Roused)
    {moves : List Move} (follows : session.phase.Follows (Move.results moves))
    {error : Option CaptureError} (finished : .finish error ∈ moves)
    (pending : session.outcome? = none) :
    (∃ next, session.callerStep? = some next) ∨ ∃ next, session.recorderStep? = some next := by
  rcases thread_step_or manned roused pending with caller | recorder | source
  · exact .inl caller
  · exact .inr recorder
  · have member := Move.mem_results.mpr finished
    rw [source] at follows
    rw [show Move.results moves = [] from follows] at member
    cases member

/-- Once the source has ended, the caller is on the way to the queue's end or behind it. -/
theorem closing_or_gone (manned : Manned config output session) {moves : List Move}
    (follows : session.phase.Follows (Move.results moves)) {error : Option CaptureError}
    (finished : .finish error ∈ moves) {lane : RecorderLane} (running : session.lane = some lane) :
    session.phase = .finishing error ∨ session.phase = .closing error ∨
      lane.channel.producer = .gone := by
  have hosts := (manned.wired running).caller
  have member := Move.mem_results.mpr finished
  cases phase : session.phase with
  | finishing other | closing other =>
      rw [phase] at follows
      rw [show Move.results moves = [other] from follows] at member
      cases List.mem_singleton.mp member
      simp
  | checking | ending | joining | concluding | collapsing | returned =>
      rw [phase] at hosts
      exact .inr (.inr hosts)
  | atSource | asking | counting | marking | pushing | settling | reporting | answering =>
      rw [phase] at follows
      rw [show Move.results moves = [] from follows] at member
      cases member

end Standstill

end Session

namespace Move

def isSource : Move → Bool
  | .deliver _ _ | .ask _ | .finish _ => true
  | .caller | .recorder | .record _ | .raise => false

end Move

namespace Session

/-- A session that can go on, after these moves. -/
structure Unstuck (moves : List Move) (session : Session) : Prop where
  /-- Until the caller has returned, it can take a step, or the recorder can, or the source
  has control and can do whatever it likes. -/
  progress : session.outcome? = none →
    (∃ next, session.step? .caller = some next) ∨ (∃ next, session.step? .recorder = some next) ∨
      ∀ move, move.isSource = true → ∃ next, session.step? move = some next
  /-- When the recorder has ended, in whatever way, nobody waits for room, and a push in
  progress goes on. -/
  push : ∀ lane ending, session.lane = some lane → lane.recorder.phase = .ended ending →
    lane.channel.pushWaits = false ∧ ∀ samples report,
      session.phase = .pushing samples report → ∃ next, session.step? .caller = some next
  /-- When the source has ended, the recorder waits for bytes only until the caller has closed
  the queue and woken it, which nothing keeps the caller from doing. -/
  pop : ∀ error, .finish error ∈ moves → ∀ lane, session.lane = some lane →
    lane.channel.popWaits = true →
      (session.phase = .finishing error ∨ session.phase = .closing error) ∧
        ∃ next, session.step? .caller = some next
  /-- When the source has ended, it is up to the two threads. -/
  ends : ∀ error, .finish error ∈ moves → session.outcome? = none →
    (∃ next, session.step? .caller = some next) ∨ ∃ next, session.step? .recorder = some next
  /-- They make only so many steps as the calls of the source allow. -/
  finite : Move.threadSteps moves ≤ Move.budget moves + 14

/-- No schedule leads a session to a standstill, and a source that ends leads it to a result. -/
theorem unstuck_of_play {config : CaptureOptions} {preStop : Option StopReason}
    {output : Option Writer} {moves : List Move} {session : Session}
    (played : (start config preStop output).play moves = some session) :
    session.Unstuck moves := by
  have manned : Manned config output session := .of_play played
  have roused := Roused.of_play played
  have follows := follows_of_play played
  constructor
  case progress =>
    intro pending
    rcases thread_step_or manned roused pending with caller | recorder | source
    · exact .inl caller
    · exact .inr (.inl recorder)
    · refine .inr (.inr fun move guest => ?_)
      have ready : session.sourceReady = true := by rw [sourceReady, source]
      cases move with
      | deliver | ask | finish => exact ⟨_, if_pos ready⟩
      | caller | recorder | record | raise => cases guest
  case push =>
    intro lane ending running ended
    have up := producer_of_ended manned roused running ended
    constructor
    · apply Bool.eq_false_iff.mpr
      intro waits
      obtain ⟨rest, asleep⟩ := Channel.asleep_of_pushWaits waits
      exact up rest asleep
    · intro samples report phase
      have hosts := (manned.wired running).caller
      rcases callerStep?_or manned roused (by rw [outcome?, phase]) with moved | source | waiting
      · exact moved
      · cases phase.symm.trans source
      · obtain ⟨other, known, ⟨rest, asleep⟩ | ⟨-, unended⟩⟩ := waiting
        · cases running.symm.trans known
          exact absurd asleep (up rest)
        · cases running.symm.trans known
          exact absurd ended (unended ending)
  case pop =>
    intro error finished lane running waits
    obtain ⟨limit, dozing⟩ := Channel.asleep_of_popWaits waits
    have staying := (producer_of_dozing roused running (manned.wired running).linked dozing).1
    have hosts := (manned.wired running).caller
    rcases closing_or_gone manned follows finished running with phase | phase | gone
    · exact ⟨.inl phase, by simp [step?, callerStep?, phase, running]⟩
    · rw [phase] at hosts
      have step := (lane.channel.producerStep?_eq_some_iff _ _).mpr (.left hosts)
      exact ⟨.inr phase, by simp [step?, callerStep?, phase, running, step]⟩
    · exact absurd gone staying
  case ends =>
    exact fun error finished => thread_step_of_finished manned roused follows finished
  case finite => exact threadSteps_le played

/-! ## An output that crashes -/

/-- A writer that crashes on its first call. -/
def bursting : Writer where
  respond _ _ _ := .crash
  flushed := .done
  calmFrom := 0
  calm _ response := by cases response

def narrowConfig : CaptureOptions where
  warmUpBytes := 0
  queueCapacity := 512
  writeSliceBytes := 512
  writeBufferBytes := 512

/-- A burst fills the queue, the caller waits for room in the middle of its push, and the
recorder crashes on the first slice and leaves. -/
def crashRun : List Move :=
  List.flatten [[.deliver (List.replicate 600 0x29) none], List.replicate 3 .caller,
    List.replicate 4 .recorder, [.caller], List.replicate 4 .recorder]

set_option maxRecDepth 100000 in
/-- The push is still going on when the recorder has crashed, and it can be finished. -/
theorem unstuck_crashed :
    ∃ session, (start narrowConfig none (some bursting)).play crashRun = some session ∧
      session.phase.usesQueue = true ∧ session.recorderEnd? = some .crashed ∧
      session.Unstuck crashRun := by
  have told : ((start narrowConfig none (some bursting)).play crashRun).map
      (fun session => (session.phase.usesQueue, session.recorderEnd?)) =
        some (true, some .crashed) := by cbv
  obtain ⟨session, played, told⟩ := Option.map_eq_some_iff.mp told
  exact ⟨session, played, congrArg Prod.fst told, congrArg Prod.snd told, unstuck_of_play played⟩

end Session

end SampleCapture
