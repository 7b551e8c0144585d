import SampleCapture.Proofs.Session.Answers
import SampleCapture.Proofs.Session.Balance
import SampleCapture.Proofs.Session.Overflow

/-!
# The caller with any consumer

A session whose recorder stands still, with the consumer's end of its queue in other hands:
whoever holds it takes bytes out at any moment, or leaves. Everything else is as in a session,
so that between any two steps of the caller somebody may ask for a stop.
-/

namespace SampleCapture

/-! ## The consumer's end -/

namespace Channel

inductive Use (channel : Channel) : Channel → Prop where
  | pop (limit : Nat) (idle : channel.consumer = .idle) : Use channel (channel.beginPop limit)
  | leave (idle : channel.consumer = .idle) : Use channel channel.beginLeave
  | step {next : Channel} {result : Option (List UInt8)} (step : channel.ConsumerStep next result) :
      Use channel next

theorem Use.producer {channel next : Channel} (use : channel.Use next) :
    next.producer = channel.producer ∨ next.producer = channel.producer.woken := by
  cases use with
  | pop | leave => exact .inl rfl
  | step step => exact step.producer

theorem Use.abandoned {channel next : Channel} (use : channel.Use next)
    (gone : channel.queue.abandoned = true) : next.queue.abandoned = true := by
  cases use with
  | pop => exact gone
  | leave => rfl
  | step step => exact step.abandoned.trans gone

end Channel

/-! ## The caller's side of a session -/

/-- A session with the consumer's end of its queue in other hands, and what has gone into the
queue so far. -/
structure CallerRun where
  session : Session
  accepted : List UInt8 := []

/-- A move of the session, or the beginning of a call at the other end of the queue, or a step
of it. -/
inductive CallerMove where
  | session (move : Move)
  | pop (limit : Nat)
  | leave
  | consumer

def CallerMove.move? : CallerMove → Option Move
  | .session move => some move
  | .pop _ | .leave | .consumer => none

def CallerMove.moves (moves : List CallerMove) : List Move :=
  moves.filterMap move?

theorem CallerMove.moves_append (first second : List CallerMove) :
    CallerMove.moves (first ++ second) = CallerMove.moves first ++ CallerMove.moves second :=
  List.filterMap_append

namespace Session

def queued (session : Session) : List UInt8 :=
  session.lane.elim [] (·.channel.queue.bytes)

theorem queued_of_lane {session : Session} {lane : RecorderLane}
    (running : session.lane = some lane) :
    session.queued = lane.channel.queue.bytes := by
  rw [queued, running]
  rfl

end Session

namespace CallerRun

def start (config : CaptureOptions) (output : Option Writer) : CallerRun where
  session := Session.start config none output

/-- A move of the session has been made; what the queue has grown by has gone into it. -/
def after (run : CallerRun) (next : Session) : CallerRun where
  session := next
  accepted := run.accepted ++ next.queued.drop run.session.queued.length

def act (run : CallerRun) (operation : Channel → Option Channel) : Option CallerRun :=
  run.session.lane.bind fun lane => (operation lane.channel).map fun channel =>
    { run with session := run.session.withChannel channel }

def step? (run : CallerRun) : CallerMove → Option CallerRun
  | .session .recorder => none
  | .session move => (run.session.step? move).map run.after
  | .pop limit => run.act fun channel =>
      if channel.consumer = .idle then some (channel.beginPop limit) else none
  | .leave => run.act fun channel =>
      if channel.consumer = .idle then some channel.beginLeave else none
  | .consumer => run.act fun channel => channel.consumerStep?.map (·.1)

def play (run : CallerRun) : List CallerMove → Option CallerRun
  | [] => some run
  | move :: moves => (run.step? move).bind fun next => next.play moves

inductive Step (run : CallerRun) : CallerMove → CallerRun → Prop where
  | session {move : Move} {next : Session} (still : move ≠ .recorder)
      (step : run.session.Step move next) : Step run (.session move) (run.after next)
  | consumer {move : CallerMove} {lane : RecorderLane} {channel : Channel}
      (silent : move.move? = none)
      (running : run.session.lane = some lane) (use : lane.channel.Use channel) :
      Step run move { run with session := run.session.withChannel channel }

theorem Step.of_act {run next : CallerRun} {move : CallerMove}
    {operation : Channel → Option Channel}
    (moved : run.act operation = some next) (silent : move.move? = none)
    (used : ∀ channel later, operation channel = some later → channel.Use later) :
    run.Step move next := by
  obtain ⟨lane, running, mapped⟩ := Option.bind_eq_some_iff.mp moved
  obtain ⟨channel, operated, rfl⟩ := Option.map_eq_some_iff.mp mapped
  exact .consumer silent running (used lane.channel channel operated)

theorem Step.of_step? {run next : CallerRun} {move : CallerMove}
    (moved : run.step? move = some next) :
    run.Step move next := by
  have given {channel operated later : Channel}
      (made : (if channel.consumer = .idle then some operated else none) = some later) :
      channel.consumer = .idle ∧ operated = later := by
    rwa [Option.ite_none_right_eq_some, Option.some.injEq] at made
  cases move with
  | session move =>
      by_cases recorder : move = .recorder
      · subst recorder
        cases moved
      · have mapped : (run.session.step? move).map run.after = some next := by
          cases move <;> first | exact moved | exact absurd rfl recorder
        obtain ⟨session, stepped, rfl⟩ := Option.map_eq_some_iff.mp mapped
        exact .session recorder (.of_step? stepped)
  | pop limit =>
      rw [step?] at moved
      refine .of_act moved rfl fun channel later made => ?_
      obtain ⟨idle, rfl⟩ := given made
      exact .pop limit idle
  | leave =>
      rw [step?] at moved
      refine .of_act moved rfl fun channel later made => ?_
      obtain ⟨idle, rfl⟩ := given made
      exact .leave idle
  | consumer =>
      rw [step?] at moved
      refine .of_act moved rfl fun channel later made => ?_
      obtain ⟨⟨other, result⟩, stepped, rfl⟩ := Option.map_eq_some_iff.mp made
      exact .step ((channel.consumerStep?_eq_some_iff other result).mp stepped)

/-- An output after a move has been there before. -/
theorem Step.lane {run next : CallerRun} {move : CallerMove} (step : run.Step move next)
    {after : RecorderLane}
    (later : next.session.lane = some after) : ∃ lane, run.session.lane = some lane := by
  cases step with
  | session still step =>
      cases step with
      | caller step =>
          obtain ⟨lane, running, -⟩ := step.recorder later
          exact ⟨lane, running⟩
      | recorder running => exact ⟨_, running⟩
      | deliver | ask | finish | record | raise => exact ⟨after, later⟩
  | consumer silent running => exact ⟨_, running⟩

/-- The recorder does not move. -/
theorem Step.still {run next : CallerRun} {move : CallerMove} (step : run.Step move next)
    (still : ∀ lane, run.session.lane = some lane → lane.recorder.phase = .starting) :
    ∀ lane, next.session.lane = some lane → lane.recorder.phase = .starting := by
  intro after later
  cases step with
  | session moving step =>
      cases step with
      | caller step =>
          obtain ⟨lane, running, same⟩ := step.recorder later
          rw [same, still lane running]
      | recorder => exact absurd rfl moving
      | deliver | ask | finish | record | raise => exact still after later
  | @consumer _ lane channel silent running use =>
      cases Wired.lane_of_withChannel running later
      exact still lane running

theorem still_start (config : CaptureOptions) (output : Option Writer) :
    ∀ lane, (start config output).session.lane = some lane → lane.recorder.phase = .starting := by
  intro lane running
  cases output with
  | none => cases running
  | some writer =>
      cases running
      rfl

theorem play_append (run : CallerRun) (first second : List CallerMove) :
    run.play (first ++ second) = (run.play first).bind (·.play second) := by
  induction first generalizing run with
  | nil => rfl
  | cons move moves ih =>
      rw [List.cons_append, play, play, Option.bind_assoc]
      exact congrArg _ (funext ih)

theorem play_snoc {first run next : CallerRun} {past : List CallerMove} {move : CallerMove}
    (reached : first.play past = some run) (moved : run.step? move = some next) :
    first.play (past ++ [move]) = some next := by
  rw [play_append, reached, Option.bind_some, play, moved]
  rfl

/-- A property that every move of a run keeps holds at its end. -/
theorem play_moves {first : CallerRun} {motive : List CallerMove → CallerRun → Prop}
    (keeps : ∀ {past : List CallerMove} {run next : CallerRun} {move : CallerMove},
      first.play past = some run → run.step? move = some next → motive past run →
        motive (past ++ [move]) next)
    {past : List CallerMove} {run last : CallerRun} {moves : List CallerMove}
    (reached : first.play past = some run) (played : run.play moves = some last)
    (initial : motive past run) : motive (past ++ moves) last := by
  induction moves generalizing past run with
  | nil =>
      cases played
      rwa [List.append_nil]
  | cons move moves ih =>
      obtain ⟨next, moved, rest⟩ := Option.bind_eq_some_iff.mp played
      have later := ih (play_snoc reached moved) rest (keeps reached moved initial)
      rwa [List.append_assoc] at later

/-- A property that every step of a run keeps holds at its end. -/
theorem play_induction {first : CallerRun} {motive : List CallerMove → CallerRun → Prop}
    (keeps : ∀ {past : List CallerMove} {run next : CallerRun} {move : CallerMove},
      first.play past = some run → run.Step move next → motive past run →
        motive (past ++ [move]) next)
    {past : List CallerMove} {run last : CallerRun} {moves : List CallerMove}
    (reached : first.play past = some run) (played : run.play moves = some last)
    (initial : motive past run) : motive (past ++ moves) last :=
  play_moves (fun reached moved => keeps reached (.of_step? moved)) reached played initial

/-! ## Moments of a run -/

/-- There is a moment of the run at which this holds and the caller takes a step. -/
def Moment (first : CallerRun) (moves : List CallerMove) (holds : CallerRun → Prop) : Prop :=
  ∃ before later moment, moves = before ++ .session .caller :: later ∧
    first.play before = some moment ∧ holds moment

theorem Moment.later {first : CallerRun} {moves : List CallerMove}
    {holds stays : CallerRun → Prop}
    (moment : Moment first moves holds) (move : CallerMove)
    (stay : ∀ run, holds run → stays run) : Moment first (moves ++ [move]) stays := by
  obtain ⟨before, later, run, rfl, reached, held⟩ := moment
  exact ⟨before, later ++ [move], run, by simp, reached, stay run held⟩

theorem Moment.now {first run : CallerRun} {moves : List CallerMove} {holds : CallerRun → Prop}
    (reached : first.play moves = some run) (held : holds run) :
    Moment first (moves ++ [.session .caller]) holds :=
  ⟨moves, [], run, rfl, reached, held⟩

theorem Step.lasts {run next : CallerRun} {move : CallerMove} (step : run.Step move next) :
    run.session.state.Lasts next.session.state := by
  cases step with
  | session still step => exact step.lasts
  | consumer => exact .refl _

/-- In a call of the run the caller has asked for a stop with this reason, and it is the reason
if there was none. -/
def Asked (first : CallerRun) (moves : List CallerMove) (run : CallerRun) (call : Nat)
    (reason : StopReason) :
    Prop :=
  Moment first moves fun asking => asking.session.answers.size = call ∧
    asking.session.request? .caller = some reason ∧
      (asking.session.state.reason = none → run.session.state.reason = some reason)

namespace Asked

variable {first run next : CallerRun} {moves : List CallerMove} {move : CallerMove}
  {call : Nat}
  {reason : StopReason}

theorem later (asked : Asked first moves run call reason) (step : run.Step move next) :
    Asked first (moves ++ [move]) next call reason := by
  refine Moment.later asked move ?_
  rintro asking ⟨size, request, given⟩
  refine ⟨size, request, fun unasked => ?_⟩
  have known := given unasked
  rw [step.lasts.reason (by rw [known]; exact Option.some_ne_none _), known]

theorem now (reached : first.play moves = some run) {session : Session}
    (step : run.session.CallerStep session)
    (request : run.session.request? .caller = some reason) :
    Asked first (moves ++ [.session .caller]) (run.after session) run.session.answers.size
      reason := by
  refine Moment.now reached ⟨rfl, request, fun unasked => ?_⟩
  have given := (Session.Step.caller step).reason_eq
  rw [unasked, request] at given
  exact given

end Asked

end CallerRun

end SampleCapture
