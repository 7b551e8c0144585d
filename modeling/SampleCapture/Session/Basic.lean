import SampleCapture.Intake.Basic
import SampleCapture.Options
import SampleCapture.Recorder

/-!
# The capture session

Two parties share a channel and the capture state: the caller, who runs the source and
the intake, and the recorder. The source is a guest of the caller: when it has control
it may deliver a burst, ask for a stop itself, or end. Anybody else may ask for a stop
at any moment. `Session.step?` says what one move of one of them does; a run is any row
of moves, so a statement about all runs covers every interleaving.

When the source has ended, the caller closes the queue, waits for the recorder, and
draws up the summary.
-/

namespace SampleCapture

structure Summary where
  counters : Counters
  stopReason : Option StopReason
  /-- Why the recorder failed; the samples before that are in the file. -/
  writeError : Option String
deriving Repr, DecidableEq, Inhabited

inductive Outcome where
  | summary (summary : Summary)
  | failure (error : CaptureError)
deriving Repr, DecidableEq, Inhabited

/-- Where the caller is. A burst is counted, then marked with the effects that come
before the queue, then pushed, then settled with the effects that come after it. -/
inductive CallerPhase where
  /-- The source has control. -/
  | atSource
  /-- The source asks for a stop itself. -/
  | asking (effects : List Effect)
  | counting (burst : List UInt8) (report : Option ProgressSnapshot)
  | marking (effects : List Effect) (samples : List UInt8) (report : Option ProgressSnapshot)
  | pushing (samples : List UInt8) (report : Option ProgressSnapshot)
  | settling (effects : List Effect) (report : Option ProgressSnapshot)
  | reporting (report : Option ProgressSnapshot)
  /-- About to look at the stop flag for the answer. -/
  | answering
  /-- The source has ended, with an error or without one. -/
  | finishing (error : Option CaptureError)
  /-- The queue is closed, the recorder still to be woken. -/
  | closing (error : Option CaptureError)
  /-- About to look at the stop flag after the end of the source. -/
  | checking (error : Option CaptureError)
  /-- Asking for a stop because the transfer has ended. -/
  | ending (effects : List Effect) (error : Option CaptureError)
  /-- Waiting for the end of the recorder. -/
  | joining (error : Option CaptureError)
  /-- The recorder has crashed. -/
  | collapsing (effects : List Effect)
  | concluding (error : Option CaptureError) (writeError : Option String)
  | returned (outcome : Outcome)
deriving Inhabited

/-- The recorder as a part of a session, with its own log. -/
structure RecorderLane where
  channel : Channel
  recorder : Recorder
  log : Array Event := #[]

structure Session where
  config : CaptureOptions
  state : SharedState := {}
  intake : Intake
  phase : CallerPhase := .atSource
  /-- The caller's log. -/
  log : Array Event := #[]
  /-- Missing if there is no output. -/
  lane : Option RecorderLane
  /-- The answers that the source has been given. -/
  answers : Array Answer := #[]
  /-- How many others are between the two steps of a stop request. -/
  askers : Nat := 0

inductive Move where
  | caller
  | recorder
  /-- The source delivers a burst and perhaps a report. -/
  | deliver (burst : List UInt8) (report : Option ProgressSnapshot)
  /-- The source asks for a stop. -/
  | ask (reason : StopReason)
  /-- The source ends. -/
  | finish (error : Option CaptureError)
  /-- Somebody else takes the first step of a stop request. -/
  | record (reason : StopReason)
  /-- Somebody else takes the second step of a stop request. -/
  | raise

namespace Session

/-- The caller's view of the shared state. -/
def shared (session : Session) : LoggedState where
  state := session.state
  log := session.log

def withShared (session : Session) (shared : LoggedState) : Session :=
  { session with state := shared.state, log := shared.log }

def perform (session : Session) (effect : Effect) : Session :=
  session.withShared (session.shared.perform effect)

def goTo (session : Session) (phase : CallerPhase) : Session :=
  { session with phase := phase }

def withChannel (session : Session) (channel : Channel) : Session :=
  { session with lane := session.lane.map fun lane => { lane with channel := channel } }

/-- A session before its start: the configuration is put in order, and somebody may have
asked for a stop already. -/
def create (config : CaptureOptions) (preStop : Option StopReason) (output : Option Writer) :
    Session :=
  let config := config.normalize
  let requested := preStop.elim ({} : LoggedState) ({} : LoggedState).askStop
  { config := config
    state := requested.state
    intake := .start config.warmUpBytes
    log := requested.log
    lane := output.map fun writer =>
      { channel := .create config.queueCapacity.toNat
        recorder := .start config.writeSliceBytes.toNat
          { writer := writer
            buffer := some { capacity := config.writeBufferBytes.toNat } } } }

def opened (session : Session) : Session :=
  let noted := if session.lane.isNone then session.perform (.log .outputMissing) else session
  noted.perform
    (.log (.captureStarted session.config.warmUpBytes session.config.queueCapacity.toNat))

/-- A session whose source is about to get control for the first time. -/
def start (config : CaptureOptions) (preStop : Option StopReason) (output : Option Writer) :
    Session :=
  (create config preStop output).opened

def ingest (session : Session) (burst : List UInt8) (report : Option ProgressSnapshot) :
    Session :=
  let plan := session.intake.plan session.state.counters.received burst
  let counted := session.perform (Intake.countReceived burst)
  { counted with
    intake := plan.intake
    phase := .marking plan.effects plan.samples report }

def queueSamples (session : Session) (samples : List UInt8) (report : Option ProgressSnapshot) :
    Session :=
  match session.lane with
  | none => session.goTo (.reporting report)
  | some lane =>
      if samples = [] then session.goTo (.reporting report)
      else (session.withChannel (lane.channel.beginPush samples)).goTo (.pushing samples report)

def joined (session : Session) (error : Option CaptureError) : RecorderEnd → Session
  | .finished _ => session.goTo (.concluding error none)
  | .failed fault => session.goTo (.concluding error (some (CaptureError.io fault).message))
  | .crashed => session.goTo (.collapsing (Effect.stop .writeFailed))

def crashError : CaptureError := .other "writer thread died unexpectedly"

/-- Draws up the result. An error of the source is reported only if no stop has been
asked for; otherwise it is noted and the capture counts as ended by the request. -/
def conclude (session : Session) (error : Option CaptureError) (writeError : Option String) :
    Session :=
  let summary : Summary :=
    { counters := session.state.counters
      stopReason := session.state.reason
      writeError := writeError }
  let noted := session.perform (.log (.captureEnded summary.counters))
  match error, session.state.reason with
  | none, _ => noted.goTo (.returned (.summary summary))
  | some error, some _ =>
      (noted.perform (.log (.transferFailedAfterStop error))).goTo (.returned (.summary summary))
  | some error, none => noted.goTo (.returned (.failure error))

/-- The caller's next step; none while the source has control, while the caller waits
for room in the queue or for the end of the recorder, and at the end. -/
def callerStep? (session : Session) : Option Session :=
  match session.phase with
  | .atSource => none
  | .asking [] => some (session.goTo .atSource)
  | .asking (effect :: effects) => some ((session.perform effect).goTo (.asking effects))
  | .counting burst report => some (session.ingest burst report)
  | .marking [] samples report => some (session.queueSamples samples report)
  | .marking (effect :: effects) samples report =>
      some ((session.perform effect).goTo (.marking effects samples report))
  | .pushing samples report =>
      session.lane.bind fun lane => lane.channel.producerStep?.map fun (channel, pushed) =>
        let next := session.withChannel channel
        match pushed with
        | none => next
        | some result => next.goTo (.settling (Intake.afterPush samples result) report)
  | .settling [] report => some (session.goTo (.reporting report))
  | .settling (effect :: effects) report =>
      some ((session.perform effect).goTo (.settling effects report))
  | .reporting report =>
      let effects := Intake.reportEffects session.state report
      some ((session.withShared (session.shared.performAll effects)).goTo .answering)
  | .answering =>
      let answer := Intake.answer session.state
      some ({ session with answers := session.answers.push answer }.goTo .atSource)
  | .finishing error =>
      match session.lane with
      | none => some (session.goTo (.checking error))
      | some lane => some ((session.withChannel lane.channel.beginClose).goTo (.closing error))
  | .closing error =>
      session.lane.bind fun lane => lane.channel.producerStep?.map fun (channel, _) =>
        (session.withChannel channel).goTo (.checking error)
  | .checking error =>
      if error.isNone && !session.state.stopping then
        some (session.goTo (.ending (Effect.stop .transferEnded) error))
      else some (session.goTo (.joining error))
  | .ending [] error => some (session.goTo (.joining error))
  | .ending (effect :: effects) error =>
      some ((session.perform effect).goTo (.ending effects error))
  | .joining error =>
      match session.lane with
      | none => some (session.goTo (.concluding error none))
      | some lane =>
          match lane.recorder.phase with
          | .ended ending => some (session.joined error ending)
          | _ => none
  | .collapsing [] => some (session.goTo (.returned (.failure crashError)))
  | .collapsing (effect :: effects) =>
      some ((session.perform effect).goTo (.collapsing effects))
  | .concluding error writeError => some (session.conclude error writeError)
  | .returned _ => none

def thread (session : Session) (lane : RecorderLane) : RecorderThread where
  shared := { state := session.state, log := lane.log }
  channel := lane.channel
  recorder := lane.recorder

def withThread (session : Session) (thread : RecorderThread) : Session :=
  { session with
    state := thread.shared.state
    lane := some
      { channel := thread.channel, recorder := thread.recorder, log := thread.shared.log } }

def recorderStep? (session : Session) : Option Session :=
  session.lane.bind fun lane => (session.thread lane).step?.map session.withThread

def sourceReady (session : Session) : Bool :=
  match session.phase with
  | .atSource => true
  | _ => false

def step? (session : Session) : Move → Option Session
  | .caller => session.callerStep?
  | .recorder => session.recorderStep?
  | .deliver burst report =>
      if session.sourceReady then
        some (session.goTo (if burst = [] then .reporting report else .counting burst report))
      else none
  | .ask reason =>
      if session.sourceReady then some (session.goTo (.asking (Effect.stop reason))) else none
  | .finish error =>
      if session.sourceReady then some (session.goTo (.finishing error)) else none
  | .record reason =>
      some
        { session with state := session.state.record reason, askers := session.askers + 1 }
  | .raise =>
      if 0 < session.askers then
        some { session with state := session.state.raise, askers := session.askers - 1 }
      else none

def play (session : Session) : List Move → Option Session
  | [] => some session
  | move :: moves => (session.step? move).bind fun next => next.play moves

def outcome? (session : Session) : Option Outcome :=
  match session.phase with
  | .returned outcome => some outcome
  | _ => none

def fileBytes (session : Session) : List UInt8 :=
  session.lane.elim [] fun lane => lane.recorder.sink.file.stored.toList

end Session

end SampleCapture
