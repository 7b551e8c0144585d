import SampleCapture.LoggedState
import SampleCapture.Output.Sink
import SampleCapture.Queue.Channel

/-!
# Recorder

The recorder takes slices out of the queue and hands them to its sink until the
queue is closed and empty; then it flushes. It keeps draining after a stop request.
When the sink fails it asks for a stop, and in any case it leaves the queue before it
lets go of the sink. Each step has at most one effect that another party can see.
-/

namespace SampleCapture

inductive RecorderEnd where
  | finished (written : UInt64)
  | failed (fault : Fault)
  | crashed
deriving Repr, DecidableEq, Inhabited

inductive RecorderPhase where
  | starting
  /-- About to look at the stop flag. -/
  | checking
  /-- The stop flag has been seen for the first time. -/
  | noticing
  /-- Taking a slice out of the queue. -/
  | popping
  | writing (slice : List UInt8)
  /-- So many bytes have been accepted and are to be counted. -/
  | counting (count : Nat)
  | flushing
  /-- The sink is flushed. -/
  | finishing
  | failing (effects : List Effect) (fault : Fault)
  /-- About to leave the queue. -/
  | leaving (ending : RecorderEnd)
  /-- About to wake the producer after that. -/
  | departing (ending : RecorderEnd)
  /-- About to let go of the sink. -/
  | releasing (ending : RecorderEnd)
  | ended (ending : RecorderEnd)
deriving Inhabited

structure Recorder where
  sliceBytes : Nat
  sink : Sink
  written : UInt64 := 0
  /-- The stop flag has been seen. -/
  draining : Bool := false
  phase : RecorderPhase := .starting

/-- The recorder with what it shares with others. -/
structure RecorderThread where
  shared : LoggedState
  channel : Channel
  recorder : Recorder

namespace Recorder

/-- A slice has at least one byte. -/
def start (sliceBytes : Nat) (sink : Sink) : Recorder where
  sliceBytes := max sliceBytes 1
  sink := sink

def failEffects (written : UInt64) (fault : Fault) : List Effect :=
  .log (.writeFailed written fault) :: Effect.stop .writeFailed

/-- The phase after an operation on the sink that should lead to `next`. -/
def phaseAfter (recorder : Recorder) (next : RecorderPhase) : OutputResult → RecorderPhase
  | .done => next
  | .failed fault => .failing (failEffects recorder.written fault) fault
  | .crashed => .leaving .crashed

end Recorder

namespace RecorderThread

def goTo (thread : RecorderThread) (phase : RecorderPhase) : RecorderThread :=
  { thread with recorder := { thread.recorder with phase := phase } }

def perform (thread : RecorderThread) (effect : Effect) : RecorderThread :=
  { thread with shared := thread.shared.perform effect }

def beginSlice (thread : RecorderThread) : RecorderThread :=
  { thread with channel := thread.channel.beginPop thread.recorder.sliceBytes }.goTo .popping

def afterSink (thread : RecorderThread) (next : RecorderPhase) (outcome : OutputResult × Sink) :
    RecorderThread :=
  { thread with
    recorder :=
      { thread.recorder with
        sink := outcome.2, phase := thread.recorder.phaseAfter next outcome.1 } }

/-- The next step; none while the recorder waits for bytes, and at the end. -/
def step? (thread : RecorderThread) : Option RecorderThread :=
  let recorder := thread.recorder
  match recorder.phase with
  | .starting =>
      some ((thread.perform (.log (.recorderStarted recorder.sliceBytes))).goTo .checking)
  | .checking =>
      if !recorder.draining && thread.shared.state.stopping then
        some ({ thread with recorder := { recorder with draining := true } }.goTo .noticing)
      else some thread.beginSlice
  | .noticing =>
      let queued := thread.channel.queue.bytes.length
      some (thread.perform (.log (.recorderDraining queued))).beginSlice
  | .popping =>
      thread.channel.consumerStep?.map fun (channel, popped) =>
        let next := { thread with channel := channel }
        match popped with
        | none => next
        | some [] => next.goTo .flushing
        | some slice => next.goTo (.writing slice)
  | .writing slice =>
      some (thread.afterSink (.counting slice.length) (recorder.sink.writeAll slice))
  | .counting count =>
      let amount := count.toUInt64
      let counted := thread.perform (.count { written := amount })
      some
        { counted with
          recorder := { recorder with written := recorder.written + amount, phase := .checking } }
  | .flushing => some (thread.afterSink .finishing recorder.sink.flush)
  | .finishing =>
      some ((thread.perform (.log (.recorderFinished recorder.written))).goTo
        (.leaving (.finished recorder.written)))
  | .failing [] fault => some (thread.goTo (.leaving (.failed fault)))
  | .failing (effect :: effects) fault =>
      some ((thread.perform effect).goTo (.failing effects fault))
  | .leaving ending =>
      some ({ thread with channel := thread.channel.beginLeave }.goTo (.departing ending))
  | .departing ending =>
      thread.channel.consumerStep?.map fun (channel, _) =>
        { thread with channel := channel }.goTo (.releasing ending)
  | .releasing ending =>
      let released := recorder.sink.release
      let ending := if released.crashed then .crashed else ending
      some { thread with recorder := { recorder with sink := released, phase := .ended ending } }
  | .ended _ => none

def run : Nat → RecorderThread → RecorderThread
  | 0, thread => thread
  | steps + 1, thread =>
      match thread.step? with
      | none => thread
      | some next => run steps next

/-- The recorder alone with a closed, unbounded queue that holds `content`. -/
def alone (shared : LoggedState) (content : List UInt8) (sliceBytes : Nat) (sink : Sink) :
    RecorderThread where
  shared := shared
  channel :=
    { queue := { capacity := 0, bytes := content, closed := true }, producer := .gone }
  recorder := .start sliceBytes sink

/-- Runs the recorder alone to its end: five steps for each slice, of which there are
no more than bytes, and some at both ends. -/
def drain (thread : RecorderThread) : RecorderThread :=
  run (5 * thread.channel.queue.bytes.length + 16) thread

def ending? (thread : RecorderThread) : Option RecorderEnd :=
  match thread.recorder.phase with
  | .ended ending => some ending
  | _ => none

end RecorderThread

end SampleCapture
