import SampleCapture.Reader
import SampleCapture.Session.Basic

/-!
# Scheduled sessions

A session driven by a scripted source under one fixed schedule: the caller moves
whenever it can, then the recorder, and the source only when both wait. A script may
wait for a stop request; until it first does so, or ends, the output takes no calls, so
that what the source has delivered before is still in the queue or in the buffer.
-/

namespace SampleCapture

inductive SourceStep where
  | deliver (burst : List UInt8) (report : Option ProgressSnapshot)
  | ask (reason : StopReason)
  | fail (error : CaptureError)
  /-- Waits until somebody has asked for a stop. -/
  | await
deriving Inhabited

structure SourceScript where
  steps : List SourceStep
  /-- Whether the source ends when it is answered to stop. -/
  obeys : Bool := true
deriving Inhabited

namespace SourceScript

def ofReads (chunk : Nat) (items : List ReadItem) : SourceScript :=
  let (bursts, fault) := Reader.bursts chunk items
  { steps := bursts.map (SourceStep.deliver · none) ++
      (fault.map fun fault => SourceStep.fail (.io fault)).toList }

def isAwait : SourceStep → Bool
  | .await => true
  | _ => false

def awaits (script : SourceScript) : Bool :=
  script.steps.any isAwait

def volume : SourceStep → Nat
  | .deliver burst _ => burst.length
  | _ => 0

/-- More moves than any session with this script makes: each byte has two samples, each
sample is queued and written by a few moves, and each step takes a few more. -/
def budget (script : SourceScript) : Nat :=
  32 * (script.steps.foldl (fun total step => total + volume step + 1) 8)

end SourceScript

/-- A session, what is left of its script, and whether the output takes calls. -/
structure Rehearsal where
  session : Session
  steps : List SourceStep
  obeys : Bool
  outputOpen : Bool

namespace Rehearsal

def calls (session : Session) : Nat :=
  session.lane.elim 0 fun lane => lane.recorder.sink.file.offers.size

/-- The next move of the recorder, unless it would call an output that takes no
calls. -/
def recorderStep? (rehearsal : Rehearsal) : Option Rehearsal :=
  rehearsal.session.recorderStep?.bind fun next =>
    if rehearsal.outputOpen || calls next == calls rehearsal.session then
      some { rehearsal with session := next }
    else none

def move? (rehearsal : Rehearsal) (move : Move) (later : List SourceStep) : Option Rehearsal :=
  (rehearsal.session.step? move).map fun next =>
    { rehearsal with session := next, steps := later }

def finish? (rehearsal : Rehearsal) (error : Option CaptureError) : Option Rehearsal :=
  { rehearsal with outputOpen := true }.move? (.finish error) []

/-- The next move of a source that has control. One that waits for a stop request lets
the output take calls first. -/
def sourceStep? (rehearsal : Rehearsal) : Option Rehearsal :=
  if rehearsal.obeys && rehearsal.session.answers.back? == some .stop then
    rehearsal.finish? none
  else
    match rehearsal.steps with
    | [] => rehearsal.finish? none
    | .deliver burst report :: later => rehearsal.move? (.deliver burst report) later
    | .ask reason :: later => rehearsal.move? (.ask reason) later
    | .fail error :: _ => rehearsal.finish? (some error)
    | .await :: later =>
        if !rehearsal.outputOpen then some { rehearsal with outputOpen := true }
        else if rehearsal.session.state.stopping then some { rehearsal with steps := later }
        else none

def step? (rehearsal : Rehearsal) : Option Rehearsal :=
  match rehearsal.session.callerStep? with
  | some next => some { rehearsal with session := next }
  | none =>
      match rehearsal.recorderStep? with
      | some next => some next
      | none => if rehearsal.session.sourceReady then rehearsal.sourceStep? else none

def run : Nat → Rehearsal → Session
  | 0, rehearsal => rehearsal.session
  | moves + 1, rehearsal =>
      match rehearsal.step? with
      | none => rehearsal.session
      | some next => run moves next

end Rehearsal

def Session.rehearse (session : Session) (script : SourceScript) : Session :=
  Rehearsal.run script.budget
    { session := session
      steps := script.steps
      obeys := script.obeys
      outputOpen := !script.awaits }

end SampleCapture
