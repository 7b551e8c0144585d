import SampleCapture.Intake.Basic

/-!
# The intake on its own

An intake with the shared state and an unbounded queue, without a recorder. Since an
unbounded queue never makes the producer wait, a burst is taken in one go. The
consumer's end is in the hands of whoever makes the calls, and so are the counters.
-/

namespace SampleCapture

/-- An intake, the shared state and, unless only the throughput is measured, the
queue. -/
structure IntakeSetup where
  shared : LoggedState := {}
  /-- Missing once the intake has finished. -/
  intake : Option Intake
  queue : Option ByteQueue
deriving Inhabited

namespace IntakeSetup

def start (warmUpBytes : UInt64) (saving : Bool) : IntakeSetup where
  intake := some (.start warmUpBytes)
  queue := if saving then some (.create 0) else none

def push (setup : IntakeSetup) (samples : List UInt8) : IntakeSetup :=
  match setup.queue with
  | none => setup
  | some queue =>
      let (offer, filled) := queue.offer samples
      let result := if offer = .refused then PushResult.refused else .accepted
      { setup with
        shared := setup.shared.performAll (Intake.afterPush samples result)
        queue := some filled }

def ingest (setup : IntakeSetup) (intake : Intake) (burst : List UInt8) : IntakeSetup :=
  let before := setup.shared.state.counters.received
  let plan := intake.plan before burst
  let marked : IntakeSetup :=
    { setup with
      shared := (setup.shared.perform (Intake.countReceived burst)).performAll plan.effects
      intake := some plan.intake }
  if plan.samples = [] then marked else marked.push plan.samples

/-- Takes a burst and a progress report and answers; after the intake has finished
nothing is taken and there is no answer. -/
def deliver (setup : IntakeSetup) (burst : List UInt8) (report : Option ProgressSnapshot) :
    Option Answer × IntakeSetup :=
  match setup.intake with
  | none => (none, setup)
  | some intake =>
      let taken := if burst = [] then setup else setup.ingest intake burst
      let effects := Intake.reportEffects taken.shared.state report
      let reported := { taken with shared := taken.shared.performAll effects }
      (some (Intake.answer reported.shared.state), reported)

def finish (setup : IntakeSetup) : IntakeSetup :=
  { setup with intake := none, queue := setup.queue.map ByteQueue.close }

def askStop (setup : IntakeSetup) (reason : StopReason) : IntakeSetup :=
  { setup with shared := setup.shared.askStop reason }

def count (setup : IntakeSetup) (amounts : Counters) : IntakeSetup :=
  { setup with shared := setup.shared.perform (.count amounts) }

def dropConsumer (setup : IntakeSetup) : IntakeSetup :=
  { setup with queue := setup.queue.map ByteQueue.abandon }

def consumerView (setup : IntakeSetup) : Option ByteQueue :=
  setup.queue.filter fun queue => !queue.abandoned

/-- Takes up to `limit` bytes out of the queue; an empty open queue would make the
consumer wait and is left alone. -/
def drain (setup : IntakeSetup) (limit : Nat) : Option Withdrawal × IntakeSetup :=
  match setup.consumerView with
  | none => (none, setup)
  | some queue =>
      if queue.bytes = [] ∧ ¬ queue.closed then (some .empty, setup)
      else
        let (withdrawal, left) := queue.withdraw limit
        (some withdrawal, { setup with queue := some left })

end IntakeSetup

end SampleCapture
