import SampleCapture.Event

/-!
# Effects on the shared state

What a party of a capture does to the shared state and to its own log is a row of
small effects, each of them atomic. A stop request is two of them, and the log line of
the first reason belongs to the locked step.
-/

namespace SampleCapture

/-- The shared state, and the log of the party that works on it. -/
structure LoggedState where
  state : SharedState := {}
  log : Array Event := #[]
deriving Inhabited

inductive Effect where
  | log (event : Event)
  | count (amounts : Counters)
  /-- The locked step of a stop request. -/
  | record (reason : StopReason)
  /-- Raises the stop flag. -/
  | raise
deriving Inhabited

def Effect.stop (reason : StopReason) : List Effect :=
  [.record reason, .raise]

namespace LoggedState

def note (shared : LoggedState) (event : Event) : LoggedState :=
  { shared with log := shared.log.push event }

def perform (shared : LoggedState) : Effect → LoggedState
  | .log event => shared.note event
  | .count amounts => { shared with state := shared.state.count amounts }
  | .record reason =>
      let logged :=
        if shared.state.reason = none then shared.note (.stopRequested reason) else shared
      { logged with state := shared.state.record reason }
  | .raise => { shared with state := shared.state.raise }

def performAll (shared : LoggedState) (effects : List Effect) : LoggedState :=
  effects.foldl perform shared

def askStop (shared : LoggedState) (reason : StopReason) : LoggedState :=
  shared.performAll (Effect.stop reason)

end LoggedState

end SampleCapture
