import Mathlib.Data.List.Induction
import SampleCapture.Proofs.Session.Lines
import SampleCapture.Proofs.Session.Requests

/-!
# The first reason

Any number of stop requests at a time, each of them in its two steps, while others look at the
flag and at the reason and count bytes. Between any two steps anything else may happen, so that
a row of moves is any schedule. The request that is the first to be recorded gives the reason,
for ever, and nobody sees the flag without a reason.
-/

namespace SampleCapture

/-- A stop request, and what is left of it; nothing once it has returned. -/
structure StopCall where
  reason : StopReason
  left : List Effect

inductive Observation where
  | flag (up : Bool)
  | reason (given : Option StopReason)

/-- The shared state in the middle of stop requests, with one log for all of them. -/
structure ConcurrentStops where
  shared : LoggedState := {}
  /-- The requests that have begun, the oldest first. -/
  calls : List StopCall := []
  /-- What has been seen, the oldest first. -/
  observations : List Observation := []

inductive StopMove where
  | begin (reason : StopReason)
  /-- The next step of the request with this number. -/
  | advance (number : Nat)
  | lookAtFlag
  | lookAtReason
  | count (amounts : Counters)

namespace StopMove

def amounts : StopMove → Counters
  | .count amounts => amounts
  | .begin _ | .advance _ | .lookAtFlag | .lookAtReason => {}

def total (moves : List StopMove) : Counters :=
  moves.foldl (fun sum move => sum.add move.amounts) {}

theorem total_snoc (moves : List StopMove) (last : StopMove) :
    total (moves ++ [last]) = (total moves).add last.amounts :=
  List.foldl_append

end StopMove

namespace ConcurrentStops

def carry (stops : ConcurrentStops) (number : Nat) (reason : StopReason) (effect : Effect)
    (left : List Effect) : ConcurrentStops :=
  { stops with
    shared := stops.shared.perform effect
    calls := stops.calls.set number { reason := reason, left := left } }

/-- A request that has returned, or has not begun, makes no step. -/
def step (stops : ConcurrentStops) : StopMove → ConcurrentStops
  | .begin reason =>
      { stops with calls := stops.calls ++ [{ reason := reason, left := Effect.stop reason }] }
  | .advance number =>
      match stops.calls[number]? with
      | some ⟨reason, effect :: left⟩ => stops.carry number reason effect left
      | _ => stops
  | .lookAtFlag =>
      { stops with observations := stops.observations ++ [.flag stops.shared.state.stopping] }
  | .lookAtReason =>
      { stops with observations := stops.observations ++ [.reason stops.shared.state.reason] }
  | .count amounts => { stops with shared := stops.shared.perform (.count amounts) }

def run (stops : ConcurrentStops) (moves : List StopMove) : ConcurrentStops :=
  moves.foldl step stops

def entrant? (stops : ConcurrentStops) : StopMove → Option StopReason
  | .advance number =>
      match stops.calls[number]? with
      | some ⟨reason, .record _ :: _⟩ => some reason
      | _ => none
  | .begin _ | .lookAtFlag | .lookAtReason | .count _ => none

/-- The reasons of the requests that a row of moves takes through the lock, in order. -/
def entrants (stops : ConcurrentStops) : List StopMove → List StopReason
  | [] => []
  | move :: moves => (stops.entrant? move).toList ++ (stops.step move).entrants moves

theorem run_append (stops : ConcurrentStops) (first second : List StopMove) :
    stops.run (first ++ second) = (stops.run first).run second :=
  List.foldl_append

theorem run_snoc (stops : ConcurrentStops) (moves : List StopMove) (last : StopMove) :
    stops.run (moves ++ [last]) = (stops.run moves).step last :=
  stops.run_append moves [last]

theorem entrants_snoc (stops : ConcurrentStops) (moves : List StopMove) (last : StopMove) :
    stops.entrants (moves ++ [last]) =
      stops.entrants moves ++ ((stops.run moves).entrant? last).toList := by
  induction moves generalizing stops with
  | nil => exact List.append_nil _
  | cons move moves ih =>
      rw [List.cons_append, entrants, ih, entrants, List.append_assoc]
      rfl

/-- The next step of a request, if it has one; else nothing happens. -/
theorem step_advance (stops : ConcurrentStops) (number : Nat) :
    (∃ reason effect left, stops.calls[number]? = some ⟨reason, effect :: left⟩ ∧
        stops.step (.advance number) = stops.carry number reason effect left) ∨
      stops.step (.advance number) = stops ∧ stops.entrant? (.advance number) = none := by
  rw [step, entrant?]
  cases found : stops.calls[number]? with
  | none => exact .inr ⟨rfl, rfl⟩
  | some call =>
      obtain ⟨reason, left⟩ := call
      cases left with
      | nil => exact .inr ⟨rfl, rfl⟩
      | cons effect left => exact .inl ⟨reason, effect, left, rfl, rfl⟩

end ConcurrentStops

/-! ## What is seen -/

namespace Observation

/-- What has been seen is not taken back in this state. -/
def Holds (state : SharedState) : Observation → Prop
  | .flag up => up = true → state.stopping = true
  | .reason given => given ≠ none → state.reason = given

/-- What can be seen after something else: a flag stays up, there is a reason for it, and a
reason stays the same. -/
def Before : Observation → Observation → Prop
  | .flag up, .flag later => up = true → later = true
  | .flag up, .reason given => up = true → given ≠ none
  | .reason given, .reason later => given ≠ none → later = given
  | .reason _, .flag _ => True

theorem Holds.lasts {state later : SharedState} {observation : Observation}
    (holds : observation.Holds state)
    (lasts : state.Lasts later) : observation.Holds later := by
  cases observation with
  | flag up => exact fun seen => lasts.stopping (holds seen)
  | reason given =>
      intro seen
      have known := holds seen
      rw [lasts.reason (known ▸ seen), known]

theorem Holds.before_flag {state : SharedState} {observation : Observation}
    (holds : observation.Holds state) :
    observation.Before (.flag state.stopping) := by
  cases observation with
  | flag up => exact holds
  | reason given => exact trivial

theorem Holds.before_reason {state : SharedState} {observation : Observation}
    (holds : observation.Holds state)
    (founded : state.stopping = true → state.reason ≠ none) :
    observation.Before (.reason state.reason) := by
  cases observation with
  | flag up => exact fun seen => founded (holds seen)
  | reason given => exact holds

end Observation

namespace ConcurrentStops

/-! ## What every move keeps -/

/-- The state fits the requests, the log and what has been seen. -/
structure Settled (stops : ConcurrentStops) : Prop where
  calls : ∀ call ∈ stops.calls, Underway stops.shared.state call.reason call.left
  founded : stops.shared.state.stopping = true → stops.shared.state.reason ≠ none
  log : stops.shared.log.toList = stops.shared.state.reason.toList.map .stopRequested
  seen : ∀ observation ∈ stops.observations, observation.Holds stops.shared.state
  order : stops.observations.Pairwise Observation.Before

namespace Settled

variable {stops : ConcurrentStops}

theorem begin (settled : stops.Settled) (reason : StopReason) :
    (stops.step (.begin reason)).Settled := by
  refine ⟨?_, settled.founded, settled.log, settled.seen, settled.order⟩
  intro call member
  rcases List.mem_append.mp member with before | new
  · exact settled.calls call before
  · rw [List.mem_singleton.mp new]
    exact .begun

/-- A step of a request; it finds the others where they are. -/
theorem carry (settled : stops.Settled) {number : Nat} {reason : StopReason} {effect : Effect}
    {left : List Effect} (found : stops.calls[number]? = some ⟨reason, effect :: left⟩) :
    (stops.carry number reason effect left).Settled := by
  have lasts := stops.shared.lasts_perform effect
  have underway : Underway stops.shared.state reason (effect :: left) :=
    settled.calls _ (List.mem_of_getElem? found)
  obtain ⟨goesOn, raising⟩ := underway.perform
  constructor
  case calls =>
    intro call member
    rcases List.mem_or_eq_of_mem_set member with other | rfl
    · exact (settled.calls call other).lasts lasts
    · exact goesOn
  case founded =>
    intro up
    rcases LoggedState.stopping_of_perform up with before | raise
    · exact lasts.given (settled.founded before)
    · exact lasts.given (raising raise)
  case log =>
    refine (stops.shared.log_perform effect).trans ?_
    rw [settled.log, ConcurrentStops.carry, LoggedState.reason_perform]
    cases underway with
    | begun =>
        rw [LoggedState.lines, Effect.reason?]
        cases stops.shared.state.reason <;> rfl
    | recorded given =>
        rw [LoggedState.lines, Effect.reason?, Option.or_none, List.append_nil]
  case seen => exact fun observation member => (settled.seen observation member).lasts lasts
  case order => exact settled.order

theorem advance (settled : stops.Settled) (number : Nat) :
    (stops.step (.advance number)).Settled := by
  rcases stops.step_advance number with ⟨reason, effect, left, found, moved⟩ | ⟨still, -⟩
  · rw [moved]
    exact settled.carry found
  · rw [still]
    exact settled

/-- Somebody looks, and sees what follows what has been seen. -/
theorem look (settled : stops.Settled) (observation : Observation)
    (holds : observation.Holds stops.shared.state)
    (before : ∀ earlier : Observation, earlier.Holds stops.shared.state →
      earlier.Before observation) :
    Settled { stops with observations := stops.observations ++ [observation] } := by
  refine ⟨settled.calls, settled.founded, settled.log, ?_, ?_⟩
  · intro other member
    rcases List.mem_append.mp member with old | new
    · exact settled.seen other old
    · rw [List.mem_singleton.mp new]
      exact holds
  · rw [List.pairwise_append]
    refine ⟨settled.order, List.pairwise_singleton _ _, ?_⟩
    intro earlier member last new
    rw [List.mem_singleton.mp new]
    exact before earlier (settled.seen earlier member)

theorem count (settled : stops.Settled) (amounts : Counters) :
    (stops.step (.count amounts)).Settled :=
  ⟨fun call member => (settled.calls call member).lasts ⟨fun _ => rfl, id⟩, settled.founded,
    settled.log, fun seen member => (settled.seen seen member).lasts ⟨fun _ => rfl, id⟩,
    settled.order⟩

theorem step (settled : stops.Settled) (move : StopMove) : (stops.step move).Settled := by
  cases move with
  | begin reason => exact settled.begin reason
  | advance number => exact settled.advance number
  | lookAtFlag =>
      apply settled.look (.flag stops.shared.state.stopping) id
      exact fun earlier holds => holds.before_flag
  | lookAtReason =>
      apply settled.look (.reason stops.shared.state.reason) fun _ => rfl
      exact fun earlier holds => holds.before_reason settled.founded
  | count amounts => exact settled.count amounts

theorem of_run (moves : List StopMove) : (run {} moves).Settled := by
  induction moves using List.reverseRecOn with
  | nil => exact ⟨nofun, nofun, rfl, nofun, .nil⟩
  | append_singleton moves last ih =>
      rw [run_snoc]
      exact ih.step last

end Settled

/-! ## The reason, the flag and the counters -/

/-- The reason is given by whoever comes through the lock when there is none. -/
theorem reason_step {stops : ConcurrentStops} (settled : stops.Settled) (move : StopMove) :
    (stops.step move).shared.state.reason = stops.shared.state.reason.or (stops.entrant? move) := by
  cases move with
  | advance number =>
      rcases stops.step_advance number with ⟨reason, effect, left, found, moved⟩ | ⟨still, outside⟩
      · rw [moved, carry, LoggedState.reason_perform, entrant?, found]
        have underway : Underway stops.shared.state reason (effect :: left) :=
          settled.calls _ (List.mem_of_getElem? found)
        cases underway with
        | begun => rfl
        | recorded given => rfl
      · rw [still, outside, Option.or_none]
  | begin | lookAtFlag | lookAtReason | count => exact Option.or_none.symm

theorem reason_of_run (moves : List StopMove) :
    (run {} moves).shared.state.reason = (entrants {} moves).head? := by
  induction moves using List.reverseRecOn with
  | nil => rfl
  | append_singleton moves last ih =>
      rw [run_snoc, reason_step (.of_run moves), ih, entrants_snoc, List.head?_append]
      cases (run {} moves).entrant? last <;> rfl

theorem lasts_step (stops : ConcurrentStops) (move : StopMove) :
    stops.shared.state.Lasts (stops.step move).shared.state := by
  cases move with
  | advance number =>
      rcases stops.step_advance number with ⟨reason, effect, left, -, moved⟩ | ⟨still, -⟩
      · rw [moved]
        exact stops.shared.lasts_perform effect
      · rw [still]
        exact .refl _
  | count amounts => exact stops.shared.lasts_perform (.count amounts)
  | begin | lookAtFlag | lookAtReason => exact .refl _

theorem lasts_run (stops : ConcurrentStops) (moves : List StopMove) :
    stops.shared.state.Lasts (stops.run moves).shared.state := by
  induction moves using List.reverseRecOn with
  | nil => exact .refl _
  | append_singleton moves last ih =>
      rw [run_snoc]
      have next := (stops.run moves).lasts_step last
      refine ⟨fun given => ?_, fun up => next.stopping (ih.stopping up)⟩
      rw [next.reason (ih.given given), ih.reason given]

/-- A stop request leaves the counters alone. -/
theorem counters_step {stops : ConcurrentStops} (settled : stops.Settled) (move : StopMove) :
    (stops.step move).shared.state.counters = stops.shared.state.counters.add move.amounts := by
  cases move with
  | advance number =>
      rw [StopMove.amounts, Counters.add_zero]
      rcases stops.step_advance number with ⟨reason, effect, left, found, moved⟩ | ⟨still, -⟩
      · rw [moved]
        have underway : Underway stops.shared.state reason (effect :: left) :=
          settled.calls _ (List.mem_of_getElem? found)
        cases underway with
        | begun => rfl
        | recorded given => rfl
      · rw [still]
  | count amounts => rfl
  | begin | lookAtFlag | lookAtReason => exact (Counters.add_zero _).symm

theorem counters_of_run (moves : List StopMove) :
    (run {} moves).shared.state.counters = StopMove.total moves := by
  induction moves using List.reverseRecOn with
  | nil => rfl
  | append_singleton moves last ih =>
      rw [run_snoc, counters_step (.of_run moves), ih, StopMove.total_snoc]

/-- What stop requests come to after these moves. -/
structure FirstWins (moves : List StopMove) (stops : ConcurrentStops) : Prop where
  /-- The flag is never up without a reason. -/
  founded : stops.shared.state.stopping = true → stops.shared.state.reason ≠ none
  /-- The reason is that of the first request that has come through the lock. -/
  first : stops.shared.state.reason = (entrants {} moves).head?
  /-- The reason of an earlier moment is the same, and a flag that was up then is up. -/
  lasts : ∀ earlier later, moves = earlier ++ later →
    (run {} earlier).shared.state.Lasts stops.shared.state
  /-- One line tells the reason, and there is no other. -/
  told : stops.shared.log.toList = stops.shared.state.reason.toList.map .stopRequested
  /-- Once a request has returned the flag is up. -/
  returned : ∀ call ∈ stops.calls, call.left = [] → stops.shared.state.stopping = true
  /-- Whatever has been seen at any moment is still so. -/
  seen : ∀ observation ∈ stops.observations, observation.Holds stops.shared.state
  /-- Nobody has seen less than somebody before. -/
  order : stops.observations.Pairwise Observation.Before
  /-- The counters are what has been counted. -/
  counters : stops.shared.state.counters = StopMove.total moves

/-- In any schedule the first reason wins. -/
theorem firstWins_of_run (moves : List StopMove) : FirstWins moves (run {} moves) := by
  have settled := Settled.of_run moves
  constructor
  case founded => exact settled.founded
  case first => exact reason_of_run moves
  case lasts =>
    rintro earlier later rfl
    rw [run_append]
    exact lasts_run _ later
  case told => exact settled.log
  case returned =>
    intro call member done
    have underway := settled.calls call member
    rw [done] at underway
    cases underway with
    | raised given up => exact up
  case seen => exact settled.seen
  case order => exact settled.order
  case counters => exact counters_of_run moves

/-- The request that began first is overtaken at the lock, and returns while the other one has
still to raise the flag. -/
example :
    let stops := run {} [.begin .userInterrupt, .begin .writeFailed, .advance 1, .lookAtFlag,
      .lookAtReason, .advance 0, .advance 0, .lookAtFlag]
    stops.shared.state.reason = some .writeFailed ∧
      stops.observations = [.flag false, .reason (some .writeFailed), .flag true] ∧
      stops.calls.map (·.left.length) = [0, 1] := ⟨rfl, rfl, rfl⟩

end ConcurrentStops

end SampleCapture
