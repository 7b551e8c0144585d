import SampleCapture.Output.Writer

/-!
# Scripted writers

A writer whose behaviour is given by call numbers and limits. In one call a crash goes
before an interruption, that before an empty acceptance, and that before a failure.
-/

namespace SampleCapture

structure WriterScript where
  crashCalls : List Nat := []
  interruptCalls : List Nat := []
  zeroCalls : List Nat := []
  failCalls : List Nat := []
  /-- The fault of the failing calls and of a full file. -/
  fault : Fault := {}
  maxPerCall : Option Nat := none
  /-- The greatest size of the file. -/
  limit : Option Nat := none
  flushFault : Option Fault := none
deriving Repr, Inhabited

namespace WriterScript

/-- One past the last call that the script interrupts or lets fail. -/
def calmFrom (script : WriterScript) : Nat :=
  (script.interruptCalls ++ script.failCalls).foldr (fun call bound => max (call + 1) bound) 0

theorem lt_foldr_of_mem {calls : List Nat} {call : Nat} (member : call ∈ calls) :
    call < calls.foldr (fun call bound => max (call + 1) bound) 0 := by
  induction calls with
  | nil => cases member
  | cons first rest ih =>
      rcases List.mem_cons.mp member with rfl | later
      · simp only [List.foldr_cons]; omega
      · have := ih later
        simp only [List.foldr_cons]; omega

/-- The fault of a full file. It stays full, so an interruption would be made again for
ever: it counts as a plain failure with the same text. -/
def fullFault (script : WriterScript) : Fault :=
  if script.fault.isInterrupted then { kind := .other, detail := some script.fault.text }
  else script.fault

theorem fullFault_calm (script : WriterScript) : script.fullFault.isInterrupted = false := by
  unfold fullFault
  split
  · rfl
  · simp_all

def respond (script : WriterScript) (call stored offered : Nat) : Response :=
  if call ∈ script.crashCalls then .crash
  else if call ∈ script.interruptCalls then .fail { kind := .interrupted }
  else if call ∈ script.zeroCalls then .accept 0
  else if call ∈ script.failCalls then .fail script.fault
  else
    let count := script.maxPerCall.getD offered
    match script.limit with
    | none => .accept count
    | some limit =>
        if limit ≤ stored then .fail script.fullFault else .accept (min count (limit - stored))

theorem calm_respond (script : WriterScript) {call stored offered : Nat} {fault : Fault}
    (late : script.calmFrom ≤ call) (failed : script.respond call stored offered = .fail fault) :
    fault.isInterrupted = false := by
  have absent : call ∉ script.interruptCalls ++ script.failCalls := fun member =>
    Nat.not_lt.mpr late (lt_foldr_of_mem member)
  simp only [List.mem_append, not_or] at absent
  unfold respond at failed
  simp only [absent.1, absent.2, if_false] at failed
  split at failed
  · cases failed
  · split at failed
    · cases failed
    · split at failed
      · cases failed
      · split at failed
        · cases failed
          exact script.fullFault_calm
        · cases failed

def writer (script : WriterScript) : Writer where
  respond := script.respond
  flushed := script.flushFault.elim .done .failed
  calmFrom := script.calmFrom
  calm := script.calm_respond

end WriterScript

end SampleCapture
