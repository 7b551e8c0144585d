import SampleCapture.Fault

/-!
# Output writers

A writer is a behaviour: what it does with its `n`-th call, given how much it has
stored and how much it is offered. It may take less than it is offered, take nothing,
be interrupted, fail, or crash its thread. From some call on it is never interrupted,
so that a write which is made again after every interruption comes to an end.
-/

namespace SampleCapture

inductive Response where
  /-- Stores at most so many of them. -/
  | accept (count : Nat)
  | fail (fault : Fault)
  | crash
deriving Repr, DecidableEq, Inhabited

/-- How a row of calls, or a whole operation on an output, ends. -/
inductive OutputResult where
  | done
  | failed (fault : Fault)
  | crashed
deriving Repr, DecidableEq, Inhabited

structure Writer where
  /-- The response to a call, by its number, the bytes stored so far and the bytes
  offered. -/
  respond : (call stored offered : Nat) → Response
  /-- How a flush ends; like a write it may crash the thread. -/
  flushed : OutputResult
  /-- From this call on there are no interruptions. -/
  calmFrom : Nat
  calm : ∀ {call stored offered fault}, calmFrom ≤ call →
    respond call stored offered = .fail fault → fault.isInterrupted = false

structure OutputFile where
  stored : Array UInt8 := #[]
  /-- The number of bytes offered in each call. -/
  offers : Array Nat := #[]
  flushes : Nat := 0
deriving Repr, Inhabited

inductive WriteResult where
  | accepted (count : Nat)
  | failed (fault : Fault)
  | crashed
deriving Repr, DecidableEq, Inhabited

/-- The end of a row of calls, with the bytes that were not accepted. -/
structure Pumped where
  result : OutputResult
  rest : List UInt8
  file : OutputFile
deriving Inhabited

namespace Writer

/-- The file after a call that offers `count` bytes, before any is stored. -/
def offered (file : OutputFile) (count : Nat) : OutputFile :=
  { file with offers := file.offers.push count }

def result (writer : Writer) (file : OutputFile) (size : Nat) : WriteResult :=
  match writer.respond file.offers.size file.stored.size size with
  | .accept count => .accepted (min count size)
  | .fail fault => .failed fault
  | .crash => .crashed

theorem accepted_le_size {writer : Writer} {file : OutputFile} {size count : Nat}
    (accepted : writer.result file size = .accepted count) : count ≤ size := by
  unfold result at accepted
  split at accepted <;> simp_all
  omega

theorem calls_lt_calmFrom {writer : Writer} {file : OutputFile} {size : Nat}
    {fault : Fault} (failed : writer.result file size = .failed fault)
    (interrupted : fault.isInterrupted = true) : file.offers.size < writer.calmFrom := by
  unfold result at failed
  split at failed <;> simp_all
  rename_i response
  refine Nat.lt_of_not_le fun calm => ?_
  have := writer.calm calm response
  simp_all

/-- Calls the writer with what is left of the bytes until all are accepted. An
interrupted call is made again; a call that accepts nothing is a failure with the
given text. -/
def pump (writer : Writer) (stuckText : String) (file : OutputFile) (bytes : List UInt8) :
    Pumped :=
  if bytes = [] then { result := .done, rest := [], file := file }
  else
    let size := bytes.length
    match outcome : writer.result file size with
    | .accepted 0 =>
        { result := .failed { kind := .writeZero, detail := some stuckText }
          rest := bytes
          file := offered file size }
    | .accepted (count + 1) =>
        let seen := offered file size
        writer.pump stuckText { seen with stored := seen.stored ++ bytes.take (count + 1) }
          (bytes.drop (count + 1))
    | .failed fault =>
        if fault.isInterrupted then writer.pump stuckText (offered file size) bytes
        else { result := .failed fault, rest := bytes, file := offered file size }
    | .crashed => { result := .crashed, rest := bytes, file := offered file size }
termination_by bytes.length + (writer.calmFrom - file.offers.size)
decreasing_by
  · have : count + 1 ≤ bytes.length := accepted_le_size outcome
    simp only [offered, List.length_drop, Array.size_push]
    omega
  · rename_i interrupted
    have := calls_lt_calmFrom outcome interrupted
    simp only [offered, Array.size_push]
    omega

end Writer

end SampleCapture
