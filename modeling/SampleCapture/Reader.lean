import SampleCapture.Fault
import SampleCapture.Intake.Basic
import SampleCapture.Progress

/-!
# Reading a recorded transfer

A reader source reads chunks from an input, delivers each one to a callback, and after
each one asks its tracker for a progress report, which it delivers on its own. The
callback can stop it after any delivery. An interrupted read is made again; an empty
read ends the transfer.
-/

namespace SampleCapture

/-- What one read of an input finds next. Data longer than a chunk is handed out in
several reads; empty data is an empty read. -/
inductive ReadItem where
  | data (bytes : List UInt8)
  | fault (fault : Fault)
deriving Repr, DecidableEq, Inhabited

structure Delivery where
  bytes : List UInt8
  report : Option ProgressSnapshot
deriving Inhabited

namespace Reader

def leftover (chunk : Nat) (bytes : List UInt8) (rest : List ReadItem) : List ReadItem :=
  match bytes.drop chunk with
  | [] => rest
  | left => .data left :: rest

def weight : List ReadItem → Nat
  | [] => 0
  | .data bytes :: rest => bytes.length + 1 + weight rest
  | .fault _ :: rest => 1 + weight rest

theorem weight_leftover (chunk : Nat) (byte : UInt8) (bytes : List UInt8)
    (rest : List ReadItem) :
    weight (leftover (chunk + 1) (byte :: bytes) rest) <
      weight (.data (byte :: bytes) :: rest) := by
  unfold leftover
  split
  · simp only [weight]; omega
  · simp only [weight, List.drop_succ_cons, List.length_drop, List.length_cons]; omega

/-- The rest of a transfer. The chunk size is `chunk + 1`, the callback is a function on
a state of its own, and the clock gives the instant of every poll. The result is the
fault that ended the transfer, if one did. -/
def stream {σ : Type} (chunk : Nat) (sink : σ → Delivery → Answer × σ) (clock : Nat → Int)
    (tracker : Tracker) (polls : Nat) (state : σ) : List ReadItem → Option Fault × σ
  | [] => (none, state)
  | .data [] :: _ => (none, state)
  | .fault fault :: rest =>
      if fault.isInterrupted then stream chunk sink clock tracker polls state rest
      else (some fault, state)
  | .data (byte :: bytes) :: rest =>
      let burst := (byte :: bytes).take (chunk + 1)
      match sink state { bytes := burst, report := none } with
      | (.stop, state) => (none, state)
      | (.continue, state) =>
          let counted := tracker.record burst.length
          let next := leftover (chunk + 1) (byte :: bytes) rest
          match counted.poll (clock polls) with
          | none => stream chunk sink clock counted (polls + 1) state next
          | some (report, reported) =>
              match sink state { bytes := [], report := some report } with
              | (.stop, state) => (none, state)
              | (.continue, state) =>
                  stream chunk sink clock reported (polls + 1) state next
termination_by items => weight items
decreasing_by
  · simp only [weight]; omega
  · exact weight_leftover ..
  · exact weight_leftover ..

/-- A whole transfer with a chunk size, of which zero counts as one. -/
def run {σ : Type} (chunk interval : Nat) (clock : Nat → Int) (started : Int)
    (sink : σ → Delivery → Answer × σ) (state : σ) (items : List ReadItem) :
    Option Fault × σ :=
  stream (chunk - 1) sink clock (.start interval started) 0 state items

/-- A callback that keeps every delivery and answers its `stopAt`-th call with a stop. -/
def keeping (stopAt : Option Nat) (kept : Array Delivery) (delivery : Delivery) :
    Answer × Array Delivery :=
  let kept := kept.push delivery
  (if stopAt = some kept.size then .stop else .continue, kept)

def bursts (chunk : Nat) (items : List ReadItem) : List (List UInt8) × Option Fault :=
  let (fault, kept) := run chunk Tracker.never (fun _ => 0) 0 (keeping none) #[] items
  (kept.toList.map (·.bytes), fault)

end Reader

end SampleCapture
