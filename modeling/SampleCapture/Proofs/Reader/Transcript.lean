import SampleCapture.Proofs.Reader

/-!
# Transcripts of transfers

Everything that a transfer does, in order: its reads with what they found, and its calls with
their answers. The transcript follows the transfer clause by clause and ends with the same
result; what is read, delivered and reported can be taken from it. `Transfer` lists the ways
in which a round of a transfer goes, so that what holds of all transcripts is proved by
induction over the rounds.
-/

namespace SampleCapture

inductive ReadResult where
  /-- With these bytes; with none at the end of the transfer. -/
  | bytes (bytes : List UInt8)
  | fault (fault : Fault)

inductive Act where
  | read (result : ReadResult)
  | call (delivery : Delivery) (answer : Answer)

@[simp] def Act.burst (bytes : List UInt8) (answer : Answer) : Act :=
  .call { bytes := bytes, report := none } answer

@[simp] def Act.report (report : ProgressSnapshot) (answer : Answer) : Act :=
  .call { bytes := [], report := some report } answer

namespace Act

def fetched : Act → List UInt8
  | .read (.bytes bytes) => bytes
  | .read (.fault _) | .call _ _ => []

def delivered : Act → List UInt8
  | .call delivery _ => delivery.bytes
  | .read _ => []

def period : Act → Nat
  | .call delivery _ => delivery.report.elim 0 (·.period.toNat)
  | .read _ => 0

def read? : Act → Option ReadResult
  | .read result => some result
  | .call _ _ => none

def isInterruption : Act → Bool
  | .read (.fault fault) => fault.isInterrupted
  | .read (.bytes _) | .call _ _ => false

/-- Whether there may be a read after an act: the last call has been answered with a continue,
or the last read was interrupted. -/
def goesOn : Act → Bool
  | .call _ answer => answer = .continue
  | .read (.fault fault) => fault.isInterrupted
  | .read (.bytes _) => false

def feed {σ : Type} (sink : σ → Delivery → Answer × σ) (state : σ) : Act → σ
  | .call delivery _ => (sink state delivery).2
  | .read _ => state

end Act

structure Transcript (σ : Type) where
  acts : List Act
  fault : Option Fault
  state : σ

def Transcript.after {σ : Type} (later : Transcript σ) (acts : List Act) : Transcript σ :=
  { later with acts := acts ++ later.acts }

namespace Reader

def transcript {σ : Type} (chunk : Nat) (sink : σ → Delivery → Answer × σ) (clock : Nat → Int)
    (tracker : Tracker) (polls : Nat) (state : σ) : List ReadItem → Transcript σ
  | [] => { acts := [.read (.bytes [])], fault := none, state := state }
  | .data [] :: _ => { acts := [.read (.bytes [])], fault := none, state := state }
  | .fault fault :: rest =>
      if fault.isInterrupted then
        (transcript chunk sink clock tracker polls state rest).after [.read (.fault fault)]
      else { acts := [.read (.fault fault)], fault := some fault, state := state }
  | .data (byte :: bytes) :: rest =>
      let burst := (byte :: bytes).take (chunk + 1)
      match sink state { bytes := burst, report := none } with
      | (.stop, state) =>
          { acts := [.read (.bytes burst), .burst burst .stop], fault := none, state := state }
      | (.continue, state) =>
          let counted := tracker.record burst.length
          let next := leftover (chunk + 1) (byte :: bytes) rest
          match counted.poll (clock polls) with
          | none =>
              (transcript chunk sink clock counted (polls + 1) state next).after
                [.read (.bytes burst), .burst burst .continue]
          | some (report, reported) =>
              match sink state { bytes := [], report := some report } with
              | (.stop, state) =>
                  { acts :=
                      [.read (.bytes burst), .burst burst .continue, .report report .stop]
                    fault := none
                    state := state }
              | (.continue, state) =>
                  (transcript chunk sink clock reported (polls + 1) state next).after
                    [.read (.bytes burst), .burst burst .continue, .report report .continue]
termination_by items => weight items
decreasing_by
  · simp only [weight]; omega
  · exact weight_leftover ..
  · exact weight_leftover ..

/-- A transfer ends as its transcript says. -/
theorem stream_eq_transcript {σ : Type} (chunk : Nat) (sink : σ → Delivery → Answer × σ)
    (clock : Nat → Int) (tracker : Tracker) (polls : Nat) (state : σ) (items : List ReadItem) :
    stream chunk sink clock tracker polls state items =
      ((transcript chunk sink clock tracker polls state items).fault,
        (transcript chunk sink clock tracker polls state items).state) := by
  fun_induction transcript chunk sink clock tracker polls state items with
  | case1 tracker polls state => rw [stream]
  | case2 tracker polls state rest => rw [stream]
  | case3 tracker polls state fault rest interrupted ih =>
      rw [stream, if_pos interrupted, ih]
      rfl
  | case4 tracker polls state fault rest fatal => rw [stream, if_neg fatal]
  | case5 tracker polls state byte bytes rest burst after told =>
      rw [stream]
      dsimp only
      rw [told]
  | case6 tracker polls state byte bytes rest burst after told counted next silent ih =>
      rw [stream]
      dsimp only
      rw [told]
      dsimp only
      rw [silent]
      exact ih
  | case7 tracker polls state byte bytes rest burst after told counted report reported due last
      stopped =>
      rw [stream]
      dsimp only
      rw [told]
      dsimp only
      rw [due]
      dsimp only
      rw [stopped]
  | case8 tracker polls state byte bytes rest burst after told counted next report reported due
      last answered ih =>
      rw [stream]
      dsimp only
      rw [told]
      dsimp only
      rw [due]
      dsimp only
      rw [answered]
      exact ih

/-- The transcript of a whole transfer with a chunk size, of which zero counts as one. -/
def trace {σ : Type} (chunk interval : Nat) (clock : Nat → Int) (started : Int)
    (sink : σ → Delivery → Answer × σ) (state : σ) (items : List ReadItem) : Transcript σ :=
  transcript (chunk - 1) sink clock (.start interval started) 0 state items

theorem run_eq_trace {σ : Type} (chunk interval : Nat) (clock : Nat → Int) (started : Int)
    (sink : σ → Delivery → Answer × σ) (state : σ) (items : List ReadItem) :
    run chunk interval clock started sink state items =
      ((trace chunk interval clock started sink state items).fault,
        (trace chunk interval clock started sink state items).state) :=
  stream_eq_transcript ..

/-! ## Rounds -/

/-- One read with room for so many bytes, and what is left to read after it. -/
def fetch (room : Nat) : List ReadItem → ReadResult × List ReadItem
  | [] => (.bytes [], [])
  | .data bytes :: rest => (.bytes (bytes.take room), leftover room bytes rest)
  | .fault fault :: rest => (.fault fault, rest)

/-- The transcripts of transfers, round by round. -/
inductive Transfer {σ : Type} (chunk : Nat) (sink : σ → Delivery → Answer × σ)
    (clock : Nat → Int) : Tracker → Nat → σ → List ReadItem → Transcript σ → Prop where
  /-- The read finds nothing. -/
  | ended {tracker : Tracker} {polls : Nat} {state : σ} {items left : List ReadItem}
      (found : fetch (chunk + 1) items = (.bytes [], left)) :
      Transfer chunk sink clock tracker polls state items
        { acts := [.read (.bytes [])], fault := none, state := state }
  | failed {tracker : Tracker} {polls : Nat} {state : σ} {items left : List ReadItem}
      {fault : Fault} (found : fetch (chunk + 1) items = (.fault fault, left))
      (fatal : fault.isInterrupted = false) :
      Transfer chunk sink clock tracker polls state items
        { acts := [.read (.fault fault)], fault := some fault, state := state }
  | interrupted {tracker : Tracker} {polls : Nat} {state : σ} {items left : List ReadItem}
      {fault : Fault} {later : Transcript σ}
      (found : fetch (chunk + 1) items = (.fault fault, left))
      (again : fault.isInterrupted = true)
      (rest : Transfer chunk sink clock tracker polls state left later) :
      Transfer chunk sink clock tracker polls state items (later.after [.read (.fault fault)])
  /-- The burst is answered with a stop. -/
  | halted {tracker : Tracker} {polls : Nat} {state last : σ} {items left : List ReadItem}
      {burst : List UInt8} (found : fetch (chunk + 1) items = (.bytes burst, left))
      (filled : burst ≠ []) (told : sink state { bytes := burst, report := none } = (.stop, last)) :
      Transfer chunk sink clock tracker polls state items
        { acts := [.read (.bytes burst), .burst burst .stop], fault := none, state := last }
  /-- No report is due. -/
  | silent {tracker : Tracker} {polls : Nat} {state next : σ} {items left : List ReadItem}
      {burst : List UInt8} {later : Transcript σ}
      (found : fetch (chunk + 1) items = (.bytes burst, left)) (filled : burst ≠ [])
      (told : sink state { bytes := burst, report := none } = (.continue, next))
      (early : (tracker.record burst.length).poll (clock polls) = none)
      (rest : Transfer chunk sink clock (tracker.record burst.length) (polls + 1) next left later) :
      Transfer chunk sink clock tracker polls state items
        (later.after [.read (.bytes burst), .burst burst .continue])
  /-- The report is answered with a stop. -/
  | haltedReport {tracker reported : Tracker} {polls : Nat} {state next last : σ}
      {items left : List ReadItem} {burst : List UInt8} {report : ProgressSnapshot}
      (found : fetch (chunk + 1) items = (.bytes burst, left)) (filled : burst ≠ [])
      (told : sink state { bytes := burst, report := none } = (.continue, next))
      (due : (tracker.record burst.length).poll (clock polls) = some (report, reported))
      (stopped : sink next { bytes := [], report := some report } = (.stop, last)) :
      Transfer chunk sink clock tracker polls state items
        { acts := [.read (.bytes burst), .burst burst .continue, .report report .stop]
          fault := none
          state := last }
  | reported {tracker reported : Tracker} {polls : Nat} {state next last : σ}
      {items left : List ReadItem} {burst : List UInt8} {report : ProgressSnapshot}
      {later : Transcript σ}
      (found : fetch (chunk + 1) items = (.bytes burst, left)) (filled : burst ≠ [])
      (told : sink state { bytes := burst, report := none } = (.continue, next))
      (due : (tracker.record burst.length).poll (clock polls) = some (report, reported))
      (onward : sink next { bytes := [], report := some report } = (.continue, last))
      (rest : Transfer chunk sink clock reported (polls + 1) last left later) :
      Transfer chunk sink clock tracker polls state items
        (later.after [.read (.bytes burst), .burst burst .continue, .report report .continue])

theorem transfer_transcript {σ : Type} (chunk : Nat) (sink : σ → Delivery → Answer × σ)
    (clock : Nat → Int) (tracker : Tracker) (polls : Nat) (state : σ) (items : List ReadItem) :
    Transfer chunk sink clock tracker polls state items
      (transcript chunk sink clock tracker polls state items) := by
  fun_induction transcript chunk sink clock tracker polls state items with
  | case1 tracker polls state => exact .ended rfl
  | case2 tracker polls state rest => exact .ended rfl
  | case3 tracker polls state fault rest interrupted ih => exact .interrupted rfl interrupted ih
  | case4 tracker polls state fault rest fatal =>
      exact .failed rfl (Bool.eq_false_iff.mpr fatal)
  | case5 tracker polls state byte bytes rest burst after told =>
      exact .halted rfl (List.cons_ne_nil _ _) told
  | case6 tracker polls state byte bytes rest burst after told counted next silent ih =>
      exact .silent rfl (List.cons_ne_nil _ _) told silent ih
  | case7 tracker polls state byte bytes rest burst after told counted report reported due last
      stopped => exact .haltedReport rfl (List.cons_ne_nil _ _) told due stopped
  | case8 tracker polls state byte bytes rest burst after told counted next report reported due
      last onward ih => exact .reported rfl (List.cons_ne_nil _ _) told due onward ih

end Reader

end SampleCapture
