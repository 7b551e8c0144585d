import Mathlib.Algebra.Group.Nat.Defs
import Mathlib.Data.List.Induction
import SampleCapture.Proofs.Intake.Overflow
import SampleCapture.Proofs.Session.Lines
import SampleCapture.Reader

/-!
# The ledger of a row of calls

The lines that a row of calls has to leave in a log, apart from those of stop requests. They
follow from the bytes and the reports of the calls, and from which calls have had their samples
refused. What the warm-up line and the lines of flagged bytes come to over all calls is read
off here.
-/

namespace SampleCapture

/-! ## The places of flagged bytes -/

theorem flaggedIndices_append (start : Nat) (first second : List UInt8) :
    flaggedIndices start (first ++ second) =
      flaggedIndices start first ++ flaggedIndices (start + first.length) second := by
  induction first generalizing start with
  | nil => rfl
  | cons byte rest ih =>
      rw [List.cons_append, flaggedIndices, flaggedIndices, ih, List.length_cons,
        Nat.add_assoc, Nat.add_comm 1]
      split <;> rfl

/-- Counting from further on moves all places. -/
theorem flaggedIndices_add (start offset : Nat) (stream : List UInt8) :
    flaggedIndices (start + offset) stream = (flaggedIndices offset stream).map (start + ·) := by
  induction stream generalizing offset with
  | nil => rfl
  | cons byte rest ih =>
      rw [flaggedIndices, flaggedIndices, Nat.add_assoc, ih]
      split <;> rfl

theorem mem_flaggedIndices {start place : Nat} {stream : List UInt8} :
    place ∈ flaggedIndices start stream ↔
      ∃ index byte, place = start + index ∧ stream[index]? = some byte ∧ isFlagged byte = true := by
  induction stream generalizing start with
  | nil => simp [flaggedIndices]
  | cons byte rest ih =>
      have later : place ∈ flaggedIndices (start + 1) rest ↔ ∃ index other,
          place = start + (index + 1) ∧ rest[index]? = some other ∧ isFlagged other = true := by
        simp only [ih, Nat.add_assoc, Nat.add_comm 1]
      rw [flaggedIndices]
      constructor
      · intro member
        split at member
        · rename_i flagged
          rcases List.mem_cons.mp member with rfl | behind
          · exact ⟨0, byte, rfl, rfl, flagged⟩
          · obtain ⟨index, other, same, found, flagged⟩ := later.mp behind
            exact ⟨index + 1, other, same, found, flagged⟩
        · obtain ⟨index, other, same, found, flagged⟩ := later.mp member
          exact ⟨index + 1, other, same, found, flagged⟩
      · rintro ⟨index, other, same, found, flagged⟩
        cases index with
        | zero =>
            cases found
            rw [if_pos flagged, same]
            exact List.mem_cons_self
        | succ index =>
            have behind := later.mpr ⟨index, other, same, found, flagged⟩
            split
            · exact List.mem_cons_of_mem _ behind
            · exact behind

/-- The places come in the order of the stream. -/
theorem pairwise_flaggedIndices (start : Nat) (stream : List UInt8) :
    (flaggedIndices start stream).Pairwise (· < ·) := by
  induction stream generalizing start with
  | nil => exact .nil
  | cons byte rest ih =>
      rw [flaggedIndices]
      split
      · refine List.pairwise_cons.mpr ⟨fun place member => ?_, ih _⟩
        obtain ⟨index, -, same, -⟩ := mem_flaggedIndices.mp member
        omega
      · exact ih _

theorem lt_of_mem_flaggedIndices {place : Nat} {stream : List UInt8}
    (member : place ∈ flaggedIndices 0 stream) : place < stream.length := by
  obtain ⟨index, byte, same, found, -⟩ := mem_flaggedIndices.mp member
  obtain ⟨inside, -⟩ := List.getElem?_eq_some_iff.mp found
  omega

/-- The places are small enough for a word. -/
theorem toNat_flaggedIndices {stream : List UInt8} (bound : stream.length < UInt64.size) :
    ((flaggedIndices 0 stream).map Nat.toUInt64).map UInt64.toNat = flaggedIndices 0 stream := by
  rw [List.map_map]
  refine (List.map_congr_left fun place member => ?_).trans (List.map_id _)
  exact toNat_toUInt64_of_lt (Nat.lt_trans (lt_of_mem_flaggedIndices member) bound)

/-- The line of a flagged byte has its place among the samples too, which is twice that among the
bytes. -/
theorem Event.fields_overflowFlagged {place : UInt64} (bound : place.toNat < 2 ^ 63) :
    (overflowFlagged place).fields =
      [("byte_offset", .number place.toNat), ("sample_offset", .number (2 * place.toNat))] := by
  have twice : (place * 2).toNat = 2 * place.toNat := by
    rw [UInt64.toNat_mul, Nat.mul_comm]
    exact Nat.mod_eq_of_lt (by change 2 * _ < _; omega)
  rw [fields, twice]

/-! ## The lines of a call -/

namespace Delivery

def live (call : Delivery) (warmUp : UInt64) (before : List UInt8) : List UInt8 :=
  liveBytes (warmUp.toNat - before.length) call.bytes

/-- The lines of a call up to its samples: that the warm-up is over, in the first call with a live
byte, and the places of the flagged bytes in the live stream. -/
def opening (call : Delivery) (warmUp : UInt64) (before : List UInt8) : List Event :=
  (if warmUp ≠ 0 ∧ liveBytes warmUp.toNat before = [] ∧ call.live warmUp before ≠ [] then
      [.warmUpComplete warmUp]
    else []) ++
    (flaggedIndices (liveBytes warmUp.toNat before).length (call.live warmUp before)).map
      fun place => .overflowFlagged place.toUInt64

def refusal (call : Delivery) (warmUp : UInt64) (before : List UInt8) : List Event :=
  [.samplesRefused (sampleBytes (call.live warmUp before)).length .queueDisconnected]

end Delivery

/-- The line of a report, if there is one: it has the flagged live bytes so far. -/
def reportLines (warmUp : UInt64) (bytes : List UInt8) (report : Option ProgressSnapshot) :
    List Event :=
  report.toList.map fun report =>
    .progress report (flaggedCount (liveBytes warmUp.toNat bytes)).toUInt64

structure Served where
  call : Delivery
  refused : Bool

namespace Served

def lines (served : Served) (warmUp : UInt64) (before : List UInt8) : List Event :=
  served.call.opening warmUp before ++
    (if served.refused then served.call.refusal warmUp before else []) ++
    reportLines warmUp (before ++ served.call.bytes) served.call.report

def bytes (row : List Served) : List UInt8 :=
  (row.map (·.call)).flatMap (·.bytes)

theorem bytes_snoc (row : List Served) (last : Served) :
    bytes (row ++ [last]) = bytes row ++ last.call.bytes := by
  simp [bytes]

/-- The lines of a row of calls that come behind other bytes. -/
def ledger (warmUp : UInt64) (before : List UInt8) : List Served → List Event
  | [] => []
  | served :: row => served.lines warmUp before ++ ledger warmUp (before ++ served.call.bytes) row

theorem ledger_snoc (warmUp : UInt64) (before : List UInt8) (row : List Served) (last : Served) :
    ledger warmUp before (row ++ [last]) =
      ledger warmUp before row ++ last.lines warmUp (before ++ bytes row) := by
  induction row generalizing before with
  | nil =>
      rw [List.nil_append, ledger, ledger, ledger, List.nil_append]
      simp [bytes]
  | cons first row ih =>
      rw [List.cons_append, ledger, ih, ledger, List.append_assoc]
      simp [bytes]

end Served

/-! ## The lines of one kind -/

namespace Event

def warmUp? : Event → Option UInt64
  | .warmUpComplete discarded => some discarded
  | _ => none

def flagged? : Event → Option UInt64
  | .overflowFlagged place => some place
  | _ => none

end Event

theorem filterMap_reportLines {kind : Event → Option UInt64} (warmUp : UInt64)
    (bytes : List UInt8) (report : Option ProgressSnapshot)
    (other : ∀ report dropouts, kind (.progress report dropouts) = none) :
    (reportLines warmUp bytes report).filterMap kind = [] := by
  cases report with
  | none => rfl
  | some report => simp [reportLines, other]

namespace Delivery

theorem warmUp_opening (call : Delivery) (warmUp : UInt64) (before : List UInt8) :
    (call.opening warmUp before).filterMap Event.warmUp? =
      if warmUp ≠ 0 ∧ liveBytes warmUp.toNat before = [] ∧ call.live warmUp before ≠ [] then
        [warmUp]
      else [] := by
  have others (places : List Nat) : (places.map fun place =>
      Event.overflowFlagged place.toUInt64).filterMap Event.warmUp? = [] := by
    simp [Event.warmUp?]
  rw [opening, List.filterMap_append, others, List.append_nil]
  split <;> rfl

theorem flagged_opening (call : Delivery) (warmUp : UInt64) (before : List UInt8) :
    (call.opening warmUp before).filterMap Event.flagged? =
      (flaggedIndices (liveBytes warmUp.toNat before).length
        (call.live warmUp before)).map Nat.toUInt64 := by
  have places (places : List Nat) : (places.map fun place =>
      Event.overflowFlagged place.toUInt64).filterMap Event.flagged? =
        places.map Nat.toUInt64 := by
    induction places with
    | nil => rfl
    | cons place places ih => exact congrArg (place.toUInt64 :: ·) ih
  rw [opening, List.filterMap_append, places]
  split <;> rfl

end Delivery

namespace Served

/-- The lines of a call of a kind that neither reports nor refusals are of. -/
theorem filterMap_lines {kind : Event → Option UInt64} (served : Served) (warmUp : UInt64)
    (before : List UInt8) (report : ∀ report dropouts, kind (.progress report dropouts) = none)
    (refusal : ∀ count cause, kind (.samplesRefused count cause) = none) :
    (served.lines warmUp before).filterMap kind =
      (served.call.opening warmUp before).filterMap kind := by
  rw [lines, List.filterMap_append, List.filterMap_append, filterMap_reportLines _ _ _ report,
    List.append_nil]
  split
  · simp [Delivery.refusal, refusal]
  · exact List.append_nil _

theorem liveBytes_snoc (warmUp : UInt64) (row : List Served) (last : Served) :
    liveBytes warmUp.toNat (bytes (row ++ [last])) =
      liveBytes warmUp.toNat (bytes row) ++ last.call.live warmUp (bytes row) := by
  rw [bytes_snoc, liveBytes_append]
  rfl

/-- Over all calls there is one line for every flagged live byte, in order. -/
theorem flagged_ledger (warmUp : UInt64) (row : List Served) :
    (ledger warmUp [] row).filterMap Event.flagged? =
      (flaggedIndices 0 (liveBytes warmUp.toNat (bytes row))).map Nat.toUInt64 := by
  induction row using List.reverseRecOn with
  | nil => simp [ledger, bytes, liveBytes, flaggedIndices]
  | append_singleton row last ih =>
      rw [ledger_snoc, List.filterMap_append, ih, List.nil_append,
        last.filterMap_lines warmUp _ (fun _ _ => rfl) (fun _ _ => rfl),
        last.call.flagged_opening, liveBytes_snoc, flaggedIndices_append, List.map_append,
        Nat.zero_add]

/-- Over all calls the warm-up is reported as over once, if it has been. -/
theorem warmUp_ledger (warmUp : UInt64) (row : List Served) :
    (ledger warmUp [] row).filterMap Event.warmUp? =
      if warmUp ≠ 0 ∧ liveBytes warmUp.toNat (bytes row) ≠ [] then [warmUp] else [] := by
  induction row using List.reverseRecOn with
  | nil => simp [ledger, bytes, liveBytes]
  | append_singleton row last ih =>
      rw [ledger_snoc, List.filterMap_append, ih, List.nil_append,
        last.filterMap_lines warmUp _ (fun _ _ => rfl) (fun _ _ => rfl),
        last.call.warmUp_opening, liveBytes_snoc]
      by_cases none : liveBytes warmUp.toNat (bytes row) = []
      · simp [none]
      · simp [none]

/-- The lines of a call have the one about the warm-up in front. -/
theorem ordered_lines (served : Served) (warmUp : UInt64) (before : List UInt8) :
    (served.lines warmUp before).Pairwise fun first second =>
      first.flagged? ≠ none → second.warmUp? = none := by
  have after : ∀ line ∈ ((flaggedIndices (liveBytes warmUp.toNat before).length
      (served.call.live warmUp before)).map fun place => Event.overflowFlagged place.toUInt64) ++
        ((if served.refused then served.call.refusal warmUp before else []) ++
          reportLines warmUp (before ++ served.call.bytes) served.call.report),
      line.warmUp? = none := by
    apply List.filterMap_eq_nil_iff.mp
    rw [List.filterMap_append, List.filterMap_append,
      filterMap_reportLines _ _ _ fun _ _ => rfl, List.append_nil]
    split <;> simp [Event.warmUp?, Delivery.refusal]
  rw [lines, Delivery.opening, List.append_assoc, List.append_assoc, List.pairwise_append]
  refine ⟨?_, ?_, ?_⟩
  · split
    · exact List.pairwise_singleton _ _
    · exact .nil
  · exact List.pairwise_of_forall_mem_list fun first _ second member _ => after second member
  · intro first _ second member _
    exact after second member

/-- That the warm-up is over is said before anything about a flagged byte. -/
theorem ordered_ledger (warmUp : UInt64) (row : List Served) :
    (ledger warmUp [] row).Pairwise fun first second =>
      first.flagged? ≠ none → second.warmUp? = none := by
  induction row using List.reverseRecOn with
  | nil => exact .nil
  | append_singleton row last ih =>
      rw [ledger_snoc, List.pairwise_append]
      refine ⟨ih, last.ordered_lines _ _, ?_⟩
      intro first earlier second later flagged
      have told : (last.lines warmUp ([] ++ bytes row)).filterMap Event.warmUp? = _ :=
        last.filterMap_lines warmUp _ (fun _ _ => rfl) (fun _ _ => rfl)
      rw [last.call.warmUp_opening] at told
      by_cases fresh : liveBytes warmUp.toNat ([] ++ bytes row) = []
      · -- no live byte has come, so none can have been flagged
        have silent := flagged_ledger warmUp row
        rw [List.nil_append] at fresh
        rw [fresh] at silent
        exact absurd (List.filterMap_eq_nil_iff.mp silent first earlier) flagged
      · rw [if_neg fun starts => fresh starts.2.1] at told
        exact List.filterMap_eq_nil_iff.mp told second later

end Served

/-! ## Logs with these lines -/

/-- The lines of a kind are all ordinary ones if those of stop requests are not of it. -/
theorem Event.filterMap_ordinary {kind : Event → Option UInt64}
    (stop : ∀ reason, kind (.stopRequested reason) = none) (lines : List Event) :
    (ordinary lines).filterMap kind = lines.filterMap kind := by
  rw [ordinary, List.filterMap_filter]
  congr 1
  funext line
  cases line with
  | stopRequested reason => exact (stop reason).symm
  | _ => rfl

namespace Served

variable {warmUp : UInt64} {row : List Served} {log : List Event}

theorem flagged_of_ledger (exact : Event.ordinary log = ledger warmUp [] row) :
    log.filterMap Event.flagged? =
      (flaggedIndices 0 (liveBytes warmUp.toNat (bytes row))).map Nat.toUInt64 := by
  rw [← Event.filterMap_ordinary fun _ => rfl, exact, flagged_ledger]

theorem warmUp_of_ledger (exact : Event.ordinary log = ledger warmUp [] row) :
    log.filterMap Event.warmUp? =
      if warmUp ≠ 0 ∧ liveBytes warmUp.toNat (bytes row) ≠ [] then [warmUp] else [] := by
  rw [← Event.filterMap_ordinary fun _ => rfl, exact, warmUp_ledger]

/-- Stop requests in between do not disturb the order. -/
theorem ordered_of_ledger (exact : Event.ordinary log = ledger warmUp [] row) :
    log.Pairwise fun first second => first.flagged? ≠ none → second.warmUp? = none := by
  have order := ordered_ledger warmUp row
  rw [← exact, Event.ordinary, List.pairwise_filter] at order
  refine order.imp fun {first second} apart seen => ?_
  cases first with
  | overflowFlagged place =>
      cases second with
      | warmUpComplete discarded => exact apart rfl rfl seen
      | _ => rfl
  | _ => exact absurd rfl seen

end Served

end SampleCapture
