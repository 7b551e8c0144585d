import SampleCapture.Proofs.Output.Stream

/-!
# Manners of writers

An operation of a sink ends as the writer lets its calls end. A steady writer never
crashes its thread, so that no operation does; with a willing writer all succeed.
-/

namespace SampleCapture

namespace Sink

variable {sink : Sink} {outcome : OutputResult × Sink}

/-- A write ends as one of the writer's rows of calls does, or it succeeds. -/
theorem Write.result {bytes : List UInt8} (way : sink.Write bytes outcome)
    (good : OutputResult → Prop) (done : good .done)
    (calls : ∀ text file bytes, good (sink.writer.pump text file bytes).result) :
    good outcome.1 := by
  have passed (sink : Sink) (capacity : Nat)
      (calls : ∀ text file bytes, good (sink.writer.pump text file bytes).result) :
      good (sink.passOrKeep capacity bytes).1 := by
    unfold passOrKeep
    split
    · exact calls _ _ _
    · exact done
  cases way with
  | direct none => exact calls _ _ _
  | room held fits => exact passed sink _ calls
  | emptied held _ =>
      have writer := (Emptied.emptyBuffer held).keeps.writer
      exact passed _ _ (writer ▸ calls)
  | stuck held failed => exact calls _ _ _

theorem Flush.result (way : sink.Flush outcome) (good : OutputResult → Prop)
    (calls : ∀ text file bytes, good (sink.writer.pump text file bytes).result)
    (flushed : good sink.writer.flushed) : good outcome.1 := by
  cases way with
  | direct none => exact flushed
  | emptied held done =>
      have writer := (Emptied.emptyBuffer held).keeps.writer
      rw [← writer] at flushed
      exact flushed
  | stuck held failed => exact calls _ _ _

end Sink

namespace Writer

/-- The writer never crashes its thread. -/
def Steady (writer : Writer) : Prop :=
  writer.flushed ≠ .crashed ∧ ∀ call stored offered, writer.respond call stored offered ≠ .crash

theorem Steady.pump {writer : Writer} (steady : writer.Steady) (stuckText : String)
    (file : OutputFile) (bytes : List UInt8) :
    (writer.pump stuckText file bytes).result ≠ .crashed := by
  fun_induction writer.pump stuckText file bytes with
  | case3 file bytes filled size count accepted seen ih => exact ih
  | case4 file bytes filled size fault failed interrupted ih => exact ih
  | case6 file bytes filled size crashed =>
      unfold result at crashed
      split at crashed
      · cases crashed
      · cases crashed
      · rename_i response
        exact absurd response (steady.2 _ _ _)
  | case1 | case2 | case5 =>
      intro crashed
      cases crashed

/-- The writer does nothing worse than to accept less than it is offered, though at least one
byte, or to be interrupted. -/
def Willing (writer : Writer) : Prop :=
  writer.flushed = .done ∧ ∀ call stored offered,
    (∃ count, writer.respond call stored offered = .accept (count + 1)) ∨
      ∃ fault, writer.respond call stored offered = .fail fault ∧ fault.isInterrupted = true

theorem Willing.steady {writer : Writer} (willing : writer.Willing) : writer.Steady := by
  constructor
  · rw [willing.1]
    decide
  · intro call stored offered crash
    rcases willing.2 call stored offered with ⟨count, response⟩ | ⟨fault, response, -⟩ <;>
      rw [response] at crash <;> cases crash

theorem Willing.pump {writer : Writer} (willing : writer.Willing) (stuckText : String)
    (file : OutputFile) (bytes : List UInt8) :
    (writer.pump stuckText file bytes).result = .done := by
  fun_induction writer.pump stuckText file bytes with
  | case1 => rfl
  | case3 file bytes filled size count accepted seen ih => exact ih
  | case4 file bytes filled size fault failed interrupted ih => exact ih
  | case2 file bytes filled size nothing =>
      have positive := List.length_pos_iff.mpr filled
      unfold result at nothing
      rcases willing.2 file.offers.size file.stored.size size with
        ⟨count, response⟩ | ⟨fault, response, interrupted⟩
      · rw [response] at nothing
        injection nothing with none
        omega
      · rw [response] at nothing
        cases nothing
  | case5 file bytes filled size fault failed other =>
      unfold result at failed
      rcases willing.2 file.offers.size file.stored.size size with
        ⟨count, response⟩ | ⟨known, response, interrupted⟩
      · rw [response] at failed
        cases failed
      · rw [response] at failed
        cases failed
        exact absurd interrupted other
  | case6 file bytes filled size crashed =>
      unfold result at crashed
      rcases willing.2 file.offers.size file.stored.size size with
        ⟨count, response⟩ | ⟨fault, response, interrupted⟩ <;> rw [response] at crashed <;>
        cases crashed

end Writer

end SampleCapture
