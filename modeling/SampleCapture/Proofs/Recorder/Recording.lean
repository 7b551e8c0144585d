import SampleCapture.Proofs.Output.Stream
import SampleCapture.Proofs.Slices

/-!
# Recordings

What should come of some content that is written in slices with nobody in the way: one
write after the other up to the first that fails, and a flush behind the last one. The
content is in the file as far as the writes have succeeded, and of the slice that failed a
proper first part.
-/

namespace SampleCapture

/-! ## The reference -/

structure Recording where
  /-- The slices that are handed over, with the ends of their writes. -/
  writes : List (List UInt8 × OutputResult)
  file : OutputFile
  /-- How many bytes are counted as written. -/
  counted : Nat
  result : OutputResult

/-- The recording with these writes before, and so many bytes counted. -/
def Recording.after (later : Recording) (writes : List (List UInt8 × OutputResult))
    (counted : Nat) : Recording :=
  { later with writes := writes ++ later.writes, counted := counted + later.counted }

@[simp] theorem Recording.after_zero (later : Recording) : later.after [] 0 = later := by
  simp [after]

theorem Recording.after_after (later : Recording) (first second : List (List UInt8 × OutputResult))
    (one two : Nat) :
    (later.after second two).after first one = later.after (first ++ second) (one + two) := by
  simp [after, Nat.add_assoc]

namespace Writer

/-- Writes slices one after the other, and flushes when they are all written. -/
def recording (writer : Writer) (file : OutputFile) : List (List UInt8) → Recording
  | [] =>
      { writes := []
        file := { file with flushes := file.flushes + 1 }
        counted := 0
        result := writer.flushed }
  | slice :: slices =>
      let pumped := writer.pump Sink.stuckWrite file slice
      if pumped.result = .done then
        (writer.recording pumped.file slices).after [(slice, .done)] slice.length
      else
        { writes := [(slice, pumped.result)]
          file := pumped.file
          counted := 0
          result := pumped.result }

theorem flushes_pump (writer : Writer) (stuckText : String) (file : OutputFile)
    (bytes : List UInt8) :
    (writer.pump stuckText file bytes).file.flushes = file.flushes := by
  fun_induction writer.pump stuckText file bytes with
  | case1 | case2 | case5 | case6 => rfl
  | case3 file bytes filled size count accepted seen ih => exact ih
  | case4 file bytes filled size fault failed interrupted ih => exact ih

inductive Records (writer : Writer) (file : OutputFile) (slices : List (List UInt8)) :
    Recording → Prop where
  | whole {recording : Recording} (writes : recording.writes = slices.map (·, .done))
      (stored : recording.file.stored.toList = file.stored.toList ++ slices.flatten)
      (flushes : recording.file.flushes = file.flushes + 1)
      (counted : recording.counted = slices.flatten.length)
      (result : recording.result = writer.flushed) : Records writer file slices recording
  /-- A slice is not written to its end. -/
  | broken {recording : Recording} {before later : List (List UInt8)} {slice taken : List UInt8}
      (split : slices = before ++ slice :: later)
      (writes : recording.writes = before.map (·, .done) ++ [(slice, recording.result)])
      (stored : recording.file.stored.toList = file.stored.toList ++ (before.flatten ++ taken))
      (front : taken <+: slice) (short : taken.length < slice.length)
      (flushes : recording.file.flushes = file.flushes)
      (counted : recording.counted = before.flatten.length)
      (failed : recording.result ≠ .done) : Records writer file slices recording

theorem records (writer : Writer) (file : OutputFile) (slices : List (List UInt8)) :
    writer.Records file slices (writer.recording file slices) := by
  induction slices generalizing file with
  | nil => exact .whole rfl (by simp [recording]) rfl rfl rfl
  | cons slice slices ih =>
      obtain ⟨taken, split, stored, complete⟩ := writer.pump_stored Sink.stuckWrite file slice
      have still := writer.flushes_pump Sink.stuckWrite file slice
      rw [recording]
      split
      · rename_i done
        rw [complete.mp done, List.append_nil] at split
        rw [← split] at stored
        cases ih (writer.pump Sink.stuckWrite file slice).file with
        | whole writes kept flushes counted result =>
            refine .whole ?_ ?_ (flushes.trans (by rw [still])) ?_ result
            · simp [Recording.after, writes]
            · simp [Recording.after, kept, stored]
            · simp [Recording.after, counted]
        | @broken before later last taken parts writes kept front short flushes counted failed =>
            have parts : slice :: slices = (slice :: before) ++ last :: later :=
              congrArg (slice :: ·) parts
            refine .broken parts ?_ ?_ front short (flushes.trans still) ?_ failed
            · simp [Recording.after, writes]
            · simp [Recording.after, kept, stored]
            · simp [Recording.after, counted]
      · rename_i failed
        have parts : slice :: slices = [] ++ slice :: slices := rfl
        refine .broken parts rfl stored ⟨_, split.symm⟩ ?_ still rfl failed
        have left := List.length_pos_iff.mpr (mt complete.mpr failed)
        have lengths := congrArg List.length split
        rw [List.length_append] at lengths
        omega

/-- What a recording of some content in slices of `size` bytes comes to. -/
structure Renders (writer : Writer) (file : OutputFile) (size : Nat) (content : List UInt8)
    (recording : Recording) : Prop where
  /-- The slices that are handed over lie one behind the other, and only the last one of the
  content can be shorter than `size`. -/
  slices : ∀ place slice result, recording.writes[place]? = some (slice, result) →
    slice ≠ [] ∧ slice = (content.drop (place * size)).take size
  /-- If all writes succeed, the content is in the file, which is flushed once. -/
  complete : (∀ write ∈ recording.writes, write.2 = .done) →
    (recording.writes.map Prod.fst).flatten = content ∧
      recording.file.stored.toList = file.stored.toList ++ content ∧
      recording.file.flushes = file.flushes + 1 ∧ recording.counted = content.length ∧
      recording.result = writer.flushed
  /-- A write that fails is the last one, and of its slice some bytes are left. -/
  broken : ∀ place slice result, recording.writes[place]? = some (slice, result) →
    result ≠ .done →
      recording.writes.length = place + 1 ∧ recording.result = result ∧
      recording.file.flushes = file.flushes ∧ recording.counted = place * size ∧
      ∃ some, some < slice.length ∧
        recording.file.stored.toList = file.stored.toList ++ content.take (place * size + some)

/-- Nothing else is handed over. -/
theorem Records.writes_prefix {writer : Writer} {file : OutputFile} {slices : List (List UInt8)}
    {recording : Recording} (records : writer.Records file slices recording) :
    recording.writes.map Prod.fst <+: slices := by
  cases records with
  | whole writes => simp [writes, Function.comp_def]
  | @broken before later slice taken split writes =>
      refine ⟨later, ?_⟩
      simp [writes, split, Function.comp_def]

theorem Records.renders {writer : Writer} {file : OutputFile} {size : Nat}
    (positive : 0 < size) {content : List UInt8} {recording : Recording}
    (records : writer.Records file (cut size content) recording) :
    writer.Renders file size content recording where
  slices place slice result known := by
    obtain ⟨rest, split⟩ := records.writes_prefix
    have handed : (recording.writes.map Prod.fst)[place]? = some slice := by
      rw [List.getElem?_map, known]
      rfl
    obtain ⟨bound, -⟩ := List.getElem?_eq_some_iff.mp handed
    refine eq_of_cut_getElem? positive ?_
    rw [← split, List.getElem?_append_left bound, handed]
  complete succeeded := by
    cases records with
    | whole writes stored flushes counted result =>
        have all := cut_flatten positive content
        rw [all] at stored counted
        refine ⟨?_, stored, flushes, counted, result⟩
        simpa [writes, Function.comp_def] using all
    | @broken before later slice taken split writes stored front short flushes counted failed =>
        exact absurd (succeeded (slice, recording.result) (by simp [writes])) failed
  broken place slice result known bad := by
    cases records with
    | whole writes =>
        rw [writes, List.getElem?_map] at known
        obtain ⟨other, -, same⟩ := Option.map_eq_some_iff.mp known
        exact absurd (congrArg Prod.snd same).symm bad
    | @broken before later last taken split writes stored front short flushes counted =>
        obtain ⟨sum, within, cutOut⟩ := cut_split split
        -- all writes before the last one have succeeded
        have here : place = before.length := by
          rw [writes] at known
          rcases Nat.lt_trichotomy place before.length with early | here | late
          · rw [List.getElem?_append_left (by simpa using early), List.getElem?_map] at known
            obtain ⟨other, -, same⟩ := Option.map_eq_some_iff.mp known
            exact absurd (congrArg Prod.snd same).symm bad
          · exact here
          · rw [List.getElem?_eq_none (by simp; omega)] at known
            cases known
        rw [writes, here, List.getElem?_append_right (by simp)] at known
        simp only [List.length_map, Nat.sub_self, List.getElem?_cons_zero, Option.some.injEq,
          Prod.mk.injEq] at known
        obtain ⟨rfl, rfl⟩ := known
        refine ⟨by simp [writes, here], rfl, flushes, ?_, taken.length, short, ?_⟩
        · rw [counted, sum, here, List.length_take_of_le (Nat.le_of_lt within)]
        · have fits : taken.length ≤ size := by
            rw [cutOut, List.length_take] at short
            omega
          have part : taken = (content.drop (before.length * size)).take taken.length := by
            calc taken = last.take taken.length := List.prefix_iff_eq_take.mp front
              _ = (content.drop (before.length * size)).take taken.length := by
                rw [cutOut, List.take_take, Nat.min_eq_left fits]
          rw [stored, sum, here, List.take_add, ← part]

end Writer

end SampleCapture
