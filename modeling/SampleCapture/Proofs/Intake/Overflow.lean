import SampleCapture.Proofs.Intake.Plan

/-!
# The first overflow of a stream

The place of the first flagged byte of a stream is settled by any first part of the stream
that has one.
-/

namespace SampleCapture

def firstFlag (stream : List UInt8) : Option Nat :=
  stream.findIdx? isFlagged

/-- Of two parts of a stream the first one decides, unless it has no flagged byte. -/
theorem firstFlag_append (first second : List UInt8) :
    firstFlag (first ++ second) =
      (firstFlag first).or ((firstFlag second).map (· + first.length)) :=
  List.findIdx?_append

theorem firstFlag_append_of_some {first : List UInt8} {place : Nat}
    (found : firstFlag first = some place) (second : List UInt8) :
    firstFlag (first ++ second) = some place := by
  rw [firstFlag_append, found, Option.some_or]

/-- A first flagged byte stays the first one when more bytes come. -/
theorem firstFlag_of_isPrefix {first whole : List UInt8} (front : first <+: whole) {place : Nat}
    (found : firstFlag first = some place) : firstFlag whole = some place := by
  obtain ⟨second, rfl⟩ := front
  exact firstFlag_append_of_some found second

theorem firstFlag_lt {stream : List UInt8} {place : Nat} (found : firstFlag stream = some place) :
    place < stream.length :=
  (List.findIdx?_eq_some_iff_getElem.mp found).1

theorem firstFlag_eq_none {stream : List UInt8} :
    firstFlag stream = none ↔ ∀ byte ∈ stream, isFlagged byte = false :=
  List.findIdx?_eq_none_iff

/-- The bytes before the first flagged one are all unflagged. -/
theorem firstFlag_take {stream : List UInt8} {place : Nat} (found : firstFlag stream = some place) :
    firstFlag (stream.take place) = none := by
  obtain ⟨inside, -, before⟩ := List.findIdx?_eq_some_iff_getElem.mp found
  rw [firstFlag_eq_none]
  intro byte member
  obtain ⟨index, short, rfl⟩ := List.getElem_of_mem member
  rw [List.length_take] at short
  rw [List.getElem_take]
  exact Bool.eq_false_iff.mpr (before index (by omega))

/-- A part of a stream that goes beyond the first flagged byte of the whole has it too. -/
theorem firstFlag_of_lt {first whole : List UInt8} (front : first <+: whole) {place : Nat}
    (found : firstFlag whole = some place) (short : place < first.length) :
    firstFlag first = some place := by
  obtain ⟨second, rfl⟩ := front
  rw [firstFlag_append] at found
  cases known : firstFlag first with
  | some other =>
      rw [known, Option.some_or] at found
      exact found
  | none =>
      rw [known, Option.none_or] at found
      obtain ⟨index, -, same⟩ := Option.map_eq_some_iff.mp found
      omega

def beforeFlag (stream : List UInt8) : List UInt8 :=
  stream.takeWhile fun byte => !isFlagged byte

theorem beforeFlag_isPrefix (stream : List UInt8) : beforeFlag stream <+: stream :=
  List.takeWhile_prefix _

theorem beforeFlag_append_of_flagged {first : List UInt8} (flagged : firstFlag first ≠ none)
    (second : List UInt8) : beforeFlag (first ++ second) = beforeFlag first := by
  rw [beforeFlag, List.takeWhile_append, if_neg]
  · rfl
  · intro whole
    have unflagged := List.all_takeWhile (p := fun byte => !isFlagged byte) (l := first)
    rw [(List.takeWhile_prefix _).eq_of_length whole, List.all_eq_true] at unflagged
    exact flagged (firstFlag_eq_none.mpr fun byte member => by simpa using unflagged byte member)

theorem head?_flaggedIndices (start : Nat) (stream : List UInt8) :
    (flaggedIndices start stream).head? = (firstFlag stream).map (start + ·) := by
  induction stream generalizing start with
  | nil => rfl
  | cons byte rest ih =>
      rw [flaggedIndices, firstFlag, List.findIdx?_cons]
      cases isFlagged byte with
      | true => rfl
      | false =>
          simp only [Bool.false_eq_true, if_false]
          rw [ih, firstFlag, Option.map_map]
          congr 1
          funext index
          exact Nat.succ_add_eq_add_succ start index

/-- The samples of unflagged bytes, two for each. -/
theorem length_sampleBytes_of_unflagged {stream : List UInt8} (unflagged : firstFlag stream = none) :
    (sampleBytes stream).length = 2 * stream.length := by
  rw [length_sampleBytes, unflaggedCount, List.countP_eq_length.mpr]
  intro byte member
  rw [firstFlag_eq_none.mp unflagged byte member]
  rfl

/-- The samples of a first part of a stream come first. -/
theorem sampleBytes_isPrefix {first whole : List UInt8} (front : first <+: whole) :
    sampleBytes first <+: sampleBytes whole := by
  obtain ⟨second, rfl⟩ := front
  rw [sampleBytes_append]
  exact List.prefix_append _ _

theorem liveBytes_isPrefix {first whole : List UInt8} (front : first <+: whole) (warmUp : Nat) :
    liveBytes warmUp first <+: liveBytes warmUp whole := by
  obtain ⟨second, rfl⟩ := front
  rw [liveBytes_append]
  exact List.prefix_append _ _

end SampleCapture
