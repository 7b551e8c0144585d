import SampleCapture.Output.Sink

/-!
# What a sink has taken

The stream of a sink is its file followed by what its buffer keeps back. Writing puts a
first part of the bytes behind the stream, all of them if it succeeds; emptying the
buffer, flushing and letting go move bytes from the buffer to the file and leave the
stream as it is, however they end.
-/

namespace SampleCapture

namespace Writer

/-- The calls take a first part of the bytes and put it behind the file; they take all of
them exactly if they succeed. -/
theorem pump_stored (writer : Writer) (stuckText : String) (file : OutputFile)
    (bytes : List UInt8) :
    ∃ taken, bytes = taken ++ (writer.pump stuckText file bytes).rest ∧
      (writer.pump stuckText file bytes).file.stored.toList = file.stored.toList ++ taken ∧
      ((writer.pump stuckText file bytes).result = .done ↔
        (writer.pump stuckText file bytes).rest = []) := by
  fun_induction writer.pump stuckText file bytes with
  | case1 file => exact ⟨[], rfl, by simp, by simp⟩
  | case2 file bytes filled => exact ⟨[], rfl, by simp [offered], by simp [filled]⟩
  | case3 file bytes filled size count accepted seen ih =>
      obtain ⟨taken, split, stored, complete⟩ := ih
      refine ⟨bytes.take (count + 1) ++ taken, ?_, ?_, complete⟩
      · rw [List.append_assoc, ← split, List.take_append_drop]
      · rw [stored]
        simp [seen, offered]
  | case4 file bytes filled size fault failed interrupted ih =>
      obtain ⟨taken, split, stored, complete⟩ := ih
      exact ⟨taken, split, by simpa [offered] using stored, complete⟩
  | case5 file bytes filled => exact ⟨[], rfl, by simp [offered], by simp [filled]⟩
  | case6 file bytes filled => exact ⟨[], rfl, by simp [offered], by simp [filled]⟩

end Writer

namespace Sink

def pending (sink : Sink) : List UInt8 :=
  sink.buffer.elim [] (·.pending.toList)

def capacity (sink : Sink) : Nat :=
  sink.buffer.elim 0 (·.capacity)

/-- Everything that the sink has taken: the file and behind it the buffer. -/
def stream (sink : Sink) : List UInt8 :=
  sink.file.stored.toList ++ sink.pending

def Fits (sink : Sink) : Prop :=
  sink.pending.length ≤ sink.capacity

/-- What an operation keeps: the writer, the size of the buffer, and that it is not
overfull. The crash mark is set by a crash of a write alone. -/
structure Keeps (sink next : Sink) : Prop where
  writer : next.writer = sink.writer
  capacity : next.capacity = sink.capacity
  fits : sink.Fits → next.Fits

theorem Keeps.refl (sink : Sink) : sink.Keeps sink :=
  ⟨rfl, rfl, id⟩

theorem Keeps.trans {first second third : Sink} (earlier : first.Keeps second)
    (later : second.Keeps third) : first.Keeps third :=
  ⟨later.writer.trans earlier.writer, later.capacity.trans earlier.capacity,
    fun fits => later.fits (earlier.fits fits)⟩

/-! ## Passing on and emptying the buffer -/

theorem pass_keeps (sink : Sink) (bytes : List UInt8) : sink.Keeps (sink.pass bytes).2 :=
  ⟨rfl, rfl, id⟩

/-- Bytes that pass an empty buffer come behind the stream. -/
theorem pass_stream {sink : Sink} (empty : sink.pending = []) (bytes : List UInt8) :
    ∃ taken rest, bytes = taken ++ rest ∧ (sink.pass bytes).2.stream = sink.stream ++ taken ∧
      ((sink.pass bytes).1 = .done ↔ rest = []) := by
  obtain ⟨taken, split, stored, complete⟩ := sink.writer.pump_stored stuckWrite sink.file bytes
  refine ⟨taken, _, split, ?_, complete⟩
  have still : (sink.pass bytes).2.pending = [] := empty
  rw [stream, stream, still, empty, List.append_nil, List.append_nil]
  exact stored

theorem pass_crashed (sink : Sink) (bytes : List UInt8) :
    (sink.pass bytes).2.crashed = true ↔ (sink.pass bytes).1 = .crashed := by
  simp [pass]

structure Emptied (sink : Sink) (outcome : OutputResult × Sink) : Prop where
  keeps : sink.Keeps outcome.2
  stream : outcome.2.stream = sink.stream
  complete : outcome.1 = .done ↔ outcome.2.pending = []
  crashed : outcome.2.crashed = true ↔ outcome.1 = .crashed

/-- What the writer accepts moves from the buffer to the file. -/
theorem Emptied.emptyBuffer {sink : Sink} {buffer : Buffer} (held : sink.buffer = some buffer) :
    sink.Emptied (sink.emptyBuffer buffer) := by
  obtain ⟨taken, split, stored, complete⟩ :=
    sink.writer.pump_stored stuckBuffer sink.file buffer.pending.toList
  have before : sink.pending = buffer.pending.toList := by simp [pending, held]
  have after : (sink.emptyBuffer buffer).2.pending =
      (sink.writer.pump stuckBuffer sink.file buffer.pending.toList).rest := by
    simp [pending, Sink.emptyBuffer]
  have capacity : (sink.emptyBuffer buffer).2.capacity = sink.capacity := by
    simp [Sink.capacity, Sink.emptyBuffer, held]
  constructor
  case keeps =>
    refine ⟨rfl, capacity, ?_⟩
    intro fits
    have lengths := congrArg List.length split
    rw [List.length_append] at lengths
    rw [Fits, before] at fits
    rw [Fits, capacity, after]
    omega
  case stream =>
    rw [Sink.stream, Sink.stream, after, before]
    change (sink.writer.pump stuckBuffer sink.file buffer.pending.toList).file.stored.toList ++ _ = _
    rw [stored, List.append_assoc, ← split]
  case complete =>
    rw [after]
    exact complete
  case crashed => simp [Sink.emptyBuffer]

/-! ## Writing -/

inductive Write (sink : Sink) (bytes : List UInt8) : OutputResult × Sink → Prop where
  | direct (none : sink.buffer = none) : sink.Write bytes (sink.pass bytes)
  | room {buffer : Buffer} (held : sink.buffer = some buffer)
      (fits : buffer.pending.size + bytes.length ≤ buffer.capacity) :
      sink.Write bytes (sink.passOrKeep buffer.capacity bytes)
  | emptied {buffer : Buffer} (held : sink.buffer = some buffer)
      (done : (sink.emptyBuffer buffer).1 = .done) :
      sink.Write bytes ((sink.emptyBuffer buffer).2.passOrKeep buffer.capacity bytes)
  | stuck {buffer : Buffer} (held : sink.buffer = some buffer)
      (failed : (sink.emptyBuffer buffer).1 ≠ .done) : sink.Write bytes (sink.emptyBuffer buffer)

theorem writes (sink : Sink) (bytes : List UInt8) : sink.Write bytes (sink.writeAll bytes) := by
  unfold writeAll
  split
  · rename_i none
    exact .direct none
  · rename_i buffer held
    split
    · rename_i fits
      exact .room held fits
    · split
      · rename_i next same
        have way : sink.Write bytes _ := .emptied held (by rw [same])
        rwa [same] at way
      · rename_i failed
        refine .stuck held ?_
        intro done
        exact failed _ (Prod.ext done rfl)

structure Took (sink : Sink) (bytes : List UInt8) (outcome : OutputResult × Sink) : Prop where
  keeps : sink.Keeps outcome.2
  taken : ∃ taken rest, bytes = taken ++ rest ∧ outcome.2.stream = sink.stream ++ taken ∧
    (outcome.1 = .done ↔ rest = [])
  crashed : sink.crashed = false → (outcome.2.crashed = true ↔ outcome.1 = .crashed)

theorem Took.pass {sink : Sink} (empty : sink.pending = []) (bytes : List UInt8) :
    sink.Took bytes (sink.pass bytes) :=
  ⟨sink.pass_keeps bytes, pass_stream empty bytes, fun _ => sink.pass_crashed bytes⟩

/-- A piece that is not as large as the buffer and fits into it is kept back. -/
theorem Took.keep {sink : Sink} {buffer : Buffer} (held : sink.buffer = some buffer)
    {bytes : List UInt8} (fits : sink.pending.length + bytes.length ≤ sink.capacity) :
    sink.Took bytes (.done, sink.keep bytes) := by
  have pending : (sink.keep bytes).pending = sink.pending ++ bytes := by
    simp [Sink.pending, Sink.keep, held]
  have capacity : (sink.keep bytes).capacity = sink.capacity := by
    simp [Sink.capacity, Sink.keep, held]
  constructor
  case keeps =>
    refine ⟨rfl, capacity, ?_⟩
    intro _
    rw [Fits, pending, capacity, List.length_append]
    exact fits
  case taken =>
    refine ⟨bytes, [], by simp, ?_, by simp⟩
    change sink.file.stored.toList ++ (sink.keep bytes).pending = _
    rw [pending, stream, List.append_assoc]
  case crashed =>
    intro sound
    simp [Sink.keep, sound]

theorem Took.passOrKeep {sink : Sink} {buffer : Buffer} (held : sink.buffer = some buffer)
    {bytes : List UInt8}
    (room : sink.pending = [] ∨ sink.pending.length + bytes.length ≤ sink.capacity)
    (filled : bytes ≠ []) : sink.Took bytes (sink.passOrKeep sink.capacity bytes) := by
  have positive := List.length_pos_iff.mpr filled
  unfold Sink.passOrKeep
  split
  · rename_i large
    rcases room with empty | fits
    · exact .pass empty bytes
    · exact .pass (List.eq_nil_of_length_eq_zero (by omega)) bytes
  · rename_i small
    apply Took.keep held
    rcases room with empty | fits
    · rw [empty, List.length_nil]
      omega
    · exact fits

namespace Write

variable {sink : Sink} {bytes : List UInt8} {outcome : OutputResult × Sink}

/-- Writing puts a first part of the bytes behind the stream, all of them if it succeeds. -/
theorem took (way : sink.Write bytes outcome) (filled : bytes ≠ []) : sink.Took bytes outcome := by
  cases way with
  | direct none => exact .pass (by simp [pending, none]) bytes
  | @room buffer held fits =>
      have capacity : sink.capacity = buffer.capacity := by simp [Sink.capacity, held]
      have size : sink.pending.length = buffer.pending.size := by simp [pending, held]
      rw [← capacity, ← size] at fits
      rw [← capacity]
      exact .passOrKeep held (.inr fits) filled
  | @emptied buffer held done =>
      have emptied := Emptied.emptyBuffer held
      have capacity : (sink.emptyBuffer buffer).2.capacity = buffer.capacity := by
        simp [Sink.capacity, Sink.emptyBuffer]
      rw [← capacity]
      have took : (sink.emptyBuffer buffer).2.Took bytes
          ((sink.emptyBuffer buffer).2.passOrKeep (sink.emptyBuffer buffer).2.capacity bytes) :=
        .passOrKeep rfl (.inl (emptied.complete.mp done)) filled
      have sound : (sink.emptyBuffer buffer).2.crashed = false := by
        simpa [done] using emptied.crashed
      refine ⟨emptied.keeps.trans took.keeps, ?_, fun _ => took.crashed sound⟩
      rw [← emptied.stream]
      exact took.taken
  | @stuck buffer held failed =>
      have emptied := Emptied.emptyBuffer held
      refine ⟨emptied.keeps, ⟨[], bytes, rfl, ?_, ?_⟩, fun _ => emptied.crashed⟩
      · rw [emptied.stream, List.append_nil]
      · simp [failed, filled]

/-- Writing leaves the writer and the size of the buffer as they are. -/
theorem fixed (way : sink.Write bytes outcome) :
    outcome.2.writer = sink.writer ∧ outcome.2.capacity = sink.capacity := by
  have kept (sink : Sink) (size : Nat) :
      (sink.passOrKeep size bytes).2.writer = sink.writer ∧
        (sink.passOrKeep size bytes).2.capacity = sink.capacity := by
    unfold passOrKeep
    split
    · exact ⟨rfl, rfl⟩
    · cases other : sink.buffer <;> simp [keep, capacity, other]
  cases way with
  | direct none => exact ⟨rfl, rfl⟩
  | room held fits => exact kept sink _
  | emptied held done =>
      obtain ⟨writer, capacity⟩ := kept _ _
      have emptied := (Emptied.emptyBuffer held).keeps
      exact ⟨writer.trans emptied.writer, capacity.trans emptied.capacity⟩
  | stuck held failed =>
      have emptied := (Emptied.emptyBuffer held).keeps
      exact ⟨emptied.writer, emptied.capacity⟩

/-- Writing marks the sink as crashed only if it crashes. -/
theorem crashed (way : sink.Write bytes outcome) (sound : sink.crashed = false)
    (crashed : outcome.2.crashed = true) : outcome.1 = .crashed := by
  have passed {sink : Sink} {capacity : Nat} (sound : sink.crashed = false)
      (crashed : (sink.passOrKeep capacity bytes).2.crashed = true) :
      (sink.passOrKeep capacity bytes).1 = .crashed := by
    unfold passOrKeep at crashed ⊢
    split at crashed
    · rename_i large
      rw [if_pos large]
      exact (sink.pass_crashed bytes).mp crashed
    · exact absurd (sound.symm.trans crashed) (by decide)
  cases way with
  | direct none => exact (sink.pass_crashed bytes).mp crashed
  | room held fits => exact passed sound crashed
  | emptied held done =>
      have mark := (Emptied.emptyBuffer held).crashed
      exact passed (by simpa [done] using mark) crashed
  | stuck held failed => exact (Emptied.emptyBuffer held).crashed.mp crashed

end Write

/-! ## Flushing and letting go -/

inductive Flush (sink : Sink) : OutputResult × Sink → Prop where
  | direct (none : sink.buffer = none) : sink.Flush sink.flushWriter
  | emptied {buffer : Buffer} (held : sink.buffer = some buffer)
      (done : (sink.emptyBuffer buffer).1 = .done) :
      sink.Flush (sink.emptyBuffer buffer).2.flushWriter
  | stuck {buffer : Buffer} (held : sink.buffer = some buffer)
      (failed : (sink.emptyBuffer buffer).1 ≠ .done) : sink.Flush (sink.emptyBuffer buffer)

theorem flushes (sink : Sink) : sink.Flush sink.flush := by
  unfold flush
  split
  · rename_i none
    exact .direct none
  · rename_i buffer held
    split
    · rename_i next same
      have way := Flush.emptied held (by rw [same])
      rwa [same] at way
    · rename_i failed
      refine .stuck held ?_
      intro done
      exact failed _ (Prod.ext done rfl)

/-- What a flush does to a sink: the stream stays as it is, and if the flush succeeds all of
it is in the file. -/
structure Flushed (sink : Sink) (outcome : OutputResult × Sink) : Prop where
  keeps : sink.Keeps outcome.2
  stream : outcome.2.stream = sink.stream
  complete : outcome.1 = .done → outcome.2.pending = []
  crashed : sink.crashed = false → outcome.2.crashed = true → outcome.1 = .crashed

theorem Flush.flushed {sink : Sink} {outcome : OutputResult × Sink} (way : sink.Flush outcome) :
    sink.Flushed outcome := by
  cases way with
  | direct none =>
      refine ⟨⟨rfl, rfl, id⟩, rfl, fun _ => by simp [pending, flushWriter, none], ?_⟩
      intro sound crashed
      exact absurd (sound.symm.trans crashed) (by decide)
  | @emptied buffer held done =>
      have emptied := Emptied.emptyBuffer held
      refine ⟨emptied.keeps.trans ⟨rfl, rfl, id⟩, emptied.stream,
        fun _ => emptied.complete.mp done, ?_⟩
      intro _ crashed
      have mark := emptied.crashed.mp crashed
      rw [done] at mark
      cases mark
  | stuck held failed =>
      have emptied := Emptied.emptyBuffer held
      exact ⟨emptied.keeps, emptied.stream, emptied.complete.mp, fun _ => emptied.crashed.mp⟩

theorem release_stream (sink : Sink) :
    sink.Keeps sink.release ∧ sink.release.stream = sink.stream := by
  cases held : sink.buffer with
  | none =>
      have same : sink.release = sink := by simp [release, held]
      rw [same]
      exact ⟨.refl sink, rfl⟩
  | some buffer =>
      by_cases crashed : sink.crashed = true
      · have same : sink.release = sink := by simp [release, held, crashed]
        rw [same]
        exact ⟨.refl sink, rfl⟩
      · have emptied : sink.release = (sink.emptyBuffer buffer).2 := by
          simp [release, held, crashed]
        rw [emptied]
        exact ⟨(Emptied.emptyBuffer held).keeps, (Emptied.emptyBuffer held).stream⟩

/-- Letting go marks the sink as crashed only if the writer crashes in it. -/
theorem release_crashed {sink : Sink} (sound : sink.crashed = false)
    (crashed : sink.release.crashed = true) :
    ∃ buffer, sink.buffer = some buffer ∧ (sink.emptyBuffer buffer).1 = .crashed := by
  unfold release at crashed
  split at crashed
  · exact absurd (sound.symm.trans crashed) (by decide)
  · rename_i buffer held
    rw [if_neg (by rw [sound]; decide)] at crashed
    exact ⟨buffer, held, (Emptied.emptyBuffer held).crashed.mp crashed⟩

/-- Letting go of a sink whose buffer is empty calls the writer no more. -/
theorem release_of_empty {sink : Sink} (empty : sink.pending = []) (sound : sink.crashed = false) :
    sink.release.file = sink.file ∧ sink.release.crashed = false := by
  cases held : sink.buffer with
  | none => simp [release, held, sound]
  | some buffer =>
      have nothing : buffer.pending.toList = [] := by simpa [pending, held] using empty
      simp [release, held, sound, emptyBuffer, nothing, Writer.pump]

end Sink

end SampleCapture
