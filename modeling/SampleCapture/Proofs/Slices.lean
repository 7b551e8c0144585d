/-!
# Slices

Bytes cut into slices of one size, of which only the last may be shorter; and the places at
which a row with one more entry can be cut.
-/

namespace SampleCapture

/-- An entry of a row with one more at its end is that one, or one of the row. -/
theorem cases_of_snoc {α : Type u} {row before later : List α} {last entry : α}
    (split : row ++ [last] = before ++ entry :: later) :
    row = before ∧ last = entry ∨ ∃ front, row = before ++ entry :: front := by
  rcases List.eq_nil_or_concat later with rfl | ⟨front, other, rfl⟩
  · obtain ⟨same, single⟩ := List.append_inj' split rfl
    exact .inl ⟨same, List.singleton_inj.mp single⟩
  · rw [List.concat_eq_append, ← List.cons_append, ← List.append_assoc] at split
    exact .inr ⟨front, (List.append_inj' split rfl).1⟩

/-- Bytes in slices of so many, of which the last may be shorter. -/
def cut (size : Nat) (bytes : List UInt8) : List (List UInt8) :=
  if bytes = [] ∨ size = 0 then [] else bytes.take size :: cut size (bytes.drop size)
termination_by bytes.length
decreasing_by
  rename_i some
  have filled := List.length_pos_iff.mpr (not_or.mp some).1
  simp only [List.length_drop]
  omega

@[simp] theorem cut_nil (size : Nat) : cut size [] = [] := by
  rw [cut, if_pos (.inl rfl)]

theorem cut_of_ne_nil {size : Nat} (positive : 0 < size) {bytes : List UInt8}
    (filled : bytes ≠ []) : cut size bytes = bytes.take size :: cut size (bytes.drop size) := by
  rw [cut, if_neg (not_or.mpr ⟨filled, Nat.ne_of_gt positive⟩)]

theorem cut_flatten {size : Nat} (positive : 0 < size) (bytes : List UInt8) :
    (cut size bytes).flatten = bytes := by
  fun_induction cut size bytes with
  | case1 bytes none =>
      rcases none with rfl | zero
      · rfl
      · exact absurd zero (Nat.ne_of_gt positive)
  | case2 bytes some ih => rw [List.flatten_cons, ih, List.take_append_drop]

/-- What comes before a slice is as many bytes as there are in so many whole slices. -/
theorem cut_split {size : Nat} {bytes slice : List UInt8} {before later : List (List UInt8)}
    (split : cut size bytes = before ++ slice :: later) :
    before.flatten = bytes.take (before.length * size) ∧
      before.length * size < bytes.length ∧
      slice = (bytes.drop (before.length * size)).take size := by
  induction before generalizing bytes with
  | nil =>
      unfold cut at split
      split at split
      · cases split
      · rename_i some
        cases split
        have filled := List.length_pos_iff.mpr (not_or.mp some).1
        simp [filled]
  | cons first before ih =>
      unfold cut at split
      split at split
      · cases split
      · obtain ⟨rfl, rest⟩ := List.cons.inj split
        obtain ⟨front, short, same⟩ := ih rest
        rw [List.length_drop] at short
        have total : (before.length + 1) * size = size + before.length * size := by
          rw [Nat.add_mul, Nat.one_mul, Nat.add_comm]
        rw [List.length_cons, total, List.flatten_cons, front, same, List.take_add,
          List.drop_drop]
        exact ⟨rfl, by omega, rfl⟩

/-- The slices lie one behind the other. -/
theorem eq_of_cut_getElem? {size : Nat} (positive : 0 < size) {place : Nat}
    {bytes slice : List UInt8} (known : (cut size bytes)[place]? = some slice) :
    slice ≠ [] ∧ slice = (bytes.drop (place * size)).take size := by
  have front := List.take_append_drop place (cut size bytes)
  obtain ⟨bound, found⟩ := List.getElem?_eq_some_iff.mp known
  have length : ((cut size bytes).take place).length = place :=
    List.length_take_of_le (Nat.le_of_lt bound)
  rw [List.drop_eq_getElem_cons bound, found] at front
  obtain ⟨-, short, same⟩ := cut_split front.symm
  rw [length] at short same
  refine ⟨?_, same⟩
  rw [same, ne_eq, List.take_eq_nil_iff, List.drop_eq_nil_iff]
  omega

end SampleCapture
