import Mathlib.Algebra.Order.Floor.Div

/-!
# Chunks of a list

`chunks size l` cuts a list into consecutive pieces of `size` items, the last of which may be shorter.
-/

namespace GraphBatch

universe u

variable {α : Type u} {size : Nat}

def chunks (size : Nat) (l : List α) : List (List α) :=
  (List.range (l.length ⌈/⌉ size)).map fun k => (l.drop (k * size)).take size

/-- Of some items a chunk is taken off, full or not. -/
theorem ceilDiv_eq_sub_ceilDiv_add_one {n : Nat} (pos : 0 < size) (some : 0 < n) :
    n ⌈/⌉ size = (n - size) ⌈/⌉ size + 1 := by
  rw [Nat.ceilDiv_eq_add_pred_div, Nat.ceilDiv_eq_add_pred_div]
  have first : n + size - 1 = n - 1 + size := by omega
  rw [first, Nat.add_div_right _ pos]
  rcases Nat.le_total size n with full | short
  · have rest : n - size + size - 1 = n - 1 := by omega
    rw [rest]
  · rw [Nat.sub_eq_zero_of_le short, Nat.zero_add, Nat.div_eq_of_lt (by omega),
      Nat.div_eq_of_lt (by omega)]

theorem ceilDiv_eq_one {n : Nat} (some : 0 < n) (le : n ≤ size) : n ⌈/⌉ size = 1 := by
  rw [ceilDiv_eq_sub_ceilDiv_add_one (Nat.lt_of_lt_of_le some le) some, Nat.sub_eq_zero_of_le le,
    zero_ceilDiv]

@[simp] theorem length_chunks (size : Nat) (l : List α) :
    (chunks size l).length = l.length ⌈/⌉ size := by
  simp [chunks]

@[simp] theorem chunks_nil (size : Nat) : chunks size ([] : List α) = [] := by
  simp [chunks]

theorem chunks_eq_cons (pos : 0 < size) {l : List α} (some : l ≠ []) :
    chunks size l = l.take size :: chunks size (l.drop size) := by
  unfold chunks
  rw [ceilDiv_eq_sub_ceilDiv_add_one pos (List.length_pos_iff.mpr some), List.range_succ_eq_map,
    List.map_cons, Nat.zero_mul, List.drop_zero, List.map_map, List.length_drop]
  refine congrArg _ (List.map_congr_left fun k _ => ?_)
  rw [List.drop_drop, Function.comp_apply, Nat.succ_mul, Nat.add_comm]

/-- Lists that go with the first chunk of another list and with what is left of it. -/
theorem chunks_append {β : Type u} (pos : 0 < size) {f : α → β} {xs ys : List α} {l : List β}
    (first : xs.map f = l.take size) (rest : ys.map f = l.drop size) (some : l ≠ []) :
    chunks size (xs ++ ys) = xs :: chunks size ys := by
  have length_xs : xs.length = min size l.length := by
    rw [← List.length_map f, first, List.length_take]
  have length_ys : ys.length = l.length - size := by
    rw [← List.length_map f, rest, List.length_drop]
  have nonempty : xs ++ ys ≠ [] := by
    rw [← List.length_pos_iff, List.length_append]
    have := List.length_pos_iff.mpr some
    omega
  rw [chunks_eq_cons pos nonempty]
  rcases Nat.le_total size l.length with full | short
  · have length : xs.length = size := by omega
    rw [List.take_left' length, List.drop_left' length]
  · obtain rfl := List.eq_nil_of_length_eq_zero (length_ys.trans (Nat.sub_eq_zero_of_le short))
    rw [List.append_nil, List.take_of_length_le (by omega), List.drop_of_length_le (by omega)]

/-- Together the chunks are the list. -/
theorem flatten_chunks (pos : 0 < size) (l : List α) : (chunks size l).flatten = l := by
  induction count : l.length ⌈/⌉ size generalizing l with
  | zero =>
    rw [chunks, count]
    refine (List.eq_nil_of_length_eq_zero (Nat.le_zero.mp ?_)).symm
    rw [← Nat.mul_zero size, ← ceilDiv_le_iff_le_mul pos, count]
  | succ c ih =>
    have some : l ≠ [] := by
      rintro rfl
      rw [List.length_nil, zero_ceilDiv] at count
      cases count
    rw [ceilDiv_eq_sub_ceilDiv_add_one pos (List.length_pos_iff.mpr some), ← List.length_drop] at count
    rw [chunks_eq_cons pos some, List.flatten_cons, ih _ (Nat.succ.inj count), List.take_append_drop]

theorem chunks_map {β : Type u} (f : α → β) (size : Nat) (l : List α) :
    chunks size (l.map f) = (chunks size l).map (List.map f) := by
  simp [chunks]

/-- Selecting chunks by the images of their items selects the chunks of the images. -/
theorem map_flatten_filter_chunks {β : Type u} (f : α → β) (p : List β → Bool) (size : Nat) (l : List α) :
    ((chunks size l).filter fun c => p (c.map f)).flatten.map f =
      ((chunks size (l.map f)).filter p).flatten := by
  rw [chunks_map, List.filter_map, List.map_flatten]
  rfl

theorem mem_of_mem_chunks {l c : List α} (mem : c ∈ chunks size l) {a : α} (inside : a ∈ c) : a ∈ l := by
  obtain ⟨k, -, rfl⟩ := List.mem_map.mp mem
  exact List.mem_of_mem_drop (List.mem_of_mem_take inside)

/-- No chunk is empty. -/
theorem ne_nil_of_mem_chunks (pos : 0 < size) {l c : List α} (mem : c ∈ chunks size l) : c ≠ [] := by
  obtain ⟨k, inside, rfl⟩ := List.mem_map.mp mem
  have before : ¬ l.length ≤ size * k := fun past =>
    absurd (List.mem_range.mp inside) (Nat.not_lt_of_le ((ceilDiv_le_iff_le_mul pos).mpr past))
  intro nothing
  rw [List.take_eq_nil_iff, List.drop_eq_nil_iff, Nat.mul_comm] at nothing
  rcases nothing with zero | past
  · exact Nat.ne_of_gt pos zero
  · exact before past

example : chunks 2 [1, 2, 3, 4, 5] = [[1, 2], [3, 4], [5]] := by decide

end GraphBatch
