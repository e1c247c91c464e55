import GraphBatch.Cursor

/-!
# Drawing from a finite source

`Draws c items c'` holds when draws from the cursor `c` that give the items `items`, and possibly
find the end on the way, lead to the cursor `c'`. Over a source that is spent after a number of
calls a cursor has a list of items left (`left`), and what is drawn is a prefix of it: this is
`Draws.left`, by which everything said about draws becomes a fact about lists.
-/

namespace GraphBatch

universe u

variable {α : Type u}

namespace Cursor

/-- The items that a source gives from call `i` on, before its first `none`, in `limit` calls. -/
def itemsFrom (source : Nat → Option α) : Nat → Nat → List α
  | _, 0 => []
  | i, limit + 1 =>
    match source i with
    | none => []
    | some item => item :: itemsFrom source (i + 1) limit

theorem length_itemsFrom_le (source : Nat → Option α) (i limit : Nat) :
    (itemsFrom source i limit).length ≤ limit := by
  induction limit generalizing i with
  | zero => exact Nat.le_refl 0
  | succ limit ih =>
    unfold itemsFrom
    split
    · exact Nat.zero_le _
    · exact Nat.succ_le_succ (ih (i + 1))

/-- The items that a cursor has still to give, when its source is spent after `n` calls. -/
def left (c : Cursor α) (n : Nat) : List α :=
  if c.ended then [] else itemsFrom c.source c.asked (n - c.asked)

/-- A cursor that nobody has peeked into, over a source that is spent after `n` calls. -/
structure Within (c : Cursor α) (n : Nat) : Prop where
  spent : ∀ i, n ≤ i → c.source i = none
  ahead : c.ahead = none
  asked : c.asked ≤ if c.ended then n + 1 else n

namespace Within

variable {c c' : Cursor α} {n : Nat}

/-- Each item left costs a call, and so does finding the end. -/
theorem length_left (h : c.Within n) : (c.left n).length + c.asked ≤ n + 1 := by
  have asked := h.asked
  unfold left
  split
  · rename_i ended
    simpa [ended] using asked
  · rename_i ended
    have bound := length_itemsFrom_le c.source c.asked (n - c.asked)
    rw [if_neg ended] at asked
    omega

theorem tryAdvance_eq (h : c.Within n) : c.tryAdvance = c.ask := by
  unfold tryAdvance
  rw [h.ahead]

/-- A draw that gives an item takes the first of those left. -/
theorem tryAdvance_some (h : c.Within n) {item : α} (drawn : c.tryAdvance = (some item, c')) :
    c'.Within n ∧ c.left n = item :: c'.left n := by
  rw [h.tryAdvance_eq, ask] at drawn
  split at drawn
  · cases drawn
  · rename_i ended
    split at drawn
    · rename_i x found
      cases drawn
      have asked : c.asked < n := by
        refine Nat.lt_of_not_le fun past => ?_
        have spent := h.spent c.asked past
        rw [found] at spent
        cases spent
      refine ⟨⟨h.spent, h.ahead, ?_⟩, ?_⟩
      · simpa [ended] using Nat.succ_le_of_lt asked
      · have step : n - c.asked = n - (c.asked + 1) + 1 := by omega
        simp [left, ended, step, itemsFrom, found]
    · cases drawn

/-- A draw that gives no item has found the end. -/
theorem tryAdvance_none (h : c.Within n) (drawn : c.tryAdvance = (none, c')) :
    c'.Within n ∧ c'.ended = true ∧ c.left n = [] := by
  have asked := h.asked
  rw [h.tryAdvance_eq, ask] at drawn
  split at drawn
  · rename_i ended
    cases drawn
    exact ⟨h, ended, by simp [left, ended]⟩
  · rename_i ended
    split at drawn
    · cases drawn
    · rename_i found
      cases drawn
      rw [if_neg ended] at asked
      refine ⟨⟨h.spent, h.ahead, ?_⟩, rfl, ?_⟩
      · simpa using asked
      · rcases step : n - c.asked with - | limit <;> simp [left, ended, step, itemsFrom, found]

end Within

/-- To draw until the end gives the items left, and no more of them than asked for. -/
theorem Within.drain_eq {c : Cursor α} {n : Nat} (h : c.Within n) (limit : Nat) :
    (c.drain limit).1 = (c.left n).take limit := by
  induction limit generalizing c with
  | zero => rfl
  | succ limit ih =>
    rcases drawn : c.tryAdvance with ⟨- | item, c'⟩
    · obtain ⟨-, -, left⟩ := h.tryAdvance_none drawn
      rw [drain, drawn, left]
      rfl
    · obtain ⟨within, left⟩ := h.tryAdvance_some drawn
      rw [drain, drawn, left, List.take_succ_cons]
      exact congrArg _ (ih within)

theorem Within.exists_of_left_eq_nil {c : Cursor α} {n : Nat} (h : c.Within n) (nothing : c.left n = []) :
    ∃ c', c.tryAdvance = (none, c') := by
  rcases drawn : c.tryAdvance with ⟨- | item, c'⟩
  · exact ⟨c', rfl⟩
  · have left := (h.tryAdvance_some drawn).2
    rw [nothing] at left
    cases left

/-- A cursor has a next item as long as one is left. -/
theorem Within.hasNext_eq_false_iff {c : Cursor α} {n : Nat} (h : c.Within n) :
    c.hasNext.1 = false ↔ c.left n = [] := by
  have peeked : c.hasNext.1 = c.tryAdvance.1.isSome := by
    rw [hasNext, h.tryAdvance_eq, h.ahead]
  rw [peeked]
  constructor
  · intro none
    rcases drawn : c.tryAdvance with ⟨- | item, c'⟩
    · exact (h.tryAdvance_none drawn).2.2
    · rw [drawn] at none
      cases none
  · intro nothing
    obtain ⟨c', drawn⟩ := h.exists_of_left_eq_nil nothing
    rw [drawn]
    rfl

/-- Nothing is left once the end has been found. -/
theorem left_of_ended {c : Cursor α} (ended : c.ended = true) (n : Nat) : c.left n = [] := by
  simp [left, ended]

/-! ## Series of draws -/

/-- Draws that lead from one cursor to another, with the items that they give. -/
inductive Draws : Cursor α → List α → Cursor α → Prop
  | nil (c : Cursor α) : Draws c [] c
  | item {c c₁ c₂ : Cursor α} {item : α} {items : List α} :
      c.tryAdvance = (some item, c₁) → Draws c₁ items c₂ → Draws c (item :: items) c₂
  | ending {c c₁ c₂ : Cursor α} {items : List α} :
      c.tryAdvance = (none, c₁) → Draws c₁ items c₂ → Draws c items c₂

namespace Draws

variable {c c' c'' : Cursor α} {items items' : List α} {n : Nat}

/-- Draws compose. -/
theorem append (h : Draws c items c') (h' : Draws c' items' c'') :
    Draws c (items ++ items') c'' := by
  induction h with
  | nil c => exact h'
  | item drawn _ ih => exact .item drawn (ih h')
  | ending drawn _ ih => exact .ending drawn (ih h')

theorem within (h : Draws c items c') (hc : c.Within n) : c'.Within n := by
  induction h with
  | nil c => exact hc
  | item drawn _ ih => exact ih (hc.tryAdvance_some drawn).1
  | ending drawn _ ih => exact ih (hc.tryAdvance_none drawn).1

/-- What is drawn is taken from the front of what was left: no item is lost, given twice or given
out of order. -/
theorem left (h : Draws c items c') (hc : c.Within n) : c.left n = items ++ c'.left n := by
  induction h with
  | nil c => rfl
  | item drawn _ ih =>
    obtain ⟨within, left⟩ := hc.tryAdvance_some drawn
    rw [left, ih within]
    rfl
  | ending drawn _ ih =>
    obtain ⟨within, ended, left⟩ := hc.tryAdvance_none drawn
    rw [left, ← ih within, left_of_ended ended]

end Draws

end Cursor

namespace Sequence

/-- The items of a sequence, before its first gap. -/
def toList (s : Sequence α) : List α := Cursor.itemsFrom s.get? 0 s.length

theorem within_cursor (s : Sequence α) : s.cursor.Within s.length where
  spent := s.spent
  ahead := rfl
  asked := Nat.zero_le _

@[simp] theorem toList_ofList (items : List α) : (ofList items).toList = items := by
  suffices from_ : ∀ i, Cursor.itemsFrom (fun j => items[j]?) i (items.length - i) = items.drop i by
    simpa [toList, ofList] using from_ 0
  intro i
  induction h : items.length - i generalizing i with
  | zero => simp [Cursor.itemsFrom, List.drop_eq_nil_of_le (Nat.le_of_sub_eq_zero h)]
  | succ limit ih =>
    have lt : i < items.length := by omega
    rw [Cursor.itemsFrom, List.getElem?_eq_getElem lt, List.drop_eq_getElem_cons lt]
    exact congrArg _ (ih (i + 1) (by omega))

@[simp] theorem toList_replicate (count : Nat) (item : α) :
    (replicate count item).toList = List.replicate count item := by
  suffices from_ : ∀ i limit, i + limit = count →
      Cursor.itemsFrom (fun j => if j < count then some item else none) i limit =
        List.replicate limit item from from_ 0 count (Nat.zero_add count)
  intro i limit
  induction limit generalizing i with
  | zero => exact fun _ => rfl
  | succ limit ih =>
    intro total
    rw [Cursor.itemsFrom, if_pos (by omega), List.replicate_succ]
    exact congrArg _ (ih (i + 1) (by omega))

end Sequence

end GraphBatch
