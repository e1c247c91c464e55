import GraphBatch.Failure

/-!
# Cursors

A cursor draws from a source that answers each call with an item or with `none`. It never asks
again after the first `none`, and it may look one item ahead without drawing it.
-/

namespace GraphBatch

universe u

/-- `source i` is the answer to call number `i`, counted from 0; `asked` counts the calls made. A
loaded `ahead` is an answer that has been looked at but not drawn. -/
structure Cursor (α : Type u) where
  source : Nat → Option α
  asked : Nat := 0
  ended : Bool := false
  ahead : Option (Option α) := none

namespace Cursor

variable {α : Type u}

def ofSource (source : Nat → Option α) : Cursor α := { source }

/-- The next answer of the source, or `none` without a call once it has ended. -/
def ask (c : Cursor α) : Option α × Cursor α :=
  if c.ended then (none, c)
  else
    match c.source c.asked with
    | some item => (some item, { c with asked := c.asked + 1 })
    | none => (none, { c with asked := c.asked + 1, ended := true })

/-- Draws the next item if there is one. -/
def tryAdvance (c : Cursor α) : Option α × Cursor α :=
  match c.ahead with
  | some answer => (answer, { c with ahead := none })
  | none => c.ask

def hasNext (c : Cursor α) : Bool × Cursor α :=
  match c.ahead with
  | some answer => (answer.isSome, c)
  | none =>
    let (answer, c) := c.ask
    (answer.isSome, { c with ahead := some answer })

def next (c : Cursor α) : Except Failure α × Cursor α :=
  match c.tryAdvance with
  | (some item, c) => (.ok item, c)
  | (none, c) => (.error .endOfSequence, c)

/-- Draws until the end, `limit` items at most. -/
def drain (c : Cursor α) : Nat → List α × Cursor α
  | 0 => ([], c)
  | limit + 1 =>
    match c.tryAdvance with
    | (none, c) => ([], c)
    | (some item, c) =>
      let (items, c) := c.drain limit
      (item :: items, c)

instance : ToString (Cursor α) := ⟨fun _ => "SharedCursor \x7b .. \x7d"⟩

@[simp] theorem source_ask (c : Cursor α) : c.ask.2.source = c.source := by
  unfold ask
  split
  · rfl
  · split <;> rfl

@[simp] theorem source_tryAdvance (c : Cursor α) : c.tryAdvance.2.source = c.source := by
  unfold tryAdvance
  split
  · rfl
  · exact source_ask c

end Cursor

/-! ## Finite inputs -/

/-- A finite sequence given by position, so that a long range is never listed. -/
structure Sequence (α : Type u) where
  get? : Nat → Option α
  length : Nat
  /-- There is no item past the length. -/
  spent : ∀ i, length ≤ i → get? i = none

namespace Sequence

variable {α : Type u}

def ofList (items : List α) : Sequence α :=
  let held := items.toArray
  { get? := fun i => held[i]?
    length := items.length
    spent := fun i past => by simpa [held] using past }

/-- The integers from `first` up to but not including `last`. -/
def range (first last : Int) : Sequence Int :=
  { get? := fun i => if first + i < last then some (first + i) else none
    length := (last - first).toNat
    spent := fun i past => if_neg (by omega) }

def replicate (count : Nat) (item : α) : Sequence α :=
  { get? := fun i => if i < count then some item else none
    length := count
    spent := fun _ past => if_neg (Nat.not_lt.mpr past) }

def map {β : Type u} (f : α → β) (s : Sequence α) : Sequence β :=
  { get? := fun i => (s.get? i).map f
    length := s.length
    spent := fun i past => by simp [s.spent i past] }

def cursor (s : Sequence α) : Cursor α :=
  Cursor.ofSource s.get?

end Sequence

end GraphBatch
