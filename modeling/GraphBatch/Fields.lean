/-!
# Named values in name order

`Fields α` is an association list without repeated names, sorted by name. A later `insert` of a
name replaces the earlier value, so a list of pairs read with `ofPairs` keeps the last one.
-/

namespace GraphBatch

universe u v

/-- Values under distinct names, in code point order of the names. -/
abbrev Fields (α : Type u) := List (String × α)

namespace Fields

variable {α : Type u} {β : Type v}

def get? (fields : Fields α) (name : String) : Option α :=
  fields.lookup name

def insert (name : String) (value : α) : Fields α → Fields α
  | [] => [(name, value)]
  | (other, old) :: rest =>
    if name = other then (name, value) :: rest
    else if name < other then (name, value) :: (other, old) :: rest
    else (other, old) :: insert name value rest

def ofPairs (pairs : List (String × α)) : Fields α :=
  pairs.foldl (fun fields pair => fields.insert pair.1 pair.2) []

def names (fields : Fields α) : List String :=
  fields.map Prod.fst

def erase (fields : Fields α) (name : String) : Fields α :=
  fields.filter (·.1 ≠ name)

@[simp] theorem get?_nil (name : String) : get? ([] : Fields α) name = none := rfl

@[simp] theorem get?_cons (name other : String) (value : α) (rest : Fields α) :
    get? ((other, value) :: rest) name = if name = other then some value else get? rest name := by
  by_cases same : name = other
  · simp [get?, same]
  · simp [get?, List.lookup_cons, same, beq_eq_false_iff_ne.mpr same]

/-- Reading a name after an insertion gives the inserted value at that name, and the earlier
value at every other one. -/
@[simp] theorem get?_insert (fields : Fields α) (name other : String) (value : α) :
    (fields.insert name value).get? other = if other = name then some value else fields.get? other := by
  induction fields with
  | nil => simp [insert]
  | cons head rest ih =>
    obtain ⟨key, old⟩ := head
    by_cases same : name = key
    · subst same
      by_cases hit : other = name <;> simp [insert, hit]
    · by_cases before : name < key
      · simp [insert, same, before]
      · by_cases there : other = key
        · subst there
          simp [insert, same, before, Ne.symm same]
        · simp [insert, same, before, ih, there]

end Fields

end GraphBatch
