import GraphBatch.Fields

/-!
# Layered settings

A settings value remembers which layer supplied it. Layers are merged from the lowest to the
highest: two tables merge field by field, and in every other case the later value replaces the
earlier one. `get?_mergeFields` states the merge as a law on fields.
-/

namespace GraphBatch.Config

/-- Where a setting was given. -/
inductive Source where
  | defaults
  | text
  | file (path : String)
  | environment
deriving Repr, DecidableEq

inductive Scalar where
  | string (value : String)
  | char (value : Char)
  | bool (value : Bool)
  | signed (value : Int)
  | unsigned (value : Nat)
  | float (value : Float)

inductive Value where
  | scalar (source : Source) (value : Scalar)
  | list (source : Source) (items : List Value)
  | table (source : Source) (fields : List (String × Value))

namespace Value

def source : Value → Source
  | scalar source _ => source
  | list source _ => source
  | table source _ => source

mutual

/-- `later` laid over `earlier`. -/
def merge (earlier : Value) : Value → Value
  | .table source fields =>
    match earlier with
    | .table _ old => .table source (mergeFields old fields)
    | _ => .table source fields
  | later => later

def mergeFields (old : Fields Value) : List (String × Value) → Fields Value
  | [] => old
  | (name, value) :: rest =>
    Fields.insert name
      (match Fields.get? old name with
        | some earlier => merge earlier value
        | none => value)
      (mergeFields old rest)

end

/-- A merged table has the fields of both, those of the later table laid over the others. -/
theorem get?_mergeFields (old : Fields Value) (new : List (String × Value)) (name : String) :
    Fields.get? (mergeFields old new) name =
      match Fields.get? new name with
      | none => Fields.get? old name
      | some value =>
        some (match Fields.get? old name with
          | some earlier => merge earlier value
          | none => value) := by
  induction new with
  | nil => simp [mergeFields]
  | cons head rest ih =>
    obtain ⟨key, value⟩ := head
    by_cases same : name = key
    · subst same
      simp [mergeFields]
    · simp [mergeFields, same, ih]

/-- The table that holds `value` under the path of names. -/
def nest (source : Source) (value : Value) : List String → Value
  | [] => value
  | name :: path => .table source [(name, nest source value path)]

/-- All layers merged, the lowest first. -/
def layered (layers : List Value) : Value :=
  layers.foldl merge (.table .defaults [])

end Value

end GraphBatch.Config
