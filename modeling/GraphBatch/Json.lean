import GraphBatch.Fields

/-!
# JSON values

Integers and floats are different values even when they are numerically equal, and an object is a
set of named values: its fields are kept in name order.
-/

namespace GraphBatch

inductive Json where
  | null
  | bool (value : Bool)
  | int (value : Int)
  | float (value : Float)
  | string (value : String)
  | array (items : List Json)
  | object (fields : List (String × Json))

namespace Json

instance : Inhabited Json := ⟨.null⟩

mutual

/-- Equality of JSON values. Floats compare as numbers, so the two zeros are equal. -/
def beq : Json → Json → Bool
  | .null, .null => true
  | .bool a, .bool b => a == b
  | .int a, .int b => a == b
  | .float a, .float b => a == b
  | .string a, .string b => a == b
  | .array xs, .array ys => beqItems xs ys
  | .object xs, .object ys => beqFields xs ys
  | _, _ => false

def beqItems : List Json → List Json → Bool
  | [], [] => true
  | x :: xs, y :: ys => beq x y && beqItems xs ys
  | _, _ => false

def beqFields : List (String × Json) → List (String × Json) → Bool
  | [], [] => true
  | (k, x) :: xs, (l, y) :: ys => k == l && beq x y && beqFields xs ys
  | _, _ => false

end

instance : BEq Json := ⟨beq⟩

/-- The object with the given fields; of two fields of one name the later is kept. -/
def ofPairs (pairs : List (String × Json)) : Json :=
  .object (Fields.ofPairs pairs)

def isNull : Json → Bool
  | .null => true
  | _ => false

/-- A field of an object; other values have none. -/
def field? (value : Json) (name : String) : Option Json :=
  match value with
  | .object fields => Fields.get? fields name
  | _ => none

end Json

end GraphBatch
