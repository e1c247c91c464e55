import GraphBatch.Failure
import GraphBatch.Row.Decoder

/-!
# Result rows

A row is a set of named column values.
-/

namespace GraphBatch

structure Row where
  data : Fields Json

namespace Row

variable {α : Type}

/-- The row of the given pairs; of two for one column the later is kept. -/
def ofPairs (pairs : List (String × Json)) : Row := ⟨Fields.ofPairs pairs⟩

instance : BEq Row := ⟨fun a b => Json.beqFields a.data b.data⟩

def columns (row : Row) : List String := Fields.names row.data

def toJson (row : Row) : Json := .object row.data

def decode (column : String) (d : Decoder α) (value : Json) : Except Failure α :=
  match d value with
  | .ok a => .ok a
  | .error e => .error (.badColumn column e.message)

/-- The value of a column that has to be there. -/
def get (row : Row) (column : String) (d : Decoder α) : Except Failure α :=
  match Fields.get? row.data column with
  | none => .error (.noColumn column)
  | some value => decode column d value

/-- The value of a column, `none` if it is missing or null. -/
def getOpt (row : Row) (column : String) (d : Decoder α) : Except Failure (Option α) :=
  match Fields.get? row.data column with
  | none => .ok none
  | some .null => .ok none
  | some value => (decode column d value).map some

end Row

end GraphBatch
