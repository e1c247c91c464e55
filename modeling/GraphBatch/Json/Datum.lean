import GraphBatch.Decimal.Format
import GraphBatch.Decimal.Parse
import GraphBatch.Json
import GraphBatch.Json.ReadError
import GraphBatch.Text.Scanner

/-!
# Data given as parameters

Parameter values as a caller has them, before they become JSON: numbers that JSON does not hold and
maps with keys of any kind, which may have no JSON form.
-/

namespace GraphBatch

/-- A map key; `other` stands for keys that are neither texts nor numbers nor booleans. -/
inductive Datum.Key where
  | string (value : String)
  | int (value : Int)
  | bool (value : Bool)
  | float (value : Float)
  | other

inductive Datum where
  | json (value : Json)
  /-- Refuses to become JSON, for the given reason. -/
  | refusing (reason : String)
  | float (value : Float)
  | unsigned (value : Nat)
  | signed (value : Int)
  | map (entries : List (Datum.Key × Datum))

namespace Datum

open Text (Scanner)
open Text.Scanner

instance : Inhabited Datum := ⟨.json .null⟩

def Key.text : Key → Except String String
  | string value => .ok value
  | int value => .ok (toString value)
  | bool value => .ok (toString value)
  | float value =>
    if value.isFinite then .ok (Decimal.scientific value) else .error "float key must be finite"
  | other => .error "key must be a string"

/-! ## Reasons

A reason may end with a place in a text, and is then given with this place as a reader would give
it: in plain numbers, and not at all if there is no such line. -/

/-- A number that fits 64 bits. -/
def placeNumber : Scanner Nat := do
  match Decimal.natural? (Width.bound 64) (← takeWhile1 Char.isDigit) with
  | some n => return n
  | none => failure

/-- What follows the first words of a place: its line and column. -/
def place : Scanner (Nat × Nat) := do
  let line ← placeNumber
  word " column ".toList
  return (line, ← placeNumber)

/-- The text before the last occurrence of a mark, and the text behind it. -/
def splitLast? (mark : List Char) : List Char → Option (List Char × List Char)
  | [] => none
  | c :: rest =>
    match splitLast? mark rest with
    | some (before, behind) => some (c :: before, behind)
    | none => if mark.isPrefixOf (c :: rest) then some ([], (c :: rest).drop mark.length) else none

def placed (reason : String) : String :=
  match splitLast? " at line ".toList reason.toList with
  | none => reason
  | some (before, behind) =>
    match parse place behind with
    | none => reason
    | some (0, _) => String.ofList before
    | some (line, column) => String.ofList before ++ Json.placeText line column

/-! ## The JSON form -/

mutual

/-- The JSON form. Floats that are no numbers become null; integers have to fit 64 bits; of two
map entries under one key the later is kept. -/
def toJson : Datum → Except String Json
  | json value => .ok value
  | refusing reason => .error (placed reason)
  | float value => .ok (if value.isFinite then .float value else .null)
  | unsigned value => if value < Width.bound 64 then .ok (.int value) else .error "number out of range"
  | signed value =>
    if -(Width.bound 63 : Int) ≤ value ∧ value < Width.bound 64 then .ok (.int value) else .error "number out of range"
  | map entries => (entriesToJson [] entries).map .object

def entriesToJson (done : Fields Json) : List (Key × Datum) → Except String (Fields Json)
  | [] => .ok done
  | (key, datum) :: rest => do
    let name ← key.text
    let value ← datum.toJson
    entriesToJson (done.insert name value) rest

end

end Datum

end GraphBatch
