import GraphBatch.Decimal.Format
import GraphBatch.Json
import GraphBatch.Text.Quoted
import GraphBatch.Width

/-!
# Decoders

A decoder turns a JSON value into a value of its type, or says why it cannot. Decoders are strict:
a number never stands for a text, and a float never for an integer.
-/

namespace GraphBatch

/-- Why a value does not decode. -/
inductive Mismatch where
  | type (found : Json) (expected : String)
  | value (found : Json) (expected : String)
  | length (found : Nat) (expected : String)

/-- A value as mismatches name it. -/
def Json.describe : Json → String
  | .null => "null"
  | .bool value => "boolean `" ++ toString value ++ "`"
  | .int value => "integer `" ++ toString value ++ "`"
  | .float value => "floating point `" ++ Decimal.scientific value ++ "`"
  | .string value => "string " ++ Text.quoted value
  | .array _ => "sequence"
  | .object _ => "map"

def Mismatch.message : Mismatch → String
  | type found expected => "invalid type: " ++ found.describe ++ ", expected " ++ expected
  | value found expected => "invalid value: " ++ found.describe ++ ", expected " ++ expected
  | length found expected => "invalid length " ++ toString found ++ ", expected " ++ expected

abbrev Decoder (α : Type) := Json → Except Mismatch α

namespace Decoder

variable {α β : Type}

def map (f : α → β) (d : Decoder α) : Decoder β :=
  fun json => (d json).map f

def any : Decoder Json := .ok

/-- Integers of the named type, which holds those that `fits` tells. -/
def integer (name : String) (fits : Int → Bool) : Decoder Int
  | .int n => if fits n then .ok n else .error (.value (.int n) name)
  | json => .error (.type json name)

/-- Integers of so many bits beside the sign. -/
def signed (name : String) (bits : Nat) : Decoder Int :=
  integer name (Width.fitsSigned bits)

/-- Natural numbers of so many bits. -/
def unsigned (name : String) (bits : Nat) : Decoder Int :=
  integer name fun n => 0 ≤ n && n < Width.bound bits

def int8 : Decoder Int := signed "i8" 7
def int16 : Decoder Int := signed "i16" 15
def int32 : Decoder Int := signed "i32" 31
def int64 : Decoder Int := signed "i64" 63
def uint8 : Decoder Int := unsigned "u8" 8
def uint16 : Decoder Int := unsigned "u16" 16
def uint32 : Decoder Int := unsigned "u32" 32
def uint64 : Decoder Int := unsigned "u64" 64

def float : Decoder Float
  | .float x => .ok x
  | .int n => .ok (Float.ofInt n)
  | json => .error (.type json "f64")

def bool : Decoder Bool
  | .bool b => .ok b
  | json => .error (.type json "a boolean")

def string : Decoder String
  | .string s => .ok s
  | json => .error (.type json "a string")

def char : Decoder Char
  | .string s =>
    match s.toList with
    | [c] => .ok c
    | _ => .error (.value (.string s) "a character")
  | json => .error (.type json "a character")

/-- Items in order; the first one that does not decode fails the list. -/
def list (d : Decoder α) : Decoder (List α)
  | .array items => items.mapM d
  | json => .error (.type json "a sequence")

/-- Fields in name order; the first one that does not decode fails the whole. -/
def fields (d : Decoder α) : Decoder (Fields α)
  | .object fields => fields.mapM fun (name, value) => (d value).map (name, ·)
  | json => .error (.type json "a map")

def option (d : Decoder α) : Decoder (Option α)
  | .null => .ok none
  | json => (d json).map some

/-- Exactly two items. The items present are decoded before their number is judged. -/
def pair (first : Decoder α) (second : Decoder β) : Decoder (α × β)
  | .array [] => .error (.length 0 "a tuple of size 2")
  | .array [x] => do
    let _ ← first x
    .error (.length 1 "a tuple of size 2")
  | .array (x :: y :: rest) => do
    let a ← first x
    let b ← second y
    if rest.isEmpty then .ok (a, b)
    else .error (.length (rest.length + 2) "fewer elements in array")
  | json => .error (.type json "a tuple of size 2")

end Decoder

end GraphBatch
