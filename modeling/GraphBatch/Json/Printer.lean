import GraphBatch.Decimal.Format
import GraphBatch.Json

/-!
# Written JSON

`compact` writes a value without any blanks; `pretty` puts each item on a line of its own,
indented by two spaces. Object fields are written in the order in which the object holds them.
-/

namespace GraphBatch.Json

def hexDigit (n : Nat) : Char :=
  ("0123456789abcdef".toList)[n]?.getD '0'

/-- A character as it stands inside a JSON string. -/
def escaped (c : Char) : List Char :=
  match c with
  | '"' => ['\\', '"']
  | '\\' => ['\\', '\\']
  | '\n' => ['\\', 'n']
  | '\r' => ['\\', 'r']
  | '\t' => ['\\', 't']
  | _ =>
    if c.toNat = 8 then ['\\', 'b']
    else if c.toNat = 12 then ['\\', 'f']
    else if c.toNat < 32 then ['\\', 'u', '0', '0', hexDigit (c.toNat / 16), hexDigit (c.toNat % 16)]
    else [c]

def quoted (s : String) : String :=
  "\"" ++ String.ofList (s.toList.flatMap escaped) ++ "\""

mutual

def compact : Json → String
  | .null => "null"
  | .bool value => toString value
  | .int value => toString value
  | .float value => Decimal.scientific value
  | .string value => quoted value
  | .array items => "[" ++ ",".intercalate (compactItems items) ++ "]"
  | .object fields => "\x7b" ++ ",".intercalate (compactFields fields) ++ "\x7d"

def compactItems : List Json → List String
  | [] => []
  | item :: rest => compact item :: compactItems rest

def compactFields : List (String × Json) → List String
  | [] => []
  | (name, value) :: rest => (quoted name ++ ":" ++ compact value) :: compactFields rest

end

/-- The start of a line at the given depth. -/
def margin (depth : Nat) : String :=
  "\n" ++ String.ofList (List.replicate (2 * depth) ' ')

/-- The lines between two brackets, the closing one at the given depth. -/
def block (opening closing : String) (depth : Nat) (lines : List String) : String :=
  if lines.isEmpty then opening ++ closing
  else opening ++ ",".intercalate (lines.map (margin (depth + 1) ++ ·)) ++ margin depth ++ closing

theorem block_cons (opening closing : String) (depth : Nat) (line : String) (lines : List String) :
    block opening closing depth (line :: lines) =
      opening ++ ",".intercalate ((line :: lines).map (margin (depth + 1) ++ ·)) ++ margin depth ++ closing :=
  rfl

mutual

def prettyAt (depth : Nat) : Json → String
  | .array items => block "[" "]" depth (prettyItems (depth + 1) items)
  | .object fields => block "\x7b" "\x7d" depth (prettyFields (depth + 1) fields)
  | value => compact value

def prettyItems (depth : Nat) : List Json → List String
  | [] => []
  | item :: rest => prettyAt depth item :: prettyItems depth rest

def prettyFields (depth : Nat) : List (String × Json) → List String
  | [] => []
  | (name, value) :: rest => (quoted name ++ ": " ++ prettyAt depth value) :: prettyFields depth rest

end

def pretty (value : Json) : String :=
  prettyAt 0 value

end GraphBatch.Json
