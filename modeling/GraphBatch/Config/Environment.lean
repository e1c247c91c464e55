import GraphBatch.Config.Value
import GraphBatch.Decimal.Parse
import GraphBatch.Text.Blank
import GraphBatch.Toml.Scalar

/-!
# Settings from environment variables

A variable whose name starts with `GRAPHTX_`, in any case, gives the setting that the rest of its
name stands for: two underscores separate the parts of the path. The value may be a boolean, a
number, a text, a list in brackets or a table in braces; a value that is none of these is a text as
it stands.
-/

namespace GraphBatch.Config.Environment

open Text (Scanner isAsciiBlank isBlank trimBy)
open Text.Scanner

def scalar (value : Scalar) : Value := .scalar .environment value

def isSeparator (c : Char) : Bool :=
  c == ',' || c == '{' || c == '}' || c == '[' || c == ']'

/-- The value of a text without brackets or quotes. Only a text with a point may be a float. -/
def bare (text : List Char) : Scalar :=
  let float? := if text.contains '.' then Decimal.float? text else none
  match float?, Decimal.natural? (Width.bound 64) text, Decimal.integer? (Width.bound 63) text with
  | some x, _, _ => .float x
  | none, some n, _ => .unsigned n
  | none, none, some n => .signed n
  | none, none, none => .string (String.ofList text)

/-- The characters between quotes: the closing one is the first that no backslash precedes. -/
def quotedBody : Scanner (List Char) :=
  List.flatten <$> many
    ((do
      let _ ← char '\\'
      let c ← satisfy fun _ => true
      return ['\\', c]) <|> (List.singleton <$> satisfy fun c => c != '"' && c != '\\'))

/-- The characters at the front of a text that fit into `size` bytes. -/
def fitting (size : Nat) : List Char → List Char
  | [] => []
  | c :: rest => if c.utf8Size ≤ size then c :: fitting (size - c.utf8Size) rest else []

/-- The text between two quotes. If it has an escape, what stands before the first one is cut to
as many bytes as it has characters. -/
def unescape? (body : List Char) : Option (List Char) := do
  let text ← parse (many Toml.basicChar) body
  let plain := body.takeWhile (· != '\\')
  return if plain.length = body.length then text
    else fitting plain.length plain ++ text.drop plain.length

def quotedText : Scanner String := do
  let body ← char '"' *> quotedBody <* char '"'
  match unescape? body with
  | some text => return String.ofList text
  | none => failure

def blanks : Scanner Unit := do
  let _ ← takeWhile isAsciiBlank

/-- The items up to the closing mark, separated by commas; a comma may also stand before it. -/
def listed {α : Type} (item : Scanner α) (closing : Char) : Nat → Scanner (List α)
  | 0 => failure
  | fuel + 1 =>
    (char closing *> pure []) <|> do
      let a ← item
      (char ',' *> (a :: ·) <$> listed item closing fuel) <|> (char closing *> pure [a])

def entry (value : Scanner Value) : Scanner (String × Value) := do
  blanks
  let key ← quotedText <|> (String.ofList <$> takeWhile1 Toml.isBare)
  blanks
  let _ ← char '='
  blanks
  let v ← value
  blanks
  return (key, v)

/-- A value with the blanks around it, brackets and braces nested less than `fuel` deep. -/
def valueIn : Nat → Scanner Value
  | 0 => failure
  | fuel + 1 => do
    blanks
    let v ←
      (word "true".toList *> pure (scalar (.bool true))) <|>
      (word "false".toList *> pure (scalar (.bool false))) <|> do
        match ← peek? with
        | some '{' =>
          let _ ← char '{'
          let entries ← fun rest => listed (entry (valueIn fuel)) '}' (rest.length + 1) rest
          return .table .environment (Fields.ofPairs entries)
        | some '[' =>
          let _ ← char '['
          let items ← fun rest => listed (valueIn fuel) ']' (rest.length + 1) rest
          return .list .environment items
        | some '"' => return scalar (.string (← quotedText))
        | some '\'' =>
          let c ← char '\'' *> satisfy (fun _ => true) <* char '\''
          return scalar (.char c)
        | _ => return scalar (bare (trimBy isBlank (← takeWhile fun c => !isSeparator c)))
    blanks
    return v

def value (text : String) : Value :=
  (parse (valueIn (text.length + 1)) text.toList).getD (scalar (.string text))

def startsWith (start : List Char) (name : List Char) : Bool :=
  (name.take start.length).map Char.toLower == start

def namespaceMark : List Char := "graphtx_".toList

/-- Two underscores in a row as a point, from left to right. -/
def pointed : List Char → List Char
  | '_' :: '_' :: rest => '.' :: pointed rest
  | c :: rest => c :: pointed rest
  | [] => []

/-- The path of the setting that a variable gives, if it gives one. White space around the name and
around what follows the mark is no part of it. -/
def path? (name : String) : Option (List String) :=
  let name := trimBy isBlank name.toList
  if startsWith namespaceMark name then
    let rest := trimBy isBlank (name.drop namespaceMark.length)
    let path := (String.ofList ((pointed rest).map Char.toLower)).splitOn "."
    if path.all (!·.isEmpty) then some path else none
  else none

/-- The settings that the variables give; of two for one path the later is kept. -/
def layer (vars : List (String × String)) : Value :=
  vars.foldl (fun table (name, text) =>
    match path? name with
    | some path => table.merge (.nest .environment (value text) path)
    | none => table) (.table .environment [])

end GraphBatch.Config.Environment
