import GraphBatch.Fields
import GraphBatch.Toml.Scalar

/-!
# TOML documents

A document is read into a tree that remembers how each table came about, because this decides
whether it may be extended: a table named only on the way to another one may still be defined by a
header, one made by a dotted key may be extended by dotted keys, and every other table is closed to
both. A key is never given twice.
-/

namespace GraphBatch.Toml

open Text (Scanner)
open Text.Scanner

/-- A value, a table, or an array of tables given by headers (the latest table last). A table is
implicit until a header defines it, and dotted if a dotted key made it. -/
inductive Node where
  | value (value : Value)
  | table (implicit dotted : Bool) (fields : List (String × Node))
  | tables (elements : List Node)

namespace Node

mutual

def toValue : Node → Value
  | value v => v
  | table _ _ fields => .table (fieldsToValue fields)
  | tables elements => .array (elementsToValue elements)

def fieldsToValue : List (String × Node) → List (String × Value)
  | [] => []
  | (name, node) :: rest => (name, toValue node) :: fieldsToValue rest

def elementsToValue : List Node → List Value
  | [] => []
  | node :: rest => toValue node :: elementsToValue rest

end

/-- The node's last element if it holds several tables, else the node itself, changed by `f`. -/
def modifyLast (f : Node → Option Node) : Node → Option Node
  | tables elements =>
    match elements.reverse with
    | [] => none
    | last :: before => do
      let last ← f last
      return tables (before.reverse ++ [last])
  | node => f node

/-- Changes the table at the end of a header's path, making the tables on the way that are
missing. -/
def descend (change : Node → Option Node) : List String → Node → Option Node
  | [], node => change node
  | name :: path, table implicit dotted fields => do
    let child := (Fields.get? fields name).getD (table true false [])
    let child ← modifyLast (descend change path) child
    return table implicit dotted (Fields.insert name child fields)
  | _ :: _, _ => none

/-- Defines the table of a header: a new one, or one so far only named on the way to another. -/
def define (name : String) : Node → Option Node
  | table implicit dotted fields =>
    match Fields.get? fields name with
    | none => some (table implicit dotted (Fields.insert name (table false false []) fields))
    | some (table true false inner) =>
      some (table implicit dotted (Fields.insert name (table false false inner) fields))
    | some _ => none
  | _ => none

/-- Appends a table to an array of tables. -/
def append (name : String) : Node → Option Node
  | table implicit dotted fields =>
    match Fields.get? fields name with
    | none => some (table implicit dotted (Fields.insert name (tables [table false false []]) fields))
    | some (tables elements) =>
      some (table implicit dotted (Fields.insert name (tables (elements ++ [table false false []])) fields))
    | some _ => none
  | _ => none

/-- Sets a key in a table. The tables on a dotted key's way have to be implicit, the last one
dotted. -/
def assign (v : Value) (key : String) : List String → Node → Option Node
  | [], table implicit dotted fields =>
    match Fields.get? fields key with
    | some _ => none
    | none => some (table implicit dotted (Fields.insert key (value v) fields))
  | name :: path, table implicit dotted fields => do
    match (Fields.get? fields name).getD (table true true []) with
    | table true inner children =>
      if path.isEmpty && !inner then none
      let child ← assign v key path (table true inner children)
      return table implicit dotted (Fields.insert name child fields)
    | tables elements =>
      if path.isEmpty then none
      let child ← modifyLast (assign v key path) (tables elements)
      return table implicit dotted (Fields.insert name child fields)
    | _ => none
  | _, _ => none

end Node

/-- The path before the last part of a key, and the last part. -/
def splitLast : List String → Option (List String × String)
  | [] => none
  | [name] => some ([], name)
  | name :: rest => do
    let (path, last) ← splitLast rest
    return (name :: path, last)

/-- The table with the given entries, or `none` if they contradict each other. -/
def tableOf (entries : List (List String × Value)) : Option Node :=
  entries.foldlM (fun node (key, v) => do
    let (path, last) ← splitLast key
    node.assign v last path) (.table false false [])

def scalar : Scanner Value := do
  match ← peek? with
  | some '"' | some '\'' => .string <$> string
  | some 't' => word ['t', 'r', 'u', 'e'] *> pure (.boolean true)
  | some 'f' => word ['f', 'a', 'l', 's', 'e'] *> pure (.boolean false)
  | _ =>
    (datetime *> pure .datetime) <|> (.float <$> finiteFloat) <|> (.float <$> namedFloat) <|>
      (.integer <$> integer)

def arrayOf (item : Scanner Value) : Scanner Value := do
  let _ ← char '['
  let items ← optional (sepBy1 (gaps *> item <* gaps) (char ','))
  if items.isSome then let _ ← optional (char ',')
  gaps
  let _ ← char ']'
  return .array (items.getD [])

def inlineTableOf (item : Scanner Value) : Scanner Value := do
  let _ ← char '{'
  let entries ← optional (sepBy1 (do
    let k ← key
    let _ ← char '='
    space
    let v ← item
    space
    return (k, v)) (char ','))
  space
  let _ ← char '}'
  match tableOf (entries.getD []) with
  | some node => return node.toValue
  | none => failure

/-- A value in which arrays and inline tables are nested at most `depth` deep. -/
def valueIn : Nat → Scanner Value
  | 0 => scalar
  | depth + 1 => do
    match ← peek? with
    | some '[' => arrayOf (valueIn depth)
    | some '{' => inlineTableOf (valueIn depth)
    | _ => scalar

inductive Entry where
  | header (path : List String)
  | arrayHeader (path : List String)
  | pair (key : List String) (value : Value)

def entry : Scanner Entry :=
  (word ['[', '['] *> (.arrayHeader <$> key) <* word [']', ']']) <|>
  (char '[' *> (.header <$> key) <* char ']') <|>
  (do
    let k ← key
    let _ ← char '='
    space
    return .pair k (← valueIn (depthLimit - 1)))

/-- A line of a document, and the lines its value goes on for. -/
def line : Scanner (Option Entry) :=
  (do
    space
    let e ← entry
    lineEnd
    return some e) <|>
  (do
    lineEnd
    return none)

/-- The lines up to the end of the text, `fuel` of them at most. -/
def linesUpTo : Nat → Scanner (List Entry)
  | 0 => endOfText *> pure []
  | fuel + 1 => (endOfText *> pure []) <|> do
    let e ← line
    return e.toList ++ (← linesUpTo fuel)

/-- Adds an entry to the document; `header` is the path of the table that pairs go to. -/
def addEntry (state : List String × Node) (e : Entry) : Option (List String × Node) := do
  let (header, root) := state
  match e with
  | .header path =>
    let (parent, name) ← splitLast path
    return (path, ← root.descend (Node.define name) parent)
  | .arrayHeader path =>
    let (parent, name) ← splitLast path
    return (path, ← root.descend (Node.append name) parent)
  | .pair k v =>
    let (path, last) ← splitLast k
    return (header, ← root.descend (Node.assign v last path) header)

/-- The fields of a document's table, or `none` if the text is not well formed. A byte order mark
may precede it. -/
def parse (text : List Char) : Option (List (String × Value)) := do
  let body := if text.head? = some (Char.ofNat 0xFEFF) then text.drop 1 else text
  let (entries, _) ← linesUpTo (body.length + 1) body
  match ← entries.foldlM addEntry ([], .table false false []) with
  | (_, .table _ _ fields) => return Node.fieldsToValue fields
  | _ => none

end GraphBatch.Toml
