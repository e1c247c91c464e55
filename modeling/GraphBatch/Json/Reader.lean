import GraphBatch.Json.Number

/-!
# Reading JSON texts

`Json.read` accepts one value, with blanks around it, and reports the first fault of any other
text together with its place. Arrays and objects may be nested up to a given depth.
-/

namespace GraphBatch.Json

namespace Reader

/-- The bytes of a text. -/
def byteCount (text : List Char) : Nat :=
  text.foldl (fun n c => n + c.utf8Size) 0

def hexValue? (c : Char) : Option Nat :=
  if c.isDigit then some (c.toNat - '0'.toNat)
  else if 'a' ≤ c ∧ c ≤ 'f' then some (c.toNat - 'a'.toNat + 10)
  else if 'A' ≤ c ∧ c ≤ 'F' then some (c.toNat - 'A'.toNat + 10)
  else none

/-- The value of the four characters of an escape, if all are hexadecimal digits. -/
def hexValue4? (a b c d : Char) : Option Nat := do
  return (((← hexValue? a) * 16 + (← hexValue? b)) * 16 + (← hexValue? c)) * 16 + (← hexValue? d)

/-- The fault of an escape that does not start with four hexadecimal digits, `rest` being what
follows its mark: fewer than four bytes are the end of the text. -/
def badHex (rest : List Char) (offset : Nat) : Fault × Nat :=
  if byteCount rest < 4 then (.endInString, offset + byteCount rest) else (.invalidEscape, offset + 4)

def isLeading (n : Nat) : Bool := 0xD800 ≤ n && n ≤ 0xDBFF

def isTrailing (n : Nat) : Bool := 0xDC00 ≤ n && n ≤ 0xDFFF

/-- The rest of a string after its opening quote; `done` holds the characters read, last first. -/
def stringBody (done : List Char) : List Char → Nat → Scanned String
  | [], offset => .error (.endInString, offset)
  | '"' :: rest, offset => .ok (String.ofList done.reverse, rest, offset + 1)
  | '\\' :: rest, offset =>
    match rest with
    | [] => .error (.endInString, offset + 1)
    | '"' :: rest => stringBody ('"' :: done) rest (offset + 2)
    | '\\' :: rest => stringBody ('\\' :: done) rest (offset + 2)
    | '/' :: rest => stringBody ('/' :: done) rest (offset + 2)
    | 'b' :: rest => stringBody (Char.ofNat 8 :: done) rest (offset + 2)
    | 'f' :: rest => stringBody (Char.ofNat 12 :: done) rest (offset + 2)
    | 'n' :: rest => stringBody ('\n' :: done) rest (offset + 2)
    | 'r' :: rest => stringBody ('\r' :: done) rest (offset + 2)
    | 't' :: rest => stringBody ('\t' :: done) rest (offset + 2)
    | 'u' :: rest =>
      match rest with
      | a :: b :: c :: d :: rest' =>
        match hexValue4? a b c d with
        | none => .error (badHex rest (offset + 2))
        | some first =>
          if isTrailing first then .error (.loneSurrogate, offset + 6)
          else if isLeading first then
            match rest' with
            | [] => .error (.endInString, offset + 6)
            | ['\\'] => .error (.endInString, offset + 7)
            | '\\' :: 'u' :: rest'' =>
              match rest'' with
              | e :: f :: g :: h :: rest''' =>
                match hexValue4? e f g h with
                | none => .error (badHex rest'' (offset + 8))
                | some second =>
                  if isTrailing second then
                    let code := (first - 0xD800) * 0x400 + (second - 0xDC00) + 0x10000
                    stringBody (Char.ofNat code :: done) rest''' (offset + 12)
                  else .error (.loneSurrogate, offset + 12)
              | short => .error (badHex short (offset + 8))
            | '\\' :: _ => .error (.unexpectedEndOfEscape, offset + 8)
            | _ => .error (.unexpectedEndOfEscape, offset + 7)
          else stringBody (Char.ofNat first :: done) rest' (offset + 6)
      | short => .error (badHex short (offset + 2))
    | _ => .error (.invalidEscape, offset + 2)
  | c :: rest, offset =>
    if c.toNat < 32 then .error (.controlCharacter, offset + 1)
    else stringBody (c :: done) rest (offset + c.utf8Size)

def isBlank (c : Char) : Bool :=
  c == ' ' || c == '\n' || c == '\t' || c == '\r'

def dropBlanks : List Char → Nat → List Char × Nat
  | c :: rest, offset => if isBlank c then dropBlanks rest (offset + 1) else (c :: rest, offset)
  | [], offset => ([], offset)

/-- The rest of one of the words `null`, `true` and `false`. -/
def ident (value : Json) : List Char → List Char → Nat → Scanned Json
  | [], rest, offset => .ok (value, rest, offset)
  | _ :: _, [], offset => .error (.endInValue, offset)
  | w :: word, c :: rest, offset =>
    if c = w then ident value word rest (offset + 1) else .error (.expectedIdent, offset + 1)

mutual

/-- One value and the blanks before it. `fuel` bounds the calls; `depth` is one more than the
number of brackets that may still be opened. -/
def value (fuel depth : Nat) (rest : List Char) (offset : Nat) : Scanned Json :=
  match fuel with
  | 0 => .error (.tooDeep, offset)
  | fuel + 1 =>
    match dropBlanks rest offset with
    | ([], offset) => .error (.endInValue, offset)
    | (c :: rest, offset) =>
      match c with
      | 'n' => ident .null ['u', 'l', 'l'] rest (offset + 1)
      | 't' => ident (.bool true) ['r', 'u', 'e'] rest (offset + 1)
      | 'f' => ident (.bool false) ['a', 'l', 's', 'e'] rest (offset + 1)
      | '"' =>
        match stringBody [] rest (offset + 1) with
        | .ok (s, rest, offset) => .ok (.string s, rest, offset)
        | .error e => .error e
      | '-' => number false rest (offset + 1)
      | '[' =>
        if depth ≤ 1 then .error (.tooDeep, offset + 1)
        else items fuel (depth - 1) [] rest (offset + 1)
      | '{' =>
        if depth ≤ 1 then .error (.tooDeep, offset + 1)
        else members fuel (depth - 1) true [] rest (offset + 1)
      | _ => if c.isDigit then number true (c :: rest) offset else .error (.expectedValue, offset + 1)

/-- The items of an array from the current one on; `done` holds the earlier ones, last first. -/
def items (fuel depth : Nat) (done : List Json) (rest : List Char) (offset : Nat) : Scanned Json :=
  match fuel with
  | 0 => .error (.tooDeep, offset)
  | fuel + 1 =>
    match dropBlanks rest offset with
    | ([], offset) => .error (.endInList, offset)
    | (']' :: rest, offset) => .ok (.array done.reverse, rest, offset + 1)
    | (c :: rest, offset) =>
      if done.isEmpty then next fuel depth done (c :: rest) offset
      else if c = ',' then
        match dropBlanks rest (offset + 1) with
        | ([], offset) => .error (.endInValue, offset)
        | (']' :: _, offset) => .error (.trailingComma, offset + 1)
        | (rest, offset) => next fuel depth done rest offset
      else .error (.expectedListEnd, offset + 1)

/-- An item and those after it. -/
def next (fuel depth : Nat) (done : List Json) (rest : List Char) (offset : Nat) : Scanned Json :=
  match fuel with
  | 0 => .error (.tooDeep, offset)
  | fuel + 1 =>
    match value fuel depth rest offset with
    | .error e => .error e
    | .ok (item, rest, offset) => items fuel depth (item :: done) rest offset

/-- The members of an object from the current one on. -/
def members (fuel depth : Nat) (first : Bool) (done : Fields Json) (rest : List Char) (offset : Nat) :
    Scanned Json :=
  match fuel with
  | 0 => .error (.tooDeep, offset)
  | fuel + 1 =>
    match dropBlanks rest offset with
    | ([], offset) => .error (.endInObject, offset)
    | ('}' :: rest, offset) => .ok (.object done, rest, offset + 1)
    | (c :: rest, offset) =>
      if first then
        if c = '"' then member fuel depth done rest (offset + 1) else .error (.keyNotString, offset + 1)
      else if c = ',' then
        match dropBlanks rest (offset + 1) with
        | ([], offset) => .error (.endInValue, offset)
        | ('"' :: rest, offset) => member fuel depth done rest (offset + 1)
        | ('}' :: _, offset) => .error (.trailingComma, offset + 1)
        | (_, offset) => .error (.keyNotString, offset + 1)
      else .error (.expectedObjectEnd, offset + 1)

/-- A member after the opening quote of its key, and those after it. -/
def member (fuel depth : Nat) (done : Fields Json) (rest : List Char) (offset : Nat) : Scanned Json :=
  match fuel with
  | 0 => .error (.tooDeep, offset)
  | fuel + 1 =>
    match stringBody [] rest offset with
    | .error e => .error e
    | .ok (key, rest, offset) =>
      match dropBlanks rest offset with
      | ([], offset) => .error (.endInObject, offset)
      | (':' :: rest, offset) =>
        match value fuel depth rest (offset + 1) with
        | .error e => .error e
        | .ok (item, rest, offset) => members fuel depth false (Fields.insert key item done) rest offset
      | (_, offset) => .error (.expectedColon, offset + 1)

end

end Reader

open Reader in
/-- The value that the whole text holds, brackets nested less than `depth` deep. Every call but
those on a bracket's way in consumes a character, so three per character are enough. -/
def read (depth : Nat) (text : String) : Except ReadError Json :=
  let chars := text.toList
  let fail : Fault × Nat → Except ReadError Json := fun (fault, offset) =>
    let (line, column) := position offset chars
    .error ⟨fault, line, column⟩
  match value (3 * chars.length + 3) depth chars 0 with
  | .error e => fail e
  | .ok (result, rest, offset) =>
    match dropBlanks rest offset with
    | ([], _) => .ok result
    | (_ :: _, offset) => fail (.trailingCharacters, offset + 1)

/-- The nesting that texts may have when nothing else is asked for. -/
def defaultDepth : Nat := 128

def parse (text : String) : Except ReadError Json :=
  read defaultDepth text

end GraphBatch.Json
