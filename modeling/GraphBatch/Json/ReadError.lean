/-!
# Faults in JSON texts

A fault names what is wrong and the place, as a line and a count of bytes in that line.
-/

namespace GraphBatch.Json

inductive Fault where
  | endInValue
  | endInList
  | endInObject
  | endInString
  | expectedValue
  | keyNotString
  | expectedColon
  | expectedListEnd
  | expectedObjectEnd
  | trailingComma
  | trailingCharacters
  | expectedIdent
  | invalidNumber
  | invalidEscape
  | controlCharacter
  | numberOutOfRange
  | unexpectedEndOfEscape
  | loneSurrogate
  | tooDeep
deriving Repr, DecidableEq

def Fault.message : Fault → String
  | endInValue => "EOF while parsing a value"
  | endInList => "EOF while parsing a list"
  | endInObject => "EOF while parsing an object"
  | endInString => "EOF while parsing a string"
  | expectedValue => "expected value"
  | keyNotString => "key must be a string"
  | expectedColon => "expected `:`"
  | expectedListEnd => "expected `,` or `]`"
  | expectedObjectEnd => "expected `,` or `\x7d`"
  | trailingComma => "trailing comma"
  | trailingCharacters => "trailing characters"
  | expectedIdent => "expected ident"
  | invalidNumber => "invalid number"
  | invalidEscape => "invalid escape"
  | controlCharacter => "control character (\\u0000-\\u001F) found while parsing a string"
  | numberOutOfRange => "number out of range"
  | unexpectedEndOfEscape => "unexpected end of hex escape"
  | loneSurrogate => "lone leading surrogate in hex escape"
  | tooDeep => "recursion limit exceeded"

structure ReadError where
  fault : Fault
  line : Nat
  column : Nat
deriving Repr, DecidableEq

/-- A place as it is written behind a message. -/
def placeText (line column : Nat) : String :=
  " at line " ++ toString line ++ " column " ++ toString column

def ReadError.message (e : ReadError) : String :=
  e.fault.message ++ placeText e.line e.column

/-- The line and column after `offset` bytes of the text: the column counts the bytes read since
the last line break among them. -/
def position (offset : Nat) : List Char → Nat × Nat :=
  let rec go (passed line start : Nat) : List Char → Nat × Nat
    | [] => (line, offset - start)
    | c :: rest =>
      if offset ≤ passed then (line, offset - start)
      else if c = '\n' then go (passed + 1) (line + 1) (passed + 1) rest
      else go (passed + c.utf8Size) line start rest
  go 0 1 0

end GraphBatch.Json
