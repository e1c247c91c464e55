import GraphBatch.Decimal.Parse
import GraphBatch.Text.Scanner
import GraphBatch.Toml.Value
import GraphBatch.Width

/-!
# Scalars in TOML texts

Keys, strings, numbers, dates and the white space around them. Control characters other than the
tab are allowed nowhere, and a carriage return only before a line feed.
-/

namespace GraphBatch.Toml

open Text (Scanner)
open Text.Scanner

def isSpace (c : Char) : Bool := c == ' ' || c == '\t'

def isControl (c : Char) : Bool := (c.toNat < 32 && c != '\t') || c.toNat == 127

def isHex (c : Char) : Bool :=
  c.isDigit || ('a' ≤ c && c ≤ 'f') || ('A' ≤ c && c ≤ 'F')

def space : Scanner Unit := do
  let _ ← takeWhile isSpace

def newline : Scanner Unit :=
  word ['\n'] <|> word ['\r', '\n']

def comment : Scanner Unit := do
  let _ ← char '#'
  let _ ← takeWhile fun c => !isControl c

/-- What may stand behind an entry on its line, with the end of the line. -/
def lineEnd : Scanner Unit := do
  space
  let _ ← optional comment
  newline <|> endOfText

/-- Space, comments and line breaks, as between the items of an array. -/
def gaps : Scanner Unit := do
  space
  let _ ← many (do
    let _ ← optional comment
    newline
    space)

/-! ## Strings -/

def hexNumber (digits : List Char) : Nat :=
  digits.foldl (fun n c =>
    16 * n +
      (if c.isDigit then c.toNat - '0'.toNat
      else if 'a' ≤ c then c.toNat - 'a'.toNat + 10
      else c.toNat - 'A'.toNat + 10)) 0

/-- A character by its number in `count` hexadecimal digits. -/
def numbered (count : Nat) : Scanner Char := do
  let n := hexNumber (← exactly isHex count)
  if n.isValidChar then pure (Char.ofNat n) else failure

/-- The character that an escape stands for, after the backslash. -/
def escape : Scanner Char := do
  match ← satisfy fun _ => true with
  | 'b' => pure (Char.ofNat 8)
  | 't' => pure '\t'
  | 'n' => pure '\n'
  | 'f' => pure (Char.ofNat 12)
  | 'r' => pure '\r'
  | '"' => pure '"'
  | '\\' => pure '\\'
  | 'u' => numbered 4
  | 'U' => numbered 8
  | _ => failure

def basicChar : Scanner Char :=
  (char '\\' *> escape) <|> satisfy fun c => !isControl c && c != '"' && c != '\\'

def basicString : Scanner (List Char) :=
  char '"' *> many basicChar <* char '"'

def literalString : Scanner (List Char) :=
  char '\'' *> takeWhile (fun c => !isControl c && c != '\'') <* char '\''

/-- A run of quotes inside a string of several lines: up to two are part of the string, and from
three on the last three close it. The flag tells whether it is closed. -/
def quoteRun (quote : Char) : Scanner (List Char × Bool) := do
  let run ← takeWhile1 (· == quote)
  if run.length < 3 then pure (run, false)
  else if run.length ≤ 5 then pure (run.drop 3, true)
  else failure

/-- The parts of a string of several lines after its opening quotes. -/
def multilineParts (quote : Char) (part : Scanner (List Char)) : Nat → Scanner (List Char)
  | 0 => failure
  | fuel + 1 =>
    (do
      let (text, closed) ← quoteRun quote
      if closed then pure text else return text ++ (← multilineParts quote part fuel)) <|>
    (do
      let text ← part
      return text ++ (← multilineParts quote part fuel))

/-- A string between tripled quotes; a line break right behind the opening is left out. -/
def multiline (quote : Char) (part : Scanner (List Char)) : Scanner (List Char) := do
  word [quote, quote, quote]
  let _ ← optional newline
  fun rest => multilineParts quote part (rest.length + 1) rest

def lineBreak : Scanner (List Char) := do
  newline
  pure ['\n']

/-- A backslash at the end of a line, with all blanks and line breaks behind it. -/
def continuation : Scanner (List Char) := do
  let _ ← char '\\'
  space
  newline
  let _ ← many (newline <|> do let _ ← takeWhile1 isSpace)
  pure []

def multilineBasic : Scanner (List Char) :=
  multiline '"' (continuation <|> lineBreak <|> (List.singleton <$> basicChar))

def multilineLiteral : Scanner (List Char) :=
  multiline '\'' (lineBreak <|> (List.singleton <$> satisfy fun c => !isControl c && c != '\''))

def string : Scanner String :=
  String.ofList <$> (multilineBasic <|> basicString <|> multilineLiteral <|> literalString)

/-! ## Keys -/

def isBare (c : Char) : Bool :=
  c.isAlphanum || c == '_' || c == '-'

def simpleKey : Scanner String :=
  String.ofList <$> (takeWhile1 isBare <|> basicString <|> literalString)

/-- Keys have fewer parts, and values are nested less deep, than this. -/
def depthLimit : Nat := 80

/-- A key, its parts separated by points. -/
def key : Scanner (List String) := do
  let parts ← sepBy1 (space *> simpleKey <* space) (char '.')
  if parts.length < depthLimit then pure parts else failure

/-! ## Numbers -/

/-- Digits of a class, single underscores allowed between them. -/
def digitRun (p : Char → Bool) : Scanner (List Char) := do
  let first ← satisfy p
  let rest ← many (optional (char '_') *> satisfy p)
  return first :: rest

def sign : Scanner Bool := do
  match ← optional (satisfy fun c => c == '+' || c == '-') with
  | some '-' => pure true
  | _ => pure false

/-- The digits of a decimal integer, without superfluous zeros. -/
def decimalDigits : Scanner (List Char) := do
  match ← peek? with
  | some '0' => List.singleton <$> char '0'
  | _ => digitRun Char.isDigit

def radixInteger (radix : Nat) (mark : Char) (p : Char → Bool) : Scanner Int := do
  word ['0', mark]
  let digits ← digitRun p
  let n := (digits.foldl (fun n c => radix * n + hexNumber [c]) 0 : Nat)
  if Width.fitsSigned 63 n then pure n else failure

def decimalInteger : Scanner Int := do
  let negative ← sign
  let digits ← decimalDigits
  let n : Int := Decimal.digitsValue digits
  let n := if negative then -n else n
  if Width.fitsSigned 63 n then pure n else failure

def integer : Scanner Int :=
  radixInteger 16 'x' isHex <|> radixInteger 8 'o' (fun c => '0' ≤ c && c ≤ '7') <|>
    radixInteger 2 'b' (fun c => c == '0' || c == '1') <|> decimalInteger

def exponent : Scanner Int := do
  let _ ← satisfy fun c => c == 'e' || c == 'E'
  let negative ← sign
  let n : Int := Decimal.digitsValue (← digitRun Char.isDigit)
  pure (if negative then -n else n)

/-- A number with a fraction or an exponent. One too large to be a float is refused, unless it is
negative. -/
def finiteFloat : Scanner Float := do
  let negative ← sign
  let whole ← decimalDigits
  let fraction ← optional (char '.' *> digitRun Char.isDigit)
  let exp ← if fraction.isSome then optional exponent else some <$> exponent
  let places := fraction.getD []
  let x := Decimal.nearest (Decimal.digitsValue (whole ++ places)) (exp.getD 0 - places.length)
  if x.isInf && !negative then failure else pure (if negative then -x else x)

def namedFloat : Scanner Float := do
  let negative ← sign
  let x ← (word ['i', 'n', 'f'] *> pure (1 / 0 : Float)) <|> (word ['n', 'a', 'n'] *> pure (0 / 0 : Float))
  pure (if negative then -x else x)

/-! ## Dates and times -/

/-- A number of `count` digits within bounds. -/
def bounded (count low high : Nat) : Scanner Nat := do
  let n := Decimal.digitsValue (← exactly Char.isDigit count)
  if low ≤ n && n ≤ high then pure n else failure

def daysIn (year month : Nat) : Nat :=
  if month = 2 then
    if year % 4 = 0 ∧ (year % 100 ≠ 0 ∨ year % 400 = 0) then 29 else 28
  else if month = 4 ∨ month = 6 ∨ month = 9 ∨ month = 11 then 30
  else 31

def date : Scanner Unit := do
  let year ← bounded 4 0 9999
  let _ ← char '-'
  let month ← bounded 2 1 12
  let _ ← char '-'
  let _ ← bounded 2 1 (daysIn year month)

def time : Scanner Unit := do
  let _ ← bounded 2 0 23
  let _ ← char ':'
  let _ ← bounded 2 0 59
  let _ ← char ':'
  let _ ← bounded 2 0 60
  let _ ← optional (char '.' *> takeWhile1 Char.isDigit)

def offset : Scanner Unit := do
  match ← satisfy fun c => c == 'Z' || c == 'z' || c == '+' || c == '-' with
  | '+' | '-' =>
    let _ ← bounded 2 0 23
    let _ ← char ':'
    let _ ← bounded 2 0 59
  | _ => pure ()

def datetime : Scanner Unit :=
  (do
    date
    let _ ← optional (do
      let _ ← satisfy fun c => c == 'T' || c == 't' || c == ' '
      time
      let _ ← optional offset)) <|> time

end GraphBatch.Toml
