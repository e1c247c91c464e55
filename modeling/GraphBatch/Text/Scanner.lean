/-!
# Scanners

A scanner reads from the front of a text and leaves the rest, or fails without an explanation. An
alternative starts where the failed one started.
-/

namespace GraphBatch.Text

abbrev Scanner := StateT (List Char) Option

namespace Scanner

variable {α β : Type}

def peek? : Scanner (Option Char) := fun rest => some (rest.head?, rest)

def satisfy (p : Char → Bool) : Scanner Char
  | c :: rest => if p c then some (c, rest) else none
  | [] => none

def char (c : Char) : Scanner Char := satisfy (· == c)

/-- Exactly the given characters. -/
def word : List Char → Scanner Unit
  | [] => pure ()
  | c :: rest => do
    let _ ← char c
    word rest

def takeWhile (p : Char → Bool) : Scanner (List Char) := fun rest =>
  some (rest.takeWhile p, rest.dropWhile p)

def takeWhile1 (p : Char → Bool) : Scanner (List Char) := do
  let taken ← takeWhile p
  if taken.isEmpty then failure else pure taken

/-- Exactly `count` characters of a class. -/
def exactly (p : Char → Bool) : Nat → Scanner (List Char)
  | 0 => pure []
  | count + 1 => do
    let c ← satisfy p
    return c :: (← exactly p count)

def endOfText : Scanner Unit
  | [] => some ((), [])
  | _ :: _ => none

/-- As many readings of `s` as there are, `fuel` at most. -/
def manyUpTo (s : Scanner α) : Nat → Scanner (List α)
  | 0 => pure []
  | fuel + 1 => (do
      let a ← s
      return a :: (← manyUpTo s fuel)) <|> pure []

/-- As many readings of `s` as there are. Each has to consume a character. -/
def many (s : Scanner α) : Scanner (List α) := fun rest =>
  manyUpTo s rest.length rest

/-- Readings of `s` with a separator between them, one at least. -/
def sepBy1 (s : Scanner α) (separator : Scanner β) : Scanner (List α) := do
  let first ← s
  let rest ← many (separator *> s)
  return first :: rest

/-- The reading of the whole text. -/
def parse (s : Scanner α) (text : List Char) : Option α :=
  ((s <* endOfText) text).map Prod.fst

end Scanner

end GraphBatch.Text
