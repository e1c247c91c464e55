import GraphBatch.Text.Blank
import GraphBatch.Text.Lines

/-!
# Items, one on a line

A text gives one item for each line that is not blank. Lines are counted from 1, blank ones
included, and the first line that is no item is reported.
-/

namespace GraphBatch.Items

variable {α ε : Type}

/-- A line that is no item, with the reason. -/
structure Fault (ε : Type) where
  line : Nat
  cause : ε
deriving Repr, DecidableEq

/-- The items of lines of which the first has the given number. -/
def ofLines (parse : List Char → Except ε α) (number : Nat) :
    List (List Char) → Except (Fault ε) (List α)
  | [] => .ok []
  | line :: rest =>
    if Text.isBlankLine line then ofLines parse (number + 1) rest
    else
      match parse line with
      | .error cause => .error { line := number, cause }
      | .ok item => (ofLines parse (number + 1) rest).map (item :: ·)

def read (parse : List Char → Except ε α) (text : List Char) : Except (Fault ε) (List α) :=
  ofLines parse 1 (Text.lines text)

end GraphBatch.Items
