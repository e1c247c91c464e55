/-!
# Lines of a text

A line ends at a line feed or at the end of the text; a carriage return just before the line feed
belongs to the ending. No line follows a final line ending.
-/

namespace GraphBatch.Text

/-- A line, held last character first, without a carriage return at its end. -/
def dropReturn : List Char → List Char
  | '\r' :: rest => rest
  | line => line

/-- The lines of a text that starts within a line; `current` holds its characters so far, last
first. -/
def linesFrom (current : List Char) : List Char → List (List Char)
  | [] => if current.isEmpty then [] else [current.reverse]
  | c :: rest =>
    if c = '\n' then (dropReturn current).reverse :: linesFrom [] rest
    else linesFrom (c :: current) rest

def lines (text : List Char) : List (List Char) :=
  linesFrom [] text

end GraphBatch.Text
