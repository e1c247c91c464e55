import GraphBatch.Decimal.Nearest

/-!
# Numbers in plain texts

Decimal integers with an optional sign, and floats with an optional sign, fraction and exponent or
one of the names of infinity and NaN. Blanks and digit separators are not part of a number.
-/

namespace GraphBatch

namespace Decimal

def digitsValue (digits : List Char) : Nat :=
  digits.foldl (fun n c => 10 * n + (c.toNat - '0'.toNat)) 0

def allDigits (text : List Char) : Bool :=
  !text.isEmpty && text.all Char.isDigit

/-- A natural number below `bound`, with an optional plus sign. -/
def natural? (bound : Nat) (text : List Char) : Option Nat :=
  let digits := match text with
    | '+' :: rest => rest
    | text => text
  if allDigits digits && digitsValue digits < bound then some (digitsValue digits) else none

/-- An integer from `-bound` up to but not including `bound`, with an optional sign. -/
def integer? (bound : Nat) (text : List Char) : Option Int :=
  match text with
  | '-' :: digits =>
    if allDigits digits && digitsValue digits ≤ bound then some (-(digitsValue digits : Int)) else none
  | text => (natural? bound text).map Int.ofNat

/-- The digits of a number with at most one point, and how many of them follow the point. -/
def splitPoint (text : List Char) : Option (List Char × Nat) :=
  let whole := text.takeWhile (· ≠ '.')
  let fraction := (text.dropWhile (· ≠ '.')).drop 1
  if (whole ++ fraction).all Char.isDigit && !(whole ++ fraction).isEmpty then
    some (whole ++ fraction, fraction.length)
  else none

/-- A float without its sign. -/
def magnitude? (text : List Char) : Option Float :=
  let name := (String.ofList text).toLower
  if name = "inf" ∨ name = "infinity" then some (1 / 0)
  else if name = "nan" then some (0 / 0)
  else
    let isMark (c : Char) : Bool := c = 'e' || c = 'E'
    let mantissa := text.takeWhile (!isMark ·)
    let mark := text.dropWhile (!isMark ·)
    match splitPoint mantissa with
    | none => none
    | some (digits, places) =>
      let exponent? : Option Int := match mark with
        | [] => some 0
        | _ :: '+' :: rest => if allDigits rest then some (digitsValue rest) else none
        | _ :: '-' :: rest => if allDigits rest then some (-(digitsValue rest : Int)) else none
        | _ :: rest => if allDigits rest then some (digitsValue rest) else none
      exponent?.map fun exponent => nearest (digitsValue digits) (exponent - places)

/-- The float that a text denotes. -/
def float? (text : List Char) : Option Float :=
  match text with
  | '-' :: rest => (magnitude? rest).map (-·)
  | '+' :: rest => magnitude? rest
  | text => magnitude? text

end Decimal

end GraphBatch
