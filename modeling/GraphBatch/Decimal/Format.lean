import GraphBatch.Decimal.Shortest

/-!
# Texts of floats

Two ways to write a double with its shortest digits: `scientific` switches to an exponent for
large and small magnitudes and always shows that the number is no integer; `positional` never
uses an exponent and drops an empty fraction. Of two equally near decimals `scientific` takes the
even one, `positional` the larger.
-/

namespace GraphBatch

namespace Decimal

def zeros (n : Nat) : String :=
  String.ofList (List.replicate n '0')

/-- The decimal in positional notation: the integer part, then the fraction without its point. -/
def parts (d : Decimal) : String × String :=
  let digits := toString d.digits
  if 0 ≤ d.place then (digits ++ zeros d.place.toNat, "")
  else
    let point := digits.length + d.place
    if 0 < point then
      (String.ofList (digits.toList.take point.toNat), String.ofList (digits.toList.drop point.toNat))
    else ("0", zeros (-point).toNat ++ digits)

def isNegative (x : Float) : Bool :=
  x.toBits.toNat / Width.bound 63 = 1

/-- The sign, then `zero` for a zero and `text` of the shortest decimal for other finite values. -/
def signed (tie : Tie) (x : Float) (zero : String) (text : Decimal → String) : String :=
  let sign := if isNegative x then "-" else ""
  if x == 0 then sign ++ zero else sign ++ text (shortest tie x)

/-- Positional from `1e-5` up to `1e16`, always with a point; an exponent with a sign beyond. -/
def scientific (x : Float) : String :=
  signed .toEven x "0.0" fun d =>
    let digits := toString d.digits
    let exponent := d.place + digits.length - 1
    if -5 ≤ exponent ∧ exponent < 16 then
      let (whole, fraction) := d.parts
      whole ++ "." ++ (if fraction.isEmpty then "0" else fraction)
    else
      let (first, rest) := (digits.toList.take 1, digits.toList.drop 1)
      let mantissa := String.ofList (if rest.isEmpty then first else first ++ '.' :: rest)
      mantissa ++ "e" ++ (if exponent < 0 then "-" else "+") ++ toString exponent.natAbs

/-- Positional at every magnitude; infinities and NaN by name. -/
def positional (x : Float) : String :=
  if x.isNaN then "NaN"
  else if x.isInf then (if isNegative x then "-inf" else "inf")
  else
    signed .up x "0" fun d =>
      let (whole, fraction) := d.parts
      if fraction.isEmpty then whole else whole ++ "." ++ fraction

end Decimal

end GraphBatch
