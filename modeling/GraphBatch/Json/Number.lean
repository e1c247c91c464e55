import GraphBatch.Json
import GraphBatch.Json.ReadError
import GraphBatch.Width

/-!
# Numbers in JSON texts

An integer literal that fits 64 bits, signed or unsigned, is an integer; every other literal is a
float. A float is computed from a 64-bit significand and a decimal exponent: digits that no longer
fit the significand only move the exponent, and the significand is then scaled by one power of ten
(in steps of `1e308` while the exponent is below `-308`).
-/

namespace GraphBatch.Json.Reader

/-- A literal read from the front of a text, with what is left and the bytes consumed; or a fault
and the byte offset it is reported at. -/
abbrev Scanned (α : Type) := Except (Fault × Nat) (α × List Char × Nat)

def maxSignificand : Nat := Width.bound 64 - 1

def maxExponent : Int := Width.bound 31 - 1

def minExponent : Int := -(Width.bound 31 : Int)

/-- `significand * 10 ^ exponent`, or `none` above the range of floats. -/
def scale (x : Float) (exponent : Int) : Option Float :=
  if exponent.natAbs ≤ 308 then
    if 0 ≤ exponent then
      let y := x * Float.ofScientific 1 false exponent.natAbs
      if y.isInf then none else some y
    else some (x / Float.ofScientific 1 false exponent.natAbs)
  else if x == 0 then some x
  else if 0 ≤ exponent then none
  else scale (x / Float.ofScientific 1 false 308) (exponent + 308)
termination_by exponent.natAbs
decreasing_by omega

def digitValue (c : Char) : Nat := c.toNat - '0'.toNat

/-- A float literal of which the digits have been read, `offset` bytes into the text. -/
def scaled (positive : Bool) (significand : Nat) (exponent : Int) (rest : List Char) (offset : Nat) :
    Scanned Json :=
  match scale (Float.ofNat significand) exponent with
  | some x => .ok (.float (if positive then x else -x), rest, offset)
  | none => .error (.numberOutOfRange, offset)

def dropDigits : List Char → Nat → List Char × Nat
  | c :: rest, offset => if c.isDigit then dropDigits rest (offset + 1) else (c :: rest, offset)
  | [], offset => ([], offset)

/-- The digits of an exponent after its first one. An exponent beyond 32 bits is out of range for a
nonzero number if positive, and makes zero otherwise. -/
def exponentDigits (positive : Bool) (significand : Nat) (start : Int) (up : Bool) (value : Int) :
    List Char → Nat → Scanned Json
  | c :: rest, offset =>
    if c.isDigit then
      let value' := value * 10 + digitValue c
      if maxExponent < value' then
        if significand ≠ 0 ∧ up then .error (.numberOutOfRange, offset + 1)
        else
          let (rest, offset) := dropDigits rest (offset + 1)
          .ok (.float (if positive then 0.0 else -0.0), rest, offset)
      else exponentDigits positive significand start up value' rest (offset + 1)
    else scaled positive significand (clamp (if up then start + value else start - value)) (c :: rest) offset
  | [], offset =>
    scaled positive significand (clamp (if up then start + value else start - value)) [] offset
where
  clamp (e : Int) : Int := max minExponent (min maxExponent e)

/-- What follows an exponent mark. -/
def exponent (positive : Bool) (significand : Nat) (start : Int) (rest : List Char) (offset : Nat) :
    Scanned Json :=
  match rest with
  | '+' :: rest => first true rest (offset + 1)
  | '-' :: rest => first false rest (offset + 1)
  | rest => first true rest offset
where
  first (up : Bool) : List Char → Nat → Scanned Json
    | c :: rest, offset =>
      if c.isDigit then exponentDigits positive significand start up (digitValue c) rest (offset + 1)
      else .error (.invalidNumber, offset + 1)
    | [], offset => .error (.endInValue, offset)

/-- What follows the digits of a number with a fraction. -/
def afterFraction (positive : Bool) (significand : Nat) (exp : Int) (rest : List Char) (offset : Nat) :
    Scanned Json :=
  match rest with
  | 'e' :: rest => exponent positive significand exp rest (offset + 1)
  | 'E' :: rest => exponent positive significand exp rest (offset + 1)
  | rest => scaled positive significand exp rest offset

/-- The digits after a point, `read` of them so far; at least one has to follow. Digits that no
longer fit the significand are dropped. -/
def fraction (positive : Bool) (start : Int) (significand read : Nat) : List Char → Nat → Scanned Json
  | c :: rest, offset =>
    if c.isDigit then
      let significand' := significand * 10 + digitValue c
      if maxSignificand < significand' then
        let (rest, offset) := dropDigits rest (offset + 1)
        afterFraction positive significand (start - read) rest offset
      else fraction positive start significand' (read + 1) rest (offset + 1)
    else if read = 0 then .error (.invalidNumber, offset + 1)
    else afterFraction positive significand (start - read) (c :: rest) offset
  | [], offset =>
    if read = 0 then .error (.endInValue, offset)
    else afterFraction positive significand (start - read) [] offset

/-- An integer part too long for the significand: `dropped` counts the digits left out. -/
def longInteger (positive : Bool) (significand dropped : Nat) : List Char → Nat → Scanned Json
  | '.' :: rest, offset => fraction positive dropped significand 0 rest (offset + 1)
  | 'e' :: rest, offset => exponent positive significand dropped rest (offset + 1)
  | 'E' :: rest, offset => exponent positive significand dropped rest (offset + 1)
  | c :: rest, offset =>
    if c.isDigit then longInteger positive significand (dropped + 1) rest (offset + 1)
    else scaled positive significand dropped (c :: rest) offset
  | [], offset => scaled positive significand dropped [] offset

/-- What follows an integer part. A negative integer below the 64-bit range, and minus zero, are
floats. -/
def afterInteger (positive : Bool) (significand : Nat) (rest : List Char) (offset : Nat) : Scanned Json :=
  match rest with
  | '.' :: rest => fraction positive 0 significand 0 rest (offset + 1)
  | 'e' :: rest => exponent positive significand 0 rest (offset + 1)
  | 'E' :: rest => exponent positive significand 0 rest (offset + 1)
  | rest =>
    if positive then .ok (.int significand, rest, offset)
    else if significand = 0 ∨ Width.bound 63 < significand then
      .ok (.float (-(Float.ofNat significand)), rest, offset)
    else .ok (.int (-significand), rest, offset)

def integerDigits (positive : Bool) (significand : Nat) : List Char → Nat → Scanned Json
  | c :: rest, offset =>
    if c.isDigit then
      let significand' := significand * 10 + digitValue c
      if maxSignificand < significand' then longInteger positive significand 1 rest (offset + 1)
      else integerDigits positive significand' rest (offset + 1)
    else afterInteger positive significand (c :: rest) offset
  | [], offset => afterInteger positive significand [] offset

/-- A number without its sign. A leading zero stands alone. -/
def number (positive : Bool) (rest : List Char) (offset : Nat) : Scanned Json :=
  match rest with
  | [] => .error (.endInValue, offset)
  | '0' :: rest =>
    if (rest.head?.map Char.isDigit).getD false then .error (.invalidNumber, offset + 2)
    else afterInteger positive 0 rest (offset + 1)
  | c :: rest =>
    if c.isDigit then integerDigits positive (digitValue c) rest (offset + 1)
    else .error (.invalidNumber, offset + 1)

end GraphBatch.Json.Reader
