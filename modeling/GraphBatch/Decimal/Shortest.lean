import GraphBatch.Width

/-!
# The shortest decimal that reads back

`Decimal.shortest` finds, for a positive finite double, the decimal with the fewest digits among
those that round to it, and among these the nearest; of two equally near ones a `Tie` decides. The search runs in exact integer arithmetic:
a double is `mantissa * 2 ^ exponent`, the decimals that round to it form an interval around it,
and on the grid of multiples of `10 ^ place` only its two neighbours have to be tested.
-/

namespace GraphBatch

/-- A decimal number `digits * 10 ^ place`. -/
structure Decimal where
  digits : Nat
  place : Int
deriving Repr, DecidableEq

namespace Decimal

/-- Which of two neighbours is taken for a value halfway between them. -/
inductive Tie where
  | toEven
  | up
deriving Repr, DecidableEq

/-- The choice between `below` and the number after it. -/
def Tie.choose (below : Nat) : Tie → Nat
  | toEven => if below % 2 = 0 then below else below + 1
  | up => below + 1

/-- The doubles that a decimal is compared with, in units of `2 ^ unit`: the value itself and the
two ends of the interval that rounds to it. -/
structure Window where
  low : Nat
  value : Nat
  high : Nat
  unit : Int
  closed : Bool

/-- The window of the double with the given bits, sign ignored. The gap below a power of two is
half the gap above it; the ends belong to the window when the mantissa is even. -/
def Window.ofBits (bits : Nat) : Window :=
  let fraction : Nat := bits % Width.bound 52
  let biased : Nat := bits / Width.bound 52 % Width.bound 11
  let mantissa : Nat := if biased = 0 then fraction else fraction + Width.bound 52
  let exponent : Int := if biased = 0 then -1074 else (biased : Int) - 1075
  { low := if fraction = 0 ∧ 1 < biased then 4 * mantissa - 1 else 4 * mantissa - 2
    value := 4 * mantissa
    high := 4 * mantissa + 2
    unit := exponent - 2
    closed := decide (mantissa % 2 = 0) }

/-- The multiple of `10 ^ place` inside the window that is nearest to its value, if there is one. -/
def Window.nearest? (w : Window) (tie : Tie) (place : Int) : Option Nat :=
  -- a multiple `d` and a bound `b` are compared as `d * grid` and `b * scale`
  let grid := Nat.pow 2 (-w.unit).toNat * Nat.pow 10 place.toNat
  let scale := Nat.pow 2 w.unit.toNat * Nat.pow 10 (-place).toNat
  let value := w.value * scale
  let inside (d : Nat) : Bool :=
    if w.closed then w.low * scale ≤ d * grid && d * grid ≤ w.high * scale
    else w.low * scale < d * grid && d * grid < w.high * scale
  let below := value / grid
  let above := below + 1
  if inside below then
    if inside above then
      let down := value - below * grid
      let up := above * grid - value
      if down < up then some below
      else if up < down then some above
      else some (tie.choose below)
    else some below
  else if inside above then some above
  else none

/-- Tries finer and finer grids, `steps` of them at most. -/
def Window.search (w : Window) (tie : Tie) : Nat → Int → Decimal
  | 0, place => ⟨0, place⟩
  | steps + 1, place =>
    match w.nearest? tie place with
    | some digits => ⟨digits, place⟩
    | none => w.search tie steps (place - 1)

/-- A place of which the power of ten is above the window's value by less than three places. -/
def Window.ceiling (w : Window) : Int :=
  (w.value.log2 + w.unit + 1) * 30103 / 100000 + 1

/-- The shortest decimal that rounds to `x`, for a positive finite `x`. Seventeen digits always
suffice, so the search ends before its step bound. -/
def shortest (tie : Tie) (x : Float) : Decimal :=
  let w := Window.ofBits x.toBits.toNat
  w.search tie 24 w.ceiling

end Decimal

end GraphBatch
