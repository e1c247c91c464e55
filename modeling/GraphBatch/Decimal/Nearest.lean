/-!
# The double nearest to a decimal

`Decimal.nearest` rounds `digits * 10 ^ exponent` to the nearest double, ties to even. Exponents
far outside the range of doubles are settled before any power of ten is computed.
-/

namespace GraphBatch

namespace Decimal

/-- The double nearest to `digits * 10 ^ exponent`, infinite above the range. -/
def nearest (digits : Nat) (exponent : Int) : Float :=
  let magnitude := exponent + (toString digits).length
  if digits = 0 then 0
  else if magnitude < -400 then 0
  else if 400 < magnitude then 1 / 0
  else if exponent < 0 then Float.ofScientific digits true exponent.natAbs
  else Float.ofScientific digits false exponent.natAbs

end Decimal

end GraphBatch
