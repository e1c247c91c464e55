/-!
# Fixed widths

The bounds of integers that are held in a fixed number of bits.
-/

namespace GraphBatch.Width

/-- The numbers of so many bits are those below this. -/
def bound (bits : Nat) : Nat := Nat.pow 2 bits

/-- Whether an integer fits so many bits beside its sign. -/
def fitsSigned (bits : Nat) (n : Int) : Bool :=
  -(bound bits : Int) ≤ n && n < bound bits

end GraphBatch.Width
