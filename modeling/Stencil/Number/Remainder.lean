import Stencil.Number.Shortest

/-!
# The remainder of doubles

The remainder of a division whose quotient is cut off to a whole number. It is exact: on the finer
of the two binary grids both numbers are whole, and the remainder of two whole numbers is smaller
than the mantissa of one of them, so it fits a double again.
-/

set_option autoImplicit false

namespace Stencil.Number

/-- The remainder on the finer grid, and the exponent of the grid. -/
def Binary.remainder (a b : Binary) : Nat × Int :=
  let grid := min a.exponent b.exponent
  ((a.mantissa * Nat.pow 2 (a.exponent - grid).toNat) %
    (b.mantissa * Nat.pow 2 (b.exponent - grid).toNat), grid)

/-- The remainder of two doubles. It has the sign of the first. -/
def remainder (x y : Double) : Double :=
  if !x.isFinite || y.isZero || y.toFloat.isNaN then .ofFloat (0.0 / 0.0)
  else if !y.isFinite then x
  else
    let (m, grid) := (Binary.ofDouble x).remainder (Binary.ofDouble y)
    let size := (Float.ofNat m).scaleB grid
    .ofFloat (if x.isNegative then -size else size)

end Stencil.Number
