import Stencil.Number.Double

/-!
# The value of a number literal

A literal is its sign, the digits before the point, the digits after it and an exponent. Without
point and exponent it is an integer as long as it lies within sixty-four bits: `[0, 2^64)` without
a sign and `[-2^63, -1]` with one. Every other literal, `-0` among them, is a double.

A double is computed in two steps. The leading digits are gathered into a whole number as long as
that stays below `2^64`; digits before the point that no longer fit raise the exponent, digits
after it are left out. The whole number is then scaled by a power of ten in one rounding, or in
several when the exponent is below `-308`. A literal beyond the greatest double has no value.
-/

set_option autoImplicit false

namespace Stencil.Number

/-- The parts of a number literal. -/
structure Literal where
  negative : Bool
  whole : List Char
  fraction : List Char
  exponent : Option Int

/-- The value of a decimal digit. -/
def digitValue (c : Char) : Nat :=
  c.toNat - '0'.toNat

/-- The value of a run of digits. -/
def digitsValue (cs : List Char) : Nat :=
  cs.foldl (fun n c => 10 * n + digitValue c) 0

/-- Appends digits to a number as long as it stays below `2^64`; the rest is what did not fit. -/
def gather : Nat → List Char → Nat × List Char
  | n, [] => (n, [])
  | n, c :: cs =>
    if 10 * n + digitValue c < Nat.pow 2 64 then gather (10 * n + digitValue c) cs
    else (n, c :: cs)

/-- The double nearest to a power of ten. -/
def tenTo (k : Nat) : Float :=
  Float.ofScientific 1 false k

/-- Divides by `10 ^ k`, in steps of at most `10 ^ 308`. -/
def divideByTen : (steps : Nat) → Float → Nat → Float
  | 0, x, _ => x
  | steps + 1, x, k =>
    if k ≤ 308 then x / tenTo k
    else if x == 0.0 then x
    else divideByTen steps (x / tenTo 308) (k - 308)

/-- A whole number scaled by a power of ten; `none` beyond the greatest double. -/
def scale (n : Nat) (exponent : Int) : Option Float :=
  let x := (UInt64.ofNat n).toFloat
  if exponent < 0 then some (divideByTen 4 x exponent.natAbs)
  else if n = 0 then some x
  else if exponent ≤ 308 then
    let y := x * tenTo exponent.toNat
    if y.isInf then none else some y
  else none

/-- A number: an integer or a double. -/
inductive Parsed where
  | int (n : Int)
  | float (x : Double)

/-- The double of a literal. -/
def Literal.double? (l : Literal) : Option Double :=
  let (front, spilled) := gather 0 l.whole
  let (all, left) := gather front l.fraction
  let shift := (spilled.length : Int) - ((l.fraction.length - left.length : Nat) : Int)
  (scale all (shift + l.exponent.getD 0)).map fun x =>
    Double.ofFloat (if l.negative then -x else x)

/-- The value of a literal, unless it is too large. -/
def Literal.value? (l : Literal) : Option Parsed :=
  let n := digitsValue l.whole
  if l.fraction.isEmpty && l.exponent.isNone then
    if l.negative then
      if 0 < n && n ≤ Nat.pow 2 63 then some (.int (-(n : Int))) else l.double?.map .float
    else if n < Nat.pow 2 64 then some (.int n)
    else l.double?.map .float
  else l.double?.map .float

end Stencil.Number
