import Stencil.Number.Double

/-!
# The shortest decimal of a double

A double stands for every real number that rounds to it. Its decimal text has the fewest digits
of a decimal in that interval, and among those the digits nearest to the number itself.

The search goes by the number of digits. For each count there is one decimal grid that has
numbers of that many digits around the value; if any point of the grid lies in the interval, one
of the value's two neighbours on the grid does, so only those two are looked at. All comparisons
are between natural numbers: the value, both ends of the interval and the grid are brought to a
common denominator first.

How the digits are then laid out (where positional notation ends, how an exponent is written) is
a record, `Layout`, with one value per format.
-/

set_option autoImplicit false

namespace Stencil.Number

/-! ## The interval of a double -/

/-- A positive number `mantissa · 2 ^ exponent`. The next number below is half as far away as
the next one above when `narrow` holds, and both are equally far otherwise. -/
structure Binary where
  mantissa : Nat
  exponent : Int
  narrow : Bool

/-- The magnitude of a finite double. -/
def Binary.ofDouble (x : Double) : Binary :=
  if x.exponentField = 0 then ⟨x.fractionField, -1074, false⟩
  else
    ⟨Nat.pow 2 52 + x.fractionField, (x.exponentField : Int) - 1075,
      x.fractionField == 0 && x.exponentField != 1⟩

/-- Four times the mantissa, and the two ends of the interval on the same scale. -/
def Binary.middle (b : Binary) : Nat := 4 * b.mantissa

def Binary.low (b : Binary) : Nat := 4 * b.mantissa - (if b.narrow then 1 else 2)

def Binary.high (b : Binary) : Nat := 4 * b.mantissa + 2

/-- The scale of `middle`, `low` and `high` is `numerator / denominator`. -/
def Binary.numerator (b : Binary) : Nat := Nat.pow 2 (b.exponent - 2).toNat

def Binary.denominator (b : Binary) : Nat := Nat.pow 2 (2 - b.exponent).toNat

/-! ## The decimal exponent -/

/-- The number of decimal digits of a natural number. -/
def decimalLength (n : Nat) : Nat :=
  (Nat.toDigits 10 n).length

/-- The exponent `k` with `10 ^ k ≤ num / den < 10 ^ (k + 1)`, for a positive quotient. -/
def decimalExponent (num den : Nat) : Int :=
  if den ≤ num then (decimalLength (num / den) : Int) - 1
  else -(decimalLength ((den + num - 1) / num - 1) : Int)

/-! ## The search -/

/-- The decimal `digits · 10 ^ grid`. -/
structure Decimal where
  digits : Nat
  grid : Int

/-- The point of the grid that lies in the interval, the nearer one of two. -/
def Binary.onGrid? (b : Binary) (grid : Int) : Option Nat :=
  let left := b.denominator * Nat.pow 10 grid.toNat
  let right := b.numerator * Nat.pow 10 (-grid).toNat
  let inside (c : Nat) : Bool :=
    if b.mantissa % 2 = 0 then b.low * right ≤ c * left && c * left ≤ b.high * right
    else b.low * right < c * left && c * left < b.high * right
  let below := b.middle * right / left
  let gapBelow := b.middle * right - below * left
  let gapAbove := (below + 1) * left - b.middle * right
  match inside below, inside (below + 1) with
  | true, true =>
    if gapBelow < gapAbove || (gapBelow == gapAbove && below % 2 == 0) then some below
    else some (below + 1)
  | true, false => some below
  | false, true => some (below + 1)
  | false, false => none

/-- The first count of digits, of `tries` from `count` on, whose grid has a point in the interval;
`top` is the exponent of the leading digit. -/
def Binary.search (b : Binary) (top : Int) : (tries count : Nat) → Decimal
  | 0, count =>
    ⟨b.middle * b.numerator * Nat.pow 10 (count - 1 - top).toNat / b.denominator, top + 1 - count⟩
  | tries + 1, count =>
    match b.onGrid? (top + 1 - count) with
    | some c => ⟨c, top + 1 - count⟩
    | none => b.search top tries (count + 1)

/-- The shortest decimal of a positive number; seventeen digits always suffice. -/
def Binary.shortest (b : Binary) : Decimal :=
  b.search (decimalExponent (b.middle * b.numerator) b.denominator) 17 1

/-! ## Laying the digits out -/

/-- How the digits of a number are written. -/
structure Layout where
  /-- The least and the greatest exponent of the leading digit that are written positionally. -/
  leastPositional : Int
  greatestPositional : Int
  /-- What follows a whole number in positional form. -/
  wholeMark : String
  /-- The sign of an exponent that is not negative. -/
  plus : String

/-- Significant digits without trailing zeros, and the exponent of the first one. -/
def Decimal.scientific (d : Decimal) : List Char × Int :=
  let all := Nat.toDigits 10 d.digits
  let kept := (all.reverse.dropWhile (· = '0')).reverse
  (kept, d.grid + (all.length : Int) - 1)

/-- The text of a positive decimal. -/
def Layout.decimal (layout : Layout) (d : Decimal) : List Char :=
  let (digits, top) := d.scientific
  let count : Int := digits.length
  if layout.leastPositional ≤ top && top ≤ layout.greatestPositional then
    if top < 0 then '0' :: '.' :: List.replicate (-top - 1).toNat '0' ++ digits
    else if count ≤ top + 1 then
      digits ++ List.replicate (top + 1 - count).toNat '0' ++ layout.wholeMark.toList
    else digits.take (top + 1).toNat ++ '.' :: digits.drop (top + 1).toNat
  else
    let mantissa :=
      match digits with
      | first :: second :: rest => first :: '.' :: second :: rest
      | short => short
    let sign := if top < 0 then ['-'] else layout.plus.toList
    mantissa ++ 'e' :: sign ++ Nat.toDigits 10 top.natAbs

/-- The text of a finite double. -/
def Layout.double (layout : Layout) (x : Double) : List Char :=
  let sign := if x.isNegative then ['-'] else []
  if x.isZero then sign ++ '0' :: layout.wholeMark.toList
  else sign ++ layout.decimal (Binary.ofDouble x).shortest

end Stencil.Number
