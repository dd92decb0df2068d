/-!
# Double precision numbers

A number with a fractional part or an exponent is kept as its 64 bits. The bits decide identity
(`0.0` and `-0.0` are two numbers here); arithmetic and the comparison of values go through
`Float`.
-/

set_option autoImplicit false

namespace Stencil

/-- A binary64 number, given by its bits. -/
structure Double where
  bits : UInt64
  deriving DecidableEq

namespace Double

/-- The number as a machine float. -/
def toFloat (x : Double) : Float :=
  Float.ofBits x.bits

/-- The bits of a machine float. -/
def ofFloat (x : Float) : Double :=
  ⟨x.toBits⟩

/-- The sign bit. -/
def isNegative (x : Double) : Bool :=
  x.bits.toNat / Nat.pow 2 63 == 1

/-- The eleven exponent bits. -/
def exponentField (x : Double) : Nat :=
  x.bits.toNat / Nat.pow 2 52 % Nat.pow 2 11

/-- The fifty-two fraction bits. -/
def fractionField (x : Double) : Nat :=
  x.bits.toNat % Nat.pow 2 52

/-- Neither infinite nor a NaN. -/
def isFinite (x : Double) : Bool :=
  x.exponentField != Nat.pow 2 11 - 1

/-- Either of the two zeros. -/
def isZero (x : Double) : Bool :=
  x.exponentField == 0 && x.fractionField == 0

/-- Equality of values: the two zeros agree, a NaN agrees with nothing. -/
def agrees (x y : Double) : Bool :=
  x.toFloat == y.toFloat

end Double

end Stencil
