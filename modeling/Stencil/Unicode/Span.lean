/-!
# Tables of characters

A property of characters is given by its spans: runs of code points one or two apart, in
increasing order. A case mapping is given by spans with a distance, and by a list for the
characters that map to several.
-/

set_option autoImplicit false

namespace Stencil.Unicode

/-- The code points `first`, `first + step`, … up to `last`. -/
structure Span where
  first : Nat
  last : Nat
  step : Nat

/-- The code point lies on the span. -/
def Span.covers (s : Span) (n : Nat) : Bool :=
  s.first ≤ n && n ≤ s.last && (n - s.first) % s.step == 0

/-- The code point lies on one of the spans. -/
def covered (spans : List Span) (n : Nat) : Bool :=
  spans.any (·.covers n)

/-- Characters that map to the character `distance` places away. -/
structure Shift where
  span : Span
  distance : Int

/-- The image of a character: from the list of expansions, else from the shifts, else itself. -/
def mapped (shifts : List Shift) (expansions : List (Nat × List Nat)) (c : Char) : List Char :=
  match expansions.lookup c.toNat with
  | some images => images.map Char.ofNat
  | none =>
    match shifts.find? (·.span.covers c.toNat) with
    | some shift => [Char.ofNat ((c.toNat : Int) + shift.distance).toNat]
    | none => [c]

end Stencil.Unicode
