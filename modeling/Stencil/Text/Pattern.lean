/-!
# Patterns

Regular patterns over characters, with named parts. A pattern may match the front of a text in
several ways. `Pattern.matches` lists the ways in order of preference: of two alternatives the
left one first, of a greedy repetition the longest first, of a lazy one the shortest first, and in
a sequence the first part decides before the second. The match of a whole text is the first way
that leaves nothing over.
-/

set_option autoImplicit false

namespace Stencil.Text

/-- A pattern. -/
inductive Pattern where
  /-- One character of a class. -/
  | one (within : Char → Bool)
  /-- Characters of a class, as many as possible first, or as few as possible first. -/
  | many (greedy : Bool) (within : Char → Bool)
  /-- One pattern and then another. -/
  | seq (first second : Pattern)
  /-- A pattern, or nothing if that does not lead to a match. -/
  | optional (inner : Pattern)
  /-- A part that the match gives a name. -/
  | part (name : String) (inner : Pattern)

namespace Pattern

/-- A way to match: the parts with their texts, the text matched and the text left over. -/
structure Match where
  parts : List (String × List Char)
  taken : List Char
  rest : List Char

/-- The ways to take characters of a class from the front, shortest first. -/
def runs (within : Char → Bool) : List Char → List (List Char × List Char)
  | [] => [([], [])]
  | c :: cs =>
    ([], c :: cs) :: (if within c then (runs within cs).map fun (t, r) => (c :: t, r) else [])

/-- The ways to match the front of a text, in order of preference. -/
def «matches» : Pattern → List Char → List Match
  | .one within, cs =>
    match cs with
    | c :: rest => if within c then [⟨[], [c], rest⟩] else []
    | [] => []
  | .many greedy within, cs =>
    let ways := (runs within cs).map fun (t, r) => (⟨[], t, r⟩ : Match)
    if greedy then ways.reverse else ways
  | .seq first second, cs =>
    (first.matches cs).flatMap fun m =>
      (second.matches m.rest).map fun n => ⟨m.parts ++ n.parts, m.taken ++ n.taken, n.rest⟩
  | .optional inner, cs => inner.matches cs ++ [⟨[], [], cs⟩]
  | .part name inner, cs =>
    (inner.matches cs).map fun m => { m with parts := (name, m.taken) :: m.parts }

/-- The parts of the preferred match of a whole text. -/
def whole? (p : Pattern) (cs : List Char) : Option (List (String × List Char)) :=
  ((p.matches cs).find? fun m => m.rest.isEmpty).map Match.parts

end Pattern

end Stencil.Text
