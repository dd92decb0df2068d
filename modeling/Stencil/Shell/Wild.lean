/-!
# Patterns with wildcards

A pattern is a row of characters of which some are protected by quotes. Unprotected, `*` stands
for any text, `?` for any character, and `[ ]` for one of the characters between the brackets or,
after a `!`, for any other one. A bracket that is not closed stands for itself.
-/

set_option autoImplicit false

namespace Stencil.Shell

/-- A character and whether it is protected. -/
abbrev Marked := Char × Bool

/-- A part of a pattern. -/
inductive Wild where
  | exactly (c : Char)
  | one
  | many
  /-- A character between two others, for some such pairs, or outside all of them. -/
  | among (inside : Bool) (spans : List (Char × Char))

namespace Wild

/-- More than one text matches the part. -/
def isOpen : Wild → Bool
  | .exactly _ => false
  | _ => true

/-- What stands between brackets, after its first character, and the rest. -/
def spansFrom : List Marked → Option (List (Char × Char) × List Marked)
  | [] => none
  | (']', false) :: rest => some ([], rest)
  | (a, _) :: ('-', false) :: (b, p) :: rest =>
    if b = ']' && !p then some ([(a, a), ('-', '-')], rest)
    else (spansFrom rest).map fun r => ((a, b) :: r.1, r.2)
  | (a, _) :: rest => (spansFrom rest).map fun r => ((a, a) :: r.1, r.2)

/-- What stands after an opening bracket. A closing bracket in the first place is a character. -/
def bracket (cs : List Marked) : Option (Wild × List Marked) :=
  let (inside, cs) := match cs with
    | ('!', false) :: rest => (false, rest)
    | cs => (true, cs)
  match cs with
  | (']', false) :: rest => (spansFrom ((']', true) :: rest)).map fun r => (.among inside r.1, r.2)
  | cs => (spansFrom cs).map fun r => (.among inside r.1, r.2)

/-- The parts of a pattern. -/
def parts : (fuel : Nat) → List Marked → List Wild
  | 0, _ => []
  | _, [] => []
  | fuel + 1, ('*', false) :: rest => .many :: parts fuel rest
  | fuel + 1, ('?', false) :: rest => .one :: parts fuel rest
  | fuel + 1, ('[', false) :: rest =>
    match bracket rest with
    | some (w, rest) => w :: parts fuel rest
    | none => .exactly '[' :: parts fuel rest
  | fuel + 1, (c, _) :: rest => .exactly c :: parts fuel rest

/-- The parts of a pattern. -/
def ofMarked (cs : List Marked) : List Wild :=
  parts cs.length cs

/-- A character matches a part that stands for one character. -/
def matchesChar (c : Char) : Wild → Bool
  | .exactly d => c == d
  | .one => true
  | .many => false
  | .among inside spans => spans.any (fun span => span.1 ≤ c && c ≤ span.2) == inside

/-- A text matches a pattern as a whole. -/
def matchesAll : List Wild → List Char → Bool
  | [], cs => cs.isEmpty
  | .many :: ws, [] => matchesAll ws []
  | .many :: ws, c :: cs => matchesAll ws (c :: cs) || matchesAll (.many :: ws) cs
  | _ :: _, [] => false
  | w :: ws, c :: cs => matchesChar c w && matchesAll ws cs
termination_by ws cs => ws.length + cs.length

/-- A text without the shortest, or the longest, part at its front that matches a pattern. -/
def withoutFront (longest : Bool) (ws : List Wild) (cs : List Char) : List Char :=
  let counts := List.range (cs.length + 1)
  let counts := if longest then counts.reverse else counts
  match counts.find? fun n => matchesAll ws (cs.take n) with
  | some n => cs.drop n
  | none => cs

/-- A text without the shortest, or the longest, part at its back that matches a pattern. -/
def withoutBack (longest : Bool) (ws : List Wild) (cs : List Char) : List Char :=
  let counts := List.range (cs.length + 1)
  let counts := if longest then counts else counts.reverse
  match counts.find? fun n => matchesAll ws (cs.drop n) with
  | some n => cs.take n
  | none => cs

end Wild

end Stencil.Shell
