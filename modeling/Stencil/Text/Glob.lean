/-!
# Globs

Patterns for paths. `?` stands for one byte and `*` for any number of them, slashes included;
`[a-z]` is one byte of a class, and `[!…]` or `[^…]` one outside it; `{a,b}` is any of its
alternatives; a backslash takes away the meaning of the character after it. A `**` between slashes,
or between a slash and an end, stands for any number of whole directories.

Patterns work on the bytes of a path. A character of several bytes is matched by itself, but `?`
and a class see one byte of it at a time.
-/

set_option autoImplicit false

namespace Stencil.Text

/-- A part of a glob. -/
inductive GlobToken where
  | char (c : Char)
  | any
  | star
  /-- `**` with a slash, at the start, at the end, or in between. -/
  | leadingDirs
  | trailingDirs
  | innerDirs
  | oneOf (negated : Bool) (ranges : List (Char × Char))
  | alternatives (branches : List (List GlobToken))

/-- A glob. -/
structure Glob where
  tokens : List GlobToken

namespace Glob

/-! ## Reading -/

/-- What has been read: the branches in progress, innermost first, each with its tokens last
first; and for every group that is open the number of branches that are complete in it. -/
structure Reading where
  /-- The branch that is being read, last token first. -/
  tokens : List GlobToken
  /-- For every open group, innermost first: its finished branches, last first, and the branch
  around the group. -/
  groups : List (List (List GlobToken) × List GlobToken)
  /-- The character before the next one. -/
  previous : Option Char

namespace Reading

def push (r : Reading) (t : GlobToken) : Reading :=
  { r with tokens := t :: r.tokens }

/-- The branches in progress and the finished ones of the open groups are this many. -/
def inGroup (r : Reading) : Bool :=
  !r.groups.isEmpty

end Reading

/-- The ranges of a class, last first, up to its closing bracket. -/
def classRanges (first inRange : Bool) (ranges : List (Char × Char)) :
    List Char → Option (List (Char × Char) × List Char)
  | [] => none
  | c :: rest =>
    if c = ']' then
      if first then classRanges false false [(']', ']')] rest
      else some (if inRange then ('-', '-') :: ranges else ranges, rest)
    else if c = '-' && first then classRanges false false [('-', '-')] rest
    else if c = '-' && !inRange then classRanges false true ranges rest
    else if inRange then
      match ranges with
      | (low, _) :: more =>
        if c < low then none else classRanges false false ((low, c) :: more) rest
      | [] => none
    else classRanges false false ((c, c) :: ranges) rest

/-- A class after its opening bracket. -/
def charClass? (cs : List Char) : Option (GlobToken × List Char) :=
  let (negated, body) :=
    match cs with
    | '!' :: rest => (true, rest)
    | '^' :: rest => (true, rest)
    | _ => (false, cs)
  (classRanges true false [] body).map fun (ranges, rest) => (.oneOf negated ranges.reverse, rest)

/-- What a double star is: the token, whether it takes the place of the token before it, and
whether it takes the slash after it. -/
def doubleStar (r : Reading) (next : Option Char) : Reading × Bool :=
  let twoStars := ((r.push .star).push .star, false)
  if r.tokens.isEmpty then
    match next with
    | none => (r.push .leadingDirs, false)
    | some '/' => (r.push .leadingDirs, true)
    | some _ => twoStars
  else if r.previous != some '/' &&
      !(r.inGroup && (r.previous == some ',' || r.previous == some '{')) then twoStars
  else
    let replace (t : GlobToken) : Reading :=
      match r.tokens with
      | .leadingDirs :: _ => r
      | .trailingDirs :: _ => r
      | _ :: before => { r with tokens := t :: before }
      | [] => r
    match next with
    | none => (replace .trailingDirs, false)
    | some '/' => (replace .innerDirs, true)
    | some c =>
      if r.inGroup && (c = ',' || c = '}') then (replace .trailingDirs, false) else twoStars

/-- Ends the innermost group. -/
def closeGroup? (r : Reading) : Option Reading :=
  match r.groups with
  | (done, around) :: groups =>
    let branches := (r.tokens.reverse :: done).reverse
    some { r with tokens := .alternatives branches :: around, groups := groups }
  | [] => none

/-- Reads the rest of a glob, `fuel` characters at most. -/
def readFrom : (fuel : Nat) → Reading → List Char → Option Reading
  | _, r, [] => some r
  | 0, _, _ => none
  | fuel + 1, r, c :: rest =>
    let after (r : Reading) : Reading := { r with previous := some c }
    if c = '?' then readFrom fuel (after (r.push .any)) rest
    else if c = '*' then
      match rest with
      | '*' :: rest =>
        match doubleStar r rest.head? with
        | (r, true) => readFrom fuel { r with previous := some '/' } (rest.drop 1)
        | (r, false) => readFrom fuel (after r) rest
      | _ => readFrom fuel (after (r.push .star)) rest
    else if c = '[' then
      match charClass? rest with
      | some (t, rest) => readFrom fuel { r.push t with previous := some ']' } rest
      | none => none
    else if c = '{' then
      readFrom fuel (after { r with tokens := [], groups := ([], r.tokens) :: r.groups }) rest
    else if c = '}' then
      match closeGroup? r with
      | some r => readFrom fuel (after r) rest
      | none => none
    else if c = ',' then
      match r.groups with
      | (done, around) :: groups =>
        readFrom fuel
          (after { r with tokens := [], groups := (r.tokens.reverse :: done, around) :: groups }) rest
      | [] => readFrom fuel (after (r.push (.char ','))) rest
    else if c = '\\' then
      match rest with
      | d :: rest => readFrom fuel { r.push (.char d) with previous := some d } rest
      | [] => none
    else readFrom fuel (after (r.push (.char c))) rest

/-- Reads a glob: classes and groups have to be closed, ranges in order, and no backslash may
stand at the end. -/
def read? (pattern : String) : Option Glob :=
  match readFrom pattern.length ⟨[], [], none⟩ pattern.toList with
  | some r => if r.inGroup then none else some ⟨r.tokens.reverse⟩
  | none => none

/-! ## Matching -/

/-- The bytes of a character. -/
def charBytes (c : Char) : List UInt8 :=
  (String.ofList [c]).toUTF8.data.toList

/-- A byte lies in a class: it is a byte of one of its characters, or lies between the last byte
of the lower and the first byte of the upper end of a range. -/
def inRanges (ranges : List (Char × Char)) (b : UInt8) : Bool :=
  ranges.any fun (low, high) =>
    if low = high then (charBytes low).contains b
    else
      (charBytes low).contains b || (charBytes high).contains b ||
        (match (charBytes low).getLast?, (charBytes high).head? with
          | some l, some h => l ≤ b && b ≤ h
          | _, _ => false)

/-- The ends of a text, the whole text first. -/
def ends : List UInt8 → List (List UInt8)
  | [] => [[]]
  | b :: rest => (b :: rest) :: ends rest

/-- The text after a slash at its start. -/
def afterSlash : List UInt8 → List (List UInt8)
  | b :: rest => if b = 47 then [rest] else []
  | [] => []

mutual

/-- The token has nothing to match: a group without a branch that has anything to match. -/
def tokenVoid : GlobToken → Bool
  | .alternatives branches => branchesVoid branches
  | _ => false

def sequenceVoid : List GlobToken → Bool
  | [] => true
  | t :: rest => tokenVoid t && sequenceVoid rest

def branchesVoid : List (List GlobToken) → Bool
  | [] => true
  | branch :: rest => sequenceVoid branch && branchesVoid rest

end

mutual

/-- What may be left of a text after a token. -/
def tokenRests : GlobToken → List UInt8 → List (List UInt8)
  | .char c, bs => if (charBytes c).isPrefixOf bs then [bs.drop (charBytes c).length] else []
  | .any, bs =>
    match bs with
    | _ :: rest => [rest]
    | [] => []
  | .star, bs => ends bs
  | .leadingDirs, bs => (bs :: afterSlash bs ++ (ends bs).flatMap afterSlash).eraseDups
  | .trailingDirs, bs => (afterSlash bs).flatMap ends
  | .innerDirs, bs =>
    (afterSlash bs ++ ((afterSlash bs).flatMap ends).flatMap afterSlash).eraseDups
  | .oneOf negated ranges, bs =>
    match bs with
    | b :: rest => if inRanges ranges b != negated then [rest] else []
    | [] => []
  | .alternatives branches, bs =>
    if branchesVoid branches then [bs] else (branchRests branches bs).eraseDups

/-- What may be left of a text after tokens in sequence. -/
def sequenceRests : List GlobToken → List UInt8 → List (List UInt8)
  | [], bs => [bs]
  | t :: rest, bs => ((tokenRests t bs).flatMap (sequenceRests rest)).eraseDups

/-- What may be left of a text after one of several branches; a branch without anything to match
is none. -/
def branchRests : List (List GlobToken) → List UInt8 → List (List UInt8)
  | [], _ => []
  | branch :: rest, bs =>
    (if sequenceVoid branch then [] else sequenceRests branch bs) ++ branchRests rest bs

end

/-- The glob matches a text. A double star alone matches every text. -/
def «matches» (g : Glob) (s : String) : Bool :=
  match g.tokens with
  | [.leadingDirs] => true
  | tokens => (sequenceRests tokens s.toUTF8.data.toList).any List.isEmpty

end Glob

end Stencil.Text
