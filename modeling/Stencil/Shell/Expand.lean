import Stencil.Shell.Arithmetic
import Stencil.Shell.State
import Stencil.Shell.Wild
import Stencil.Text.Lossy

/-!
# Expansion

From the words of a command to its arguments. Pieces give their text; text that comes from an
expansion outside quotes is cut at blanks, so a word can give any number of arguments; and an
argument with an unprotected `*` or `?` stands for the paths that it matches, if there are any.

What `$( )` holds is carried out by a function that is handed in.
-/

set_option autoImplicit false

namespace Stencil.Shell

/-- Carries out the text of commands. -/
abbrev Inner := List Char → State → Ending × State

/-- Text of a word, and how it may be cut. -/
structure Chunk where
  text : List Char
  /-- Quotes protect the text. -/
  protect : Bool
  /-- The text is cut at blanks. -/
  cut : Bool

/-! ## Pieces -/

/-- The output of commands without the line ends at its end. -/
def withoutLineEnds (cs : List Char) : List Char :=
  (cs.reverse.dropWhile (· == '\n')).reverse

/-- What commands write, and the state after them. -/
def capture (inner : Inner) (commands : List Char) (s : State) : List Char × State :=
  let child := { s with written := [] }.point 1 .output
  let (ending, child) := inner commands child
  let text := (Text.decodeLossy ⟨child.written.toArray⟩).toList
  (withoutLineEnds text, { s.afterChild { child with written := s.written } with captured := ending.seen })

/-- A variable as an integer; what is no number counts as zero. -/
def variableAsInt (s : State) (name : String) : Int :=
  match (s.value name).toList with
  | '-' :: cs => Arithmetic.wrap (-(Arithmetic.number cs).1)
  | cs => Arithmetic.wrap (Arithmetic.number cs).1

/-- A value as it stands in a word. -/
def valueChunk (inQuotes : Bool) (text : List Char) : Chunk :=
  ⟨text, inQuotes, !inQuotes⟩

/-- The characters of chunks. -/
def marked (chunks : List Chunk) : List Marked :=
  chunks.flatMap fun chunk => chunk.text.map fun c => (c, chunk.protect)

/-- The text of chunks. -/
def chunkText (chunks : List Chunk) : List Char :=
  chunks.flatMap (·.text)

/-- The chunks of a word that stands in the place of a value. -/
def inPlace (inQuotes : Bool) (chunks : List Chunk) : List Chunk :=
  chunks.map fun chunk => { chunk with cut := !chunk.protect && !inQuotes }

mutual

/-- The texts of a piece. There are none for arithmetic that makes no sense and for a variable
that is needed and not there. -/
def expandPiece (inner : Inner) (s : State) : Piece → Option (List Chunk × State)
  | .plain cs => some ([⟨cs, false, false⟩], s)
  | .quoted cs => some ([⟨cs, true, false⟩], s)
  | .variable inQuotes name use word =>
    let value := (s.value name).toList
    let asIs := some ([valueChunk inQuotes value], s)
    if s.strict && use.needs && !s.has false name then none else
    match use with
    | .value => asIs
    | .length => some ([valueChunk inQuotes (toString value.length).toList], s)
    | .fallback emptyToo =>
      if s.has emptyToo name then asIs
      else (expandPieces inner s word).map fun r => (inPlace inQuotes r.1, r.2)
    | .assign emptyToo =>
      if s.has emptyToo name then asIs
      else
        (expandPieces inner s word).map fun r =>
          ([valueChunk inQuotes (chunkText r.1)], r.2.assign name (String.ofList (chunkText r.1)))
    | .alternative emptyToo =>
      if s.has emptyToo name then
        (expandPieces inner s word).map fun r => (inPlace inQuotes r.1, r.2)
      else some ([valueChunk inQuotes []], s)
    | .demand emptyToo => if s.has emptyToo name then asIs else none
    | .withoutFront longest =>
      (expandPieces inner s word).map fun r =>
        ([valueChunk inQuotes (Wild.withoutFront longest (Wild.ofMarked (marked r.1)) value)], r.2)
    | .withoutBack longest =>
      (expandPieces inner s word).map fun r =>
        ([valueChunk inQuotes (Wild.withoutBack longest (Wild.ofMarked (marked r.1)) value)], r.2)
  | .sum inQuotes expression =>
    (Arithmetic.evaluate (variableAsInt s) expression).map fun n =>
      ([valueChunk inQuotes (toString n).toList], s)
  | .output inQuotes commands =>
    let (text, s) := capture inner commands s
    some ([valueChunk inQuotes text], s)

/-- The texts of the pieces of a word. -/
def expandPieces (inner : Inner) (s : State) : List Piece → Option (List Chunk × State)
  | [] => some ([], s)
  | p :: rest =>
    match expandPiece inner s p with
    | none => none
    | some (chunks, s) => (expandPieces inner s rest).map fun r => (chunks ++ r.1, r.2)

end

/-! ## Fields -/

/-- A blank that separates fields. -/
def isSeparator (c : Char) : Bool :=
  c == ' ' || c == '\t' || c == '\n'

/-- The fields of characters that are cut at blanks: the one being read, if any, and those done,
last first. -/
def cutInto (fields : Option (List Marked) × List (List Marked)) (c : Char) :
    Option (List Marked) × List (List Marked) :=
  if isSeparator c then
    match fields.1 with
    | some field => (none, field :: fields.2)
    | none => fields
  else (some (fields.1.getD [] ++ [(c, false)]), fields.2)

/-- The fields with one more chunk. -/
def addChunk (fields : Option (List Marked) × List (List Marked)) (chunk : Chunk) :
    Option (List Marked) × List (List Marked) :=
  if chunk.cut then chunk.text.foldl cutInto fields
  else (some (fields.1.getD [] ++ chunk.text.map fun c => (c, chunk.protect)), fields.2)

/-- The fields of chunks. -/
def fieldsOf (chunks : List Chunk) : List (List Marked) :=
  let (last, done) := chunks.foldl addChunk (none, [])
  (last.toList ++ done).reverse

/-- The characters of a field. -/
def unmarked (field : List Marked) : String :=
  String.ofList (field.map (·.1))

/-! ## Paths -/

/-- A part of a path that stands for others. -/
def isWild (step : List Marked) : Bool :=
  (Wild.ofMarked step).any Wild.isOpen

/-- The pieces of a field between its slashes. -/
def steps : List Marked → List (List Marked)
  | [] => [[]]
  | c :: rest =>
    if c.1 = '/' then [] :: steps rest
    else
      match steps rest with
      | [] => [[c]]
      | s :: more => (c :: s) :: more

/-- The names in a directory that a step can mean. -/
def candidates (files : FileTree) (dir : Path) (step : List Marked) : List String :=
  let names := ((files.list? dir).getD []).filterMap Path.fileName?
  names.filter fun name =>
    Wild.matchesAll (Wild.ofMarked step) name.toList && (!name.toList.head?.any (· == '.') || step.head?.any (·.1 == '.'))

/-- The paths that steps lead to. What stands in front of them ends in a slash, or is empty. -/
def pathsFrom (files : FileTree) : (front : String) → List (List Marked) → List String
  | front, [] => [front]
  | front, [last] =>
    if isWild last then
      (candidates files ⟨if front = "" then "." else front⟩ last).map (front ++ ·)
    else if files.exists ⟨front ++ unmarked last⟩ then [front ++ unmarked last]
    else []
  | front, step :: more =>
    if isWild step then
      ((candidates files ⟨if front = "" then "." else front⟩ step).filter fun name =>
        files.isDir ⟨front ++ name⟩).flatMap fun name => pathsFrom files (front ++ name ++ "/") more
    else pathsFrom files (front ++ unmarked step ++ "/") more

/-- The arguments that a field stands for. -/
def expandPaths (files : FileTree) (field : List Marked) : List String :=
  if isWild field then
    match pathsFrom files "" (steps field) with
    | [] => [unmarked field]
    | paths => paths
  else [unmarked field]

/-! ## Words -/

/-- The arguments of a word. -/
def expandWord (inner : Inner) (s : State) (w : Word) : Option (List String × State) :=
  (expandPieces inner s w).map fun (chunks, s) =>
    ((fieldsOf chunks).flatMap (expandPaths s.files), s)

/-- The arguments of words. -/
def expandWords (inner : Inner) : State → List Word → Option (List String × State)
  | s, [] => some ([], s)
  | s, w :: rest =>
    match expandWord inner s w with
    | none => none
    | some (arguments, s) => (expandWords inner s rest).map fun r => (arguments ++ r.1, r.2)

/-- The text of a word that stays one, as the value of a variable or the target of a
redirection. -/
def expandText (inner : Inner) (s : State) (w : Word) : Option (String × State) :=
  (expandPieces inner s w).map fun (chunks, s) =>
    (String.ofList (chunkText chunks), s)

end Stencil.Shell
