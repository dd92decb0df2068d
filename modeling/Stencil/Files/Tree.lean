import Stencil.Files.Path

/-!
# The file tree

The files that a run can see: a directory tree with a current directory in it. A *location* is
the list of names from the root, so that "lies below" is "has as an initial segment"; the tree is
a list of locations with what stands there. The root itself is always a directory.

Paths lead to locations step by step. Every step needs a directory to start from, also a `.`, a
`..` or an empty one; so `a/../b` is nothing without a directory `a`, and `f/` is nothing when `f`
is a file. There are no links in the tree, so `..` is the location without its last name.

Reading operations are functions of the tree. An operation that changes the tree gives the new
tree also when it fails, because it may have done part of its work.
-/

set_option autoImplicit false

namespace Stencil

/-- The names that lead from the root to a place. -/
abbrev Location := List String

/-- What stands at a location. -/
inductive Entry where
  | file (content : ByteArray)
  | dir

/-- A directory tree and the current directory. -/
structure FileTree where
  entries : List (Location × Entry)
  current : Location

namespace FileTree

/-! ## Locations -/

/-- What stands at a location of a list of entries. -/
def lookup (loc : Location) : List (Location × Entry) → Option Entry
  | [] => none
  | (l, e) :: rest => if l = loc then some e else lookup loc rest

/-- What stands at a location. -/
def at? (t : FileTree) (loc : Location) : Option Entry :=
  if loc = [] then some .dir else lookup loc t.entries

/-- A directory stands at the location. -/
def isDirAt (t : FileTree) (loc : Location) : Bool :=
  match t.at? loc with
  | some .dir => true
  | _ => false

/-- The tree with an entry at a location, in place of what stood there. -/
def place (t : FileTree) (loc : Location) (e : Entry) : FileTree :=
  { t with entries := (loc, e) :: t.entries.filter (·.1 != loc) }

/-- The tree without what lies strictly below a location. -/
def clearBelow (t : FileTree) (loc : Location) : FileTree :=
  { t with entries := t.entries.filter fun e => !(loc.isPrefixOf e.1 && e.1 != loc) }

/-- The tree without the entry at a location. -/
def removeAt (t : FileTree) (loc : Location) : FileTree :=
  { t with entries := t.entries.filter (·.1 != loc) }

/-- The name of an entry that lies directly in a directory. -/
def nameIn (dir loc : Location) : Option String :=
  if loc.dropLast = dir then loc.getLast? else none

/-- The names in a directory, in order. -/
def namesIn (t : FileTree) (dir : Location) : List String :=
  (t.entries.filterMap (nameIn dir ·.1)).mergeSort (fun a b => decide (a ≤ b))

/-! ## From paths to locations -/

/-- Why a path leads nowhere. -/
inductive Blocked where
  | missing
  | notDirectory
  | badName
  deriving DecidableEq

/-- Names of more than 255 bytes and paths of 4096 or more are refused, as are zero characters. -/
def nameLimit : Nat := 255

def pathLimit : Nat := 4096

/-- The directory that a step starts from. -/
def standing (t : FileTree) (loc : Location) : Except Blocked Unit :=
  match t.at? loc with
  | some .dir => .ok ()
  | some (.file _) => .error .notDirectory
  | none => .error .missing

/-- The location that steps lead to. -/
def follow (t : FileTree) : Location → List String → Except Blocked Location
  | loc, [] => .ok loc
  | loc, s :: rest => do
    t.standing loc
    if Path.isIdle s then t.follow loc rest
    else if s = ".." then t.follow loc.dropLast rest
    else if nameLimit < s.utf8ByteSize then .error .badName
    else t.follow (loc ++ [s]) rest

/-- A path that can be asked for at all. -/
def admissible (p : Path) : Bool :=
  p.text.utf8ByteSize < pathLimit && !p.text.toList.contains '\x00'

/-- The location that a path leads to; nothing needs to stand there. -/
def locate (t : FileTree) (p : Path) : Except Blocked Location :=
  if !admissible p then .error .badName
  else if p.text = "" then .error .missing
  else if p.isAbsolute then t.follow [] (p.steps.drop 1)
  else t.follow t.current p.steps

/-- What a path leads to. -/
def entry? (t : FileTree) (p : Path) : Option Entry :=
  match t.locate p with
  | .ok loc => t.at? loc
  | .error _ => none

def «exists» (t : FileTree) (p : Path) : Bool :=
  (t.entry? p).isSome

def isDir (t : FileTree) (p : Path) : Bool :=
  match t.entry? p with
  | some .dir => true
  | _ => false

/-- The content of a file. -/
def read? (t : FileTree) (p : Path) : Option ByteArray :=
  match t.entry? p with
  | some (.file content) => some content
  | _ => none

def isFile (t : FileTree) (p : Path) : Bool :=
  (t.read? p).isSome

/-- The paths of what a directory holds, in the order of the names. -/
def list? (t : FileTree) (p : Path) : Option (List Path) :=
  match t.locate p with
  | .ok loc => if t.isDirAt loc then some ((t.namesIn loc).map p.joinText) else none
  | .error _ => none

/-- The names of the directories in a directory, in order. -/
def dirNames? (t : FileTree) (p : Path) : Option (List String) :=
  match t.locate p with
  | .ok loc =>
    if t.isDirAt loc then some ((t.namesIn loc).filter fun name => t.isDirAt (loc ++ [name]))
    else none
  | .error _ => none

/-- The path of a location, from the root. -/
def absolute (loc : Location) : Path :=
  ⟨"/" ++ "/".intercalate loc⟩

/-- The path from the root to what a path leads to. -/
def realPath? (t : FileTree) (p : Path) : Option Path :=
  match t.locate p with
  | .ok loc => if (t.at? loc).isSome then some (absolute loc) else none
  | .error _ => none

/-! ## Changes -/

/-- Writes a file whose directory exists. -/
def write (t : FileTree) (p : Path) (content : ByteArray) : Bool × FileTree :=
  match t.locate p with
  | .ok loc => if t.isDirAt loc then (false, t) else (true, t.place loc (.file content))
  | .error _ => (false, t)

/-- The steps of a path without the empty ones at its end. -/
def stepsToName (p : Path) : List String :=
  (p.steps.reverse.dropWhile (· == "")).reverse

/-- Why a directory was not made. -/
inductive NotMade where
  | noParent
  | other
  deriving DecidableEq

/-- Makes one directory in a directory that exists. -/
def makeDir (t : FileTree) (p : Path) : Except NotMade FileTree :=
  if !admissible p then .error .other
  else
    let start := if p.isAbsolute then [] else t.current
    match (stepsToName p).getLast? with
    | none => .error (if p.isAbsolute then .other else .noParent)
    | some name =>
      match t.follow start (stepsToName p).dropLast with
      | .error .missing => .error .noParent
      | .error _ => .error .other
      | .ok dir =>
        match t.standing dir with
        | .error .missing => .error .noParent
        | .error _ => .error .other
        | .ok () =>
          if Path.isIdle name || name = ".." || nameLimit < name.utf8ByteSize then .error .other
          else if (t.at? (dir ++ [name])).isSome then .error .other
          else .ok (t.place (dir ++ [name]) .dir)

/-- Makes the first of the paths a directory, after the ones behind it where they are missing. -/
def makeDirsAmong (t : FileTree) : List Path → Bool × FileTree
  | [] => (false, t)
  | p :: up =>
    if p.text = "" then (true, t)
    else
      match t.makeDir p with
      | .ok t => (true, t)
      | .error .other => (t.isDir p, t)
      | .error .noParent =>
        match t.makeDirsAmong up with
        | (false, t) => (false, t)
        | (true, t) =>
          match t.makeDir p with
          | .ok t => (true, t)
          | .error _ => (t.isDir p, t)

/-- Makes a directory and the directories above it. -/
def makeDirs (t : FileTree) (p : Path) : Bool × FileTree :=
  t.makeDirsAmong p.ancestors

/-- The path ends in a name, so that the entry it leads to can be taken away. -/
def endsInName (p : Path) : Bool :=
  match (stepsToName p).getLast? with
  | some name => !Path.isIdle name && name != ".."
  | none => false

/-- Removes a file, or a directory with everything in it. A directory is emptied first. A path
that no longer leads to it afterwards leaves the empty directory, and so does, as a failure, a
path that ends in `.` or `..`. -/
def delete (t : FileTree) (p : Path) : Bool × FileTree :=
  match t.locate p with
  | .error _ => (false, t)
  | .ok loc =>
    match t.at? loc with
    | none => (false, t)
    | some (.file _) => (true, t.removeAt loc)
    | some .dir =>
      let emptied := t.clearBelow loc
      match emptied.locate p with
      | .ok loc => if endsInName p then (true, emptied.removeAt loc) else (false, emptied)
      | .error _ => (true, emptied)

/-- The location of an entry after everything at `src` has moved to `dst`. -/
def moved (src dst loc : Location) : Location :=
  if src.isPrefixOf loc then dst ++ loc.drop src.length else loc

/-- Moves a file or a directory to a path where nothing stands, or nothing but an empty directory. -/
def rename (t : FileTree) (p q : Path) : Bool × FileTree :=
  match t.locate p, t.makeDir q with
  | .ok src, made =>
    if (t.at? src).isNone || !endsInName p then (false, t)
    else
      match made with
      | .ok t' =>
        match t'.locate q with
        | .ok dst =>
          if src.isPrefixOf dst then (false, t)
          else (true, { t with entries := t.entries.map fun e => (moved src dst e.1, e.2) })
        | .error _ => (false, t)
      | .error _ =>
        match t.locate q with
        | .ok dst =>
          if t.isDirAt src && t.isDirAt dst && endsInName q && (t.namesIn dst).isEmpty
              && !src.isPrefixOf dst && !dst.isPrefixOf src then
            (true, { t.removeAt dst with
              entries := (t.removeAt dst).entries.map fun e => (moved src dst e.1, e.2) })
          else (false, t)
        | .error _ => (false, t)
  | .error _, _ => (false, t)

end FileTree

end Stencil
