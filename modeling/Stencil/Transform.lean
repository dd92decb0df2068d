import Stencil.Fault
import Stencil.Files.Tree
import Stencil.Inflection
import Stencil.Json.Print
import Stencil.Unicode.Blank
import Stencil.Unicode.Printable
import Stencil.Words

/-!
# Transforms

Named rules that turn text into a value, for answers and for `{{ key | name }}`
placeholders. A registry holds the rules by name; the names a chain may use are the names that
are registered, whatever the values it meets.

A rule sees texts only. `applyOne` carries it over values: null passes untouched, a list is
transformed element by element at every depth, and any other value goes by its display text. A
rule may look at the files, since a path resolves to different things at different times.
-/

set_option autoImplicit false

namespace Stencil

/-- A rule from text to values, in view of the files. -/
abbrev Transform := FileTree → String → Value

/-- Rules by name. -/
structure Registry where
  rules : Fields Transform

namespace Registry

/-- The registry without rules. -/
def empty : Registry := ⟨[]⟩

/-- Adds a rule, in place of one with the same name. -/
def register (r : Registry) (name : String) (rule : Transform) : Registry :=
  ⟨Fields.put name rule r.rules⟩

/-- The name is registered. -/
def contains (r : Registry) (name : String) : Bool :=
  Fields.holds name r.rules

/-- The registered names in alphabetical order. -/
def names (r : Registry) : List String :=
  (Fields.keys r.rules).mergeSort fun a b => decide (a ≤ b)

/-- The names in brackets, each as a quoted text. -/
def shown (r : Registry) : String :=
  "[" ++ ", ".intercalate (r.names.map Unicode.quoted) ++ "]"

/-- The first name that is not registered is a fault. -/
def ensureKnown (r : Registry) (names : List String) : Except Fault Unit :=
  match names.find? (fun n => !r.contains n) with
  | some unknown => .error (.unknownTransform unknown)
  | none => .ok ()

mutual

/-- The rule of a name on a value. -/
def applyOne (r : Registry) (files : FileTree) (name : String) (value : Value) :
    Except Fault Value :=
  match Fields.find? name r.rules, value with
  | none, _ => .error (.unknownTransform name)
  | some _, .null => .ok .null
  | some rule, .str s => .ok (rule files s)
  | some _, .list items => (applyEach r files name items).map .list
  | some rule, other => .ok (rule files other.display)

/-- The rule of a name on every element. -/
def applyEach (r : Registry) (files : FileTree) (name : String) :
    List Value → Except Fault (List Value)
  | [] => .ok []
  | v :: rest =>
    match applyOne r files name v with
    | .ok w => (applyEach r files name rest).map (w :: ·)
    | .error e => .error e

end

/-- The rules of a chain of names, one after another. -/
def apply (r : Registry) (files : FileTree) (value : Value) : List String → Except Fault Value
  | [] => .ok value
  | name :: rest =>
    match r.applyOne files name value with
    | .ok v => r.apply files v rest
    | .error e => .error e

/-! ## The built-in rules -/

/-- A rule on characters, as a transform. -/
def onChars (f : List Char → List Char) : Transform :=
  fun _ s => .str (String.ofList (f s.toList))

/-- The last name of a path, or the text itself when it ends in none. -/
def basename (s : String) : String :=
  ((⟨s⟩ : Path).fileName?).getD s

/-- Where a path leads from the root, or where it would lead when nothing stands there. -/
def realpath (files : FileTree) (s : String) : String :=
  match files.realPath? ⟨s⟩ with
  | some p => p.text
  | none => ((FileTree.absolute files.current).joinText s).text

/-- The rules that every program starts with. -/
def builtins : Registry := ⟨[
  ("abbreviate", onChars Words.initials),
  ("basename", fun _ s => .str (basename s)),
  ("camelCase", onChars Words.camelCase),
  ("kebabCase", onChars Words.kebabCase),
  ("lowercase", onChars (Unicode.lowerAfter [])),
  ("pascalCase", onChars Words.pascalCase),
  ("plural", onChars Inflection.plural),
  ("realpath", fun files s => .str (realpath files s)),
  ("singular", onChars Inflection.singular),
  ("snakeCase", onChars Words.snakeCase),
  ("titleCase", onChars Words.titleCase),
  ("trim", onChars Unicode.trim),
  ("uppercase", onChars fun cs => cs.flatMap Unicode.upper),
  ("words", onChars Words.spaced)]⟩

end Registry

end Stencil
