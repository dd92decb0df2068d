import Stencil.Render.Segment
import Stencil.Store
import Stencil.Transform

/-!
# Rendering

A text is rendered by giving each of its placeholders a value and leaving everything else as it
is. What a placeholder holds is an expression: a dotted key, then transforms after bars, or a
comment when it starts with an exclamation mark. A key without a value renders as nothing. What a
placeholder gives is not looked at again.

The names of the transforms are checked before the key is looked up, so whether a text renders
does not hang on the data.
-/

set_option autoImplicit false

namespace Stencil.Render

/-- What placeholders draw on: the data, the transforms, and the files these may look at. -/
structure Context where
  data : Store
  transforms : Registry
  files : FileTree

/-! ## Expressions -/

/-- A placeholder's content: a comment, or a key and the transforms after it. -/
inductive Expression where
  | comment
  | value (key : String) (transforms : List String)

/-- The meaning of a placeholder's content. Empty names between bars are passed over. -/
def expression (cs : List Char) : Expression :=
  let trimmed := Unicode.trim cs
  if trimmed.head? = some '!' then .comment
  else
    match (Text.pieces '|' trimmed).map Unicode.trim with
    | [] => .value "" []
    | key :: names =>
      .value (String.ofList key) ((names.filter fun n => !n.isEmpty).map String.ofList)

/-- The text that an expression stands for. -/
def Expression.evaluate (c : Context) : Expression → Except Fault String
  | .comment => .ok ""
  | .value key names =>
    match c.transforms.ensureKnown names with
    | .error e => .error e
    | .ok () =>
      (c.transforms.apply c.files ((c.data.get? key).getD .null) names).map Value.display

/-! ## Texts -/

/-- The text of a segment. -/
def Segment.evaluate (c : Context) : Segment → Except Fault (List Char)
  | .literal cs => .ok cs
  | .placeholder _ expr => ((expression expr).evaluate c).map String.toList
  | .tail cs => .ok cs

/-- The texts of segments put together; the first fault from the left counts. -/
def renderSegments (c : Context) : List Segment → Except Fault (List Char)
  | [] => .ok []
  | s :: rest =>
    match s.evaluate c with
    | .error e => .error e
    | .ok cs => (renderSegments c rest).map (cs ++ ·)

/-- Renders characters. -/
def chars (c : Context) (cs : List Char) : Except Fault (List Char) :=
  renderSegments c (segments cs)

/-- Renders a text. -/
def text (c : Context) (s : String) : Except Fault String :=
  (chars c s.toList).map String.ofList

/-! ## Paths -/

/-- Renders components one by one, joining each to what came before. -/
def components (c : Context) : Path → List Path.Component → Except Fault Path
  | p, [] => .ok p
  | p, component :: rest =>
    match text c component.text with
    | .error e => .error e
    | .ok s => components c (p.joinText s) rest

/-- Renders every component of a path. A component that renders to an absolute path takes the
place of all before it. -/
def path (c : Context) (p : Path) : Except Fault Path :=
  components c ⟨""⟩ p.components

end Stencil.Render
