import Stencil.Fault
import Stencil.Unicode.Blank

/-!
# Template references

The argument `[namespace:]name` that asks for a template. The namespace is the text before the
first colon; a blank one is none at all.
-/

set_option autoImplicit false

namespace Stencil

/-- A template that is asked for. -/
structure TemplateRef where
  space : Option String
  name : String
  deriving DecidableEq

namespace TemplateRef

/-- A text without blanks at its ends, unless nothing is left. -/
def nonBlank? (cs : List Char) : Option String :=
  if (Unicode.trim cs).isEmpty then none else some (String.ofList (Unicode.trim cs))

/-- Reads a reference. -/
def read (arg : String) : Except Fault TemplateRef :=
  let (space, name) :=
    match Text.breakOn [':'] arg.toList with
    | some (space, name) => (nonBlank? space, nonBlank? name)
    | none => (none, nonBlank? arg.toList)
  match name with
  | some name => .ok ⟨space, name⟩
  | none => .error (.invalidSpec .template s!"no template name in '{arg}'")

end TemplateRef

end Stencil
