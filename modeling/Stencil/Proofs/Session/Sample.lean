import Stencil.Session.Basic

/-!
# Services that samples share

Samples of runs differ in their files and in what is asked of them. The services are mostly the same
ones: the built-in transforms, an operator who takes every default, and programs that do nothing.
-/

set_option autoImplicit false

namespace Stencil.Make.Sample

/-- Services without a host. -/
def bare : Services :=
  ⟨⟨⟨"home"⟩, ⟨"t"⟩, none⟩, .builtins, .defaults, none, fun _ _ files => ⟨.code 0, [], files⟩,
    fun _ _ _ => none, none⟩

end Stencil.Make.Sample
