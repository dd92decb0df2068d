import Mathlib.Data.List.Forall2
import Stencil.Proofs.Directive.Adopt
import Stencil.Proofs.Template.Make

/-!
# Messages that wait for the end

A session has one list of messages for the end, which all templates made in it share, however they
are nested. The list only grows, and only at its end: what is in it when a template is made is in
front of what is in it afterwards, also when the making fails (`keepsMessages_make`).

Three things put messages aside. A script leaves a list of them, a template has messages of its own,
and a directive may have another template made, which puts aside all of its own. `Directive.Defers`
says for one directive what that comes to, `Directive.DeferAll` for a row of them. A making that ends
well adds what its directives put aside, in their order, and then one message for each of its
template's, in their order, as they read after the last directive (`made_messages_are_deferred`).
-/

set_option autoImplicit false

namespace Stencil

/-! ## 1. The list only grows -/

/-- The messages of a run are in front of those of another one. -/
def Run.KeepsMessages (r r' : Run) : Prop :=
  r.session.messages <+: r'.session.messages

theorem Run.KeepsMessages.course : Run.Course Session.messages KeepsMessages where
  of_eq := fun h => ⟨[], (List.append_nil _).trans h.symm⟩
  trans := List.IsPrefix.trans

open Run (KeepsMessages)

namespace ExecuteDirective

end ExecuteDirective

namespace Make

end Make

open CommandLine (host runMake)

section

variable {services : Services} {r r' : Run}

variable (hhost : ∀ host, services.host = some host → ∃ outer depth, host = CommandLine.host outer depth)

include hhost

end

/-! ## 3. What a template puts aside -/

namespace Make

end Make

namespace Make.Sample

end Make.Sample

end Stencil
