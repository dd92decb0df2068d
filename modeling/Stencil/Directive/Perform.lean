import Stencil.Directive.Copy
import Stencil.Directive.Execute
import Stencil.Directive.Run
import Stencil.Session.Guard

/-!
# Carrying out directives

A directive is carried out when the conditions that guard it hold. Otherwise nothing happens.
-/

set_option autoImplicit false

namespace Stencil.Directive

/-- The conditions that guard the directive hold. -/
def allowed (d : Directive) (services : Services) : Job Bool :=
  fun r =>
    match d.condition with
    | none => (.ok true, r)
    | some conditions => (Condition.allHold services r conditions, r)

/-- Does what the directive says. -/
def act (d : Directive) (services : Services) : Job Unit :=
  match d.kind with
  | .copy c => c.perform services
  | .run c => c.perform services
  | .execute c => c.perform services

/-- Carries out the directive if its conditions hold, and tells whether they did. -/
def perform (d : Directive) (services : Services) : Job Bool := do
  if ← d.allowed services then
    d.act services
    return true
  else return false

/-- Carries out directives one after another. -/
def performAll (directives : List Directive) (services : Services) : Job Unit :=
  Step.each (fun d => do let _ ← d.perform services) directives

end Stencil.Directive
