import Stencil.Session.Basic

/-!
# Guards

Whether the conditions of a directive hold in a run. Asking changes nothing. A condition can fail
to be decided, when the name of a file does not render or when it lies in the directory of a
template and none is active.
-/

set_option autoImplicit false

namespace Stencil

namespace Condition

/-- A file is there, by its path from one of the base directories. -/
def findsFile (services : Services) (r : Run) (file : String) (relativeTo : RelativeTo) :
    Except Fault Bool :=
  match r.session.baseDir relativeTo with
  | .error e => .error e
  | .ok base =>
    (Render.text (services.context r) file).map fun s => r.world.files.exists (base.joinText s)

/-- The data has a value that passes for the expected one. -/
def matchesData (r : Run) (key : String) (value : Value) : Bool :=
  match r.session.data.get? key with
  | some actual => looselyEqual actual value
  | none => false

/-- A condition holds in a run. -/
def holds (services : Services) (r : Run) : Condition → Except Fault Bool
  | .exists key => .ok (r.session.data.has key)
  | .filePresent file relativeTo => findsFile services r file relativeTo
  | .equals key value => .ok (matchesData r key value)
  | .not inner => (inner.holds services r).map (!·)

/-- All conditions hold. The first that does not hold decides, before any after it is looked at. -/
def allHold (services : Services) (r : Run) : List Condition → Except Fault Bool
  | [] => .ok true
  | c :: rest =>
    match c.holds services r with
    | .error e => .error e
    | .ok false => .ok false
    | .ok true => allHold services r rest

end Condition

end Stencil
