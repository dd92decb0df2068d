import Stencil.Script.Operation

/-!
# Constants and pure parts

Which expressions are constants, so that their datum is known without running anything, and which
parts of a script are pure: they come to an end and change nothing. Reading a variable counts as
pure, even one that is not there, and so nothing is said about failing. Calls, operators and
accesses are never pure.
-/

set_option autoImplicit false

namespace Stencil.Script

mutual

/-- The datum of a constant. -/
def Expr.constant? : Expr → Option Datum
  | .literal d => some d
  | .list items => (constants? items).map .list
  | .map fields => (constantFields? fields).map fun fs => .map (Datum.merge [] fs)
  | _ => none

/-- The data of expressions that are all constants. -/
def constants? : List Expr → Option (List Datum)
  | [] => some []
  | e :: rest =>
    match e.constant?, constants? rest with
    | some d, some ds => some (d :: ds)
    | _, _ => none

/-- The data of fields that are all constants. -/
def constantFields? : List (String × Expr) → Option (List (String × Datum))
  | [] => some []
  | (key, e) :: rest =>
    match e.constant?, constantFields? rest with
    | some d, some ds => some ((key, d) :: ds)
    | _, _ => none

end

mutual

/-- The expression only reads. -/
def Expr.isPure : Expr → Bool
  | .literal _ => true
  | .variable _ => true
  | .list items => arePure items
  | .map fields => areFieldsPure fields
  | .both a b => a.isPure && b.isPure
  | .either a b => a.isPure && b.isPure
  | .block body => isBlockPure body
  | _ => false

/-- All of some expressions only read. -/
def arePure : List Expr → Bool
  | [] => true
  | e :: rest => e.isPure && arePure rest

/-- The expressions of all fields only read. -/
def areFieldsPure : List (String × Expr) → Bool
  | [] => true
  | (_, e) :: rest => e.isPure && areFieldsPure rest

/-- The statement only reads. A loop over a sequence ends; one under a condition need not. -/
def Statement.isPure : Statement → Bool
  | .expression e => e.isPure
  | .choice condition yes no => condition.isPure && isBlockPure yes && isBlockPure no
  | .repeatWhile (.literal (.bool false)) _ => true
  | .repeatFor _ _ sequence body => sequence.isPure && isBlockPure body
  | .block body => isBlockPure body
  | .nothing => true
  | _ => false

/-- All statements of a block only read. -/
def isBlockPure : List Statement → Bool
  | [] => true
  | s :: rest => s.isPure && isBlockPure rest

end

namespace Statement

/-- The statement only reads, or makes a variable that nobody outside its block sees. -/
def isPureWithin : Statement → Bool
  | .define _ _ value => value.isPure
  | s => s.isPure

/-- The statement makes a name that the statements after it can see. -/
def isDefinition : Statement → Bool
  | .define _ _ _ => true
  | _ => false

/-- Nothing after the statement in its block can run. -/
def isEnd : Statement → Bool
  | .giveBack _ => true
  | .raise _ => true
  | .leave _ => true
  | .next => true
  | _ => false

/-- The statement gives a datum of its own. -/
def givesDatum : Statement → Bool
  | .expression _ => true
  | .choice _ _ _ => true
  | .block _ => true
  | _ => false

end Statement

end Stencil.Script
