import Stencil.Script.Program

/-!
# Names and jumps

A program is refused when it assigns to a name that it has made a constant itself, even if the
assignment would never run, and when it leaves or goes on with a loop where there is none. Names
that come from elsewhere count as variables here.

Only an assignment to the whole constant is refused like this; a part of it cannot be changed
either, but that shows when the script runs.
-/

set_option autoImplicit false

namespace Stencil.Script

/-- What is known where a part of a script stands. -/
structure Scope where
  /-- The names that were made before, the newest first, and whether each is a constant. -/
  names : List (String × Bool)
  inLoop : Bool

namespace Scope

/-- The scope after a statement. -/
def after (s : Scope) : Statement → Scope
  | .define constant x _ => { s with names := (x, constant) :: s.names }
  | _ => s

/-- The newest of the names is a constant. -/
def isConstant (s : Scope) (x : String) : Bool :=
  s.names.lookup x == some true

/-- The scope in a loop with more names. -/
def turn (s : Scope) (names : List String) : Scope :=
  ⟨names.map (·, false) ++ s.names, true⟩

mutual

/-- An expression is allowed in a scope. -/
def allows (s : Scope) : Expr → Bool
  | .literal _ => true
  | .variable _ => true
  | .list items => s.allowsAll items
  | .map fields => s.allowsFields fields
  | .chain root links => s.allows root && s.allowsLinks links
  | .call _ args => s.allowsAll args
  | .negative e => s.allows e
  | .positive e => s.allows e
  | .invert e => s.allows e
  | .binary _ a b => s.allows a && s.allows b
  | .both a b => s.allows a && s.allows b
  | .either a b => s.allows a && s.allows b
  | .block body => s.allowsBlock body

/-- All of some expressions are allowed. -/
def allowsAll (s : Scope) : List Expr → Bool
  | [] => true
  | e :: rest => s.allows e && s.allowsAll rest

/-- The expressions of all fields are allowed. -/
def allowsFields (s : Scope) : List (String × Expr) → Bool
  | [] => true
  | (_, e) :: rest => s.allows e && s.allowsFields rest

/-- The expressions in all links are allowed. -/
def allowsLinks (s : Scope) : List Link → Bool
  | [] => true
  | .property _ :: rest => s.allowsLinks rest
  | .index e :: rest => s.allows e && s.allowsLinks rest
  | .method _ args :: rest => s.allowsAll args && s.allowsLinks rest

/-- What may be missing is allowed if it is there. -/
def allowsOption (s : Scope) : Option Expr → Bool
  | none => true
  | some e => s.allows e

/-- A statement is allowed in a scope. -/
def allowsStatement (s : Scope) : Statement → Bool
  | .define _ _ value => s.allows value
  | .assign x links _ value =>
    !(links.isEmpty && s.isConstant x) && s.allowsLinks links && s.allows value
  | .expression e => s.allows e
  | .choice condition yes no => s.allows condition && s.allowsBlock yes && s.allowsBlock no
  | .repeatWhile condition body => s.allows condition && (s.turn []).allowsBlock body
  | .repeatFor x counter sequence body =>
    s.allows sequence && (s.turn (x :: counter.toList)).allowsBlock body
  | .block body => s.allowsBlock body
  | .giveBack value => s.allowsOption value
  | .raise value => s.allowsOption value
  | .leave value => s.inLoop && s.allowsOption value
  | .next => s.inLoop
  | .nothing => true

/-- The statements of a block are allowed one after another. -/
def allowsBlock (s : Scope) : List Statement → Bool
  | [] => true
  | st :: rest => s.allowsStatement st && (s.after st).allowsBlock rest

end

end Scope

/-- The body of a function is allowed in a scope that has its parameters only. -/
def Function.isAllowed (f : Function) : Bool :=
  Scope.allowsBlock ⟨f.parameters.map (·, false), false⟩ f.body

/-- Every assignment and every jump of a program is allowed where it stands. -/
def Program.isAllowed (p : Program) : Bool :=
  p.functions.all Function.isAllowed && Scope.allowsBlock ⟨[], false⟩ p.statements

end Stencil.Script
