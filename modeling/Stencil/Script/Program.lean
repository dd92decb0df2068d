import Stencil.Script.Datum

/-!
# Programs

The structure of a script: expressions, statements and functions. A block gives the datum of its
last statement, and can stand where a datum is wanted.
-/

set_option autoImplicit false

namespace Stencil.Script

/-- An operator on two data. -/
inductive Operator where
  | add
  | sub
  | mul
  | div
  | rem
  | eq
  | ne
  | lt
  | le
  | gt
  | ge
  | upTo
  | through
  deriving DecidableEq

mutual

/-- An expression. -/
inductive Expr where
  | literal (d : Datum)
  | variable (name : String)
  | list (items : List Expr)
  | map (fields : List (String × Expr))
  /-- A datum, and the accesses that lead on from it. -/
  | chain (root : Expr) (links : List Link)
  | call (name : String) (args : List Expr)
  | negative (e : Expr)
  | positive (e : Expr)
  | invert (e : Expr)
  | binary (op : Operator) (a b : Expr)
  | both (a b : Expr)
  | either (a b : Expr)
  | block (body : List Statement)

/-- An access behind a datum. -/
inductive Link where
  | property (name : String)
  | index (e : Expr)
  | method (name : String) (args : List Expr)

/-- A statement. -/
inductive Statement where
  | define (constant : Bool) (name : String) (value : Expr)
  /-- What the links lead to from a variable gets a datum, or the result of an operator. -/
  | assign (root : String) (links : List Link) (op : Option Operator) (value : Expr)
  | expression (e : Expr)
  | choice (condition : Expr) (yes no : List Statement)
  /-- A loop for as long as a condition holds; `()` for a condition always does. -/
  | repeatWhile (condition : Expr) (body : List Statement)
  | repeatFor (name : String) (counter : Option String) (sequence : Expr) (body : List Statement)
  | block (body : List Statement)
  | giveBack (value : Option Expr)
  | raise (value : Option Expr)
  | leave (value : Option Expr)
  | next
  | nothing

end

instance : Inhabited Expr := ⟨.literal .unit⟩

/-- A function. -/
structure Function where
  name : String
  parameters : List String
  body : List Statement

/-- A script: its functions, wherever they stand, and its statements. -/
structure Program where
  functions : List Function
  statements : List Statement

end Stencil.Script
