import Stencil.Script.Env
import Stencil.Script.Function

/-!
# Places

What accesses behind a datum lead to. As long as they lead to parts that are there, the datum has
a place in the variable that they started from: a function can change it there, and an assignment
can put another one in its stead.

A key that is not there leads to nothing, which has no place. Only the last key of an assignment
is made when it is missing.
-/

set_option autoImplicit false

namespace Stencil.Script

/-! ## Functions -/

/-- The truth of a datum; only truth values have one. -/
def truth : Datum → Eval Bool
  | .bool b => pure b
  | _ => failure

/-- The function of a script with a name and a number of parameters. -/
def Setting.function? (w : Setting) (name : String) (count : Nat) : Option Function :=
  w.functions.find? fun f => f.name == name && f.parameters.length == count

/-- Applies a function that every script has, in the place of its first argument. Only a function
that changes nothing can be applied to a constant. -/
def Setting.nativeAt (w : Setting) (name : String) (args : List Datum) (x : String)
    (keys : List Datum.Key) : Eval Datum :=
  change x fun v =>
    if v.constant && mutating.contains name then none
    else Datum.changeAt (fun d => applyNative w.fileExists name d args) keys v.datum

/-- Applies a function that every script has to a datum that has no place. -/
def Setting.native (w : Setting) (name : String) (self : Datum) (args : List Datum) : Eval Datum :=
  given ((applyNative w.fileExists name self args).map (·.2))

/-- Applies a function that every script has to the datum of a variable: in its place, or to the
datum alone if the variable is a constant. -/
def Setting.nativeOn (w : Setting) (x : String) (name : String) (self : Datum)
    (args : List Datum) : Eval Datum :=
  fun env =>
    match find? x env.bindings with
    | some ⟨_, false, _⟩ => w.nativeAt name args x [] env
    | _ => w.native name self args env

/-! ## Accesses -/

/-- An access whose index or arguments are known. -/
inductive Access where
  | property (name : String)
  | index (d : Datum)
  | method (name : String) (args : List Datum)

/-- What accesses have led to: a datum, and its place as a variable and keys if it has one. -/
structure Reached where
  datum : Datum
  place : Option (String × List Datum.Key)

/-- The datum that a key leads to. What is not there has no place. -/
def Reached.step? (r : Reached) (key : Datum.Key) : Option Reached :=
  (Datum.part? key r.datum).map fun d =>
    let isThere := match key, r.datum with
      | .field name, .map fields => (fields.lookup name).isSome
      | _, _ => true
    ⟨d, if isThere then r.place.map fun (x, keys) => (x, keys ++ [key]) else none⟩

/-- Follows an access that is not a call. The property of anything but a map is the result of a
function. -/
def followPart (r : Reached) : Access → Eval Reached
  | .property name => do
    tick
    match r.datum with
    | .map _ => given (r.step? (.field name))
    | d =>
      tick
      given ((d.property? name).map fun d => ⟨d, none⟩)
  | .index i => do
    tick
    given (i.toKey?.bind r.step?)
  | .method _ _ => failure

/-- The keys of accesses that only lead to parts. -/
def keysOf : List Access → Eval (List Datum.Key)
  | [] => pure []
  | .property name :: rest => do
    tick
    let keys ← keysOf rest
    return .field name :: keys
  | .index i :: rest => do
    tick
    let key ← given i.toKey?
    let keys ← keysOf rest
    return key :: keys
  | .method _ _ :: _ => failure

/-- What the function of an operator counts when a datum is assigned through it. An operator that
cannot work in place is tried in vain first. -/
def assignmentCost (op : Option Operator) (old given : Datum) : Nat :=
  match op, old, given with
  | none, _, _ => 0
  | some .add, .list _, _ => 0
  | some .add, .map _, .map _ => 1
  | some .add, .str _, .str _ => 0
  | some .add, .str _, .char _ => 0
  | some .add, .str _, _ => 1
  | some .add, .char _, .char _ => 0
  | some .add, .char _, .str _ => 0
  | some .sub, .str _, .str _ => 0
  | some .sub, .str _, .char _ => 0
  | some _, .int _, .int _ => 0
  | some _, .float _, .float _ => 0
  | some _, .float _, .int _ => 0
  | some _, _, _ => 2

/-- Counts some operations. -/
def ticks : Nat → Eval Unit
  | 0 => pure ()
  | n + 1 => do
    tick
    ticks n

/-- Assigns a datum to the part of a variable. -/
def assignAt (x : String) (keys : List Datum.Key) (op : Option Operator) (d : Datum) :
    Eval Datum := do
  let cost ← change x fun v =>
    if v.constant then none
    else Datum.changeAt (fun old => (assigned op old d).map fun new => (new, assignmentCost op old d))
      keys v.datum
  ticks cost
  return .unit

end Stencil.Script
