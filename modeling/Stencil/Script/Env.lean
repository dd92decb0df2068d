import Stencil.Script.Operation
import Stencil.Step

/-!
# What a running script has

A script runs on its variables, and what it has done so far is counted. Each part of it is a step
on that, which ends early when it fails, leaves a loop, goes on with the next turn of one, or
gives a datum back. These early ends are the errors of a step; loops and calls catch those that
are meant for them.
-/

set_option autoImplicit false

namespace Stencil.Script

/-! ## Variables -/

/-- A variable. -/
structure Variable where
  name : String
  constant : Bool
  datum : Datum

/-- What a running script changes. -/
structure Env where
  /-- The variables, the newest first. -/
  bindings : List Variable
  operations : Nat
  /-- The number of functions that are being called. -/
  calls : Nat

/-- What a running script can rely on. -/
structure Setting where
  functions : List Function
  fileExists : String → Bool

/-- How a part of a script ends early. -/
inductive Signal where
  | failed
  | left (d : Datum)
  | next
  | returned (d : Datum)

/-- The running of a part of a script. -/
abbrev Eval (α : Type) := Step Env Signal α

variable {α : Type}

/-- Fails. -/
def failure : Eval α :=
  Step.fail .failed

/-- What is there, or a failure. -/
def given (o : Option α) : Eval α :=
  Step.ofOption .failed o

/-- The number of operations that a script may need. -/
def maxOperations : Nat := 100000

/-- The number of functions that may be called inside one another. -/
def maxCalls : Nat := 32

/-- Counts an operation. -/
def tick : Eval Unit :=
  Step.attempt .failed fun env =>
    (decide (env.operations < maxOperations), { env with operations := env.operations + 1 })

/-- The newest of some variables with a name. -/
def find? (name : String) (bindings : List Variable) : Option Variable :=
  bindings.find? fun v => v.name == name

/-- The datum of a variable. -/
def look (name : String) : Eval Datum :=
  fun env => given ((find? name env.bindings).map Variable.datum) env

/-- A new variable. -/
def bind (constant : Bool) (name : String) (d : Datum) : Eval Unit :=
  Step.modify fun env => { env with bindings := ⟨name, constant, d⟩ :: env.bindings }

/-- Changes the newest of some variables with a name, with a result. -/
def changeIn (name : String) (f : Variable → Option (Datum × α)) :
    List Variable → Option (List Variable × α)
  | [] => none
  | v :: rest =>
    if v.name == name then (f v).map fun r => ({ v with datum := r.1 } :: rest, r.2)
    else (changeIn name f rest).map fun r => (v :: r.1, r.2)

/-- Changes the datum of a variable, with a result. A constant is not changed. -/
def change (name : String) (f : Variable → Option (Datum × α)) : Eval α :=
  fun env =>
    match changeIn name f env.bindings with
    | some (bindings, a) => (.ok a, { env with bindings })
    | none => (.error .failed, env)

/-- Runs a block: variables that it makes are gone afterwards. -/
def enclosed (m : Eval α) : Eval α :=
  fun env =>
    let (r, after) := m env
    (r, { after with
      bindings := after.bindings.drop (after.bindings.length - env.bindings.length) })

/-- Runs the body of a function on its parameters alone, and catches what it gives back. -/
def called (parameters : List Variable) (m : Eval Datum) : Eval Datum :=
  fun env =>
    if env.calls < maxCalls then
      let (r, after) := m { env with bindings := parameters, calls := env.calls + 1 }
      let env := { env with operations := after.operations }
      match r with
      | .ok d => (.ok d, env)
      | .error (.returned d) => (.ok d, env)
      | .error _ => (.error .failed, env)
    else (.error .failed, env)

/-! ## Loops -/

/-- Goes over a sequence, with the number of each turn, until it ends or is left with a datum. -/
def overSequence (turn : Datum → Nat → Eval Unit) : (fuel count : Nat) → Datum → Eval Datum
  | 0, _, _ => failure
  | fuel + 1, count, sequence => fun env =>
    match sequence.uncons? with
    | none => (.ok .unit, env)
    | some (d, rest) =>
      match turn d count env with
      | (.ok _, env) => overSequence turn fuel (count + 1) rest env
      | (.error .next, env) => overSequence turn fuel (count + 1) rest env
      | (.error (.left d), env) => (.ok d, env)
      | (.error s, env) => (.error s, env)

/-- Takes turns for as long as a condition holds, or until the loop is left with a datum. -/
def whileHolds (condition : Eval Bool) (turn : Eval Unit) : (fuel : Nat) → Eval Datum
  | 0 => failure
  | fuel + 1 => fun env =>
    match condition env with
    | (.error s, env) => (.error s, env)
    | (.ok false, env) => (.ok .unit, env)
    | (.ok true, env) =>
      match turn env with
      | (.ok _, env) => whileHolds condition turn fuel env
      | (.error .next, env) => whileHolds condition turn fuel env
      | (.error (.left d), env) => (.ok d, env)
      | (.error s, env) => (.error s, env)

end Stencil.Script
