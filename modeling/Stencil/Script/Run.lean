import Stencil.Script.Place
import Stencil.Script.Reader
import Stencil.Script.Scope
import Stencil.Script.Simplify
import Stencil.Session.Basic

/-!
# Running scripts

A script runs on its variables and ends well or fails; why it fails is not told. Running is
bounded: every expression, every statement, every access and every call counts as an operation,
and a script that needs more operations than the limit fails.

The recursion goes by a fuel that is more than the operations can use up. Each step of it counts
an operation or is a fixed part of one that does, so a script fails for its operations before the
fuel is gone.

What ends early and is not caught is a failure, unless it gives a datum back.
-/

set_option autoImplicit false

namespace Stencil.Script

/-! ## Expressions and statements -/

/-- The datum of an operator on two data. -/
def operated (op : Operator) (d e : Datum) : Eval Datum := do
  if !op.isInherent d e then tick
  given (op.apply d e)

/-- As a statement of its own the expression is counted once only. -/
def countsOnce : Expr → Bool
  | .call _ _ => true
  | .negative _ => true
  | .positive _ => true
  | .invert _ => true
  | .binary _ _ _ => true
  | _ => false

mutual

/-- The datum of an expression, which is counted. -/
def evaluate (w : Setting) : (fuel : Nat) → Expr → Eval Datum
  | 0, _ => failure
  | fuel + 1, e => do
    tick
    datumOf w fuel e

/-- The datum of an expression that has been counted. -/
def datumOf (w : Setting) : (fuel : Nat) → Expr → Eval Datum
  | 0, _ => failure
  | fuel + 1, e =>
    match e with
    | .literal d => pure d
    | .variable x => look x
    | .list items => return .list (← evaluateAll w fuel items)
    | .map fields => return .map (Datum.merge [] (← evaluateFields w fuel fields))
    | .chain root links => do
      let steps ← resolve w fuel links
      match root with
      | .variable x =>
        tick
        let d ← look x
        follow w fuel ⟨d, some (x, [])⟩ steps
      | root =>
        let d ← evaluate w fuel root
        follow w fuel ⟨d, none⟩ steps
    | .call f (.variable x :: rest) => do
      tick
      let ds ← evaluateAll w fuel rest
      let d ← look x
      match w.function? f (rest.length + 1) with
      | some g => call w fuel g (d :: ds)
      | none =>
        tick
        w.nativeOn x f d ds
    | .call f args => do
      let ds ← evaluateAll w fuel args
      match w.function? f args.length, ds with
      | some g, ds => call w fuel g ds
      | none, d :: ds =>
        tick
        w.native f d ds
      | none, [] => failure
    | .negative e => do
      let d ← evaluate w fuel e
      tick
      given d.negative
    | .positive e => do
      let d ← evaluate w fuel e
      tick
      given (match d with
        | .int n => some (.int n)
        | .float x => some (.float x)
        | _ => none)
    | .invert e => do
      let d ← evaluate w fuel e
      return .bool (!(← truth d))
    | .binary op a b => do
      let d ← evaluate w fuel a
      let e ← evaluate w fuel b
      operated op d e
    | .both a b => do
      let d ← evaluate w fuel a
      if ← truth d then
        let e ← evaluate w fuel b
        return .bool (← truth e)
      else return .bool false
    | .either a b => do
      let d ← evaluate w fuel a
      if ← truth d then return .bool true
      else
        let e ← evaluate w fuel b
        return .bool (← truth e)
    | .block body => enclosed (runAll w fuel body)

/-- The data of expressions. -/
def evaluateAll (w : Setting) : (fuel : Nat) → List Expr → Eval (List Datum)
  | 0, _ => failure
  | _, [] => pure []
  | fuel + 1, e :: rest => do
    let d ← evaluate w fuel e
    let ds ← evaluateAll w fuel rest
    return d :: ds

/-- The data of fields. -/
def evaluateFields (w : Setting) : (fuel : Nat) → List (String × Expr) →
    Eval (List (String × Datum))
  | 0, _ => failure
  | _, [] => pure []
  | fuel + 1, (key, e) :: rest => do
    let d ← evaluate w fuel e
    let ds ← evaluateFields w fuel rest
    return (key, d) :: ds

/-- The accesses of links. A single link that has nothing to be worked out is not counted. -/
def resolve (w : Setting) : (fuel : Nat) → List Link → Eval (List Access)
  | 0, _ => failure
  | _, [.property name] => pure [.property name]
  | _, [.method f []] => pure [.method f []]
  | fuel + 1, [.index e] =>
    match e.constant? with
    | some d => pure [.index d]
    | none => resolveAll w fuel [.index e]
  | fuel + 1, links => resolveAll w fuel links

/-- The accesses of links, each of which is counted. -/
def resolveAll (w : Setting) : (fuel : Nat) → List Link → Eval (List Access)
  | 0, _ => failure
  | _, [] => pure []
  | fuel + 1, link :: rest => do
    tick
    let step ← resolveOne w fuel link
    let steps ← resolveAll w fuel rest
    return step :: steps

/-- The access of a link. -/
def resolveOne (w : Setting) : (fuel : Nat) → Link → Eval Access
  | 0, _ => failure
  | _, .property name => pure (.property name)
  | fuel + 1, .index e => return .index (← evaluate w fuel e)
  | fuel + 1, .method f args => return .method f (← evaluateAll w fuel args)

/-- The datum that accesses lead to. -/
def follow (w : Setting) : (fuel : Nat) → Reached → List Access → Eval Datum
  | 0, _, _ => failure
  | _, r, [] => pure r.datum
  | fuel + 1, r, .method f args :: rest => do
    let d ← match w.function? f args.length with
      | some g => call w fuel g args
      | none => do
        tick
        match r.place with
        | some (x, keys) => w.nativeAt f args x keys
        | none => w.native f r.datum args
    follow w fuel ⟨d, none⟩ rest
  | fuel + 1, r, step :: rest => do
    let r ← followPart r step
    follow w fuel r rest

/-- Calls a function of the script. -/
def call (w : Setting) : (fuel : Nat) → Function → List Datum → Eval Datum
  | 0, _, _ => failure
  | fuel + 1, f, args => do
    tick
    called (f.parameters.zipWith (fun x d => ⟨x, false, d⟩) args) (runAll w fuel f.body)

/-- Runs the statements of a block; the last one gives its datum. -/
def runAll (w : Setting) : (fuel : Nat) → List Statement → Eval Datum
  | 0, _ => failure
  | _, [] => pure .unit
  | fuel + 1, [s] => runOne w fuel s
  | fuel + 1, s :: rest => fun env =>
    match runOne w fuel s env with
    | (.ok _, env) => runAll w fuel rest env
    | (.error signal, env) => (.error signal, env)

/-- The datum of what may be missing. -/
def evaluateOption (w : Setting) : (fuel : Nat) → Option Expr → Eval Datum
  | 0, _ => failure
  | _, none => pure .unit
  | fuel + 1, some e => evaluate w fuel e

/-- Runs a statement. -/
def runOne (w : Setting) : (fuel : Nat) → Statement → Eval Datum
  | 0, _ => failure
  | fuel + 1, s => do
    tick
    match s with
    | .expression e => if countsOnce e then datumOf w fuel e else evaluate w fuel e
    | .define constant x value =>
      let d ← evaluate w fuel value
      bind constant x d
      return .unit
    | .assign x [] op value =>
      let d ← evaluate w fuel value
      tick
      assignAt x [] op d
    | .assign x links op value =>
      let d ← evaluate w fuel value
      let steps ← resolve w fuel links
      tick
      let keys ← keysOf steps
      assignAt x keys op d
    | .choice condition yes no =>
      let d ← evaluate w fuel condition
      if ← truth d then enclosed (runAll w fuel yes)
      else enclosed (runAll w fuel no)
    | .repeatWhile (.literal .unit) body =>
      whileHolds (pure true)
        (do
          if body.isEmpty then tick
          let _ ← enclosed (runAll w fuel body))
        fuel
    | .repeatWhile condition body =>
      whileHolds
        (do
          let d ← evaluate w fuel condition
          truth d)
        (do
          let _ ← enclosed (runAll w fuel body))
        fuel
    | .repeatFor x counter sequence body =>
      let d ← evaluate w fuel sequence
      let sequence ← given d.toSequence?
      overSequence
        (fun d i => do
          tick
          let _ ← enclosed (do
            if let some c := counter then bind false c (.int i)
            bind false x d
            runAll w fuel body))
        fuel 0 sequence
    | .block body => enclosed (runAll w fuel body)
    | .giveBack value =>
      let d ← evaluateOption w fuel value
      Step.fail (.returned d)
    | .raise _ => failure
    | .leave value =>
      let d ← evaluateOption w fuel value
      Step.fail (.left d)
    | .next => Step.fail .next
    | .nothing => return .unit

end

/-! ## Whole scripts -/

/-- A fuel that the operations cannot use up. -/
def fullFuel : Nat := 8 * maxOperations

/-- The variables that a script starts with, the newest first. -/
def initial (input : ScriptInput) : List Variable := [
  ⟨"messages", false, .list []⟩,
  ⟨"project_root", false, .str input.projectRoot⟩,
  ⟨"working_dir", false, .str input.workingDir⟩,
  ⟨"template_dir", false, .str input.templateDir⟩,
  ⟨"data", false, .ofValue input.data⟩]

/-- A variable that a script leaves behind. -/
def Env.leftover (env : Env) (name : String) : Leftover :=
  match find? name env.bindings with
  | none => .gone
  | some v => (v.datum.toValue?.map Leftover.value).getD .strange

/-- What a script leaves behind in its variables. -/
def Env.result (env : Env) : ScriptResult :=
  ⟨env.leftover "data", env.leftover "messages"⟩

/-- The program of a text that is allowed, in its simplest form. -/
def prepared? (text : String) : Option Program :=
  match program? text with
  | some p => if p.isAllowed then some p.simplest else none
  | none => none

/-- Runs a script. -/
def run : ScriptEngine := fun fileExists input text =>
  match prepared? text with
  | none => none
  | some p =>
    match runAll ⟨p.functions, fileExists⟩ fullFuel p.statements ⟨initial input, 0, 0⟩ with
    | (.ok _, env) => some env.result
    | (.error (.returned _), env) => some env.result
    | (.error _, _) => none

end Stencil.Script
