import Stencil.Script.Pure

/-!
# Simplifying programs

Before a program runs it is simplified: constants take the place of their names, operators on
constants are worked out, and statements that can do nothing are left out. This shows. What is
left out is not counted as an operation, and cannot fail: a name that stands alone as a statement
is never looked up, and so need not be there.

A block is simplified in rounds until a round changes nothing. A round drops what comes behind the
end of the block, simplifies every statement that is left, leaves out those that are pure, and
tidies up the end. How far that goes depends on what the block is for.

Every function also tells whether it changed anything. The fuel bounds the rounds; without any
left a part stays as it is.
-/

set_option autoImplicit false

namespace Stencil.Script

/-- A result, and whether anything was changed on the way to it. -/
abbrev Tracked (α : Type) := StateM Bool α

/-- Notes a change. -/
def changed : Tracked Unit :=
  set true

/-- The names that are known, the newest first, each with its datum if that is constant. -/
abbrev Known := List (String × Option Datum)

/-- What a block is for. -/
inductive Purpose where
  /-- It is the body of a script or a function. -/
  | whole
  /-- Its datum is wanted. -/
  | datum
  /-- Only what it does is wanted. -/
  | effects
  deriving DecidableEq

/-- The purpose of a block inside a block. -/
def Purpose.inside : Purpose → Purpose
  | .effects => .effects
  | _ => .datum

/-! ## Rows of statements -/

mutual

/-- A statement, or the statements of a block that makes no names. -/
def Statement.flat : Statement → List Statement
  | .block body => if body.any Statement.isDefinition then [.block body] else flatRow body
  | s => [s]

/-- A row of statements without blocks that make no names. -/
def flatRow : List Statement → List Statement
  | [] => []
  | s :: rest => s.flat ++ flatRow rest

end

/-- A block among some statements makes no names. -/
def isLayered (body : List Statement) : Bool :=
  body.any fun s =>
    match s with
    | .block inner => !inner.any Statement.isDefinition
    | _ => false

/-- The statements up to the first that ends the block. -/
def untilEnd : List Statement → List Statement
  | [] => []
  | s :: rest => if s.isEnd then [s] else s :: untilEnd rest

/-- The statement only reads, as far as anyone sees who looks at a block with a purpose. -/
def Purpose.isPure (p : Purpose) (s : Statement) : Bool :=
  if p = .whole then s.isPure else s.isPureWithin

/-- The statement has to stay, with everything that stands before it and makes a name. -/
def Purpose.isKept (p : Purpose) : Statement → Bool
  | .define constant x value =>
    !p.isPure (.define constant x value) || value.constant?.isSome
  | .expression e => e.constant?.isNone
  | s => !p.isPure s

/-- The place of the last statement that has to stay, or the first place. -/
def Purpose.lastKept (p : Purpose) (body : List Statement) : Nat :=
  match body.reverse.findIdx? p.isKept with
  | some i => body.length - 1 - i
  | none => 0

/-- The statements without those that are pure; `index` is the place of the first one, and `kept`
that of the last one that has to stay. The last statement stays where a datum is wanted. -/
def Purpose.withoutPure (p : Purpose) : (index kept : Nat) → List Statement → List Statement
  | _, _, [] => []
  | index, kept, s :: rest =>
    if p ≠ .effects && rest.isEmpty then [s]
    else if p.isPure s && kept ≤ index then p.withoutPure index kept rest
    else if s.isPure then p.withoutPure index (kept - 1) rest
    else s :: p.withoutPure (index + 1) kept rest

/-- One step of tidying up the end of a block, whose statements come last first. -/
def Purpose.tidied? (p : Purpose) : List Statement → Option (List Statement)
  | [] => none
  | [.giveBack none] =>
    if p = .whole then some [] else none
  | .giveBack none :: s :: rest =>
    if p = .whole then some (if s.givesDatum then .nothing :: s :: rest else s :: rest) else none
  | .giveBack (some e) :: rest =>
    if p = .whole then some (.expression e :: rest) else none
  | [s] =>
    if p.isPure s && (p = .effects || !s.givesDatum) then some [] else none
  | s :: before :: rest =>
    if p = .effects then if p.isPure s then some (before :: rest) else none
    else
      match s with
      | .nothing => if before.givesDatum then none else some (before :: rest)
      | s =>
        if s.givesDatum || !p.isPure s then none
        else if before.givesDatum then some (.nothing :: before :: rest)
        else some (before :: rest)

/-- Tidies up the end of a block, whose statements come last first. -/
def Purpose.tidied (p : Purpose) : (fuel : Nat) → List Statement → Tracked (List Statement)
  | 0, body => return body
  | fuel + 1, body =>
    match p.tidied? body with
    | some body => do
      changed
      p.tidied fuel body
    | none => return body

/-! ## Constants -/

/-- The field of a map that is written out; a key that is not there stands for nothing. -/
def fieldOf (fs : List (String × Expr)) (key : String) : Expr :=
  (fs.lookup key).getD (.literal .unit)

/-- What a single access makes of something that is written out. -/
def accessed? : Expr → Link → Option Expr
  | .map fs, .property key => if areFieldsPure fs then some (fieldOf fs key) else none
  | .map fs, .index (.literal (.str key)) => if areFieldsPure fs then some (fieldOf fs key) else none
  | .list items, .index (.literal (.int n)) =>
    if arePure items then (Datum.position? n items.length).bind fun i => items[i]? else none
  | .literal (.int m), .index (.literal (.int n)) => (Datum.part? (.at n) (.int m)).map .literal
  | .literal (.str s), .index (.literal (.int n)) => (Datum.part? (.at n) (.str s)).map .literal
  | _, _ => none

/-- What an operator makes of two constants; functions are left to the run. -/
def Operator.folded? (op : Operator) (a b : Expr) : Option Datum :=
  match a.constant?, b.constant? with
  | some d, some e => if op.isInherent d e then op.apply d e else none
  | _, _ => none

/-- The operator of an assignment that works on the old datum. -/
def Operator.assigns : Operator → Bool
  | .add => true
  | .sub => true
  | .mul => true
  | .div => true
  | .rem => true
  | _ => false

/-- A constant in one piece. -/
def gathered (e : Expr) : Tracked Expr :=
  match e.constant? with
  | some d => do
    changed
    return .literal d
  | none => return e

/-! ## Rounds -/

mutual

/-- Simplifies an expression. -/
def simplify (known : Known) : (fuel : Nat) → Expr → Tracked Expr
  | 0, e => return e
  | fuel + 1, e =>
    match e with
    | .literal d => return .literal d
    | .variable x =>
      match known.lookup x with
      | some (some d) => do
        changed
        return .literal d
      | _ => return .variable x
    | .list items => do gathered (.list (← simplifyAll known fuel items))
    | .map fs => do gathered (.map (← simplifyFields known fuel fs))
    | .chain (.variable x) links => return .chain (.variable x) (← simplifyLinks known fuel links)
    | .chain root [link] =>
      match accessed? root link with
      | some e => do
        changed
        return e
      | none => return .chain (← simplify known fuel root) (← simplifyLinks known fuel [link])
    | .chain root links =>
      return .chain (← simplify known fuel root) (← simplifyLinks known fuel links)
    | .call f args => return .call f (← simplifyAll known fuel args)
    | .negative e => return .negative (← simplify known fuel e)
    | .positive e => return .positive (← simplify known fuel e)
    | .invert (.literal (.bool b)) => do
      changed
      return .literal (.bool !b)
    | .invert e => return .invert (← simplify known fuel e)
    | .binary op a b =>
      match op.folded? a b with
      | some d => do
        changed
        return .literal d
      | none => return .binary op (← simplify known fuel a) (← simplify known fuel b)
    | .both (.literal (.bool true)) e => do
      changed
      simplify known fuel e
    | .both (.literal (.bool false)) _ => do
      changed
      return .literal (.bool false)
    | .both e (.literal (.bool true)) => do
      changed
      simplify known fuel e
    | .both a b => return .both (← simplify known fuel a) (← simplify known fuel b)
    | .either (.literal (.bool true)) _ => do
      changed
      return .literal (.bool true)
    | .either (.literal (.bool false)) e => do
      changed
      simplify known fuel e
    | .either e (.literal (.bool false)) => do
      changed
      simplify known fuel e
    | .either a b => return .either (← simplify known fuel a) (← simplify known fuel b)
    | .block [] => do
      changed
      return .literal .unit
    | .block [.expression e] => do
      changed
      simplify known fuel e
    | .block body => do
      match ← simplifyBlock known fuel .datum body with
      | [.expression e] => do
        changed
        return e
      | body => return .block body

/-- Simplifies expressions. -/
def simplifyAll (known : Known) : (fuel : Nat) → List Expr → Tracked (List Expr)
  | 0, es => return es
  | _, [] => return []
  | fuel + 1, e :: rest => do
    let e ← simplify known fuel e
    let rest ← simplifyAll known fuel rest
    return e :: rest

/-- Simplifies the expressions of fields. -/
def simplifyFields (known : Known) : (fuel : Nat) → List (String × Expr) →
    Tracked (List (String × Expr))
  | 0, fs => return fs
  | _, [] => return []
  | fuel + 1, (key, e) :: rest => do
    let e ← simplify known fuel e
    let rest ← simplifyFields known fuel rest
    return (key, e) :: rest

/-- Simplifies the expressions in links. -/
def simplifyLinks (known : Known) : (fuel : Nat) → List Link → Tracked (List Link)
  | 0, links => return links
  | _, [] => return []
  | fuel + 1, .property x :: rest => return .property x :: (← simplifyLinks known fuel rest)
  | fuel + 1, .index e :: rest => do
    let e ← simplify known fuel e
    let rest ← simplifyLinks known fuel rest
    return .index e :: rest
  | fuel + 1, .method f args :: rest => do
    let args ← simplifyAll known fuel args
    let rest ← simplifyLinks known fuel rest
    return .method f args :: rest

/-- Simplifies what may be missing. -/
def simplifyOption (known : Known) : (fuel : Nat) → Option Expr → Tracked (Option Expr)
  | 0, e => return e
  | _, none => return none
  | fuel + 1, some e => return some (← simplify known fuel e)

/-- Simplifies a statement of a block. -/
def simplifyStatement (known : Known) : (fuel : Nat) → Purpose → Statement → Tracked Statement
  | 0, _, s => return s
  | fuel + 1, p, s =>
    match s with
    | .define constant x value => return .define constant x (← simplify known fuel value)
    | .assign x [] none (.binary op (.variable y) b) =>
      if x = y && op.assigns then do
        changed
        return .assign x [] (some op) b
      else return .assign x [] none (← simplify known fuel (.binary op (.variable y) b))
    | .assign x links op value => do
      let links ← simplifyLinks known fuel links
      let value ← simplify known fuel value
      return .assign x links op value
    | .choice condition [] [] => do
      changed
      let e ← simplify known fuel condition
      return if p = .effects then .expression e else .block [.expression e, .nothing]
    | .choice (.literal (.bool false)) _ no => do
      changed
      match ← simplifyBlock known fuel p.inside no with
      | [] => return .nothing
      | no => return .block no
    | .choice (.literal (.bool true)) yes _ => do
      changed
      match ← simplifyBlock known fuel p.inside yes with
      | [] => return .nothing
      | yes => return .block yes
    | .choice condition yes no => do
      let condition ← simplify known fuel condition
      let yes ← simplifyBlock known fuel p.inside yes
      let no ← simplifyBlock known fuel p.inside no
      return .choice condition yes no
    | .repeatWhile (.literal (.bool false)) _ => do
      changed
      return .nothing
    | .repeatWhile condition body => do
      let condition ← simplify known fuel condition
      let body ← simplifyBlock known fuel .effects body
      match condition with
      | .literal (.bool true) => return .repeatWhile (.literal .unit) body
      | condition => return .repeatWhile condition body
    | .repeatFor x counter sequence body => do
      let sequence ← simplify known fuel sequence
      let names := (x :: counter.toList).map (·, none)
      let body ← simplifyBlock (names ++ known) fuel .effects body
      return .repeatFor x counter sequence body
    | .block body => do
      match ← simplifyBlock known fuel p.inside body with
      | [] => do
        changed
        return .nothing
      | [s] =>
        if s.isDefinition then return .block [s]
        else do
          changed
          return s
      | body => return .block body
    | .expression (.block []) => do
      changed
      return .nothing
    | .expression (.block body) => do
      changed
      return .block (← simplifyBlock known fuel .datum body)
    | .expression e => return .expression (← simplify known fuel e)
    | .giveBack value => return .giveBack (← simplifyOption known fuel value)
    | .raise value => return .raise (← simplifyOption known fuel value)
    | .leave value => return .leave (← simplifyOption known fuel value)
    | .next => return .next
    | .nothing => return .nothing

/-- Simplifies statements one after another. -/
def simplifyRow (known : Known) : (fuel : Nat) → Purpose → List Statement →
    Tracked (List Statement)
  | 0, _, body => return body
  | _, _, [] => return []
  | fuel + 1, p, .define constant x value :: rest => do
    let value ← simplify known fuel value
    let d := if constant then value.constant? else none
    let rest ← simplifyRow ((x, d) :: known) fuel p rest
    return .define constant x value :: rest
  | fuel + 1, p, s :: rest => do
    let s ← simplifyStatement known fuel p s
    let rest ← simplifyRow known fuel p rest
    return s :: rest

/-- Simplifies a block in rounds. -/
def simplifyRounds (known : Known) : (fuel : Nat) → Purpose → List Statement →
    Tracked (List Statement)
  | 0, _, body => return body
  | fuel + 1, p, body => do
    let before ← get
    set false
    let live := untilEnd body
    if live.length < body.length then changed
    let row ← simplifyRow known fuel p live
    let kept := p.withoutPure 0 (p.lastKept row) row
    if kept.length < row.length then changed
    let tidy ← p.tidied (2 * kept.length + 2) kept.reverse
    let again ← get
    set (before || again)
    if again then simplifyRounds known fuel p tidy.reverse else return tidy.reverse

/-- Simplifies a block. -/
def simplifyBlock (known : Known) : (fuel : Nat) → Purpose → List Statement →
    Tracked (List Statement)
  | 0, _, body => return body
  | fuel + 1, p, body => do
    if isLayered body then changed
    simplifyRounds known fuel p (flatRow body)

end

/-! ## Whole programs -/

/-- A fuel that programs do not use up: every round but the last one of a block makes a program
smaller or simpler. -/
def simplifyFuel : Nat := 1000000

/-- A body in its simplest form. -/
def simplestBody (body : List Statement) : List Statement :=
  (simplifyBlock [] simplifyFuel .whole body false).1

/-- A program in its simplest form. -/
def Program.simplest (p : Program) : Program :=
  ⟨p.functions.map fun f => { f with body := simplestBody f.body }, simplestBody p.statements⟩

end Stencil.Script
