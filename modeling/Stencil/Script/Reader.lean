import Stencil.Script.Program
import Stencil.Script.Token

/-!
# Reading programs

From tokens to programs. Operators of two operands bind in levels; signs in front of an operand
bind tighter, and accesses behind it tighter still. A statement ends with a semicolon unless it
ends with a block or is the last of its block.

Some programs are refused although their form is right, because a literal stands where it can
never serve: as a condition, behind `in` of a loop, or next to an index that it cannot have.
-/

set_option autoImplicit false

namespace Stencil.Script

/-- What was read, and the tokens after it. -/
abbrev Read (α : Type) := Option (α × List Token)

/-- The tokens after a sign. -/
def afterSign (s : String) : List Token → Option (List Token)
  | .sign t :: rest => if s = t then some rest else none
  | _ => none

/-! ## What literals can serve for -/

/-- An expression that may turn out to be a truth value. -/
def mayBeTruth : Expr → Bool
  | .literal (.bool _) => true
  | .literal _ => false
  | .list _ => false
  | .map _ => false
  | _ => true

/-- An expression that a loop may be able to go over. -/
def mayBeSequence : Expr → Bool
  | .literal (.str _) => true
  | .literal _ => false
  | .map _ => false
  | _ => true

/-- An expression that an index may follow. -/
def mayBeIndexed (e i : Expr) : Bool :=
  let place := match i with
    | .literal (.int _) => true
    | .literal _ => false
    | .both _ _ => false
    | .either _ _ => false
    | _ => true
  let key := match i with
    | .literal (.str _) => true
    | .literal _ => false
    | .both _ _ => false
    | .either _ _ => false
    | _ => true
  match e with
  | .map _ => key
  | .list _ => place
  | .literal (.str _) => place
  | .literal (.int _) => place
  | .literal _ => false
  | .both _ _ => false
  | .either _ _ => false
  | _ => true

/-- An expression with the accesses behind it. -/
def withLinks? (e : Expr) : List Link → Option Expr
  | [] => some e
  | .index i :: links => if mayBeIndexed e i then some (.chain e (.index i :: links)) else none
  | links => some (.chain e links)

/-! ## Operators -/

/-- What an operator between two operands makes of them. -/
inductive Joint where
  | operator (op : Operator)
  /-- The first is contained in the second, or is not. -/
  | within (wanted : Bool)
  | both
  | either

/-- The expression of two operands. -/
def Joint.expr? (a b : Expr) : Joint → Option Expr
  | .operator op => some (.binary op a b)
  | .within true => some (.call "contains" [b, a])
  | .within false => some (.invert (.call "contains" [b, a]))
  | .both => if mayBeTruth a && mayBeTruth b then some (.both a b) else none
  | .either => if mayBeTruth a && mayBeTruth b then some (.either a b) else none

/-- The operators between two operands, loosest first. -/
def levels : List (List (Token × Joint)) := [
  [(.sign "||", .either)],
  [(.sign "&&", .both)],
  [(.sign "==", .operator .eq), (.sign "!=", .operator .ne)],
  [(.word "in", .within true), (.sign "!in", .within false)],
  [(.sign "<=", .operator .le), (.sign ">=", .operator .ge), (.sign "<", .operator .lt),
    (.sign ">", .operator .gt)],
  [(.sign "..=", .operator .through), (.sign "..", .operator .upTo)],
  [(.sign "+", .operator .add), (.sign "-", .operator .sub)],
  [(.sign "*", .operator .mul), (.sign "/", .operator .div), (.sign "%", .operator .rem)]]

/-- The signs that assign, and what they make of the old datum first. -/
def assignments : List (String × Option Operator) := [
  ("=", none), ("+=", some .add), ("-=", some .sub), ("*=", some .mul), ("/=", some .div),
  ("%=", some .rem)]

/-- The assignment to an expression, which has to be a variable or a part of one. -/
def assignment? (op : Option Operator) (value : Expr) : Expr → Option Statement
  | .variable x => some (.assign x [] op value)
  | .chain (.variable x) links =>
    let isPart : Link → Bool
      | .method _ _ => false
      | _ => true
    if links.all isPart then some (.assign x links op value) else none
  | _ => none

/-- The negative of an expression; that of a literal is a literal. -/
def negated : Expr → Expr
  | .literal (.int n) =>
    if n = Datum.minInt then .literal (.float (.ofFloat (Float.ofInt (-n))))
    else .literal (.int (-n))
  | .literal (.float x) => .literal (.float (.ofFloat (-x.toFloat)))
  | e => .negative e

/-- An expression with a plus in front; a number is the same without it. -/
def plain : Expr → Expr
  | .literal (.int n) => .literal (.int n)
  | .literal (.float x) => .literal (.float x)
  | e => .positive e

/-! ## Statements -/

/-- A statement that needs no semicolon. -/
def endsInBlock : Statement → Bool
  | .choice _ _ _ => true
  | .repeatWhile _ _ => true
  | .repeatFor _ _ _ _ => true
  | .block _ => true
  | _ => false

/-- What a list of keys needs: no key comes twice. -/
def distinct (keys : List String) : Bool :=
  keys.eraseDups.length == keys.length

/-- The names of a loop: one, or one and a counter between brackets. -/
def loopNames : List Token → Read (String × Option String)
  | .name x :: rest => some ((x, none), rest)
  | .sign "(" :: .name x :: .sign "," :: .name i :: .sign ")" :: rest =>
    if x = i then none else some ((x, some i), rest)
  | _ => none

mutual

/-- Reads an operand without signs in front and accesses behind. -/
def primary : (fuel : Nat) → List Token → Option (Expr × List Token)
  | 0, _ => none
  | _, .int n :: rest => some (.literal (.int n), rest)
  | _, .float x :: rest => some (.literal (.float x), rest)
  | _, .str s :: rest => some (.literal (.str s), rest)
  | _, .char c :: rest => some (.literal (.char c), rest)
  | _, .name f :: .sign "()" :: rest => some (.call f [], rest)
  | fuel + 1, .name f :: .sign "(" :: rest =>
    (arguments fuel ")" rest).map fun r => (.call f r.1, r.2)
  | _, .name x :: rest => some (.variable x, rest)
  | _, .sign "()" :: rest => some (.literal .unit, rest)
  | fuel + 1, .sign "(" :: rest =>
    match level fuel levels rest with
    | some (e, rest) => (afterSign ")" rest).map fun rest => (e, rest)
    | none => none
  | fuel + 1, .sign "[" :: rest => (arguments fuel "]" rest).map fun r => (.list r.1, r.2)
  | fuel + 1, .sign s :: rest =>
    if s = "#\x7b" then
      match fields fuel rest with
      | some (fs, rest) => if distinct (fs.map (·.1)) then some (.map fs, rest) else none
      | none => none
    else if s = "\x7b" then (statements fuel rest).map fun r => (.block r.1, r.2)
    else none
  | fuel + 1, .word w :: rest =>
    if w = "true" then some (.literal (.bool true), rest)
    else if w = "false" then some (.literal (.bool false), rest)
    else if ["if", "while", "loop", "for"].contains w then
      (statement fuel (.word w :: rest)).map fun r => (.block [r.1], r.2)
    else none
  | _, [] => none

/-- Reads expressions up to a closing sign. -/
def arguments : (fuel : Nat) → (close : String) → List Token → Option (List Expr × List Token)
  | 0, _, _ => none
  | fuel + 1, close, ts =>
    match afterSign close ts with
    | some rest => some ([], rest)
    | none =>
      match level fuel levels ts with
      | none => none
      | some (e, rest) =>
        match afterSign "," rest with
        | some rest => (arguments fuel close rest).map fun r => (e :: r.1, r.2)
        | none => (afterSign close rest).map fun rest => ([e], rest)

/-- Reads the fields of a map up to its closing brace. -/
def fields : (fuel : Nat) → List Token → Option (List (String × Expr) × List Token)
  | 0, _ => none
  | fuel + 1, ts =>
    let field (key : String) (rest : List Token) : Option (List (String × Expr) × List Token) :=
      match level fuel levels rest with
      | none => none
      | some (e, rest) =>
        match afterSign "," rest with
        | some rest => (fields fuel rest).map fun r => ((key, e) :: r.1, r.2)
        | none => (afterSign "\x7d" rest).map fun rest => ([(key, e)], rest)
    match ts with
    | .name key :: .sign ":" :: rest => field key rest
    | .str key :: .sign ":" :: rest => field key rest
    | ts => (afterSign "\x7d" ts).map fun rest => ([], rest)

/-- Reads the accesses behind an operand. -/
def accesses : (fuel : Nat) → List Token → Option (List Link × List Token)
  | 0, _ => none
  | fuel + 1, .sign "." :: .name f :: .sign "()" :: rest =>
    (accesses fuel rest).map fun r => (.method f [] :: r.1, r.2)
  | fuel + 1, .sign "." :: .name f :: .sign "(" :: rest =>
    match arguments fuel ")" rest with
    | some (args, rest) => (accesses fuel rest).map fun r => (.method f args :: r.1, r.2)
    | none => none
  | fuel + 1, .sign "." :: .name x :: rest =>
    (accesses fuel rest).map fun r => (.property x :: r.1, r.2)
  | _, .sign "." :: _ => none
  | fuel + 1, .sign "[" :: rest =>
    match level fuel levels rest with
    | some (i, rest) =>
      match afterSign "]" rest with
      | some rest => (accesses fuel rest).map fun r => (.index i :: r.1, r.2)
      | none => none
    | none => none
  | _, ts => some ([], ts)

/-- Reads an operand. -/
def operand : (fuel : Nat) → List Token → Option (Expr × List Token)
  | 0, _ => none
  | fuel + 1, .sign "-" :: rest => (operand fuel rest).map fun r => (negated r.1, r.2)
  | fuel + 1, .sign "+" :: rest => (operand fuel rest).map fun r => (plain r.1, r.2)
  | fuel + 1, .sign "!" :: rest => (operand fuel rest).map fun r => (.invert r.1, r.2)
  | fuel + 1, ts =>
    match primary fuel ts with
    | some (e, rest) =>
      match accesses fuel rest with
      | some (links, rest) => (withLinks? e links).map fun e => (e, rest)
      | none => none
    | none => none

/-- Reads an expression whose operators are at a level or bind tighter. -/
def level : (fuel : Nat) → List (List (Token × Joint)) → List Token → Option (Expr × List Token)
  | 0, _, _ => none
  | fuel + 1, [], ts => operand fuel ts
  | fuel + 1, ops :: tighter, ts =>
    match level fuel tighter ts with
    | some (e, rest) => further fuel ops tighter e rest
    | none => none

/-- Reads what operators of a level go on from an expression. -/
def further : (fuel : Nat) → List (Token × Joint) → List (List (Token × Joint)) → Expr →
    List Token → Option (Expr × List Token)
  | 0, _, _, _, _ => none
  | fuel + 1, ops, tighter, e, t :: rest =>
    match ops.lookup t with
    | some joint =>
      match level fuel tighter rest with
      | some (b, rest) =>
        match joint.expr? e b with
        | some e => further fuel ops tighter e rest
        | none => none
      | none => none
    | none => some (e, t :: rest)
  | _, _, _, e, [] => some (e, [])

/-- Reads an expression in front of a block, so it does not start like one. -/
def guarding : (fuel : Nat) → (serves : Expr → Bool) → List Token → Option (Expr × List Token)
  | 0, _, _ => none
  | fuel + 1, serves, ts =>
    if (afterSign "\x7b" ts).isSome then none
    else
      match level fuel levels ts with
      | some (e, rest) => if serves e then some (e, rest) else none
      | none => none

/-- Reads a block. -/
def block : (fuel : Nat) → List Token → Option (List Statement × List Token)
  | 0, _ => none
  | fuel + 1, ts =>
    match afterSign "\x7b" ts with
    | some rest => statements fuel rest
    | none => none

/-- Reads what follows an `if`. -/
def choice : (fuel : Nat) → List Token → Option (Statement × List Token)
  | 0, _ => none
  | fuel + 1, ts =>
    match guarding fuel mayBeTruth ts with
    | none => none
    | some (condition, rest) =>
      match block fuel rest with
      | none => none
      | some (yes, rest) =>
        match rest with
        | .word "else" :: .word "if" :: more =>
          (choice fuel more).map fun r => (.choice condition yes [r.1], r.2)
        | .word "else" :: more => (block fuel more).map fun r => (.choice condition yes r.1, r.2)
        | rest => some (.choice condition yes [], rest)

/-- Reads the statements of a block up to its closing brace. -/
def statements : (fuel : Nat) → List Token → Option (List Statement × List Token)
  | 0, _ => none
  | fuel + 1, .sign ";" :: rest => statements fuel rest
  | fuel + 1, ts =>
    match afterSign "\x7d" ts with
    | some rest => some ([], rest)
    | none =>
      match statement fuel ts with
      | none => none
      | some (s, rest) =>
        if endsInBlock s || (afterSign ";" rest).isSome || (afterSign "\x7d" rest).isSome then
          (statements fuel rest).map fun r => (s :: r.1, r.2)
        else none

/-- Reads a statement. -/
def statement : (fuel : Nat) → List Token → Option (Statement × List Token)
  | 0, _ => none
  | fuel + 1, .word "let" :: .name x :: .sign "=" :: rest =>
    (level fuel levels rest).map fun r => (.define false x r.1, r.2)
  | _, .word "let" :: .name x :: rest => some (.define false x (.literal .unit), rest)
  | fuel + 1, .word "const" :: .name x :: .sign "=" :: rest =>
    (level fuel levels rest).map fun r => (.define true x r.1, r.2)
  | _, .word "const" :: .name x :: rest => some (.define true x (.literal .unit), rest)
  | fuel + 1, .word "if" :: rest => choice fuel rest
  | fuel + 1, .word "while" :: rest =>
    match guarding fuel mayBeTruth rest with
    | some (condition, rest) => (block fuel rest).map fun r => (.repeatWhile condition r.1, r.2)
    | none => none
  | fuel + 1, .word "loop" :: rest =>
    (block fuel rest).map fun r => (.repeatWhile (.literal .unit) r.1, r.2)
  | fuel + 1, .word "for" :: rest =>
    match loopNames rest with
    | some ((x, counter), .word "in" :: rest) =>
      match guarding fuel mayBeSequence rest with
      | some (sequence, rest) => (block fuel rest).map fun r => (.repeatFor x counter sequence r.1, r.2)
      | none => none
    | _ => none
  | fuel + 1, .word "return" :: rest => optional fuel .giveBack rest
  | fuel + 1, .word "throw" :: rest => optional fuel .raise rest
  | fuel + 1, .word "break" :: rest => optional fuel .leave rest
  | _, .word "continue" :: rest => some (.next, rest)
  | fuel + 1, ts =>
    match afterSign "\x7b" ts with
    | some rest => (statements fuel rest).map fun r => (.block r.1, r.2)
    | none =>
      match level fuel levels ts with
      | none => none
      | some (e, .sign s :: rest) =>
        match assignments.lookup s with
        | some op =>
          match level fuel levels rest with
          | some (value, rest) => (assignment? op value e).map fun s => (s, rest)
          | none => none
        | none => some (.expression e, .sign s :: rest)
      | some (e, rest) => some (.expression e, rest)

/-- Reads a statement that may have an expression. -/
def optional : (fuel : Nat) → (Option Expr → Statement) → List Token →
    Option (Statement × List Token)
  | 0, _, _ => none
  | fuel + 1, make, ts =>
    if ts.isEmpty || (afterSign ";" ts).isSome || (afterSign "\x7d" ts).isSome then
      some (make none, ts)
    else (level fuel levels ts).map fun r => (make (some r.1), r.2)

end

/-! ## Whole programs -/

/-- The parameters of a function up to the closing bracket. -/
def parameters : List Token → Read (List String)
  | .sign ")" :: rest => some ([], rest)
  | .name x :: .sign ")" :: rest => some ([x], rest)
  | .name x :: .sign "," :: rest => (parameters rest).map fun r => (x :: r.1, r.2)
  | _ => none

/-- The parameters of a function with the brackets around them. -/
def parameterList : List Token → Read (List String)
  | .sign "()" :: rest => some ([], rest)
  | .sign "(" :: rest => parameters rest
  | _ => none

/-- Reads what follows an `fn`. -/
def function (fuel : Nat) : List Token → Read Function
  | .name f :: rest =>
    match parameterList rest with
    | some (xs, rest) =>
      if distinct xs then (block fuel rest).map fun r => (⟨f, xs, r.1⟩, r.2) else none
    | none => none
  | _ => none

/-- A function of the same name with as many parameters is there. -/
def defines (functions : List Function) (f : Function) : Bool :=
  functions.any fun g => g.name == f.name && g.parameters.length == f.parameters.length

/-- Reads a program. -/
def programFrom (bound : Nat) : (fuel : Nat) → List Token → Option Program
  | 0, _ => none
  | _, [] => some ⟨[], []⟩
  | fuel + 1, .sign ";" :: rest => programFrom bound fuel rest
  | fuel + 1, .word "fn" :: rest =>
    match function bound rest with
    | some (f, rest) =>
      match programFrom bound fuel rest with
      | some p => if defines p.functions f then none else some { p with functions := f :: p.functions }
      | none => none
    | none => none
  | fuel + 1, ts =>
    match statement bound ts with
    | some (s, rest) =>
      if endsInBlock s || rest.isEmpty || (afterSign ";" rest).isSome then
        (programFrom bound fuel rest).map fun p => { p with statements := s :: p.statements }
      else none
    | none => none

/-- The program of a text. -/
def program? (text : String) : Option Program :=
  (tokens? text.toList).bind fun ts =>
    programFrom (24 * ts.length + 48) (ts.length + 1) ts

end Stencil.Script
