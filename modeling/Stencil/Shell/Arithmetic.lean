import Stencil.Shell.Token

/-!
# Arithmetic

The integer expressions between `$((` and `))`: 64-bit integers that wrap around, variables by
their names, and the operators of the shell in their usual order. The two logical operators
look at their second operand also when the first decides, which shows only in a division by zero.
-/

set_option autoImplicit false

namespace Stencil.Shell.Arithmetic

/-- An integer as 64 bits hold it. -/
def wrap (n : Int) : Int :=
  n.bmod (Nat.pow 2 64)

/-- The integer of a truth value. -/
def ofBool (b : Bool) : Int :=
  if b then 1 else 0

/-- The value of a digit in a base up to 16. -/
def digit? (base : Nat) (c : Char) : Option Nat :=
  let value :=
    if c.isDigit then c.toNat - '0'.toNat
    else if 'a' ≤ c ∧ c ≤ 'f' then c.toNat - 'a'.toNat + 10
    else if 'A' ≤ c ∧ c ≤ 'F' then c.toNat - 'A'.toNat + 10
    else 16
  if value < base then some value else none

/-- The digits of a number in a base at the front of a text, and the rest. -/
def digits (base : Nat) : Nat → List Char → Nat × List Char
  | n, [] => (n, [])
  | n, c :: cs =>
    match digit? base c with
    | some d => digits base (n * base + d) cs
    | none => (n, c :: cs)

/-- A number at the front of a text: hexadecimal after `0x`, octal after `0`. -/
def number (cs : List Char) : Nat × List Char :=
  match cs with
  | '0' :: 'x' :: rest => digits 16 0 rest
  | '0' :: 'X' :: rest => digits 16 0 rest
  | '0' :: rest => digits 8 0 rest
  | cs => digits 10 0 cs

/-- A text without blanks in front. -/
def skip (cs : List Char) : List Char :=
  cs.dropWhile fun c => c = ' ' || c = '\t' || c = '\n'

/-- The operators of two operands, loosest first. -/
def levels : List (List String) := [
  ["||"], ["&&"], ["|"], ["^"], ["&"], ["==", "!="], ["<=", ">=", "<", ">"], ["<<", ">>"],
  ["+", "-"], ["*", "/", "%"]]

/-- All operators of two operands, longer ones first. -/
def symbols : List String :=
  ["||", "&&", "==", "!=", "<=", ">=", "<<", ">>", "|", "^", "&", "<", ">", "+", "-", "*", "/", "%"]

/-- The bits of an integer. -/
def bits (n : Int) : Nat :=
  (n % Nat.pow 2 64).toNat

/-- An operator on two integers; there is no quotient by zero. -/
def apply (op : String) (a b : Int) : Option Int :=
  match op with
  | "||" => some (ofBool (a != 0 || b != 0))
  | "&&" => some (ofBool (a != 0 && b != 0))
  | "|" => some (wrap (bits a ||| bits b))
  | "^" => some (wrap (bits a ^^^ bits b))
  | "&" => some (wrap (bits a &&& bits b))
  | "==" => some (ofBool (a == b))
  | "!=" => some (ofBool (a != b))
  | "<=" => some (ofBool (decide (a ≤ b)))
  | ">=" => some (ofBool (decide (b ≤ a)))
  | "<" => some (ofBool (decide (a < b)))
  | ">" => some (ofBool (decide (b < a)))
  | "<<" => some (wrap (a * Nat.pow 2 (bits b % 64)))
  | ">>" => some (Int.fdiv a (Nat.pow 2 (bits b % 64)))
  | "+" => some (wrap (a + b))
  | "-" => some (wrap (a - b))
  | "*" => some (wrap (a * b))
  | "/" => if b = 0 then none else some (wrap (a.tdiv b))
  | "%" => if b = 0 then none else some (a.tmod b)
  | _ => none

mutual

/-- An operand, and the rest. -/
def operand (valueOf : String → Int) : (fuel : Nat) → List Char → Option (Int × List Char)
  | 0, _ => none
  | fuel + 1, cs =>
    match skip cs with
    | '(' :: rest =>
      match level valueOf fuel levels rest with
      | some (n, rest) =>
        match skip rest with
        | ')' :: rest => some (n, rest)
        | _ => none
      | none => none
    | '-' :: rest => (operand valueOf fuel rest).map fun r => (wrap (-r.1), r.2)
    | '+' :: rest => operand valueOf fuel rest
    | '!' :: rest => (operand valueOf fuel rest).map fun r => (ofBool (r.1 == 0), r.2)
    | '~' :: rest => (operand valueOf fuel rest).map fun r => (-r.1 - 1, r.2)
    | '$' :: rest => operand valueOf fuel rest
    | c :: rest =>
      if c.isDigit then
        let (n, rest) := number (c :: rest)
        some (wrap n, rest)
      else if isNameStart c then
        some (valueOf (String.ofList (c :: rest.takeWhile isNameChar)),
          rest.dropWhile isNameChar)
      else none
    | [] => none

/-- An expression whose operators are at a level or bind tighter, and the rest. -/
def level (valueOf : String → Int) : (fuel : Nat) → List (List String) → List Char →
    Option (Int × List Char)
  | 0, _, _ => none
  | fuel + 1, [], cs => operand valueOf fuel cs
  | fuel + 1, ops :: tighter, cs =>
    match level valueOf fuel tighter cs with
    | some (n, rest) => further valueOf fuel ops tighter n rest
    | none => none

/-- What operators of a level go on from a value. -/
def further (valueOf : String → Int) : (fuel : Nat) → List String → List (List String) → Int →
    List Char → Option (Int × List Char)
  | 0, _, _, _, _ => none
  | fuel + 1, ops, tighter, n, cs =>
    match startsWithOne symbols (skip cs) with
    | some (op, rest) =>
      if ops.contains op then
        match level valueOf fuel tighter rest with
        | some (m, rest) =>
          match apply op n m with
          | some value => further valueOf fuel ops tighter value rest
          | none => none
        | none => none
      else some (n, cs)
    | none => some (n, cs)

end

/-- The value of an expression. -/
def evaluate (valueOf : String → Int) (cs : List Char) : Option Int :=
  match level valueOf (16 * cs.length + 32) levels cs with
  | some (n, rest) => if (skip rest).isEmpty then some n else none
  | none => none

end Stencil.Shell.Arithmetic
