import Stencil.Files.Tree
import Stencil.Shell.Format

/-!
# Tests

The expressions of `test` and `[`: questions about files and texts, comparisons of texts and of
integers, and their combinations. An expression that makes no sense has no answer.
-/

set_option autoImplicit false

namespace Stencil.Shell.Test

/-- A file that is there and is not empty. -/
def isFilled (files : FileTree) (p : Path) : Bool :=
  match files.read? p with
  | some content => content.size != 0
  | none => files.isDir p

/-- The operators on one operand. No file here can be executed but directories. -/
def unary (files : FileTree) (op operand : String) : Option Bool :=
  let p : Path := ⟨operand⟩
  match op with
  | "-n" => some (operand != "")
  | "-z" => some (operand == "")
  | "-e" => some (files.exists p)
  | "-f" => some (files.isFile p)
  | "-d" => some (files.isDir p)
  | "-s" => some (isFilled files p)
  | "-r" => some (files.exists p)
  | "-w" => some (files.exists p)
  | "-x" => some (files.isDir p)
  | "-h" => some false
  | "-L" => some false
  | "-p" => some false
  | "-S" => some false
  | "-b" => some false
  | "-c" => some false
  | _ => none

/-- The integer that an operand spells. -/
def integer? (operand : String) : Option Int :=
  let trimmed := (Arithmetic.skip (Arithmetic.skip operand.toList).reverse).reverse
  let (negative, cs) := match trimmed with
    | '-' :: cs => (true, cs)
    | '+' :: cs => (false, cs)
    | cs => (false, cs)
  let (n, rest) := Arithmetic.digits 10 0 cs
  if cs.isEmpty || !rest.isEmpty then none else some (if negative then -n else n)

/-- A comparison of integers. -/
def compare (p : Int → Int → Bool) (a b : String) : Option Bool :=
  match integer? a, integer? b with
  | some m, some n => some (p m n)
  | _, _ => none

/-- A word is an operator on two operands. -/
def isBinary (op : String) : Bool :=
  ["=", "==", "!=", "<", ">", "-eq", "-ne", "-lt", "-le", "-gt", "-ge"].contains op

/-- The operators on two operands. -/
def binary (op a b : String) : Option Bool :=
  match op with
  | "=" => some (a == b)
  | "==" => some (a == b)
  | "!=" => some (a != b)
  | "<" => some (decide (a < b))
  | ">" => some (decide (b < a))
  | "-eq" => compare (· == ·) a b
  | "-ne" => compare (· != ·) a b
  | "-lt" => compare (fun m n => decide (m < n)) a b
  | "-le" => compare (fun m n => decide (m ≤ n)) a b
  | "-gt" => compare (fun m n => decide (n < m)) a b
  | "-ge" => compare (fun m n => decide (n ≤ m)) a b
  | _ => none

mutual

/-- An expression without combinations, and the rest. -/
def primary (files : FileTree) : (fuel : Nat) → List String → Option (Bool × List String)
  | 0, _ => none
  | _, [] => none
  | fuel + 1, a :: rest =>
    match rest with
    | op :: b :: more =>
      if isBinary op then (binary op a b).map fun r => (r, more)
      else simple files fuel a rest
    | _ => simple files fuel a rest

/-- An expression that is no comparison, and the rest. -/
def simple (files : FileTree) : (fuel : Nat) → String → List String → Option (Bool × List String)
  | 0, _, _ => none
  | _, a, [] => some (a != "", [])
  | fuel + 1, a, b :: rest =>
    if a = "!" then (primary files fuel (b :: rest)).map fun r => (!r.1, r.2)
    else if a = "(" then
      match disjunction files fuel (b :: rest) with
      | some (r, ")" :: rest) => some (r, rest)
      | _ => none
    else
      match unary files a b with
      | some r => some (r, rest)
      | none => some (a != "", b :: rest)

/-- Expressions that all have to hold, and the rest. -/
def conjunction (files : FileTree) : (fuel : Nat) → List String → Option (Bool × List String)
  | 0, _ => none
  | fuel + 1, arguments =>
    match primary files fuel arguments with
    | some (a, "-a" :: rest) => (conjunction files fuel rest).map fun r => (a && r.1, r.2)
    | read => read

/-- Expressions of which one has to hold, and the rest. -/
def disjunction (files : FileTree) : (fuel : Nat) → List String → Option (Bool × List String)
  | 0, _ => none
  | fuel + 1, arguments =>
    match conjunction files fuel arguments with
    | some (a, "-o" :: rest) => (disjunction files fuel rest).map fun r => (a || r.1, r.2)
    | read => read

end

/-- The answer to an expression. -/
def evaluate (files : FileTree) (arguments : List String) : Option Bool :=
  match arguments with
  | [] => some false
  | arguments =>
    match disjunction files (8 * arguments.length + 8) arguments with
    | some (r, []) => some r
    | _ => none

/-- The status of an expression: zero when it holds, two when it makes no sense. -/
def status (files : FileTree) (arguments : List String) : Nat :=
  match evaluate files arguments with
  | some true => 0
  | some false => 1
  | none => 2

end Stencil.Shell.Test
