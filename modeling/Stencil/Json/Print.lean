import Stencil.Number.Shortest
import Stencil.Value

/-!
# Writing values as JSON

Two forms: the compact one, without any blank, and the indented one of configuration files, two
blanks a level. Strings escape the quote, the backslash and the control characters below 32, and
nothing else; integers are plain digits, and a double always shows a point or an exponent, so the
two kinds of number stay apart when the text is read again.

The values also have a *display* form, the one that ends up in rendered text: null is nothing, a
string stands without quotes, and a list of scalars is joined by commas.
-/

set_option autoImplicit false

namespace Stencil

namespace Json

/-- Doubles are positional from `1e-5` to below `1e16`; whole ones end in `.0`, and an exponent
always has a sign. -/
def doubleLayout : Number.Layout := ⟨-5, 15, ".0", "+"⟩

/-- The digits of an integer. -/
def intChars (n : Int) : List Char :=
  match n with
  | .ofNat n => Nat.toDigits 10 n
  | .negSucc n => '-' :: Nat.toDigits 10 (n + 1)

/-- The text of a double; what is not finite has none in JSON and is written as null. -/
def doubleChars (x : Double) : List Char :=
  if x.isFinite then doubleLayout.double x else "null".toList

/-- The four digits of a control character's escape. -/
def escapeDigits (n : Nat) : List Char :=
  ['0', '0', Nat.digitChar (n / 16), Nat.digitChar (n % 16)]

/-- A character inside a string literal. -/
def charEscape (c : Char) : List Char :=
  if c = '"' then ['\\', '"']
  else if c = '\\' then ['\\', '\\']
  else if c = '\x08' then ['\\', 'b']
  else if c = '\x0c' then ['\\', 'f']
  else if c = '\n' then ['\\', 'n']
  else if c = '\r' then ['\\', 'r']
  else if c = '\t' then ['\\', 't']
  else if c.toNat < 32 then '\\' :: 'u' :: escapeDigits c.toNat
  else [c]

/-- A string literal with its quotes. -/
def literal (s : String) : List Char :=
  '"' :: s.toList.flatMap charEscape ++ ['"']

/-! ## The compact form -/

mutual

/-- A value without any blank. -/
def compact : Value → List Char
  | .null => "null".toList
  | .bool true => "true".toList
  | .bool false => "false".toList
  | .int n => intChars n
  | .float x => doubleChars x
  | .str s => literal s
  | .list items => '[' :: compactItems items ++ [']']
  | .map fields => '{' :: compactFields fields ++ ['}']

/-- Elements with commas between them. -/
def compactItems : List Value → List Char
  | [] => []
  | [v] => compact v
  | v :: w :: rest => compact v ++ ',' :: compactItems (w :: rest)

/-- Entries with commas between them. -/
def compactFields : List (String × Value) → List Char
  | [] => []
  | [(k, v)] => literal k ++ ':' :: compact v
  | (k, v) :: e :: rest => literal k ++ ':' :: compact v ++ ',' :: compactFields (e :: rest)

end

/-! ## The indented form -/

/-- The start of a line at a level of nesting. -/
def indent (level : Nat) : List Char :=
  '\n' :: List.replicate (2 * level) ' '

mutual

/-- A value at a level of nesting: every element and entry on a line of its own. -/
def pretty (level : Nat) : Value → List Char
  | .null => "null".toList
  | .bool true => "true".toList
  | .bool false => "false".toList
  | .int n => intChars n
  | .float x => doubleChars x
  | .str s => literal s
  | .list [] => "[]".toList
  | .list (v :: rest) => '[' :: prettyItems (level + 1) (v :: rest) ++ indent level ++ [']']
  | .map [] => ['{', '}']
  | .map (e :: rest) => '{' :: prettyFields (level + 1) (e :: rest) ++ indent level ++ ['}']

/-- Elements, each after a line start, with commas between them. -/
def prettyItems (level : Nat) : List Value → List Char
  | [] => []
  | [v] => indent level ++ pretty level v
  | v :: w :: rest => indent level ++ pretty level v ++ ',' :: prettyItems level (w :: rest)

/-- Entries, each after a line start, with commas between them. -/
def prettyFields (level : Nat) : List (String × Value) → List Char
  | [] => []
  | [(k, v)] => indent level ++ literal k ++ ':' :: ' ' :: pretty level v
  | (k, v) :: e :: rest =>
    indent level ++ literal k ++ ':' :: ' ' :: pretty level v ++ ',' :: prettyFields level (e :: rest)

end

end Json

namespace Value

/-- The compact JSON text of a value. -/
def json (v : Value) : String :=
  String.ofList (Json.compact v)

/-- The text of a value that is not a list. -/
def displayAlone : Value → String
  | .null => ""
  | .str s => s
  | other => other.json

/-- The text of a value as it appears in rendered output. -/
def display : Value → String
  | .list items =>
    if items.all isScalar then ", ".intercalate (items.map displayAlone) else (Value.list items).json
  | other => displayAlone other

end Value

end Stencil
