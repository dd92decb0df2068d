import Stencil.Json.Read
import Stencil.Number.Shortest
import Stencil.Unicode.Blank

/-!
# Tokens of scripts

Names, words of the language, literals and signs; white space and comments only separate them. A
text with anything else in it has no tokens.

A minus in front of a digit belongs to the number where an operand can stand, so that the smallest
integer has a literal. Where one can stand depends on the token before.
-/

set_option autoImplicit false

namespace Stencil.Script

/-- A token. -/
inductive Token where
  | name (s : String)
  | word (s : String)
  | int (n : Int)
  | float (x : Double)
  | str (s : String)
  | char (c : Char)
  | sign (s : String)
  deriving DecidableEq

/-- The words that mean something. -/
def words : List String := [
  "let", "const", "if", "else", "while", "loop", "for", "in", "fn", "return", "throw", "break",
  "continue", "true", "false"]

/-- The words that no name can have. -/
def reserved : List String := [
  "switch", "do", "until", "private", "try", "catch", "import", "export", "as", "this", "var",
  "static", "shared", "goto", "exit", "match", "case", "public", "protected", "new", "use", "with",
  "is", "module", "package", "super", "spawn", "thread", "go", "sync", "async", "await", "yield",
  "default", "void", "null", "nil", "print", "debug", "eval", "Fn", "call", "curry", "is_shared",
  "is_def_fn", "is_def_var", "type_of"]

/-- The signs, longer ones first. -/
def signs : List String := [
  "..=", "()", "#\x7b", "==", "!=", "<=", ">=", "&&", "||", "+=", "-=", "*=", "/=", "%=", "..", "+", "-",
  "*", "/", "%", "!", "<", ">", "=", "(", ")", "[", "]", "\x7b", "\x7d", ",", ";", ":", "."]

/-- Rows of signs that mean nothing, although their parts do. -/
def meaningless : List String := ["++", "--", "<-"]

/-- A character that may start a name. -/
def isNameStart (c : Char) : Bool :=
  c.isAlpha || c == '_'

/-- A character of a name. -/
def isNameChar (c : Char) : Bool :=
  c.isAlphanum || c == '_'

/-- The token of a word or a name. Underlines can stand in front of a name, but then a letter
comes. -/
def wordOrName (s : String) : Option Token :=
  if words.contains s then some (.word s)
  else if reserved.contains s then none
  else
    match s.toList.dropWhile (· == '_') with
    | c :: _ => if c.isAlpha then some (.name s) else none
    | [] => none

/-! ## Operands -/

/-- The signs that an operand can follow. -/
def openingSigns : List String := [
  ";", ":", ",", "..", "..=", "\x7b", "(", "[", "+", "+=", "-", "-=", "*", "*=", "/", "/=", "%",
  "%=", "=", "==", "!=", "<", ">", "!", "<=", ">=", "&&", "||", "!in"]

/-- An operand can follow the token, so a minus after it is no subtraction. -/
def Token.opens : Token → Bool
  | .sign s => openingSigns.contains s
  | .word w => ["if", "while", "in", "return", "throw"].contains w
  | _ => false

/-! ## Comments -/

/-- What follows a comment of one line. -/
def afterLine (cs : List Char) : List Char :=
  cs.dropWhile fun c => c != '\n' && c != '\r'

/-- What follows a comment of several lines, in which others are nested `depth` levels deep. -/
def afterComment : (depth : Nat) → List Char → List Char
  | depth, '/' :: '*' :: rest => afterComment (depth + 1) rest
  | 0, '*' :: '/' :: rest => rest
  | depth + 1, '*' :: '/' :: rest => afterComment depth rest
  | depth, _ :: rest => afterComment depth rest
  | _, [] => []

/-! ## Quotes -/

/-- The character of an escape with one letter. -/
def escapeLetters : List (Char × Char) :=
  [('t', '\t'), ('n', '\n'), ('r', '\r'), ('\\', '\\')]

/-- The character of a number of hexadecimal digits, and the rest. -/
def hexChar? (count : Nat) (cs : List Char) : Option (Char × List Char) :=
  match (cs.take count).mapM Json.hexValue? with
  | some digits =>
    let n := digits.foldl (fun n d => n * 16 + d) 0
    if digits.length = count && n.isValidChar then some (Char.ofNat n, cs.drop count) else none
  | none => none

/-- The character after a backslash, and the rest. Of the quotes only the one that closes can be
escaped. -/
def escape? (quote : Char) : List Char → Option (Char × List Char)
  | 'x' :: rest => hexChar? 2 rest
  | 'u' :: rest => hexChar? 4 rest
  | 'U' :: rest => hexChar? 8 rest
  | c :: rest =>
    if c = quote then some (c, rest) else (escapeLetters.lookup c).map fun e => (e, rest)
  | [] => none

/-- A line without the white space at its start, as far as that is under the first `width`
columns. -/
def unindented (width : Nat) (cs : List Char) : List Char :=
  cs.drop ((cs.take width).takeWhile fun c => Unicode.isBlank c && c != '\n').length

/-- The characters up to a quote, and the rest after it. A quote that comes twice stands for
itself. No line ends inside quotes, unless a backslash stands before its end and the quote is
double; the next line then goes on below the first character, which stands in column `column`. -/
def quotedFrom (quote : Char) (column : Nat) : (fuel : Nat) → List Char →
    Option (List Char × List Char)
  | 0, _ => none
  | _, [] => none
  | fuel + 1, '\\' :: '\n' :: rest =>
    if quote = '"' then quotedFrom quote column fuel (unindented column rest) else none
  | fuel + 1, '\\' :: '\r' :: '\n' :: rest =>
    if quote = '"' then quotedFrom quote column fuel (unindented column rest) else none
  | fuel + 1, '\\' :: rest =>
    match escape? quote rest with
    | some (c, rest) => (quotedFrom quote column fuel rest).map fun r => (c :: r.1, r.2)
    | none => none
  | fuel + 1, c :: rest =>
    if c = quote then
      match rest with
      | d :: more =>
        if d = quote then (quotedFrom quote column fuel more).map fun r => (quote :: r.1, r.2)
        else some ([], rest)
      | [] => some ([], [])
    else if c = '\n' then none
    else (quotedFrom quote column fuel rest).map fun r => (c :: r.1, r.2)

/-- The column after some characters, from a column on. -/
def columnAfter (column : Nat) (cs : List Char) : Nat :=
  cs.foldl (fun n c => if c = '\n' then 0 else n + 1) column

/-! ## Numbers -/

/-- The digits at the front, without the underscores between them, and the rest. -/
def digitsFrom (isDigit : Char → Bool) (cs : List Char) : List Char × List Char :=
  ((cs.takeWhile fun c => isDigit c || c == '_').filter isDigit,
    cs.dropWhile fun c => isDigit c || c == '_')

/-- What stands after the point of a number, and the rest. The point may be the last character of
the number where no name and no other point follows. -/
def fractionFrom : List Char → Option (List Char) × List Char
  | '.' :: rest =>
    match rest with
    | [] => (some [], [])
    | c :: more =>
      if c.isDigit then
        let (fraction, rest) := digitsFrom Char.isDigit rest
        (some fraction, rest)
      else if c = '.' || isNameStart c then (none, '.' :: c :: more)
      else (some [], c :: more)
  | rest => (none, rest)

/-- The digits of an exponent with its sign. After a sign there have to be some. -/
def exponentDigits (negative : Bool) (cs : List Char) : Option (Option Int × List Char) :=
  let (digits, rest) := digitsFrom Char.isDigit cs
  let n : Int := Number.digitsValue digits
  if digits.isEmpty then none else some (some (if negative then -n else n), rest)

/-- The exponent of a number with its sign, and the rest. -/
def exponentFrom : List Char → Option (Option Int × List Char)
  | 'e' :: '-' :: rest => exponentDigits true rest
  | 'e' :: '+' :: rest => exponentDigits false rest
  | 'e' :: c :: rest =>
    if c.isDigit then exponentDigits false (c :: rest) else some (none, 'e' :: c :: rest)
  | cs => some (none, cs)

/-- The float of a decimal number. Exponents far outside its range are cut off before anything is
computed. -/
def decimal (digits : Nat) (exponent : Int) : Double :=
  let top := exponent + (Number.decimalLength digits : Int)
  if digits = 0 || top < -400 then .ofFloat 0.0
  else if 400 < top then .ofFloat (1.0 / 0.0)
  else .ofFloat (Float.ofScientific digits (decide (exponent < 0)) exponent.natAbs)

/-- A float with a sign. -/
def signed (negative : Bool) (x : Double) : Double :=
  if negative then .ofFloat (-x.toFloat) else x

/-- The token of a whole number: a float where it is too large for an integer. -/
def wholeToken (negative : Bool) (n : Nat) : Token :=
  if n < Nat.pow 2 63 || (negative && n = Nat.pow 2 63) then .int (if negative then -n else n)
  else .float (signed negative (decimal n 0))

/-- The number of another base at the front, and the rest; integers wrap around. -/
def basedFrom (negative : Bool) (base : Nat) (isDigit : Char → Bool) (cs : List Char) :
    Option (Token × List Char) :=
  let (digits, rest) := digitsFrom isDigit cs
  let n := (digits.filterMap Json.hexValue?).foldl (fun n d => n * base + d) 0
  if digits.isEmpty || Nat.pow 2 64 ≤ n then none
  else some (.int ((if negative then -n else n : Int).bmod (Nat.pow 2 64)), rest)

/-- A character has a value as a digit of a base. -/
def isDigitOf (base : Nat) (c : Char) : Bool :=
  match Json.hexValue? c with
  | some d => decide (d < base)
  | none => false

/-- The decimal number at the front, and the rest. -/
def decimalFrom (negative : Bool) (cs : List Char) : Option (Token × List Char) :=
  let (whole, rest) := digitsFrom Char.isDigit cs
  let (fraction, rest) := fractionFrom rest
  match exponentFrom rest with
  | none => none
  | some (exponent, rest) =>
    match fraction, exponent with
    | none, none => some (wholeToken negative (Number.digitsValue whole), rest)
    | fraction, exponent =>
      let places := fraction.getD []
      some (.float (signed negative (decimal (Number.digitsValue (whole ++ places))
        (exponent.getD 0 - places.length))), rest)

/-- The number at the front, and the rest. -/
def numberFrom (negative : Bool) (cs : List Char) : Option (Token × List Char) :=
  match cs with
  | '0' :: b :: rest =>
    if b = 'x' || b = 'X' then basedFrom negative 16 (isDigitOf 16) rest
    else if b = 'o' || b = 'O' then basedFrom negative 8 (isDigitOf 8) rest
    else if b = 'b' || b = 'B' then basedFrom negative 2 (isDigitOf 2) rest
    else decimalFrom negative cs
  | cs => decimalFrom negative cs

/-! ## All tokens -/

/-- A row of tokens with one more in front. -/
def withToken (t : Option Token) (rest : Option (List Token)) : Option (List Token) :=
  match t, rest with
  | some t, some ts => some (t :: ts)
  | _, _ => none

/-- The sign at the front, and the rest. -/
def signFrom (cs : List Char) : Option (Token × List Char) :=
  if meaningless.any fun s => s.toList.isPrefixOf cs then none
  else (signs.find? fun s => s.toList.isPrefixOf cs).map fun s => (.sign s, cs.drop s.length)

/-- The token at the front, and the rest. `opened` says that an operand can stand there, and
`column` is where the front stands in its line. -/
def tokenFrom (opened : Bool) (column : Nat) : List Char → Option (Token × List Char)
  | '"' :: rest =>
    (quotedFrom '"' (column + 1) (rest.length + 1) rest).map fun r =>
      (.str (String.ofList r.1), r.2)
  | '\'' :: '\'' :: _ => none
  | '\'' :: rest =>
    match quotedFrom '\'' (column + 1) (rest.length + 1) rest with
    | some ([c], rest) => some (.char c, rest)
    | _ => none
  | '!' :: 'i' :: 'n' :: rest =>
    if (rest.head?.map isNameChar).getD false then some (.sign "!", 'i' :: 'n' :: rest)
    else some (.sign "!in", rest)
  | '-' :: c :: rest =>
    if opened && c.isDigit then numberFrom true (c :: rest) else signFrom ('-' :: c :: rest)
  | c :: rest =>
    if c.isDigit then numberFrom false (c :: rest)
    else if isNameStart c then
      (wordOrName (String.ofList (c :: rest.takeWhile isNameChar))).map fun t =>
        (t, rest.dropWhile isNameChar)
    else signFrom (c :: rest)
  | [] => none

/-- The tokens of a text. -/
def tokensFrom : (fuel : Nat) → (opened : Bool) → (column : Nat) → List Char →
    Option (List Token)
  | 0, _, _, _ => none
  | _, _, _, [] => some []
  | fuel + 1, opened, column, '/' :: '/' :: rest =>
    tokensFrom fuel opened (column + 2) (afterLine rest)
  | fuel + 1, opened, column, '/' :: '*' :: rest =>
    let more := afterComment 0 rest
    tokensFrom fuel opened (columnAfter (column + 2) (rest.take (rest.length - more.length))) more
  | fuel + 1, opened, column, c :: rest =>
    if c = '\n' then tokensFrom fuel opened 0 rest
    else if Unicode.isBlank c then tokensFrom fuel opened (column + 1) rest
    else
      match tokenFrom opened column (c :: rest) with
      | some (t, more) =>
        let read := (c :: rest).take (rest.length + 1 - more.length)
        withToken (some t) (tokensFrom fuel t.opens (columnAfter column read) more)
      | none => none

/-- The tokens of a text. -/
def tokens? (cs : List Char) : Option (List Token) :=
  tokensFrom (cs.length + 1) true 0 cs

end Stencil.Script
