/-!
# Tokens of command lines

A command line as the shell sees it: words and operators. A word is a row of pieces, which say
where its text comes from and whether quotes protect it; what `$( )` and `$(( ))` hold stays text
until it is needed.

A text that ends inside quotes or brackets has a broken end. The tokens before it still count,
since a shell has carried out the lines before by then.
-/

set_option autoImplicit false

namespace Stencil.Shell

/-- What is made of the value of a variable. Some uses tell whether the variable is there, where
an empty one may count as not there; they have a word for one of the two cases. -/
inductive Use where
  | value
  | length
  /-- The word in the absence of the variable. -/
  | fallback (emptyToo : Bool)
  /-- The word in its absence, which also becomes its value. -/
  | assign (emptyToo : Bool)
  /-- The word in its presence. -/
  | alternative (emptyToo : Bool)
  /-- A complaint in its absence. -/
  | demand (emptyToo : Bool)
  /-- The value without a front that matches the word. -/
  | withoutFront (longest : Bool)
  /-- The value without a back that matches the word. -/
  | withoutBack (longest : Bool)

/-- A use that makes no sense in the absence of the variable. -/
def Use.needs : Use → Bool
  | .value => true
  | .length => true
  | .withoutFront _ => true
  | .withoutBack _ => true
  | _ => false

/-- A part of a word. -/
inductive Piece where
  /-- Text outside quotes. -/
  | plain (s : List Char)
  /-- Text that quotes protect. -/
  | quoted (s : List Char)
  /-- What is made of a variable. -/
  | variable (inQuotes : Bool) (name : String) (use : Use) (word : List Piece)
  /-- The value of an arithmetic expression. -/
  | sum (inQuotes : Bool) (expression : List Char)
  /-- The output of commands. -/
  | output (inQuotes : Bool) (commands : List Char)

/-- The pieces of a word, from left to right. -/
abbrev Word := List Piece

/-- A token. -/
inductive Token where
  | word (w : Word)
  /-- An operator or the end of a line. -/
  | operator (s : String)
  /-- A redirection operator, with the descriptor in front of it. -/
  | redirect (descriptor : Option Nat) (s : String)
  /-- The end of a text that breaks off. -/
  | broken

namespace Word

/-- The text of a word that has nothing to protect or expand. -/
def literal? : Word → Option (List Char)
  | [] => some []
  | .plain s :: rest => (literal? rest).map (s ++ ·)
  | _ => none

/-- Plain text in front of a word, joined to plain text it starts with. -/
def addPlain (c : Char) : Word → Word
  | .plain s :: rest => .plain (c :: s) :: rest
  | w => .plain [c] :: w

end Word

/-! ## Characters -/

/-- A character that may start a name. -/
def isNameStart (c : Char) : Bool :=
  c.isAlpha || c == '_'

/-- A character of a name. -/
def isNameChar (c : Char) : Bool :=
  c.isAlphanum || c == '_'

/-- A character that ends a word outside quotes. -/
def endsWord (c : Char) : Bool :=
  " \t\n;&|()<>".toList.contains c

/-- A character that is itself the name of a parameter. -/
def isParameter (c : Char) : Bool :=
  c.isDigit || "?$#@*!-".toList.contains c

/-- A character that a backslash between double quotes protects. -/
def isProtectable (c : Char) : Bool :=
  "$`\"\\".toList.contains c

/-- The text up to a bracket that closes, and the rest after it. Brackets between quotes do not
count. -/
def closing (opens closes : Char) : (depth : Nat) → Option Char → List Char →
    Option (List Char × List Char)
  | _, _, [] => none
  | depth, none, '\\' :: c :: rest =>
    (closing opens closes depth none rest).map fun r => ('\\' :: c :: r.1, r.2)
  | depth, none, c :: rest =>
    if c = closes && depth = 0 then some ([], rest)
    else
      let depth := if c = opens then depth + 1 else if c = closes then depth - 1 else depth
      let quote := if c = '\'' || c = '"' then some c else none
      (closing opens closes depth quote rest).map fun r => (c :: r.1, r.2)
  | depth, some q, c :: rest =>
    (closing opens closes depth (if c = q then none else some q) rest).map fun r => (c :: r.1, r.2)

/-- The text up to a mark, and the rest after it. -/
def upTo (mark : Char) : List Char → Option (List Char × List Char)
  | [] => none
  | c :: rest => if c = mark then some ([], rest) else (upTo mark rest).map fun r => (c :: r.1, r.2)

/-! ## Words -/

/-- The use of a variable that a text starts with, and the rest after it. -/
def useFrom : List Char → Option (Use × List Char)
  | [] => some (.value, [])
  | ':' :: '-' :: rest => some (.fallback true, rest)
  | ':' :: '=' :: rest => some (.assign true, rest)
  | ':' :: '+' :: rest => some (.alternative true, rest)
  | ':' :: '?' :: rest => some (.demand true, rest)
  | '-' :: rest => some (.fallback false, rest)
  | '=' :: rest => some (.assign false, rest)
  | '+' :: rest => some (.alternative false, rest)
  | '?' :: rest => some (.demand false, rest)
  | '#' :: '#' :: rest => some (.withoutFront true, rest)
  | '#' :: rest => some (.withoutFront false, rest)
  | '%' :: '%' :: rest => some (.withoutBack true, rest)
  | '%' :: rest => some (.withoutBack false, rest)
  | _ => none

/-- The name and the use of a variable between braces, and the text of the word. -/
def braced (body : List Char) : Option (String × Use × List Char) :=
  let nameOf (cs : List Char) : List Char :=
    if cs.head?.any isParameter then cs.take 1 else cs.takeWhile isNameChar
  match body with
  | '#' :: c :: rest =>
    let name := nameOf (c :: rest)
    if name.length = rest.length + 1 then some (String.ofList name, .length, [])
    else (useFrom (c :: rest)).map fun r => ("#", r)
  | body =>
    match nameOf body with
    | [] => none
    | name => (useFrom (body.drop name.length)).map fun r => (String.ofList name, r)

mutual

/-- The piece after a dollar sign, and the rest. -/
def afterDollar : (fuel : Nat) → (inQuotes : Bool) → List Char → Option (Piece × List Char)
  | 0, _, _ => none
  | _, inQuotes, '(' :: '(' :: rest =>
    match closing '(' ')' 0 none rest with
    | some (body, ')' :: rest) => some (.sum inQuotes body, rest)
    | _ => none
  | _, inQuotes, '(' :: rest =>
    (closing '(' ')' 0 none rest).map fun r => (.output inQuotes r.1, r.2)
  | fuel + 1, inQuotes, '{' :: rest =>
    match closing '{' '}' 0 none rest with
    | some (body, rest) =>
      match braced body with
      | some (name, use, text) =>
        let word? := if inQuotes then doubleFrom fuel (text ++ ['"']) else wordFrom fuel true text
        word?.map fun r => (.variable inQuotes name use r.1, rest)
      | none => none
    | none => none
  | _, inQuotes, c :: rest =>
    if isParameter c then some (.variable inQuotes (String.ofList [c]) .value [], rest)
    else if isNameStart c then
      some (.variable inQuotes (String.ofList (c :: rest.takeWhile isNameChar)) .value [],
        rest.dropWhile isNameChar)
    else some (.quoted ['$'], c :: rest)
  | _, _, [] => some (.quoted ['$'], [])

/-- The rest of a word outside quotes, and what follows it. Nothing follows a word that takes up
the whole text. -/
def wordFrom : (fuel : Nat) → (whole : Bool) → List Char → Option (List Piece × List Char)
  | 0, _, _ => none
  | _, _, [] => some ([], [])
  | _, _, ['\\'] => some ([.quoted ['\\']], [])
  | fuel + 1, whole, '\\' :: '\n' :: rest => wordFrom fuel whole rest
  | fuel + 1, whole, '\\' :: c :: rest =>
    (wordFrom fuel whole rest).map fun r => (.quoted [c] :: r.1, r.2)
  | fuel + 1, whole, '\'' :: rest =>
    match upTo '\'' rest with
    | some (s, rest) => (wordFrom fuel whole rest).map fun r => (.quoted s :: r.1, r.2)
    | none => none
  | fuel + 1, whole, '"' :: rest =>
    match doubleFrom fuel rest with
    | some (w, rest) => (wordFrom fuel whole rest).map fun r => (.quoted [] :: w ++ r.1, r.2)
    | none => none
  | fuel + 1, whole, '$' :: rest =>
    match afterDollar fuel false rest with
    | some (p, rest) => (wordFrom fuel whole rest).map fun r => (p :: r.1, r.2)
    | none => none
  | fuel + 1, whole, c :: rest =>
    if c.toNat = 96 then
      match upTo c rest with
      | some (s, rest) => (wordFrom fuel whole rest).map fun r => (.output false s :: r.1, r.2)
      | none => none
    else if !whole && endsWord c then some ([], c :: rest)
    else (wordFrom fuel whole rest).map fun r => (Word.addPlain c r.1, r.2)

/-- The pieces of a word up to a double quote that closes, and what follows it. -/
def doubleFrom : (fuel : Nat) → List Char → Option (List Piece × List Char)
  | 0, _ => none
  | _, [] => none
  | _, '"' :: rest => some ([], rest)
  | fuel + 1, '\\' :: '\n' :: rest => doubleFrom fuel rest
  | fuel + 1, '\\' :: c :: rest =>
    let s := if isProtectable c then [c] else ['\\', c]
    (doubleFrom fuel rest).map fun r => (.quoted s :: r.1, r.2)
  | fuel + 1, '$' :: rest =>
    match afterDollar fuel true rest with
    | some (p, rest) => (doubleFrom fuel rest).map fun r => (p :: r.1, r.2)
    | none => none
  | fuel + 1, c :: rest =>
    if c.toNat = 96 then
      match upTo c rest with
      | some (s, rest) => (doubleFrom fuel rest).map fun r => (.output true s :: r.1, r.2)
      | none => none
    else (doubleFrom fuel rest).map fun r => (.quoted [c] :: r.1, r.2)

end

/-! ## Tokens -/

/-- The redirection operators, longer ones first. -/
def redirectOperators : List String := [">>", ">&", ">|", "<&", "<>", ">", "<"]

/-- The other operators, longer ones first. -/
def operators : List String := ["&&", "||", ";;", ";", "&", "|", "(", ")", "\n"]

/-- The first of some texts that a text starts with, and the rest after it. -/
def startsWithOne (texts : List String) (cs : List Char) : Option (String × List Char) :=
  (texts.find? fun t => t.toList.isPrefixOf cs).map fun t => (t, cs.drop t.length)

/-- The descriptor in front of a redirection operator. -/
def descriptor? (cs : List Char) : Option (Nat × List Char) :=
  let digits := cs.takeWhile Char.isDigit
  let rest := cs.dropWhile Char.isDigit
  if digits.isEmpty then none
  else if rest.head? = some '<' || rest.head? = some '>' then
    some (digits.foldl (fun n c => n * 10 + (c.toNat - '0'.toNat)) 0, rest)
  else none

/-- The tokens of a text. -/
def tokensFrom : (fuel : Nat) → List Char → List Token
  | 0, _ => []
  | _, [] => []
  | fuel + 1, '\\' :: '\n' :: rest => tokensFrom fuel rest
  | fuel + 1, c :: rest =>
    if c = ' ' || c = '\t' then tokensFrom fuel rest
    else if c = '#' then tokensFrom fuel (rest.dropWhile (· != '\n'))
    else
      let (descriptor, cs) := match descriptor? (c :: rest) with
        | some (n, cs) => (some n, cs)
        | none => (none, c :: rest)
      match startsWithOne redirectOperators cs with
      | some (s, rest) => .redirect descriptor s :: tokensFrom fuel rest
      | none =>
        match startsWithOne operators cs with
        | some (s, rest) => .operator s :: tokensFrom fuel rest
        | none =>
          match wordFrom (2 * cs.length + 2) false cs with
          | some (w, rest) => .word w :: tokensFrom fuel rest
          | none => [.broken]

/-- The tokens of a text. -/
def tokens (cs : List Char) : List Token :=
  tokensFrom (cs.length + 1) cs

end Stencil.Shell
