import Stencil.Number.Literal
import Stencil.Value

/-!
# Reading JSON

A reader for the JSON grammar that refuses everything else: no comments, no trailing commas, no
text after the value. Three limits are part of the format. Lists and maps nest at most `depth`
levels; a number must fit a double; and a `\u` escape of a surrogate must come with its partner.
A key that comes twice keeps its first place and its last value.

Each function takes the characters and gives what it read with the characters that follow. The
number `fuel` bounds the calls: every call but the last of a chain consumes a character, so the
length of the text is enough, and `read?` supplies it.
-/

set_option autoImplicit false

namespace Stencil.Json

/-! ## Tokens -/

/-- The blanks between tokens. -/
def isBlank (c : Char) : Bool :=
  c = ' ' || c = '\n' || c = '\t' || c = '\r'

def skipBlanks (cs : List Char) : List Char :=
  cs.dropWhile isBlank

/-- The value of a hexadecimal digit. -/
def hexValue? (c : Char) : Option Nat :=
  if '0' ≤ c ∧ c ≤ '9' then some (c.toNat - '0'.toNat)
  else if 'a' ≤ c ∧ c ≤ 'f' then some (c.toNat - 'a'.toNat + 10)
  else if 'A' ≤ c ∧ c ≤ 'F' then some (c.toNat - 'A'.toNat + 10)
  else none

/-- Four hexadecimal digits. -/
def hex4? : List Char → Option (Nat × List Char)
  | a :: b :: c :: d :: rest => do
    let a ← hexValue? a
    let b ← hexValue? b
    let c ← hexValue? c
    let d ← hexValue? d
    return (((a * 16 + b) * 16 + c) * 16 + d, rest)
  | _ => none

/-- The character of a `\u` escape, whose first four digits follow. -/
def unicodeEscape? (cs : List Char) : Option (Char × List Char) := do
  let (high, rest) ← hex4? cs
  if 0xDC00 ≤ high ∧ high < 0xE000 then none
  else if 0xD800 ≤ high ∧ high < 0xDC00 then
    match rest with
    | '\\' :: 'u' :: rest =>
      let (low, rest) ← hex4? rest
      if 0xDC00 ≤ low ∧ low < 0xE000 then
        some (Char.ofNat (0x10000 + (high - 0xD800) * 0x400 + (low - 0xDC00)), rest)
      else none
    | _ => none
  else some (Char.ofNat high, rest)

/-- The character that an escape stands for, and what follows it. -/
def escape? : List Char → Option (Char × List Char)
  | '"' :: rest => some ('"', rest)
  | '\\' :: rest => some ('\\', rest)
  | '/' :: rest => some ('/', rest)
  | 'b' :: rest => some ('\x08', rest)
  | 'f' :: rest => some ('\x0c', rest)
  | 'n' :: rest => some ('\n', rest)
  | 'r' :: rest => some ('\r', rest)
  | 't' :: rest => some ('\t', rest)
  | 'u' :: rest => unicodeEscape? rest
  | _ => none

/-- The rest of a string literal, up to its closing quote. -/
def stringBody? : (fuel : Nat) → List Char → Option (List Char × List Char)
  | 0, _ => none
  | _ + 1, [] => none
  | fuel + 1, c :: rest =>
    if c = '"' then some ([], rest)
    else if c = '\\' then do
      let (e, rest) ← escape? rest
      let (body, rest) ← stringBody? fuel rest
      return (e :: body, rest)
    else if c.toNat < 32 then none
    else do
      let (body, rest) ← stringBody? fuel rest
      return (c :: body, rest)

/-- The digits at the front. -/
def digits (cs : List Char) : List Char × List Char :=
  (cs.takeWhile Char.isDigit, cs.dropWhile Char.isDigit)

/-- The digits before the point: no zero in front of other digits. -/
def wholePart? (cs : List Char) : Option (List Char × List Char) :=
  match digits cs with
  | ([], _) => none
  | (['0'], rest) => some (['0'], rest)
  | ('0' :: _, _) => none
  | found => some found

/-- The point and the digits after it, if there is a point. -/
def fractionPart? (cs : List Char) : Option (List Char × List Char) :=
  match cs with
  | '.' :: rest =>
    match digits rest with
    | ([], _) => none
    | found => some found
  | _ => some ([], cs)

/-- The exponent, if there is one. -/
def exponentPart? (cs : List Char) : Option (Option Int × List Char) :=
  let body (negative : Bool) (rest : List Char) : Option (Option Int × List Char) :=
    match digits rest with
    | ([], _) => none
    | (ds, rest) =>
      let n : Int := Number.digitsValue ds
      some (some (if negative then -n else n), rest)
  match cs with
  | c :: rest =>
    if c = 'e' ∨ c = 'E' then
      match rest with
      | '+' :: rest => body false rest
      | '-' :: rest => body true rest
      | _ => body false rest
    else some (none, cs)
  | [] => some (none, [])

/-- A number after its sign. -/
def number? (negative : Bool) (cs : List Char) : Option (Value × List Char) := do
  let (whole, rest) ← wholePart? cs
  let (fraction, rest) ← fractionPart? rest
  let (exponent, rest) ← exponentPart? rest
  match Number.Literal.value? ⟨negative, whole, fraction, exponent⟩ with
  | some (.int n) => some (.int n, rest)
  | some (.float x) => some (.float x, rest)
  | none => none

/-! ## Values -/

mutual

/-- A value, with `depth` levels of nesting allowed. -/
def value? : (fuel depth : Nat) → List Char → Option (Value × List Char)
  | 0, _, _ => none
  | fuel + 1, depth, cs =>
    match skipBlanks cs with
    | 'n' :: 'u' :: 'l' :: 'l' :: rest => some (.null, rest)
    | 't' :: 'r' :: 'u' :: 'e' :: rest => some (.bool true, rest)
    | 'f' :: 'a' :: 'l' :: 's' :: 'e' :: rest => some (.bool false, rest)
    | '"' :: rest => (stringBody? fuel rest).map fun (s, rest) => (.str (String.ofList s), rest)
    | '-' :: rest => number? true rest
    | '[' :: rest =>
      match depth with
      | 0 => none
      | depth + 1 =>
        match skipBlanks rest with
        | ']' :: rest => some (.list [], rest)
        | rest => (items? fuel depth rest).map fun (items, rest) => (.list items, rest)
    | '{' :: rest =>
      match depth with
      | 0 => none
      | depth + 1 =>
        match skipBlanks rest with
        | '}' :: rest => some (.map [], rest)
        | rest => (fields? fuel depth rest).map fun (fields, rest) =>
            (.map (Fields.ofList fields), rest)
    | rest => number? false rest

/-- The elements of a list that is not empty, up to its closing bracket. -/
def items? : (fuel depth : Nat) → List Char → Option (List Value × List Char)
  | 0, _, _ => none
  | fuel + 1, depth, cs => do
    let (v, rest) ← value? fuel depth cs
    match skipBlanks rest with
    | ']' :: rest => some ([v], rest)
    | ',' :: rest => (items? fuel depth rest).map fun (vs, rest) => (v :: vs, rest)
    | _ => none

/-- The entries of a map that is not empty, up to its closing brace. -/
def fields? : (fuel depth : Nat) → List Char → Option (List (String × Value) × List Char)
  | 0, _, _ => none
  | fuel + 1, depth, cs =>
    match skipBlanks cs with
    | '"' :: rest => do
      let (key, rest) ← stringBody? fuel rest
      match skipBlanks rest with
      | ':' :: rest =>
        let (v, rest) ← value? fuel depth rest
        match skipBlanks rest with
        | '}' :: rest => some ([(String.ofList key, v)], rest)
        | ',' :: rest =>
          (fields? fuel depth rest).map fun (es, rest) => ((String.ofList key, v) :: es, rest)
        | _ => none
      | _ => none
    | _ => none

end

/-- The deepest nesting that a reader accepts. -/
def depthLimit : Nat := 127

/-- The value that a text holds, with nothing but blanks around it. -/
def readChars? (cs : List Char) : Option Value := do
  let (v, rest) ← value? (2 * cs.length + 1) depthLimit cs
  if (skipBlanks rest).isEmpty then some v else none

/-- `readChars?` on strings. -/
def read? (text : String) : Option Value :=
  readChars? text.toList

end Stencil.Json
