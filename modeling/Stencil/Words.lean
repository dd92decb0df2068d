import Stencil.Unicode.Case
import Stencil.Unicode.Letter

/-!
# Words and naming conventions

A name such as `HTTPServer2Api` or `my-cool plugin` is a sequence of words, and a naming
convention is a way to write that sequence. Words are runs of letters and digits. Inside a run a
new word starts at an upper case letter that follows a lower case letter or a number, or that ends
an acronym: one that follows an upper case letter and has a lower case letter after it
(`HTTP`, `Server`).
-/

set_option autoImplicit false

namespace Stencil.Words

open Unicode

/-! ## Splitting -/

/-- A new word starts at `c`, which follows `prev` in a run and has `next` after it. -/
def startsWord (prev c : Char) (next : Option Char) : Bool :=
  isUppercase c &&
    (isLowercase prev || isNumeric prev || (isUppercase prev && next.any isLowercase))

/-- The words of a text, given the word that is being gathered, last character first. -/
def splitFrom : (current : List Char) → List Char → List (List Char)
  | [], [] => []
  | current, [] => [current.reverse]
  | [], c :: rest => if isAlphanumeric c then splitFrom [c] rest else splitFrom [] rest
  | prev :: more, c :: rest =>
    if !isAlphanumeric c then (prev :: more).reverse :: splitFrom [] rest
    else if startsWord prev c rest.head? then (prev :: more).reverse :: splitFrom [c] rest
    else splitFrom (c :: prev :: more) rest

/-- The words of a text. -/
def split (cs : List Char) : List (List Char) :=
  splitFrom [] cs

/-! ## One word -/

/-- A word with its first character in upper case. -/
def upperFirst : List Char → List Char
  | [] => []
  | c :: rest => upper c ++ rest

/-- A word with its first character in lower case. -/
def lowerFirst : List Char → List Char
  | [] => []
  | c :: rest => lower c ++ rest

/-! ## Conventions -/

/-- `MyCoolPlugin` -/
def pascalCase (cs : List Char) : List Char :=
  (split cs).flatMap upperFirst

/-- `myCoolPlugin` -/
def camelCase (cs : List Char) : List Char :=
  lowerFirst (pascalCase cs)

/-- The words in lower case with a separator between them. -/
def lowerJoined (sep : Char) (cs : List Char) : List Char :=
  [sep].intercalate ((split cs).map (lowerAfter []))

/-- `my_cool_plugin` -/
def snakeCase (cs : List Char) : List Char :=
  lowerJoined '_' cs

/-- `my-cool-plugin` -/
def kebabCase (cs : List Char) : List Char :=
  lowerJoined '-' cs

/-- `My Cool Plugin`, from any convention. -/
def spaced (cs : List Char) : List Char :=
  [' '].intercalate ((split cs).map upperFirst)

/-- `MCP`: the first characters of the words, in upper case. -/
def initials (cs : List Char) : List Char :=
  (split cs).flatMap fun word => (word.take 1).flatMap upper

/-- Upper case at the start of every run of letters and digits and lower case in the rest of it;
what stands between the runs is kept. -/
def titleFrom : (atStart : Bool) → List Char → List Char
  | _, [] => []
  | atStart, c :: rest =>
    if isAlphanumeric c then (if atStart then upper c else lower c) ++ titleFrom false rest
    else c :: titleFrom true rest

/-- `My Cool-Plugin`, from `my cOOL-plugin`. -/
def titleCase (cs : List Char) : List Char :=
  titleFrom true cs

end Stencil.Words
