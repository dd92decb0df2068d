/-!
# The words of a command line

Cutting a command line into words in the way of the shell, without expanding anything: blanks
separate words, quotes and backslashes keep them together, and a `#` at the start of a word hides
the rest of the line. The reading goes character by character; where it stands is a `Mode`.

A line that ends inside quotes or after a backslash has no words at all.
-/

set_option autoImplicit false

namespace Stencil.Shell

/-- Where a reading of words stands. -/
inductive Mode where
  | between
  | comment
  | word
  | escape
  | single
  | double
  | doubleEscape
  deriving DecidableEq

/-- A reading of words: the word that is being read, and those before it, last first. -/
structure WordReading where
  mode : Mode
  word : List Char
  done : List String

namespace WordReading

/-- The reading before the first character. -/
def start : WordReading := ⟨.between, [], []⟩

/-- The characters between words. -/
def isBlank (c : Char) : Bool :=
  c == ' ' || c == '\t' || c == '\n'

/-- The characters that a backslash between double quotes stands before. -/
def isEscapable (c : Char) : Bool :=
  "$`\"\\".toList.contains c

/-- One more character for the word. -/
def push (r : WordReading) (mode : Mode) (c : Char) : WordReading :=
  { r with mode := mode, word := c :: r.word }

/-- The word is complete. -/
def finish (r : WordReading) : WordReading :=
  ⟨.between, [], String.ofList r.word.reverse :: r.done⟩

/-- A character of a word outside quotes. -/
def plain (r : WordReading) (c : Char) : WordReading :=
  if c = '"' then { r with mode := .double }
  else if c = '\'' then { r with mode := .single }
  else if c = '\\' then { r with mode := .escape }
  else if isBlank c then r.finish
  else r.push .word c

/-- The next character. -/
def step (r : WordReading) (c : Char) : WordReading :=
  match r.mode with
  | .between =>
    if isBlank c then r
    else if c = '#' then { r with mode := .comment }
    else r.plain c
  | .comment => if c = '\n' then { r with mode := .between } else r
  | .word => r.plain c
  | .escape => if c = '\n' then { r with mode := .word } else r.push .word c
  | .single => if c = '\'' then { r with mode := .word } else r.push .single c
  | .double =>
    if c = '"' then { r with mode := .word }
    else if c = '\\' then { r with mode := .doubleEscape }
    else r.push .double c
  | .doubleEscape =>
    if isEscapable c then r.push .double c
    else if c = '\n' then { r with mode := .double }
    else (r.push .double '\\').push .double c

/-- The words at the end of the line. -/
def words? (r : WordReading) : Option (List String) :=
  match r.mode with
  | .between | .comment => some r.done.reverse
  | .word => some r.finish.done.reverse
  | _ => none

end WordReading

/-- The words of a command line. -/
def words? (line : String) : Option (List String) :=
  (line.toList.foldl WordReading.step .start).words?

end Stencil.Shell
