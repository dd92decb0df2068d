import Stencil.Shell.Token

/-!
# Commands

The structure of a command line: simple commands put together with separators, `&&`, `||`, `|`,
`!`, brackets, `if`, `case` and loops. A shell reads a text line by line, where a line goes on as long as
a command is open; so a line that cannot be read leaves the lines before it in force.
-/

set_option autoImplicit false

namespace Stencil.Shell

/-- A redirection of a descriptor. -/
structure Redirection where
  descriptor : Option Nat
  operator : String
  target : Word

/-- A command. -/
inductive Command where
  | simple (assignments : List (String × Word)) (words : List Word)
      (redirections : List Redirection)
  | redirected (c : Command) (redirections : List Redirection)
  | invert (c : Command)
  | both (first second : Command)
  | either (first second : Command)
  | inOrder (first second : Command)
  /-- Commands with the output of each going to the next. -/
  | pipe (first second : Command)
  | subshell (c : Command)
  | choice (condition positive : Command) (negative : Option Command)
  | each (name : String) (words : List Word) (body : Command)
  /-- The body again and again, as long as the condition ends well or, the other way round, as long
  as it does not. -/
  | repeated (wanted : Bool) (condition body : Command)
  /-- The commands of the first row of patterns that the word matches. -/
  | select (word : Word) (arms : List (List Word × Command))

/-- Does nothing. -/
def Command.nothing : Command := .simple [] [] []

/-! ## Reading -/

/-- The rest of the tokens after what was read, or nothing where the tokens cannot be read. -/
abbrev Read (α : Type) := Option (α × List Token)

/-- The text of a token that is a word without quotes. -/
def keyword (t : Token) : Option (List Char) :=
  match t with
  | .word w => w.literal?
  | _ => none

/-- A token is the given word. -/
def isKeyword (s : String) (t : Token) : Bool :=
  keyword t == some s.toList

/-- A token is the given operator. -/
def isOperator (s : String) : Token → Bool
  | .operator t => s == t
  | _ => false

/-- The words that end a row of commands. -/
def closingWords : List String := ["then", "else", "elif", "fi", "do", "done", "esac", "\x7d"]

/-- A row of commands ends before the tokens. -/
def atEnd : List Token → Bool
  | [] => true
  | t :: _ =>
    closingWords.any (isKeyword · t) || isOperator ")" t || isOperator ";;" t || isOperator "\n" t

/-- The tokens after line ends. -/
def skipLines : List Token → List Token
  | .operator "\n" :: rest => skipLines rest
  | ts => ts

/-- The tokens after a given word. -/
def after? (s : String) : List Token → Option (List Token)
  | t :: rest => if isKeyword s t then some rest else none
  | [] => none

/-- The name and value of an assignment. -/
def assignment? : Word → Option (String × Word)
  | .plain s :: rest =>
    let name := s.takeWhile isNameChar
    match name, s.drop name.length with
    | c :: _, '=' :: value =>
      if isNameStart c then
        some (String.ofList name, if value.isEmpty then rest else .plain value :: rest)
      else none
    | _, _ => none
  | _ => none

/-- Redirections in front of the tokens. -/
def redirections : List Token → List Redirection × List Token
  | .redirect d s :: .word w :: rest =>
    let (more, rest) := redirections rest
    (⟨d, s, w⟩ :: more, rest)
  | ts => ([], ts)

/-- The parts of a simple command. -/
def simpleParts : List Token → List Word × List Redirection × List Token
  | .redirect d s :: .word w :: rest =>
    let (words, more, rest) := simpleParts rest
    (words, ⟨d, s, w⟩ :: more, rest)
  | .word w :: rest =>
    let (words, more, rest) := simpleParts rest
    (w :: words, more, rest)
  | ts => ([], [], ts)

/-- The assignments that words start with, and the other words. -/
def assignments : List Word → List (String × Word) × List Word
  | [] => ([], [])
  | w :: rest =>
    match assignment? w with
    | some a =>
      let (more, words) := assignments rest
      (a :: more, words)
    | none => ([], w :: rest)

/-- Reads a simple command. -/
def simple (ts : List Token) : Read Command :=
  match simpleParts ts with
  | ([], [], _) => none
  | (_, _, .redirect _ _ :: _) => none
  | (words, redirections, rest) =>
    let (as, words) := assignments words
    some (.simple as words redirections, rest)

/-- The words of a loop up to the end of its first line. -/
def loopWords : List Token → Read (List Word)
  | .word w :: rest => (loopWords rest).map fun r => (w :: r.1, r.2)
  | .operator ";" :: rest => some ([], skipLines rest)
  | .operator "\n" :: rest => some ([], skipLines rest)
  | _ => none

/-- The name and the words of a loop. -/
def loopHead : List Token → Read (String × List Word)
  | name :: keyIn :: rest =>
    match keyword name with
    | some n =>
      if n.head?.any isNameStart && n.all isNameChar && isKeyword "in" keyIn then
        (loopWords rest).map fun r => ((String.ofList n, r.1), r.2)
      else none
    | none => none
  | _ => none

/-- The patterns of an arm up to the bracket that closes them. -/
def armPatterns : List Token → Read (List Word)
  | .word w :: .operator "|" :: rest => (armPatterns rest).map fun r => (w :: r.1, r.2)
  | .word w :: .operator ")" :: rest => some ([w], rest)
  | _ => none

/-- The word of a selection. -/
def selected : List Token → Read Word
  | .word w :: rest => (after? "in" (skipLines rest)).map fun rest => (w, rest)
  | _ => none

mutual

/-- Reads a command. -/
def command : (fuel : Nat) → List Token → Read Command
  | 0, _ => none
  | _, [] => none
  | fuel + 1, t :: rest =>
    let compound (read : Read Command) : Read Command :=
      read.map fun (c, rest) =>
        match redirections rest with
        | ([], rest) => (c, rest)
        | (rs, rest) => (.redirected c rs, rest)
    if isOperator "(" t then
      match row fuel true rest with
      | some (c, .operator ")" :: rest) => compound (some (.subshell c, rest))
      | _ => none
    else if isKeyword "\x7b" t then
      match row fuel true rest with
      | some (c, rest) => compound ((after? "\x7d" rest).map fun rest => (c, rest))
      | none => none
    else if isKeyword "if" t then compound (choice fuel rest)
    else if isKeyword "for" t then
      match loopHead rest with
      | some ((name, words), rest) =>
        compound ((after? "do" rest).bind fun rest =>
          (row fuel true rest).bind fun (body, rest) =>
            (after? "done" rest).map fun rest => (.each name words body, rest))
      | none => none
    else if isKeyword "while" t then compound (loop fuel true rest)
    else if isKeyword "until" t then compound (loop fuel false rest)
    else if isKeyword "case" t then
      match selected rest with
      | some (w, rest) => compound ((arms fuel rest).map fun r => (.select w r.1, r.2))
      | none => none
    else if atEnd (t :: rest) then none
    else simple (t :: rest)

/-- Reads what follows a `while` or an `until`. -/
def loop : (fuel : Nat) → (wanted : Bool) → List Token → Option (Command × List Token)
  | 0, _, _ => none
  | fuel + 1, wanted, ts => do
    let (condition, ts) ← row fuel true ts
    let ts ← after? "do" ts
    let (body, ts) ← row fuel true ts
    let ts ← after? "done" ts
    some (.repeated wanted condition body, ts)

/-- Reads the arms of a selection. -/
def arms : (fuel : Nat) → List Token → Option (List (List Word × Command) × List Token)
  | 0, _ => none
  | fuel + 1, ts =>
    let ts := skipLines ts
    match after? "esac" ts with
    | some rest => some ([], rest)
    | none => do
      let ts := match ts with
        | .operator "(" :: rest => rest
        | ts => ts
      let (patterns, ts) ← armPatterns ts
      let ts := skipLines ts
      let (c, ts) ← if atEnd ts then some (Command.nothing, ts) else row fuel true ts
      match skipLines ts with
      | .operator ";;" :: ts => (arms fuel ts).map fun r => ((patterns, c) :: r.1, r.2)
      | ts => (after? "esac" ts).map fun rest => ([(patterns, c)], rest)

/-- Reads what follows an `if`. -/
def choice : (fuel : Nat) → List Token → Option (Command × List Token)
  | 0, _ => none
  | fuel + 1, ts => do
    let (condition, ts) ← row fuel true ts
    let ts ← after? "then" ts
    let (positive, ts) ← row fuel true ts
    match after? "fi" ts with
    | some rest => some (.choice condition positive none, rest)
    | none =>
      match after? "elif" ts with
      | some ts => do
        let (negative, ts) ← choice fuel ts
        some (.choice condition positive (some negative), ts)
      | none => do
        let ts ← after? "else" ts
        let (negative, ts) ← row fuel true ts
        let ts ← after? "fi" ts
        some (.choice condition positive (some negative), ts)

/-- Reads commands with the output of each going to the next. -/
def pipeline : (fuel : Nat) → List Token → Read Command
  | 0, _ => none
  | fuel + 1, ts =>
    match after? "!" ts with
    | some ts =>
      if (after? "!" ts).isSome then none
      else (pipeline fuel ts).map fun r => (.invert r.1, r.2)
    | none =>
      match command fuel ts with
      | some (c, .operator "|" :: rest) =>
        (pipeline fuel (skipLines rest)).map fun r => (.pipe c r.1, r.2)
      | read => read

/-- Reads what follows a command that `&&` and `||` can go on from. -/
def furtherPipelines : (fuel : Nat) → Command → List Token → Read Command
  | 0, _, _ => none
  | fuel + 1, c, .operator s :: rest =>
    if s = "&&" || s = "||" then
      match pipeline fuel (skipLines rest) with
      | some (d, rest) =>
        furtherPipelines fuel (if s = "&&" then .both c d else .either c d) rest
      | none => none
    else some (c, .operator s :: rest)
  | _, c, ts => some (c, ts)

/-- Reads a row of commands. Inside brackets it may have several lines. -/
def row : (fuel : Nat) → (lines : Bool) → List Token → Option (Command × List Token)
  | 0, _, _ => none
  | fuel + 1, lines, ts => do
    let ts := if lines then skipLines ts else ts
    let (c, ts) ← pipeline fuel ts
    let (c, ts) ← furtherPipelines fuel c ts
    match ts with
    | .operator s :: rest =>
      if s = ";" || s = "&" || (lines && s = "\n") then
        let rest := if lines then skipLines rest else rest
        if atEnd rest then some (c, rest)
        else do
          let (d, rest) ← row fuel lines rest
          some (.inOrder c d, rest)
      else some (c, ts)
    | _ => some (c, ts)

end

/-- Reads the lines of a text. Nothing stands for a line that cannot be read; it is the last. -/
def linesFrom : (fuel : Nat) → List Token → List (Option Command)
  | 0, _ => []
  | fuel + 1, ts =>
    match skipLines ts with
    | [] => []
    | ts =>
      match row (4 * ts.length + 4) false ts with
      | some (c, []) => [some c]
      | some (c, .operator "\n" :: rest) => some c :: linesFrom fuel rest
      | _ => [none]

/-- Reads the lines of a text. -/
def lines (cs : List Char) : List (Option Command) :=
  let ts := tokens cs
  linesFrom (ts.length + 1) ts

end Stencil.Shell
