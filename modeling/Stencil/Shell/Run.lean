import Stencil.Directive.Run
import Stencil.Shell.Command
import Stencil.Shell.Expand
import Stencil.Shell.Test

/-!
# Running command lines

A small shell: the commands that are built in, redirections, and the structure of command lines.
No other program can be called, except the shell itself, so a command that is not built in is not
found.

Everything is structural recursion over the command. Only text that is carried out as commands,
in `$( )`, `eval` and `sh -c`, needs a bound on its nesting.
-/

set_option autoImplicit false

namespace Stencil.Shell

/-! ## Redirections -/

/-- The location that a path leads to, and whether it is the device that swallows everything. -/
def isNull (p : Path) : Bool :=
  p.same ⟨"/dev/null"⟩

/-- Why a file cannot be made. -/
def cannotCreate (s : State) (p : Path) : String :=
  if s.files.isDir p then s!"cannot create {p.text}: Is a directory"
  else s!"cannot create {p.text}: Directory nonexistent"

/-- Points a descriptor at a file that is made empty, or is kept if it is appended to. -/
def openForWriting (s : State) (descriptor : Nat) (p : Path) (keep : Bool) : Except String State :=
  if isNull p then .ok (s.point descriptor .nowhere)
  else
    match s.files.locate p with
    | .error _ => .error (cannotCreate s p)
    | .ok loc =>
      if keep && s.files.isFile p then .ok (s.point descriptor (.file loc))
      else
        match s.files.write p .empty with
        | (true, files) => .ok ({ s with files := files }.point descriptor (.file loc))
        | (false, _) => .error (cannotCreate s p)

/-- The descriptor that a text spells. -/
def descriptorOf? (text : String) : Option Nat :=
  let cs := text.toList
  if cs.isEmpty || !cs.all Char.isDigit then none else some (Arithmetic.digits 10 0 cs).1

/-- Points a descriptor where another one leads. -/
def duplicate (s : State) (descriptor : Nat) (target : String) : Except String State :=
  if target = "-" then .ok (s.point descriptor .nowhere)
  else
    match descriptorOf? target with
    | none => .error "Syntax error: Bad fd number"
    | some n =>
      if n = 0 then .ok (s.point descriptor .nowhere)
      else
        match s.sinks.lookup n with
        | some sink => .ok (s.point descriptor sink)
        | none => .error s!"{target}: Bad file descriptor"

/-- Carries out one redirection. -/
def redirect (inner : Inner) (s : State) (r : Redirection) : Except String State :=
  match expandText inner s r.target with
  | none => .error "bad substitution"
  | some (target, s) =>
    let p : Path := ⟨target⟩
    if r.operator = ">" || r.operator = ">|" then openForWriting s (r.descriptor.getD 1) p false
    else if r.operator = ">>" then openForWriting s (r.descriptor.getD 1) p true
    else if r.operator = ">&" then duplicate s (r.descriptor.getD 1) target
    else if r.operator = "<&" then .ok s
    else if isNull p || s.files.exists p then .ok s
    else .error s!"cannot open {target}: No such file"

/-- Carries out redirections. The state that comes with a failure has the complaint. -/
def redirectAll (inner : Inner) : State → List Redirection → Bool × State
  | s, [] => (true, s)
  | s, r :: rest =>
    match redirect inner s r with
    | .ok s => redirectAll inner s rest
    | .error text => (false, s.complain text)

/-! ## Built-in commands -/

/-- The commands whose failing redirections and arguments end the shell. -/
def isSpecial (name : String) : Bool :=
  [":", "break", "continue", "eval", "exit", "export", "readonly", "set", "unset"].contains name

/-- A number as `exit` and `kill` take it. -/
def plainNumber? (text : String) : Option Nat :=
  (descriptorOf? text).filter (· < Nat.pow 2 31)

/-- Goes to another directory; `-` is the one before. -/
def changeDir (s : State) (target : String) : Ending × State :=
  let here := s.value "PWD"
  let back := target == "-"
  let target := if back then (if s.has true "OLDPWD" then s.value "OLDPWD" else here) else target
  match s.files.realPath? ((⟨here⟩ : Path).joinText target) with
  | some p =>
    if s.files.isDir p then
      match s.files.locate p with
      | .ok loc =>
        let s := { s with files := { s.files with current := loc } }
        let s := (s.assign "OLDPWD" here).assign "PWD" p.text
        (.status 0, if back then s.emit 1 (echo [p.text]) else s)
      | .error _ => (.status 2, s)
    else (.status 2, s.complain s!"cd: can't cd to {target}")
  | none => (.status 2, s.complain s!"cd: can't cd to {target}")

/-- The names of signals, without `SIG`. -/
def signalOf? (name : String) : Option Nat :=
  match plainNumber? name with
  | some n => some n
  | none =>
    let full := if name.startsWith "SIG" then name else "SIG" ++ name
    (signalNames.find? (·.2 == full)).map (·.1)

/-- The signals that a process does not end by. -/
def isHarmless (signal : Nat) : Bool :=
  [0, 17, 18, 23, 28].contains signal

/-- Sends a signal. Only the shell itself is there to get it. -/
def kill (s : State) (arguments : List String) : Ending × State :=
  let (signal, targets) : Option Nat × List String := match arguments with
    | "-s" :: name :: targets => (signalOf? name, targets)
    | option :: targets =>
      if option.startsWith "-" then (signalOf? (String.ofList (option.toList.drop 1)), targets)
      else (some 15, arguments)
    | [] => (none, [])
  match signal, targets with
  | some signal, [target] =>
    if target = toString State.processId then
      if isHarmless signal then (.status 0, s) else (.killed signal, s)
    else (.status 1, s.complain "kill: No such process")
  | _, _ => (.status 2, s.complain "kill: Usage: kill [-s sigspec | -signum | -sigspec] [pid]...")

/-- Sets the variables that arguments of the form `name=value` name. -/
def assignAll (s : State) (arguments : List String) : State :=
  arguments.foldl (fun s argument =>
    match Text.breakOn ['='] argument.toList with
    | some (name, value) => s.assign (String.ofList name) (String.ofList value)
    | none => s) s

/-- The state with options switched on or off by their letters. -/
def switch (on : Bool) (letters : List Char) (s : State) : State :=
  letters.foldl (fun s c =>
    if c = 'e' then { s with failFast := on } else if c = 'u' then { s with strict := on } else s) s

/-- The state with options switched on or off by their names. -/
def switchNamed (on : Bool) (name : String) (s : State) : State :=
  switch on (if name = "errexit" then ['e'] else if name = "nounset" then ['u'] else []) s

/-- Sets options. Arguments that are no options are left alone. -/
def setOptions : State → List String → State
  | s, "-o" :: name :: rest => setOptions (switchNamed true name s) rest
  | s, "+o" :: name :: rest => setOptions (switchNamed false name s) rest
  | s, argument :: rest =>
    match argument.toList with
    | '-' :: letters => if letters = ['-'] then s else setOptions (switch true letters s) rest
    | '+' :: letters => setOptions (switch false letters s) rest
    | _ => s
  | s, [] => s

/-- Breaks a loop off, or its turn. Outside of loops there is nothing to break. -/
def breakOff (s : State) (again : Bool) (arguments : List String) : Ending × State :=
  let depth := match arguments with
    | [] => 1
    | n :: _ => (plainNumber? n).getD 0
  if depth = 0 then (.exit 2, s.complain "Illegal number")
  else if s.loops = 0 then (.status 0, s)
  else (.broken (min depth s.loops) again, s)

/-- Ends the shell. -/
def leave (s : State) (arguments : List String) : Ending × State :=
  match arguments with
  | [] => (.exit s.status, s)
  | n :: _ =>
    match plainNumber? n with
    | some n => (.exit (n % 256), s)
    | none => (.exit 2, s.complain s!"exit: Illegal number: {n}")

/-- A command that is not built in: a path leads to a file that cannot be executed, or to
nothing. -/
def notBuiltIn (s : State) (name : String) : Ending × State :=
  if name.toList.contains '/' && s.files.exists ⟨name⟩ then
    (.status 126, s.complain s!"{name}: Permission denied")
  else (.status 127, s.complain s!"{name}: not found")

/-- Calls a command by its name. -/
def call (inner : Inner) (s : State) (name : String) (arguments : List String) : Ending × State :=
  match name with
  | ":" => (.status 0, s)
  | "true" => (.status 0, s)
  | "false" => (.status 1, s)
  | "echo" => (.status 0, s.emit 1 (echo arguments))
  | "printf" =>
    match arguments with
    | [] => (.status 2, s.complain "printf: usage: printf format [arg ...]")
    | format :: arguments =>
      match printf format arguments with
      | some (bytes, good) => (.status (if good then 0 else 1), s.emit 1 bytes)
      | none => (.status 2, s.complain s!"printf: {format}: invalid directive")
  | "test" => (.status (Test.status s.files arguments), s)
  | "[" =>
    if arguments.getLast? = some "]" then (.status (Test.status s.files arguments.dropLast), s)
    else (.status 2, s.complain "[: missing ]")
  | "pwd" => (.status 0, s.emit 1 (echo [s.value "PWD"]))
  | "cd" => changeDir s (arguments.head?.getD ".")
  | "exit" => leave s arguments
  | "kill" => kill s arguments
  | "export" => (.status 0, assignAll s arguments)
  | "readonly" => (.status 0, assignAll s arguments)
  | "set" => (.status 0, setOptions s arguments)
  | "break" => breakOff s false arguments
  | "continue" => breakOff s true arguments
  | "unset" =>
    (.status 0, { s with bindings := s.bindings.filter fun v => !arguments.contains v.1 })
  | "eval" => inner (" ".intercalate arguments).toList s
  | "sh" =>
    match arguments with
    | "-c" :: text :: _ =>
      let fresh : State :=
        { s with status := 0, loops := 0, failFast := false, tested := false, strict := false }
      let (ending, child) := inner text.toList fresh
      (.status ending.seen, s.afterChild child)
    | _ => (.status 0, s)
  | name => notBuiltIn s name

/-! ## Commands -/

/-- Sets variables to the texts of words; nothing when one of them makes no sense. -/
def assignWords (inner : Inner) : State → List (String × Word) → Option State
  | s, [] => some s
  | s, (name, w) :: rest =>
    match expandText inner s w with
    | some (value, s) => assignWords inner (s.assign name value) rest
    | none => none

/-- The arguments of words that set variables: the text of each stays one argument. -/
def expandAssignments (inner : Inner) : State → List Word → Option (List String × State)
  | s, [] => some ([], s)
  | s, w :: rest =>
    let expanded : Option (List String × State) := match assignment? w with
      | some _ => (expandText inner s w).map fun r => ([r.1], r.2)
      | none => expandWord inner s w
    match expanded with
    | none => none
    | some (arguments, s) =>
      (expandAssignments inner s rest).map fun r => (arguments ++ r.1, r.2)

/-- The arguments of the words of a command, its name first. -/
def expandArguments (inner : Inner) (s : State) (words : List Word) :
    Option (List String × State) :=
  match words with
  | w :: rest =>
    match w.literal?.map String.ofList with
    | some name =>
      if ["export", "readonly"].contains name then
        (expandAssignments inner s rest).map fun r => (name :: r.1, r.2)
      else expandWords inner s words
    | none => expandWords inner s words
  | [] => some ([], s)

/-- Some of the values come from the output of commands, whose status then counts. -/
def usesOutput (assignments : List (String × Word)) : Bool :=
  assignments.any fun a => a.2.any fun
    | .output _ _ => true
    | _ => false

/-- The end of a shell whose expansion makes no sense. -/
def badExpansion (s : State) : Ending × State :=
  (.exit 2, s.complain "arithmetic expression: syntax error or division by zero")

/-- Carries out a simple command: its words are expanded, its redirections made, and its
assignments hold as long as it runs, or for good when there is no command. -/
def runSimple (inner : Inner) (s : State) (assignments : List (String × Word)) (words : List Word)
    (redirections : List Redirection) : Ending × State :=
  match expandArguments inner s words with
  | none => badExpansion s
  | some ([], s') =>
    match redirectAll inner s' redirections with
    | (false, s') => (.status 2, { s' with sinks := s.sinks })
    | (true, s') =>
      match assignWords inner { s' with sinks := s.sinks } assignments with
      | none => badExpansion s
      | some s'' => (.status (if usesOutput assignments then s''.captured else 0), s'')
  | some (name :: arguments, s') =>
    match redirectAll inner s' redirections with
    | (false, s') =>
      (if isSpecial name then .exit 2 else .status 2, { s' with sinks := s.sinks })
    | (true, s') =>
      match assignWords inner s' assignments with
      | none => badExpansion s
      | some s'' =>
        let (ending, after) := call inner s'' name arguments
        let kept := if assignments.isEmpty || isSpecial name then after.bindings else s'.bindings
        (ending, { after with sinks := s.sinks, bindings := kept })

/-- The status that commands leave when they do not end the shell. -/
def Ending.inChild : Ending → Ending
  | .exit n => .status n
  | .broken _ _ => .status 0
  | ending => ending

/-- Ends a shell that is to end as soon as a command fails, unless the failing is a test. -/
def insist (outcome : Ending × State) : Ending × State :=
  match outcome with
  | (.status n, s) =>
    if n ≠ 0 && s.failFast && !s.tested then (.exit n, s) else (.status n, s)
  | ended => ended

/-- Carries out what is a test for what comes next. -/
def testing (body : State → Ending × State) (s : State) : Ending × State :=
  let (ending, after) := body { s with tested := true }
  (ending, { after with tested := s.tested })

/-- Carries out what is in one more loop. -/
def looping (body : State → Ending × State) (s : State) : Ending × State :=
  let (ending, after) := body { s with loops := s.loops + 1 }
  (ending, { after with loops := s.loops })

/-- What an ending means for the loop around it: it goes on with a status, or ends. -/
def Ending.afterTurn : Ending → Nat ⊕ Ending
  | .status n => .inl n
  | .broken 1 true => .inl 0
  | .broken 1 false => .inr (.status 0)
  | .broken n again => .inr (.broken (n - 1) again)
  | ending => .inr ending

/-- The number of turns that a loop can take. -/
def turnLimit : Nat := 10000

/-- Carries out a body as long as a condition has the wanted outcome. -/
def runTurns (condition body : State → Ending × State) (wanted : Bool) :
    (fuel : Nat) → Nat → State → Ending × State
  | 0, _, s => (.exit 2, s)
  | fuel + 1, status, s =>
    match condition s with
    | (.status n, s) =>
      if (n == 0) == wanted then
        match body { s with status := n } with
        | (ending, s) =>
          match ending.afterTurn with
          | .inl n => runTurns condition body wanted fuel n { s with status := n }
          | .inr ending => (ending, s)
      else (.status status, s)
    | (ending, s) =>
      match ending.afterTurn with
      | .inl n => runTurns condition body wanted fuel n { s with status := n }
      | .inr ending => (ending, s)

/-- Carries out the body of a loop for each value. -/
def runEach (body : State → Ending × State) (name : String) :
    Nat → State → List String → Ending × State
  | status, s, [] => (.status status, s)
  | _, s, value :: rest =>
    match body (s.assign name value) with
    | (ending, s) =>
      match ending.afterTurn with
      | .inl n => runEach body name n { s with status := n } rest
      | .inr ending => (ending, s)

/-- The text matches one of some patterns. -/
def matchesOne (inner : Inner) (text : List Char) : State → List Word → Option (Bool × State)
  | s, [] => some (false, s)
  | s, w :: rest =>
    match expandPieces inner s w with
    | none => none
    | some (chunks, s) =>
      if Wild.matchesAll (Wild.ofMarked (marked chunks)) text then some (true, s)
      else matchesOne inner text s rest

mutual

/-- Carries out a command. -/
def runCommand (inner : Inner) (s : State) : Command → Ending × State
  | .simple assignments words redirections =>
    insist (runSimple inner s assignments words redirections)
  | .redirected c redirections =>
    match redirectAll inner s redirections with
    | (false, s') => insist (.status 2, { s' with sinks := s.sinks })
    | (true, s') =>
      let (ending, after) := runCommand inner s' c
      (ending, { after with sinks := s.sinks })
  | .invert c =>
    match testing (fun s => runCommand inner s c) s with
    | (.status n, s) => (.status (if n = 0 then 1 else 0), s)
    | ended => ended
  | .both first second =>
    match testing (fun s => runCommand inner s first) s with
    | (.status n, s) =>
      if n = 0 then runCommand inner { s with status := n } second else (.status n, s)
    | ended => ended
  | .either first second =>
    match testing (fun s => runCommand inner s first) s with
    | (.status n, s) =>
      if n = 0 then (.status n, s) else runCommand inner { s with status := n } second
    | ended => ended
  | .inOrder first second =>
    match runCommand inner s first with
    | (.status n, s) => runCommand inner { s with status := n } second
    | ended => ended
  | .pipe first second =>
    let (ending, child) := runCommand inner (s.point 1 .nowhere) first
    match ending with
    | .killed signal => (.killed signal, s.afterChild child)
    | _ =>
      let (ending, child) := runCommand inner (s.afterChild child) second
      insist (ending.inChild, s.afterChild child)
  | .subshell c =>
    let (ending, child) := runCommand inner s c
    insist (ending.inChild, s.afterChild child)
  | .choice condition positive negative =>
    match testing (fun s => runCommand inner s condition) s with
    | (.status n, s) =>
      if n = 0 then runCommand inner { s with status := n } positive
      else runNegative inner { s with status := n } negative
    | ended => ended
  | .each name words body =>
    match expandWords inner s words with
    | none => badExpansion s
    | some (values, s) =>
      looping (fun s => runEach (fun s => runCommand inner s body) name 0 s values) s
  | .repeated wanted condition body =>
    looping (runTurns (testing fun s => runCommand inner s condition)
      (fun s => runCommand inner s body) wanted turnLimit 0) s
  | .select word arms =>
    match expandText inner s word with
    | none => badExpansion s
    | some (text, s) => runArms inner text.toList s arms

/-- Carries out the commands after an `else`, if there are any. -/
def runNegative (inner : Inner) (s : State) : Option Command → Ending × State
  | none => (.status 0, s)
  | some c => runCommand inner s c

/-- Carries out the commands of the first arm that a text matches. -/
def runArms (inner : Inner) (text : List Char) (s : State) :
    List (List Word × Command) → Ending × State
  | [] => (.status 0, s)
  | (patterns, c) :: rest =>
    match matchesOne inner text s patterns with
    | none => badExpansion s
    | some (true, s) => runCommand inner s c
    | some (false, s) => runArms inner text s rest

end

/-- Carries out lines until one ends the shell or cannot be read. -/
def runLines (inner : Inner) : State → List (Option Command) → Ending × State
  | s, [] => (.status s.status, s)
  | s, none :: _ => (.exit 2, s.complain "Syntax error")
  | s, some c :: rest =>
    match runCommand inner s c with
    | (.status n, s) => runLines inner { s with status := n } rest
    | ended => ended

/-- Carries out the text of commands, in which other such texts are nested `depth` levels deep at
most. -/
def runText : (depth : Nat) → Inner
  | 0, _, s => (.exit 2, s.complain "nested too deeply")
  | depth + 1, text, s =>
    match lines text with
    | [] => (.status 0, s)
    | ls => runLines (runText depth) s ls

/-- How deep texts of commands can be nested in one another. -/
def depthLimit : Nat := 200

/-- Runs a command line in a directory. -/
def run : Shell := fun loc command files =>
  let (ending, s) := runText depthLimit command.toList (.start files loc)
  ⟨ending.exitStatus, s.written, { s.files with current := files.current }⟩

end Stencil.Shell
