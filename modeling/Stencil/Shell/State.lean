import Stencil.Session.Basic
import Stencil.Shell.Token

/-!
# The state of a shell

The files with the current directory, the variables, where each descriptor leads, and what has
been written to standard output. A descriptor leads to standard output, to a file, or nowhere;
what goes to standard error is not kept.
-/

set_option autoImplicit false

namespace Stencil.Shell

/-- Where a descriptor leads. -/
inductive Sink where
  | output
  | file (loc : Location)
  | nowhere
  deriving DecidableEq

/-- The state of a shell. -/
structure State where
  files : FileTree
  bindings : Fields String
  /-- The status of the last command. -/
  status : Nat
  /-- The status of the last commands whose output was taken into a word. -/
  captured : Nat
  sinks : List (Nat × Sink)
  written : List UInt8
  /-- The number of loops around the command. -/
  loops : Nat
  /-- A command that fails ends the shell. -/
  failFast : Bool
  /-- The command is one whose failing decides what comes next, which never ends the shell. -/
  tested : Bool
  /-- A variable that is not there cannot be used. -/
  strict : Bool

namespace State

/-- The number of the shell's process. Scripts use it to name the shell itself. -/
def processId : Nat := 4711

/-- The state of a shell that starts in a directory. -/
def start (files : FileTree) (loc : Location) : State where
  files := { files with current := loc }
  bindings := [("PWD", (FileTree.absolute loc).text)]
  status := 0
  captured := 0
  sinks := [(1, .output), (2, .nowhere)]
  written := []
  loops := 0
  failFast := false
  tested := false
  strict := false

/-- Where a descriptor leads. -/
def sink (s : State) (descriptor : Nat) : Sink :=
  (s.sinks.lookup descriptor).getD .nowhere

/-- The state with a descriptor leading elsewhere. -/
def point (s : State) (descriptor : Nat) (sink : Sink) : State :=
  { s with sinks := (descriptor, sink) :: s.sinks }

/-- The content of the file at a location. -/
def content (s : State) (loc : Location) : ByteArray :=
  match s.files.at? loc with
  | some (.file content) => content
  | _ => .empty

/-- Writes to a descriptor. -/
def emit (s : State) (descriptor : Nat) (bytes : List UInt8) : State :=
  match s.sink descriptor with
  | .output => { s with written := s.written ++ bytes }
  | .file loc =>
    { s with files := s.files.place loc (.file (s.content loc ++ ⟨bytes.toArray⟩)) }
  | .nowhere => s

/-- A complaint on standard error. -/
def complain (s : State) (text : String) : State :=
  s.emit 2 s!"sh: 1: {text}\n".toUTF8.data.toList

/-- The value of a variable or of a parameter of the shell. -/
def value (s : State) (name : String) : String :=
  match name with
  | "?" => toString s.status
  | "$" => toString processId
  | "#" => "0"
  | "0" => "sh"
  | name => (Fields.find? name s.bindings).getD ""

/-- A variable is there. An empty one may count as not there. -/
def has (s : State) (emptyToo : Bool) (name : String) : Bool :=
  let set := ["?", "$", "#", "0"].contains name || (Fields.find? name s.bindings).isSome
  set && !(emptyToo && s.value name == "")

/-- Sets a variable. -/
def assign (s : State) (name value : String) : State :=
  { s with bindings := Fields.put name value s.bindings }

/-- The state after commands of their own process: what they did to files and output stays, and
nothing else. -/
def afterChild (s child : State) : State :=
  { s with files := { child.files with current := s.files.current }, written := child.written }

end State

/-- How commands end: the shell goes on with a status, or it is over. -/
inductive Ending where
  | status (n : Nat)
  | exit (n : Nat)
  | killed (signal : Nat)
  /-- A loop is left, or goes on with its next turn, counted from the innermost one. -/
  | broken (depth : Nat) (again : Bool)
  deriving DecidableEq

/-- How the shell ends when its commands end so. -/
def Ending.exitStatus : Ending → ExitStatus
  | .status n => .code n
  | .exit n => .code n
  | .killed signal => .signal signal
  | .broken _ _ => .code 0

/-- The status that another shell sees. -/
def Ending.seen : Ending → Nat
  | .status n => n
  | .exit n => n
  | .killed signal => 128 + signal
  | .broken _ _ => 0

end Stencil.Shell
