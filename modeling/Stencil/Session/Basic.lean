import Stencil.Condition
import Stencil.Config.File
import Stencil.Git
import Stencil.Render.Basic

/-!
# Sessions

What one scaffolding run knows: the data that prompts fill and texts draw on, the messages that
wait for the end, the template that is active, and the directories it works in. Prompts,
conditions and directives share a session, in the order of their declaration.

A run is a session with the world around it, and a job is a step on a run. The `Services` of a
run never change: settings, transforms, the operator, and the programs that can be called. Among
them may be a host, which takes command lines of the program itself, so that a template can make
another one within the same session.
-/

set_option autoImplicit false

namespace Stencil

/-! ## Sessions -/

/-- The template that a run works from. -/
structure ActiveTemplate where
  space : String
  name : String
  dir : Path
  deriving DecidableEq

namespace ActiveTemplate

/-- The template of a namespace and a name, where the settings say that it is. -/
def of (settings : Settings) (space name : String) : ActiveTemplate :=
  ⟨space, name, settings.templateDir space name⟩

/-- The reference that asks for the template. -/
def id (t : ActiveTemplate) : String :=
  s!"{t.space}:{t.name}"

end ActiveTemplate

/-- The state of a scaffolding run. -/
structure Session where
  data : Store
  /-- The messages that are shown at the end. -/
  messages : List Message
  template : Option ActiveTemplate
  /-- The namespace of references that name none. -/
  space : Option String
  workingDir : Path
  projectRoot : Path
  /-- Files that are there are replaced. -/
  overwrite : Bool

namespace Session

/-- The session with its two paths in the data. -/
def publishPaths (s : Session) : Session :=
  { s with
    data := (s.data.set "project_root" (.str s.projectRoot.text)).set "working_dir"
      (.str s.workingDir.text) }

/-- A session without a project: the project's root is the working directory. -/
def fresh (workingDir : Path) : Session :=
  publishPaths ⟨.empty, [], none, none, workingDir, workingDir, false⟩

/-- The session of a working directory, with the answers that the nearest project has saved. -/
def «open» (settings : Settings) (files : FileTree) (workingDir : Path) : Except Fault Session :=
  let project := ConfigFile.discover settings files workingDir
  match project.load files with
  | .error e => .error e
  | .ok data =>
    .ok (publishPaths { fresh workingDir with
      projectRoot := project.dir
      data := (fresh workingDir).data.merge data })

/-- The directory of the active template. -/
def templateDir (s : Session) : Except Fault Path :=
  match s.template with
  | some t => .ok t.dir
  | none => .error .noActiveTemplate

/-- The directory that a relative path starts from. -/
def baseDir (s : Session) : RelativeTo → Except Fault Path
  | .workingDir => .ok s.workingDir
  | .projectRoot => .ok s.projectRoot
  | .templateDir => s.templateDir

/-- One more message for the end. -/
def defer (s : Session) (message : Message) : Session :=
  { s with messages := s.messages ++ [message] }

end Session

/-! ## Runs -/

/-- A session and the world around it. -/
structure Run where
  session : Session
  world : World

/-- A step on a run. -/
abbrev Job (α : Type) := Step Run Fault α

namespace Job

variable {α : Type}

/-- A step on the world around the session. -/
def outside (m : Act α) : Job α :=
  m.on Run.world fun w r => { r with world := w }

/-- A change of the session. -/
def change (f : Session → Session) : Job Unit :=
  Step.modify fun r => { r with session := f r.session }

/-- A reading of the session that may fail. -/
def consult (f : Session → Except Fault α) : Job α :=
  fun r => (f r.session, r)

/-- The session. -/
def session : Job Session :=
  Step.asks Run.session

end Job

/-! ## Services -/

/-- How a command ended. -/
inductive ExitStatus where
  | code (n : Nat)
  | signal (n : Nat)
  deriving DecidableEq

/-- A spawned command's end, and what it did. -/
structure CommandReply where
  status : ExitStatus
  /-- What was written to standard output. -/
  written : List UInt8
  files : FileTree

/-- Runs a command line in a directory. -/
abbrev Shell := Location → String → FileTree → CommandReply

/-- The variables that a script starts with. -/
structure ScriptInput where
  data : Value
  templateDir : String
  workingDir : String
  projectRoot : String

/-- A variable after a script. -/
inductive Leftover where
  /-- The variable is gone. -/
  | gone
  /-- It holds something that is no value. -/
  | strange
  | value (v : Value)

/-- What a script leaves in its variables. -/
structure ScriptResult where
  data : Leftover
  messages : Leftover

/-- Runs a script that can ask for files; `none` when the script fails. -/
abbrev ScriptEngine := (String → Bool) → ScriptInput → String → Option ScriptResult

/-- What a run can call on. -/
structure Services where
  settings : Settings
  transforms : Registry
  operator : Operator
  /-- Git, where it is installed. -/
  git : Option Git
  shell : Shell
  scripts : ScriptEngine
  /-- Takes the arguments of a command line of the program itself. -/
  host : Option (List String → Job Unit)

namespace Services

/-- What texts are rendered with. -/
def context (services : Services) (r : Run) : Render.Context :=
  ⟨r.session.data, services.transforms, r.world.files⟩

/-- Renders a text against the data of the session. -/
def render (services : Services) (text : String) : Job String :=
  fun r => (Render.text (services.context r) text, r)

end Services

end Stencil
