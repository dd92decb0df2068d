import Stencil.CommandLine.Dispatch
import Stencil.Script.Run
import Stencil.Shell.Run

/-!
# The program

What the program makes of its arguments in given surroundings: variables of the environment, a
directory tree with a current directory, and answers that are laid out for its questions. What
comes of it is lines for the console, an exit status, and the files as they are afterwards.

A command that fails has its message shown last, after the messages that its session had put off.
-/

set_option autoImplicit false

namespace Stencil.CommandLine

/-- What the program finds when it starts. -/
structure Surroundings where
  bindings : Fields String
  files : FileTree
  answers : Answers

/-- What comes of the program. -/
structure Outcome where
  lines : List ConsoleLine
  status : Nat
  files : FileTree

/-- The name and the version of the program. -/
def versionText : String := s!"{baseCommand} 0.1.0"

/-- The lines that tell the operator about a fault. -/
def faultLines (e : Fault) : List ConsoleLine :=
  (Message.mk .error e.message).onConsole ::
    (e.advice?.map fun text => ConsoleLine.mk true s!"help: {text}\n").toList

/-- What arguments that are no command come to. -/
def usageOutcome (usage : Usage) : List ConsoleLine × Nat :=
  match usage with
  | .help => ([⟨false, usageText ++ "\n"⟩], 0)
  | .version => ([⟨false, versionText ++ "\n"⟩], 0)
  | _ => ([⟨true, usageText ++ "\n"⟩], 2)

/-- The services of the program: answers as they are laid out, and no other program to call. -/
def programServices (settings : Settings) : Services :=
  withHost ⟨settings, .builtins, .scripted, none, Shell.run, Script.run, none⟩

/-- Carries out an invocation in a session that is opened for it, and shows what the session has
put off. -/
def runInvocation (settings : Settings) (invocation : Invocation) : Act Unit := fun w =>
  match bootstrap settings w with
  | (.error e, w) => (.error e, w)
  | (.ok _, w) =>
    match Session.open settings w.files (FileTree.absolute w.files.current) with
    | .error e => (.error e, w)
    | .ok session =>
      let (result, run) := carryOut (programServices settings) invocation ⟨session, w⟩
      (result, { run.world with shown := run.world.shown ++ run.session.messages })

/-- What comes of the program with the given arguments. -/
def program (surroundings : Surroundings) (args : List String) : Outcome :=
  match read args with
  | .error usage =>
    let (lines, status) := usageOutcome usage
    ⟨lines, status, surroundings.files⟩
  | .ok invocation =>
    match Settings.ofEnvironment fun name => Fields.find? name surroundings.bindings with
    | .error e => ⟨faultLines e, e.exitStatus, surroundings.files⟩
    | .ok settings =>
      let start : World := ⟨surroundings.files, [], [], surroundings.answers, [], []⟩
      let (result, w) := runInvocation settings invocation start
      let lines := w.shown.map Message.onConsole
      match result with
      | .ok () => ⟨lines, 0, w.files⟩
      | .error e => ⟨lines ++ faultLines e, e.exitStatus, w.files⟩

end Stencil.CommandLine
