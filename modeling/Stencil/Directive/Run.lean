import Stencil.Directive.Spec
import Stencil.Session.Basic
import Stencil.Shell.Words

/-!
# Running commands

What a run directive does. Its command line is rendered and cut into words. When the first word
calls this program, the host takes the other words within the session; any other command line is
spawned as a whole in the directory that the directive names. A command line without words does
nothing.
-/

set_option autoImplicit false

namespace Stencil

/-- The names of the signals that have one. -/
def signalNames : List (Nat × String) := [
  (1, "SIGHUP"), (2, "SIGINT"), (3, "SIGQUIT"), (4, "SIGILL"), (5, "SIGTRAP"), (6, "SIGABRT"),
  (7, "SIGBUS"), (8, "SIGFPE"), (9, "SIGKILL"), (10, "SIGUSR1"), (11, "SIGSEGV"), (12, "SIGUSR2"),
  (13, "SIGPIPE"), (14, "SIGALRM"), (15, "SIGTERM"), (16, "SIGSTKFLT"), (17, "SIGCHLD"),
  (18, "SIGCONT"), (19, "SIGSTOP"), (20, "SIGTSTP"), (21, "SIGTTIN"), (22, "SIGTTOU"),
  (23, "SIGURG"), (24, "SIGXCPU"), (25, "SIGXFSZ"), (26, "SIGVTALRM"), (27, "SIGPROF"),
  (28, "SIGWINCH"), (29, "SIGIO"), (30, "SIGPWR"), (31, "SIGSYS")]

/-- A status as it is reported. -/
def ExitStatus.text : ExitStatus → String
  | .code n => s!"exit status: {n}"
  | .signal n =>
    match signalNames.lookup n with
    | some name => s!"signal: {n} ({name})"
    | none => s!"signal: {n}"

namespace RunDirective

/-- Spawns a command line in a directory. -/
def spawnIn (shell : Shell) (dir : Path) (command : String) : Act Unit := fun w =>
  match w.files.locate dir with
  | .ok loc =>
    if w.files.isDirAt loc && !command.toList.contains '\x00' then
      let reply := shell loc command w.files
      let w := { w with files := reply.files, written := w.written ++ reply.written }
      if reply.status = .code 0 then (.ok (), w)
      else (.error (.externalCommand command reply.status.text), w)
    else (.error (.io s!"spawning '{command}'"), w)
  | .error _ => (.error (.io s!"spawning '{command}'"), w)

/-- Hands the words after the first to the host. -/
def callHost (services : Services) (command : String) (arguments : List String) : Job Unit :=
  match services.host with
  | some host => host arguments
  | none => Step.fail (.invalidSubcommand command "no command host is available")

/-- Carries out the directive. -/
def perform (d : RunDirective) (services : Services) : Job Unit := do
  let command ← services.render d.command
  match Shell.words? command with
  | none =>
    Step.fail (.invalidSpec .directive s!"unbalanced quotes in command: {command}")
  | some [] => return ()
  | some (first :: rest) =>
    if Settings.isBaseCommand first then callHost services command rest
    else do
      let dir ← Job.consult (·.baseDir d.relativeTo)
      Job.outside (spawnIn services.shell dir command)

end RunDirective

end Stencil
