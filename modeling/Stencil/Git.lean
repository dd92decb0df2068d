import Stencil.Text.Lossy
import Stencil.World

/-!
# Git

What the library needs of the version control program: to run it with arguments, and to hear
whether it went well and what it said. Any function from the arguments and the files to a reply
and the files afterwards will do, so nothing is assumed about what a clone or a pull does.

What git says on a failure is passed on. For failures that users meet often, a hint stands in
front of it.
-/

set_option autoImplicit false

namespace Stencil

/-- The end of a run of git. -/
structure GitReply where
  succeeded : Bool
  /-- What was written to standard error. -/
  complaint : ByteArray

/-- An installed git. -/
abbrev Git := List String → FileTree → GitReply × FileTree

namespace Git

/-- Known failures, by what git says, and what can be done about them. The first that fits counts. -/
def hints : List ((String → Bool) × String) := [
  (fun e => Text.has e "Authentication failed" || Text.has e "could not read Username",
    "the remote rejected the credentials, set up a git credential helper or an SSH key for this host"),
  (fun e => Text.has e "Repository not found" ||
      (Text.has e "repository" && Text.has e "not found"),
    "nothing to clone at this URL; private template repositories also need git credentials"),
  (fun e => Text.has e "Host key verification failed",
    "the SSH host is not trusted yet, add it with: ssh-keyscan <host> >> ~/.ssh/known_hosts"),
  (fun e => Text.has e "Could not resolve host" || Text.has e "Connection refused",
    "the remote could not be reached, check the URL and your network"),
  (fun e => Text.has e "couldn't find remote ref",
    "the remote has no such branch, check the --branch value")]

/-- What git said, after a hint where there is one. -/
def explain (said : String) : String :=
  match hints.find? fun h => h.1 said with
  | some (_, hint) => s!"{hint}\n\ngit said:\n{said}"
  | none => said

/-- An argument that no program can be given. -/
def unspeakable (argument : String) : Bool :=
  argument.toList.contains '\x00'

/-- Runs git for an operation, which names it in a fault. -/
def perform (git : Git) (operation : String) (arguments : List String) : Act Unit :=
  if arguments.any unspeakable then Step.fail (.io s!"running git {operation}")
  else fun w =>
    let (reply, files) := git arguments w.files
    let w := { w with files := files, gitCalls := w.gitCalls ++ [arguments] }
    if reply.succeeded then (.ok (), w)
    else
      let said := String.ofList (Unicode.trim (Text.decodeLossy reply.complaint).toList)
      (.error (.git operation (explain said)), w)

end Git

end Stencil
