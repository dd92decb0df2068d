import Stencil.Files.Path

/-!
# Faults

Everything that can go wrong, by cause. The wording of a fault, the advice that goes with it and
the exit status of a program that ends with it are functions of the cause.
-/

set_option autoImplicit false

namespace Stencil

/-- What a missing or malformed field belongs to. -/
inductive SpecKind where
  | prompt
  | directive
  | condition
  | template
  | project
  deriving DecidableEq

def SpecKind.name : SpecKind → String
  | .prompt => "prompt"
  | .directive => "directive"
  | .condition => "condition"
  | .template => "template"
  | .project => "project"

/-- Why a script did not end well. -/
inductive ScriptFailure where
  | failed
  | dataNotMap
  | messagesNotList
  deriving DecidableEq

/-- A cause of failure. -/
inductive Fault where
  | configParse (path : Path)
  | configWrite (path : Path)
  | missingField (kind : SpecKind) (subject field : String)
  | unknownDirective (name : String)
  | unknownCondition (name : String)
  | unknownTransform (name : String)
  | invalidSpec (kind : SpecKind) (reason : String)
  | fileMissing (path : Path)
  | externalCommand (command status : String)
  | userAbort
  | noDefault (name : String)
  | script (file : String) (failure : ScriptFailure)
  | io (context : String)
  | globPattern (pattern : String)
  | templateNotFound (name : String)
  | templateConfigMissing (path : Path)
  | noActiveTemplate
  | homeDirMissing
  | gitNotFound
  | git (operation reason : String)
  | repoExists (name : String)
  | repoNotFound (name : String)
  | invalidSubcommand (command reason : String)
  deriving DecidableEq

namespace Fault

/-- The ending of a script's message. -/
def scriptEnding : ScriptFailure → String
  | .failed => ""
  | .dataNotMap => ": `data` must stay a map"
  | .messagesNotList => ": `messages` must stay an array"

/-- A reason in a message; a usage text, which has several lines, is only named. -/
def shortReason (reason : String) : String :=
  if reason.toList.contains '\n' then "<usage>" else reason

/-- What the operator is told. -/
def message : Fault → String
  | .configParse path => s!"Failed to parse config file {path.text}"
  | .configWrite path => s!"Failed to write config file {path.text}"
  | .missingField kind subject field =>
    s!"{kind.name} '{subject}' is missing required field '{field}'"
  | .unknownDirective name => s!"Directive type '{name}' not found"
  | .unknownCondition name => s!"Condition type '{name}' not found"
  | .unknownTransform name => s!"Transform '{name}' is not registered"
  | .invalidSpec kind reason => s!"Invalid {kind.name}: {reason}"
  | .fileMissing path => s!"Unable to locate file: {path.text}"
  | .externalCommand command status => s!"Command failed: {command} ({status})"
  | .userAbort => "Aborted"
  | .noDefault name => s!"No default value available for prompt '{name}'"
  | .script file failure => s!"Script '{file}' failed{scriptEnding failure}"
  | .io context => s!"IO error: {context}"
  | .globPattern pattern => s!"Glob pattern error: {pattern}"
  | .templateNotFound name => s!"Template not found: {name}"
  | .templateConfigMissing path => s!"Template config is missing: {path.text}"
  | .noActiveTemplate => "No template is active for this directive"
  | .homeDirMissing => "Could not determine the home directory"
  | .gitNotFound => "Git is not installed"
  | .git operation reason => s!"git {operation} failed: {reason}"
  | .repoExists name => s!"Repository '{name}' has already been cloned"
  | .repoNotFound name => s!"No repository found under the name '{name}'"
  | .invalidSubcommand command reason => s!"Invalid sub-command '{command}': {shortReason reason}"

/-- What the operator can do about it. -/
def advice? : Fault → Option String
  | .configParse _ => some "Check the JSON syntax of the config file"
  | .missingField kind _ field =>
    some s!"Add the '{field}' field to the {kind.name} in the template config"
  | .unknownDirective _ => some "Supported directives: copy, run, execute"
  | .unknownCondition _ =>
    some
      "Supported conditions: exists, notExists, filePresent, fileNotPresent, equals, notEquals"
  | .noDefault name => some s!"Answer the prompt interactively or pass it with --data {name}=VALUE"
  | .script _ _ => some "Check the Rhai script for errors"
  | .templateNotFound _ => some "Run `forge template list` to see the installed templates"
  | .homeDirMissing => some "Set FORGE_HOME to choose where forge keeps its data"
  | .gitNotFound => some "Install git and make sure it is on your PATH"
  | .repoExists name => some s!"Run `forge repo update --as {name}` to update, or pass --force"
  | .repoNotFound _ => some "Run `forge repo clone` to clone a new repository"
  | _ => none

/-- The exit status of a program that ends with this fault: an operator who declines ends it
cleanly, which has a status of its own. -/
def exitStatus : Fault → Nat
  | .userAbort => 2
  | _ => 1

end Fault

end Stencil
