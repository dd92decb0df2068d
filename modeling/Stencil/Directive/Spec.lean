import Stencil.Condition

/-!
# Directives

An entry of a template's `directives` is one step of the scaffolding: copy files, run a command,
or execute a script. Reading an entry checks every field that the directive defines, and the
condition that guards it, before anything runs.
-/

set_option autoImplicit false

namespace Stencil

/-- What a copy directive copies. -/
inductive CopyAction where
  | copyDir
  | copyFile
  deriving DecidableEq

/-- The action that a name means. -/
def CopyAction.ofName? (name : String) : Option CopyAction :=
  if name = "copyDir" then some .copyDir
  else if name = "copyFile" then some .copyFile
  else none

/-- Copies a file or a directory of the template into the project. -/
structure CopyDirective where
  source : String
  target : String
  action : Option CopyAction
  overwrite : Option Bool
  exclude : List String
  relativeTo : RelativeTo

/-- Runs a command line. -/
structure RunDirective where
  command : String
  relativeTo : RelativeTo

/-- Executes a script of the template. -/
structure ExecuteDirective where
  file : String

/-- What a directive does. -/
inductive DirectiveKind where
  | copy (d : CopyDirective)
  | run (d : RunDirective)
  | execute (d : ExecuteDirective)

/-- A step of the scaffolding, with the conditions that guard it. -/
structure Directive where
  kind : DirectiveKind
  condition : Option (List Condition)

namespace Directive

/-- The name of what a directive does. -/
def name (d : Directive) : String :=
  match d.kind with
  | .copy _ => "copy"
  | .run _ => "run"
  | .execute _ => "execute"

/-! ## Fields -/

/-- The `action` field. -/
def actionField (spec : Value) : Except Fault (Option CopyAction) :=
  match filledField? spec "action" with
  | none => .ok none
  | some name =>
    match CopyAction.ofName? name with
    | some action => .ok (some action)
    | none =>
      .error (.invalidSpec .directive s!"copy action must be copyDir or copyFile, got '{name}'")

/-- The `overwrite` field. -/
def overwriteField (spec : Value) : Except Fault (Option Bool) :=
  match spec.field? "overwrite" with
  | none => .ok none
  | some .null => .ok none
  | some (.bool b) => .ok (some b)
  | some other =>
    .error (.invalidSpec .directive s!"copy overwrite must be true or false, got {other.json}")

/-- The patterns of a list. -/
def patterns : List Value → Except Fault (List String)
  | [] => .ok []
  | .str s :: rest => (patterns rest).map (s :: ·)
  | item :: _ =>
    .error (.invalidSpec .directive s!"copy exclude entries must be strings, got {item.json}")

/-- The `exclude` field. -/
def excludeField (spec : Value) : Except Fault (List String) :=
  match spec.field? "exclude" with
  | none => .ok []
  | some .null => .ok []
  | some (.str pattern) => .ok [pattern]
  | some (.list items) => patterns items
  | some other =>
    .error (.invalidSpec .directive s!"copy exclude must be a list of globs, got {other.json}")

/-! ## Entries -/

/-- Reads a copy directive. -/
def readCopy (spec : Value) : Except Fault CopyDirective := do
  let source ← requiredText spec .directive "copy" "from"
  let target ← requiredText spec .directive "copy" "to"
  let action ← actionField spec
  let overwrite ← overwriteField spec
  let exclude ← excludeField spec
  let relativeTo ← relativeToField spec .directive
  return ⟨source, target, action, overwrite, exclude, relativeTo⟩

/-- Reads a run directive. -/
def readRun (spec : Value) : Except Fault RunDirective := do
  let command ← requiredText spec .directive "run" "command"
  let relativeTo ← relativeToField spec .directive
  return ⟨command, relativeTo⟩

/-- Reads an execute directive. -/
def readExecute (spec : Value) : Except Fault ExecuteDirective := do
  let file ← requiredText spec .directive "execute" "file"
  return ⟨file⟩

/-- Reads what a directive of a given name does. -/
def readKind (spec : Value) (name : String) : Except Fault DirectiveKind :=
  if name = "copy" then (readCopy spec).map .copy
  else if name = "run" ∨ name = "runCommand" then (readRun spec).map .run
  else if name = "execute" then (readExecute spec).map .execute
  else .error (.unknownDirective name)

/-- Reads the conditions that guard a directive. -/
def readCondition (spec : Value) : Except Fault (Option (List Condition)) :=
  match spec.field? "condition" with
  | none => .ok none
  | some .null => .ok none
  | some condition => (Condition.groupOfValue condition).map some

/-- Reads a directive. -/
def ofValue (spec : Value) : Except Fault Directive :=
  match filledField? spec "directive" with
  | none => .error (.missingField .directive spec.json "directive")
  | some name =>
    match readKind spec name with
    | .error e => .error e
    | .ok kind => (readCondition spec).map fun condition => ⟨kind, condition⟩

/-- Reads directives one by one; the first that is wrong counts. -/
def listOfValues : List Value → Except Fault (List Directive)
  | [] => .ok []
  | v :: rest =>
    match ofValue v with
    | .error e => .error e
    | .ok d => (listOfValues rest).map (d :: ·)

end Directive

end Stencil
