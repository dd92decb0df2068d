import Stencil.Config.File
import Stencil.Prompt.OptionList
import Stencil.Prompt.Pipeline

/-!
# Authoring templates

Walking the operator through a template's configuration: the prompts that it asks, one after
another, and whether all of its files are copied.
-/

set_option autoImplicit false

namespace Stencil.Authoring

/-! ## The questions -/

/-- The kinds of prompts to choose from. -/
def kindOptions : Value := .map [
  ("input", .str "Text input (single line)"),
  ("multiline", .str "Text input (multi-line)"),
  ("password", .str "Password"),
  ("confirm", .str "Yes or no"),
  ("enum", .str "Pick one (text)"),
  ("radio", .str "Pick one (radio)"),
  ("checkboxes", .str "Pick many (checkboxes)")]

/-- The questions about one prompt. -/
def fieldPrompts : List Value := [
  .map [("name", .str "message"), ("message", .str "Message to show the user")],
  .map [("name", .str "name"),
    ("message", .str "Internal field name (used for replacements)")],
  .map [("name", .str "type"), ("message", .str "Select a field type"), ("type", .str "radio"),
    ("default", .str "input"), ("options", kindOptions)]]

/-- The question for the options of a prompt. -/
def optionsQuestion : String :=
  "Provide a comma separated list of options (use \"key > value\" syntax to set keys)"

/-- The directive that copies all files of a template. -/
def copyAll : Value :=
  .map [("directive", .str "copy"), ("from", .str "."), ("to", .str ".")]

/-! ## The dialogue -/

/-- How many prompts one dialogue adds at most. Operators stop long before; the bound makes the
dialogue end with every operator. -/
def fieldLimit : Nat := 100000

/-- The kind of a prompt as it was answered. -/
def kindOf (field : Store) : PromptKind :=
  ((field.getStr? "type").bind PromptKind.ofName?).getD .input

/-- Asks for the default of a prompt for plain input. -/
def askDefault (operator : Operator) (kind : PromptKind) (field : Store) : Act Store := do
  if kind = .input then
    if ← World.confirm operator "Set a default value?" false then
      let default ← World.askLine operator "Default value"
      return field.set "default" (.str default)
    else return field
  else return field

/-- Asks for the options of a prompt that offers choices. -/
def askOptions (operator : Operator) (kind : PromptKind) (field : Store) : Act Store := do
  if kind.needsOptions then
    let list ← World.askLine operator optionsQuestion
    return field.set "options" (.map (OptionList.read list))
  else return field

/-- Asks what the kind of a prompt asks for. -/
def askMore (operator : Operator) (field : Store) : Act Value := do
  let filled ← askDefault operator (kindOf field) field
  let complete ← askOptions operator (kindOf field) filled
  return complete.toValue

/-- Asks the questions about one prompt. -/
def askField (pipeline : Pipeline) (transforms : Registry) (operator : Operator) :
    Act Value := fun w =>
  match pipeline.collect transforms operator (.empty, w) with
  | (.error e, _, w) => (.error e, w)
  | (.ok (), field, w) => askMore operator field w

/-- Asks about prompts until the operator wants no more, `rounds` of them at most. -/
def askFields (pipeline : Pipeline) (transforms : Registry) (operator : Operator) :
    (rounds : Nat) → Act (List Value)
  | 0 => Step.fail .userAbort
  | rounds + 1 => do
    let field ← askField pipeline transforms operator
    if ← World.confirm operator "Add another prompt?" false then
      let rest ← askFields pipeline transforms operator rounds
      return field :: rest
    else return [field]

/-- Asks for the prompts of the template. -/
def askPrompts (transforms : Registry) (operator : Operator) (rounds : Nat) :
    Act (List Value) := do
  if ← World.confirm operator "Would you like to request data from the user?" false then
    let pipeline ← Pipeline.read transforms fieldPrompts
    askFields pipeline transforms operator rounds
  else return []

/-- Asks for the directives of the template. -/
def askDirectives (operator : Operator) : Act (List Value) := do
  if ← World.confirm operator "Copy all template files into the project?" true then
    return [copyAll]
  else return []

/-- The data of a configuration with given sections. -/
def sections (prompts directives : List Value) : Store :=
  ((Store.empty.set "prompts" (.list prompts)).set "directives" (.list directives)).set
    "messages" (.list [])

/-- Writes the configuration of a template in a directory, as the operator says in so many rounds.
One that is there is replaced only by force. -/
def createWithin (rounds : Nat) (transforms : Registry) (operator : Operator) (dir : Path)
    (force : Bool) : Act ConfigFile := do
  let file := ConfigFile.template dir
  if (← World.exists file.path) && !force then
    Step.fail (.invalidSubcommand "template create"
      s!"{file.path.text} already exists, add --force to overwrite it")
  let prompts ← askPrompts transforms operator rounds
  let directives ← askDirectives operator
  let config := { file with data := sections prompts directives }
  config.save
  World.tell .success s!"Created {config.path.text}"
  return config

/-- Writes the configuration of a template in a directory, as the operator says. -/
def create (transforms : Registry) (operator : Operator) (dir : Path) (force : Bool) :
    Act ConfigFile :=
  createWithin fieldLimit transforms operator dir force

end Stencil.Authoring
