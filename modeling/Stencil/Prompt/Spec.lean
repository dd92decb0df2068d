import Stencil.Fault
import Stencil.Json.Print
import Stencil.Unicode.Blank
import Stencil.Unicode.Printable

/-!
# Prompt specifications

An entry of a template's `prompts` describes one question. It is read in two stages. First its
seven fields are checked for their JSON types, one by one in the order in which they are written;
then the entry as a whole is checked: it needs a name, and a prompt that offers choices needs at
least one. A field that nobody knows is ignored.

An entry may also be written as a list of its seven fields. Then the fields are checked in the
order of their declaration, before the length of the list.
-/

set_option autoImplicit false

namespace Stencil

/-! ## Kinds and choices -/

/-- The kinds of question. -/
inductive PromptKind where
  | input
  | multiline
  | password
  | confirm
  | enum
  | radio
  | checkboxes
  deriving DecidableEq

namespace PromptKind

/-- The kind that a `type` means. -/
def ofName? (name : String) : Option PromptKind :=
  if name = "input" then some .input
  else if name = "multiline" then some .multiline
  else if name = "password" then some .password
  else if name = "confirm" ∨ name = "boolean" then some .confirm
  else if name = "enum" then some .enum
  else if name = "radio" then some .radio
  else if name = "checkboxes" then some .checkboxes
  else none

/-- The kind offers choices. -/
def needsOptions : PromptKind → Bool
  | .enum => true
  | .radio => true
  | .checkboxes => true
  | _ => false

end PromptKind

/-- An option: the value that is stored and the label that is shown. -/
structure Choice where
  value : String
  label : String
  deriving DecidableEq

/-- A question of a template. -/
structure PromptSpec where
  name : String
  message : String
  /-- The `type` as it is written. -/
  typeName : String
  kind : PromptKind
  default : Option Value
  transform : List String
  transformDefault : List String
  options : List Choice

/-- The written `type` is not known. -/
def PromptSpec.isFallback (spec : PromptSpec) : Bool :=
  (PromptKind.ofName? spec.typeName).isNone

/-! ## Field types -/

/-- What a value is, in the words of a message about its type. -/
def Value.described : Value → String
  | .null => "null"
  | .bool b => s!"boolean `{b}`"
  | .int n => s!"integer `{n}`"
  | .float x => s!"floating point `{String.ofList (Json.doubleChars x)}`"
  | .str s => s!"string {Unicode.quoted s}"
  | .list _ => "sequence"
  | .map _ => "map"

/-- Something else was expected in the place of a value. -/
def mistyped (v : Value) (expected : String) : String :=
  s!"invalid type: {v.described}, expected {expected}"

/-- A text, or null for none. -/
def textField (v : Value) : Except String (Option String) :=
  match v with
  | .null => .ok none
  | .str s => .ok (some s)
  | v => .error (mistyped v "a string")

/-- What is not a chain of transform names. -/
def notAChain : String :=
  "data did not match any variant of untagged enum OneOrMany"

/-- The texts of a list of strings. -/
def stringItems? : List Value → Option (List String)
  | [] => some []
  | .str s :: rest => (stringItems? rest).map (s :: ·)
  | _ :: _ => none

/-- A chain of transform names: a list of them, or one alone; the empty name alone is no name. -/
def chainField (v : Value) : Except String (List String) :=
  match v with
  | .str s => .ok (if s = "" then [] else [s])
  | .list items =>
    match stringItems? items with
    | some names => .ok names
    | none => .error notAChain
  | _ => .error notAChain

/-! ## Fields -/

/-- The fields of an entry after the check of their types. -/
structure PromptFields where
  name : Option String := none
  message : Option String := none
  typeName : Option String := none
  default : Option Value := none
  transform : List String := []
  transformDefault : List String := []
  options : Option Value := none

/-- A null stands for a value that is not there. -/
def presentField (v : Value) : Option Value :=
  match v with
  | .null => none
  | v => some v

/-- The names of the fields in the order of their declaration. -/
def promptFieldNames : List String :=
  ["name", "message", "type", "default", "transform", "transform_default", "options"]

namespace PromptFields

/-- Takes in one field. -/
def take (fields : PromptFields) (key : String) (v : Value) : Except String PromptFields :=
  if key = "name" then (textField v).map fun t => { fields with name := t }
  else if key = "message" then (textField v).map fun t => { fields with message := t }
  else if key = "type" then (textField v).map fun t => { fields with typeName := t }
  else if key = "default" then .ok { fields with default := presentField v }
  else if key = "transform" then (chainField v).map fun c => { fields with transform := c }
  else if key = "transform_default" then
    (chainField v).map fun c => { fields with transformDefault := c }
  else if key = "options" then .ok { fields with options := presentField v }
  else .ok fields

/-- Takes in fields one after another. -/
def takeAll (fields : PromptFields) : List (String × Value) → Except String PromptFields
  | [] => .ok fields
  | (key, v) :: rest =>
    match fields.take key v with
    | .ok fields => fields.takeAll rest
    | .error e => .error e

/-- The place of the first field that a list of a given length lacks. The two chains may be
missing, but what follows them may not. -/
def firstLacking (length : Nat) : Nat :=
  if length < 4 then length else 6

/-- The fields of an entry, written as a map or as a list. -/
def ofValue (v : Value) : Except String PromptFields :=
  match v with
  | .map entries => takeAll {} entries
  | .list items =>
    match takeAll {} (promptFieldNames.zip items) with
    | .error e => .error e
    | .ok fields =>
      if items.length < 7 then
        .error s!"invalid length {firstLacking items.length}, expected struct RawPrompt with 7 elements"
      else if 7 < items.length then
        .error s!"invalid length {items.length}, expected fewer elements in array"
      else .ok fields
  | v => .error (mistyped v "struct RawPrompt")

end PromptFields

/-! ## The entry as a whole -/

/-- The choices of an `options` field: the elements of a list, or the entries of a map. -/
def choicesOf (name : String) (options : Value) : Except Fault (List Choice) :=
  match options with
  | .list items => .ok (items.map fun item => ⟨item.display, item.display⟩)
  | .map fields => .ok (fields.map fun (value, label) => ⟨value, label.display⟩)
  | other =>
    .error (.invalidSpec .prompt s!"options for '{name}' must be a list or a map, got {other.json}")

/-- A name that is not blank. -/
def properName? (name : Option String) : Option String :=
  name.filter fun n => !(Unicode.trim n.toList).isEmpty

/-- Reads an entry. A `type` that is not known counts as plain input. -/
def PromptSpec.ofValue (v : Value) : Except Fault PromptSpec :=
  match PromptFields.ofValue v with
  | .error reason => .error (.invalidSpec .prompt reason)
  | .ok fields =>
    match properName? fields.name with
    | none => .error (.missingField .prompt (fields.message.getD "") "name")
    | some name =>
      let typeName := (fields.typeName.filter (· != "")).getD "input"
      let kind := (PromptKind.ofName? typeName).getD .input
      let choices : Except Fault (List Choice) :=
        match fields.options with
        | none => .ok []
        | some options => choicesOf name options
      match choices with
      | .error e => .error e
      | .ok options =>
        if kind.needsOptions && options.isEmpty then .error (.missingField .prompt name "options")
        else
          .ok {
            name := name
            message := fields.message.getD name
            typeName := typeName
            kind := kind
            default := fields.default
            transform := fields.transform
            transformDefault := fields.transformDefault
            options := options }

end Stencil
