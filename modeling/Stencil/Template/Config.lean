import Stencil.Fault
import Stencil.Message
import Stencil.Prompt.Spec
import Stencil.Store

/-!
# Template configurations

The sections of a template's configuration file. Prompts and directives stay plain values here,
so that each entry is checked by its own reader, whose fault names the entry.
-/

set_option autoImplicit false

namespace Stencil

/-- A message that is shown at the end of a run; its text is a template text. -/
structure MessageSpec where
  type : String
  message : String
  deriving DecidableEq

/-- The kind of the message. -/
def MessageSpec.kind (m : MessageSpec) : MessageKind :=
  .ofName m.type

/-- A message of a configuration: a map with a text and perhaps a type, or a list of both. -/
def MessageSpec.ofValue? : Value → Option MessageSpec
  | .map fields =>
    match (Fields.find? "type" fields).getD (.str ""), Fields.find? "message" fields with
    | .str type, some (.str message) => some ⟨type, message⟩
    | _, _ => none
  | .list [.str type, .str message] => some ⟨type, message⟩
  | _ => none

/-- The sections of a template's configuration. -/
structure TemplateConfig where
  prompts : List Value
  directives : List Value
  messages : List MessageSpec

namespace TemplateConfig

/-- The entries of a section, which is a list if it is there. -/
def section? (data : Store) (name : String) : Option (List Value) :=
  match Fields.find? name data.fields with
  | none => some []
  | some (.list items) => some items
  | some _ => none

/-- The messages of a list. -/
def messages? : List Value → Option (List MessageSpec)
  | [] => some []
  | v :: rest =>
    match MessageSpec.ofValue? v, messages? rest with
    | some m, some ms => some (m :: ms)
    | _, _ => none

/-- The sections of the data of a configuration file. -/
def ofStore (data : Store) (path : Path) : Except Fault TemplateConfig :=
  match section? data "prompts", section? data "directives",
      (section? data "messages").bind messages? with
  | some prompts, some directives, some messages => .ok ⟨prompts, directives, messages⟩
  | _, _, _ => .error (.configParse path)

end TemplateConfig

end Stencil
