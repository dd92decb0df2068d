import Stencil.Directive.Spec
import Stencil.Session.Basic
import Stencil.Text.Lossy

/-!
# Executing scripts

What an execute directive does: a script of the template gets the session's data and gives it
back. Maps lose their order on the way, since a script keeps the entries of a map by key; at the
top of the data, keys that were there before keep their place all the same.

A script can also leave messages for the end. They are looked at after the data has been taken
over.
-/

set_option autoImplicit false

namespace Stencil

/-- Fields by key. -/
def Fields.sorted {α : Type} (fields : Fields α) : Fields α :=
  fields.mergeSort fun a b => decide (a.1 ≤ b.1)

mutual

/-- A value with the entries of every map in the order of the keys. -/
def Value.sorted : Value → Value
  | .list items => .list (sortedItems items)
  | .map fields => .map (Fields.sorted (sortedFields fields))
  | v => v

/-- `sorted` on every item. -/
def sortedItems : List Value → List Value
  | [] => []
  | v :: rest => v.sorted :: sortedItems rest

/-- `sorted` on the value of every field. -/
def sortedFields : List (String × Value) → List (String × Value)
  | [] => []
  | (key, v) :: rest => (key, v.sorted) :: sortedFields rest

end

/-- The message that a value stands for: a map may give its kind and text. -/
def Message.ofValue : Value → Message
  | .str text => ⟨.out, text⟩
  | .map fields =>
    let kind := match Fields.find? "type" fields with
      | some (.str name) => MessageKind.ofName name
      | _ => .out
    ⟨kind, ((Fields.find? "message" fields).map Value.display).getD ""⟩
  | other => ⟨.out, other.display⟩

namespace ExecuteDirective

/-- The variables that a script starts with in a session. -/
def input (s : Session) : ScriptInput where
  data := s.data.toValue.sorted
  templateDir := match s.template with
    | some t => t.dir.text
    | none => ""
  workingDir := s.workingDir.text
  projectRoot := s.projectRoot.text

/-- Takes over the data that a script left behind. -/
def adoptData (file : String) (result : ScriptResult) : Job Unit :=
  match result.data with
  | .gone => pure ()
  | .value (.map fields) => Job.change fun s => { s with data := s.data.replaceOrdered fields }
  | _ => Step.fail (.script file .dataNotMap)

/-- Takes over the messages that a script left behind. -/
def adoptMessages (file : String) (result : ScriptResult) : Job Unit :=
  match result.messages with
  | .gone => pure ()
  | .value (.list items) =>
    Job.change fun s => { s with messages := s.messages ++ items.map Message.ofValue }
  | _ => Step.fail (.script file .messagesNotList)

/-- Takes over what a script left behind. -/
def adopt (file : String) (result : ScriptResult) : Job Unit := do
  adoptData file result
  adoptMessages file result

/-- Runs a script that is there. -/
def runScript (services : Services) (path : Path) : Job Unit := do
  let content ← Job.outside (World.read path)
  let r ← Step.get
  let fileExists (name : String) : Bool :=
    r.world.files.exists (r.session.workingDir.joinText name)
  match services.scripts fileExists (input r.session) (Text.decodeLossy content) with
  | none => Step.fail (.script path.text .failed)
  | some result => adopt path.text result

/-- Carries out the directive. -/
def perform (d : ExecuteDirective) (services : Services) : Job Unit := do
  let templateDir ← Job.consult Session.templateDir
  let path := templateDir.joinText (← services.render d.file)
  if ← Job.outside (World.exists path) then runScript services path
  else Step.fail (.fileMissing path)

end ExecuteDirective

end Stencil
