import Stencil.Directive.Perform
import Stencil.Template.Find
import Stencil.Template.Load

/-!
# Making a template

A template is made in the working directory of the session: its prompts are asked, its directives
carried out, and its messages put aside for the end. Meanwhile it is the active template, and
asking for force makes it overwrite files.

Both are scoped. Whatever happens, the template and the overwriting of before are back afterwards,
and so is the published directory of the template; so a template that another one makes hands
control back as it got it.
-/

set_option autoImplicit false

namespace Stencil

/-- What can be asked of the making of a template. -/
structure MakeOptions where
  /-- Files that are there are replaced. -/
  force : Bool
  /-- Values that are stored before the first prompt. -/
  data : List (String × String)

namespace Make

/-- Stores values one after another. -/
def storeAll (pairs : List (String × String)) (s : Session) : Session :=
  { s with data := s.data.putAll (pairs.map fun (key, value) => (key, .str value)) }

/-- Stores the given values, then finds and loads the template that a reference asks for. -/
def prepare (services : Services) (template : String) (options : MakeOptions) :
    Job LoadedTemplate := do
  Job.change (storeAll options.data)
  let ref ← Step.ofExcept (TemplateRef.read template)
  let located ← locate services ref
  Job.outside (LoadedTemplate.load services located)

/-- Asks the prompts of a template. -/
def askAll (services : Services) (prompts : Pipeline) : Job Unit :=
  (prompts.collect services.transforms services.operator).on
    (fun r => (r.session.data, r.world))
    (fun s r => { r with session := { r.session with data := s.1 }, world := s.2 })

/-- Puts a message aside for the end. -/
def deferMessage (services : Services) (spec : MessageSpec) : Job Unit := do
  let text ← services.render spec.message
  Job.change (·.defer ⟨spec.kind, text⟩)

/-- Does what a template says, in order. -/
def body (services : Services) (t : LoadedTemplate) : Job Unit := do
  Job.change fun s =>
    { s with data := s.data.set "template_dir" (.str t.template.dir.text) }
  askAll services t.prompts
  Directive.performAll t.directives services
  Step.each (deferMessage services) t.messages

/-- A session with a template active. -/
def enter (t : ActiveTemplate) (force : Bool) (s : Session) : Session :=
  { s with template := some t, overwrite := s.overwrite || force }

/-- The published directory of the active template. -/
def publishTemplate (s : Session) : Session :=
  match s.template with
  | some t => { s with data := s.data.set "template_dir" (.str t.dir.text) }
  | none => { s with data := s.data.forget "template_dir" }

/-- A session as it was before, as far as the active template goes. -/
def leave (before s : Session) : Session :=
  publishTemplate { s with template := before.template, overwrite := before.overwrite }

/-- Carries out a job with a template active. -/
def within (t : ActiveTemplate) (force : Bool) (m : Job Unit) : Job Unit := do
  let before ← Job.session
  Job.change (enter t force)
  let result ← Step.outcome m
  Job.change (leave before)
  Step.ofExcept result

end Make

/-- Makes the template that a reference asks for. -/
def make (services : Services) (template : String) (options : MakeOptions) : Job Unit := do
  let loaded ← Make.prepare services template options
  Make.within loaded.template options.force (Make.body services loaded)

end Stencil
