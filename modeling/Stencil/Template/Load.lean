import Stencil.Directive.Spec
import Stencil.Prompt.Pipeline
import Stencil.Session.Basic
import Stencil.Template.Config

/-!
# Loading templates

Before a template does anything, its configuration is read as a whole: every prompt and every
directive is checked. Loading asks nothing and writes nothing; all it does is to point out prompts
of unknown types.
-/

set_option autoImplicit false

namespace Stencil

/-- A template with its prompts and directives checked. -/
structure LoadedTemplate where
  template : ActiveTemplate
  prompts : Pipeline
  directives : List Directive
  messages : List MessageSpec

namespace LoadedTemplate

/-- The sections of a template's configuration. -/
def config (files : FileTree) (dir : Path) : Except Fault TemplateConfig :=
  let file := ConfigFile.template dir
  if !file.isPresent files then .error (.templateConfigMissing file.path)
  else
    match file.load files with
    | .error e => .error e
    | .ok data => TemplateConfig.ofStore data file.path

/-- Loads a template. -/
def load (services : Services) (template : ActiveTemplate) : Act LoadedTemplate := do
  let files ← Step.asks World.files
  let sections ← Step.ofExcept (config files template.dir)
  let prompts ← Pipeline.read services.transforms sections.prompts
  let directives ← Step.ofExcept (Directive.listOfValues sections.directives)
  return ⟨template, prompts, directives, sections.messages⟩

end LoadedTemplate

end Stencil
