import Stencil.CommandLine.Command
import Stencil.Project
import Stencil.Template.Authoring
import Stencil.Template.Make
import Stencil.Template.Repository

/-!
# Carrying out commands

What each command does in a run. A template that is asked for from the default namespace, before
any repository is there, has the default repository cloned first, when the user's configuration
names one.

A template can have commands of the program carried out within its own run. The host that takes
them reads the arguments as the program does, and carries the command out with the services of the
run it is called in; their nesting is bounded.
-/

set_option autoImplicit false

namespace Stencil.CommandLine

/-! ## The user's configuration -/

/-- Editing the user's configuration, as it is now. -/
def onGlobal {α : Type} (services : Services) (m : ConfigFile.Editing α) : Act α := fun w =>
  match (ConfigFile.global services.settings).load w.files with
  | .error e => (.error e, w)
  | .ok data =>
    let (result, _, w) := m ({ ConfigFile.global services.settings with data := data }, w)
    (result, w)

/-- Notes the default repository of the settings in the user's configuration, unless it names one
already. -/
def bootstrap (settings : Settings) : Act ConfigFile := do
  let config ← (ConfigFile.global settings).loaded
  match settings.defaultRepo with
  | none => return config
  | some url =>
    if config.data.has "default_template_repo" then return config
    else do
      let noted := { config with data := config.data.set "default_template_repo" (.str url) }
      noted.save
      return noted

/-! ## Templates -/

/-- Clones the default repository when it is needed and known. -/
def ensureDefaultRepo (services : Services) (s : Session) (template : String) : Act Unit := do
  let ref ← Step.ofExcept (TemplateRef.read template)
  if spaceOf s ref != defaultSpace then return ()
  else if ← World.exists (services.settings.repoDir defaultSpace) then return ()
  else
    onGlobal services do
      let (config, _) ← Step.get
      match config.data.getStr? "default_template_repo" with
      | none => return ()
      | some url =>
        ConfigFile.beside (World.tell .info s!"Installing default templates from {url}")
        let _ ← Repository.clone services.settings services.git url ⟨defaultSpace, none, false⟩

/-- Makes a template. -/
def runMake (services : Services) (template : String) (options : MakeOptions) : Job Unit := do
  let s ← Job.session
  Job.outside (ensureDefaultRepo services s template)
  make services template options

/-- The ending of a count other than one. -/
def pluralEnding (n : Nat) : String :=
  if n = 1 then "" else "s"

/-- Shows the installed templates. -/
def listTemplates (services : Services) : Act Unit := do
  let files ← Step.asks World.files
  match ← Step.ofExcept (installedTemplates services.settings files) with
  | [] => World.tell .out s!"No templates found in {services.settings.templatesDir.text}"
  | templates =>
    let count := templates.length
    World.tell .out s!"Installed templates ({count} template{pluralEnding count})"
    Step.each (fun t => World.tell .out s!"  {t.id}  {t.dir.text}") templates

/-! ## Repositories -/

/-- Clones a repository; when there is one of the name already, the way out is shown. -/
def cloneRepo (services : Services) (url name : String) (branch : Option String) (force : Bool) :
    ConfigFile.Editing Unit := do
  let result ← Step.outcome (Repository.clone services.settings services.git url ⟨name, branch, force⟩)
  match result with
  | .ok _ => return ()
  | .error (.repoExists name) =>
    ConfigFile.beside (World.tell .error "Repository has already been cloned!")
    ConfigFile.beside (World.tell .out
      s!"Run '{baseCommand} repo update --as {name}' to update, or clone with --force.")
    Step.fail (.repoExists name)
  | .error e => Step.fail e

/-- Deletes a repository once the operator agrees. -/
def deleteRepo (services : Services) (name : String) (yes : Bool) : ConfigFile.Editing Unit := do
  if !yes then
    let agreed ← ConfigFile.beside (World.confirm services.operator
      "Are you sure you want to delete this repository?" false)
    if !agreed then Step.fail .userAbort
  Repository.delete services.settings name

/-- Shows the registered repositories. -/
def listRepos (services : Services) (data : Store) : Act Unit :=
  match Repository.list services.settings data with
  | [] => World.tell .out
      s!"No template repositories. Use '{baseCommand} repo clone <url>' to add one."
  | entries => Step.each (fun e => World.tell .out s!"{e.name}: {e.url}") entries

/-! ## All commands -/

/-- Carries out a command. -/
def dispatch (services : Services) : Command → Job Unit
  | .make template force data => runMake services template ⟨force, data⟩
  | .init force => do let _ ← Project.init services force
  | .cloneRepo url name branch force =>
    Job.outside (onGlobal services (cloneRepo services url name branch force))
  | .updateRepo name branch remote =>
    Job.outside (onGlobal services do
      let (config, _) ← Step.get
      ConfigFile.beside
        (Repository.update services.settings services.git config.data name branch remote))
  | .deleteRepo name yes => Job.outside (onGlobal services (deleteRepo services name yes))
  | .listRepos =>
    Job.outside (onGlobal services do
      let (config, _) ← Step.get
      ConfigFile.beside (listRepos services config.data))
  | .createTemplate force => do
    let s ← Job.session
    let _ ← Job.outside
      (Authoring.create services.transforms services.operator s.workingDir force)
  | .listTemplates => Job.outside (listTemplates services)

/-! ## Commands within a run -/

/-- How deep commands can be nested. -/
def nestingLimit : Nat := 1000

/-- How the program is called. -/
def usageText : String :=
  s!"usage: {baseCommand} [--defaults] <command>\n\ncommands: make, init, repo, template"

/-- A command line as it was called. -/
def calledAs (args : List String) : String :=
  baseCommand ++ " " ++ " ".intercalate args

/-- The host that carries out commands within a run, `depth` levels of them. -/
def host (services : Services) : (depth : Nat) → List String → Job Unit
  | 0, args => Step.fail (.invalidSubcommand (calledAs args) "nested too deeply")
  | depth + 1, args =>
    match read args with
    | .error _ => Step.fail (.invalidSubcommand (calledAs args) usageText)
    | .ok invocation =>
      dispatch { services with host := some (host services depth) } invocation.command

/-- The services of a program whose templates can call it. -/
def withHost (services : Services) : Services :=
  { services with host := some (host services nestingLimit) }

/-- The services with another operator, who also answers the commands of templates. -/
def withOperator (services : Services) (operator : Operator) : Services :=
  let changed := { services with operator := operator }
  if services.host.isSome then withHost changed else changed

/-- Carries out a command line of the program. -/
def carryOut (services : Services) (invocation : Invocation) : Job Unit :=
  if invocation.defaults then dispatch (withOperator services .defaults) invocation.command
  else dispatch services invocation.command

end Stencil.CommandLine
