import Stencil.Prompt.Pipeline
import Stencil.Session.Basic

/-!
# Projects

A project is a directory with a configuration that holds the answers to twelve questions, so that
no template has to ask them again. `Project.init` asks the questions and saves the answers at the
project's root, which is itself one of the answers and is not saved.

A project's configuration has the name of the user's own, so the home directory cannot become a
project.
-/

set_option autoImplicit false

namespace Stencil.Project

/-! ## The questions -/

/-- A question with a fixed default, or none. -/
def plainPrompt (name message : String) (default : Option String) : Value :=
  .map ([("name", .str name), ("message", .str message)] ++
    match default with
    | some d => [("default", .str d)]
    | none => [])

/-- A question whose default is made from earlier answers. -/
def derivedPrompt (name message default transform : String) : Value :=
  .map [("name", .str name), ("message", .str message), ("default", .str default),
    ("transform_default", .str transform)]

/-- The question for the project's root. -/
def rootPrompt (workingDir : String) : Value :=
  .map [("name", .str "project_root"), ("message", .str "Project root path"),
    ("default", .str workingDir), ("transform", .str "realpath")]

/-- The name of the project as a placeholder. -/
def projectName : String := "\x7b\x7b project_name \x7d\x7d"

/-- The short form of a project's name as a placeholder, and a text after it. -/
def shortWith (ending : String) : String := "\x7b\x7b prefixes.short \x7d\x7d" ++ ending

/-- The questions in order. Later defaults build on earlier answers. -/
def prompts (workingDir dirName : String) : List Value := [
  rootPrompt workingDir,
  plainPrompt "project_name" "Project name" none,
  plainPrompt "vendor_name" "Vendor name" none,
  derivedPrompt "package_name" "Package name" projectName "kebabCase",
  plainPrompt "text_domain" "Project text domain" (some dirName),
  derivedPrompt "namespace" "Project namespace" projectName "pascalCase",
  derivedPrompt "prefixes.long" "Long prefix" projectName "pascalCase",
  derivedPrompt "prefixes.short" "Short prefix" projectName "abbreviate",
  derivedPrompt "prefixes.function" "Function prefix" (shortWith "_") "lowercase",
  derivedPrompt "prefixes.constant" "Constant prefix" (shortWith "_") "uppercase",
  derivedPrompt "prefixes.meta" "Meta prefix (used for post meta, options, etc.)"
    (shortWith "_") "lowercase",
  derivedPrompt "prefixes.slug" "Slug prefix (used for post types and taxonomy names)"
    (shortWith "-") "lowercase"]

/-! ## Initialising -/

/-- Makes sure that a configuration in the working directory may be replaced. -/
def confirmReplacing (services : Services) (workingDir : Path) (force : Bool) : Act Unit := do
  let files ← Step.asks World.files
  let there := ConfigFile.project workingDir
  if there.isPresent files && !there.isGlobal services.settings files && !force then
    World.tell .error "A project config already exists!"
    if !(← World.confirm services.operator "Do you want to force overwrite?" false) then
      Step.fail .userAbort

/-- Asks the questions and gives the answers. -/
def askAll (services : Services) (workingDir : Path) : Act Store := fun w =>
  let entries := prompts workingDir.text (workingDir.fileName?.getD "")
  let asked : Pipeline.Filling Unit := do
    let pipeline ← Pipeline.onWorld (Pipeline.read services.transforms entries)
    pipeline.collect services.transforms services.operator
  match asked (.empty, w) with
  | (.ok (), answers, w) => (.ok answers, w)
  | (.error e, _, w) => (.error e, w)

/-- The project's root by the answers: where an answer leads from the working directory. -/
def rootOf (workingDir : Path) (answers : Store) : Path :=
  let answer := ((answers.get? "project_root").map Value.display).filter (· != "")
  workingDir.joinParts ⟨answer.getD workingDir.text⟩

/-- What is said about a root that is the home directory. -/
def homeRefusal (config : ConfigFile) : String :=
  s!"{config.path.text} is the global config, pick a project root other than the home directory"

/-- Saves the answers at the project's root. -/
def saveAnswers (services : Services) (workingDir : Path) (answers : Store) : Act ConfigFile := do
  let files ← Step.asks World.files
  let config : ConfigFile :=
    { ConfigFile.project (rootOf workingDir answers) with data := answers.forget "project_root" }
  if config.isGlobal services.settings files then
    Step.fail (.invalidSpec .project (homeRefusal config))
  config.save
  World.tell .success s!"Project config saved to {config.path.text}"
  return config

/-- Asks for the details of a project and saves them at its root. -/
def init (services : Services) (force : Bool) : Job ConfigFile := do
  let s ← Job.session
  Job.outside (confirmReplacing services s.workingDir force)
  let answers ← Job.outside (askAll services s.workingDir)
  let config ← Job.outside (saveAnswers services s.workingDir answers)
  Job.change fun s =>
    { s with projectRoot := config.dir, data := s.data.merge config.data }
  return config

end Stencil.Project
