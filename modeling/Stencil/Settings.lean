import Stencil.Fault

/-!
# Settings

Where the program keeps its things. Everything hangs on the home directory, which the environment
may name; the templates directory can be moved away from it, and a repository can be named that
is offered as the default one.
-/

set_option autoImplicit false

namespace Stencil

/-- The word that a command line of the program itself starts with. -/
def baseCommand : String := "forge"

/-- The name of a template's configuration file. -/
def templateConfigName : String := "config.json"

/-- The name of a project's configuration file. -/
def projectConfigName : String := ".forge.json"

/-- The name of the user's own configuration file in the home directory. -/
def globalConfigName : String := ".forge.json"

/-- Read-only settings of a run. -/
structure Settings where
  home : Path
  templatesDir : Path
  defaultRepo : Option String
  deriving DecidableEq

namespace Settings

/-- The directory in a home directory that holds everything but the global configuration. -/
def dataDirIn (home : Path) : Path :=
  home.joinText ".forge"

/-- The settings of a home directory, with nothing moved. -/
def ofHome (home : Path) : Settings :=
  ⟨home, (dataDirIn home).joinText "templates", none⟩

/-- The settings that the environment asks for. -/
def ofEnvironment (ask : String → Option String) : Except Fault Settings :=
  match (ask "FORGE_HOME").or ((ask "HOME").filter (· != "")) with
  | none => .error .homeDirMissing
  | some home =>
    let settings := ofHome ⟨home⟩
    .ok { settings with
      templatesDir := ((ask "FORGE_TEMPLATES_DIR").map Path.mk).getD settings.templatesDir
      defaultRepo := (ask "FORGE_DEFAULT_TEMPLATE_REPO").filter (· != "") }

/-- The directory that holds everything but the global configuration. -/
def dataDir (s : Settings) : Path :=
  dataDirIn s.home

/-- The directory of the repository of a name. -/
def repoDir (s : Settings) (name : String) : Path :=
  s.templatesDir.joinText name

/-- The directory of a template. -/
def templateDir (s : Settings) (space name : String) : Path :=
  (s.templatesDir.joinText space).joinText name

/-- A word calls the program itself, by its name or by a path that ends in it. -/
def isBaseCommand (word : String) : Bool :=
  word == baseCommand || (⟨word⟩ : Path).fileName? == some baseCommand

end Settings

end Stencil
