import Stencil.Config.File
import Stencil.Git

/-!
# Template repositories

A repository is a directory of templates that was cloned from somewhere. The user's configuration
registers it under `templates.<name>` with its url and its path.

A clone is made beside its final place, in a directory of a fresh name, and moved only when git
has succeeded; the fresh directory is removed in every case.
-/

set_option autoImplicit false

namespace Stencil.Repository

/-- A registered repository. -/
structure Entry where
  name : String
  url : String
  path : Path
  deriving DecidableEq

/-- What can be asked of a clone. -/
structure CloneOptions where
  name : String
  branch : Option String
  /-- An existing repository of the name gives way. -/
  force : Bool

/-- The name of a repository that is given none. -/
def defaultName : String := "default"

/-- The remote that updates come from when none is named. -/
def defaultRemote : String := "origin"

/-- The name that a perhaps empty one means. -/
def nameOf (name : String) : String :=
  if name = "" then defaultName else name

/-! ## The register -/

/-- Where a repository is registered. -/
def key (name : String) : String :=
  s!"templates.{name}"

/-- Where the url of a repository is registered. -/
def urlKey (name : String) : String :=
  s!"templates.{name}.url"

/-- Where the path of a repository is registered. -/
def pathKey (name : String) : String :=
  s!"templates.{name}.path"

/-- Where the repository of a name is: at its registered path, or where it would be cloned to. -/
def location (settings : Settings) (data : Store) (name : String) : Path :=
  match data.getStr? (pathKey name) with
  | some path => ⟨path⟩
  | none => settings.repoDir name

/-- The entry of a name. -/
def entry (settings : Settings) (data : Store) (name : String) : Entry :=
  ⟨name, (data.getStr? (urlKey name)).getD "", location settings data name⟩

/-- The registered repositories, in the order of their registration. -/
def list (settings : Settings) (data : Store) : List Entry :=
  match data.get? "templates" with
  | some (.map fields) => (Fields.keys fields).map (entry settings data)
  | _ => []

/-- The data with a repository registered. -/
def registered (name url : String) (path : Path) (data : Store) : Store :=
  (data.set (urlKey name) (.str url)).set (pathKey name) (.str path.text)

/-- Registers a repository. -/
def register (name url : String) (path : Path) : ConfigFile.Editing Unit := do
  ConfigFile.edit (registered name url path)
  ConfigFile.saveNow

/-! ## Cloning -/

/-- The first name that is still free for a fresh directory. -/
def freshName (files : FileTree) (dir : Path) : String :=
  let candidates := (List.range (files.entries.length + 1)).map fun n => s!".tmp{n}"
  (candidates.find? fun name => !files.exists (dir.joinText name)).getD ".tmp"

/-- Makes a fresh directory in a directory, and gives its path from the root. -/
def stage (dir : Path) : Act Path := fun w =>
  let place := (FileTree.absolute w.files.current).join dir
  let staging := place.joinText (freshName w.files place)
  match w.files.makeDir staging with
  | .ok files => (.ok staging, { w with files := files })
  | .error _ => (.error (.io "creating temporary directory for git clone"), w)

/-- Removes a directory as far as that is possible. -/
def discard (dir : Path) : Act Unit :=
  World.onFiles (Step.modify fun t => (t.delete dir).2)

/-- The arguments that make git clone. -/
def cloneArguments (url : String) (branch : Option String) (target : Path) : List String :=
  ["clone"] ++ (match branch with | some b => ["--branch", b] | none => []) ++
    ["--", url, target.text]

/-- Clones into a staging directory, moves the clone into place and registers it. -/
def cloneThrough (git : Git) (staging : Path) (url : String) (options : CloneOptions)
    (name : String) (path : Path) : ConfigFile.Editing Path := do
  let clone := staging.joinText "repo"
  ConfigFile.beside (git.perform "clone" (cloneArguments url options.branch clone))
  ConfigFile.beside (World.onFiles
    (Step.attempt (.io s!"moving clone into {path.text}") fun t => t.rename clone path))
  register name url path
  ConfigFile.beside (World.tell .success s!"Cloned {url} as '{name}'")
  return path

/-- Removes what is at the place of a clone, if that is asked for. -/
def makeWay (name : String) (path : Path) (force : Bool) : Act Unit := do
  if ← World.exists path then
    if force then
      World.tell .info s!"Deleting existing files located at: {path.text}"
      World.delete path
    else Step.fail (.repoExists name)

/-- Clones a repository and registers it. -/
def clone (settings : Settings) (git? : Option Git) (url : String) (options : CloneOptions) :
    ConfigFile.Editing Path := do
  let git ← Step.ofOption .gitNotFound git?
  let name := nameOf options.name
  let path := settings.repoDir name
  ConfigFile.beside (makeWay name path options.force)
  ConfigFile.beside
    (World.makeDirs settings.templatesDir (.io s!"creating {settings.templatesDir.text}"))
  let staging ← ConfigFile.beside (stage settings.templatesDir)
  let result ← Step.outcome (cloneThrough git staging url options name path)
  ConfigFile.beside (discard staging)
  Step.ofExcept result

/-! ## Updating and deleting -/

/-- The arguments that make git update a repository. -/
def pullArguments (path : Path) (remote : String) (branch : Option String) : List String :=
  ["-C", path.text, "pull", remote] ++ branch.toList

/-- Pulls the latest state of a repository. -/
def update (settings : Settings) (git? : Option Git) (data : Store) (name : String)
    (branch : Option String) (remote : String) : Act Unit := do
  let git ← Step.ofOption .gitNotFound git?
  let name := nameOf name
  let path := location settings data name
  if !(← World.isDir path) then Step.fail (.repoNotFound name)
  git.perform "pull" (pullArguments path remote branch)
  World.tell .success s!"Updated '{name}' from {remote}"

/-- Removes a repository's files and its registration. -/
def delete (settings : Settings) (name : String) : ConfigFile.Editing Unit := do
  let name := nameOf name
  let data ← Step.asks fun s => s.1.data
  let path := location settings data name
  let present ← ConfigFile.beside (World.exists path)
  if !data.has (key name) && !present then Step.fail (.repoNotFound name)
  if present then
    ConfigFile.beside (World.tell .info s!"Deleting existing files located at: {path.text}")
    ConfigFile.beside (World.delete path)
  ConfigFile.edit (·.forget (key name))
  ConfigFile.saveNow
  ConfigFile.beside (World.tell .success "Repository deleted successfully!")

end Stencil.Repository
