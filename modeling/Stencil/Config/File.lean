import Stencil.Json.Read
import Stencil.Settings
import Stencil.Store
import Stencil.World

/-!
# Configuration files

A JSON file and the data read from it. The configurations of a template, of a project and of the
user are such files; they differ only in directory and name.

The project's file and the user's have the same name. A directory is taken for a project only if
it is not the home directory, however its path is written.
-/

set_option autoImplicit false

namespace Stencil

/-- A configuration file and its data. -/
structure ConfigFile where
  dir : Path
  fileName : String
  data : Store

namespace ConfigFile

/-- The configuration of a template. -/
def template (dir : Path) : ConfigFile :=
  ⟨dir, templateConfigName, .empty⟩

/-- The configuration of a project. -/
def project (dir : Path) : ConfigFile :=
  ⟨dir, projectConfigName, .empty⟩

/-- The user's configuration. -/
def global (settings : Settings) : ConfigFile :=
  ⟨settings.home, globalConfigName, .empty⟩

/-- Where the file is. -/
def path (c : ConfigFile) : Path :=
  c.dir.joinText c.fileName

/-- A directory is the home directory: by its path, or because both paths lead to one place. -/
def isHome (settings : Settings) (files : FileTree) (dir : Path) : Bool :=
  dir.same settings.home ||
    match files.realPath? dir, files.realPath? settings.home with
    | some a, some b => a.same b
    | _, _ => false

/-- The file is the user's configuration. -/
def isGlobal (c : ConfigFile) (settings : Settings) (files : FileTree) : Bool :=
  c.fileName == globalConfigName && isHome settings files c.dir

/-- A directory holds a project's configuration. -/
def isProject (settings : Settings) (files : FileTree) (dir : Path) : Bool :=
  !isHome settings files dir && files.isFile (dir.joinText projectConfigName)

/-- The project's configuration in the nearest directory, from `start` upwards; in `start` itself
when no directory holds one. -/
def discover (settings : Settings) (files : FileTree) (start : Path) : ConfigFile :=
  project ((start.ancestors.find? (isProject settings files)).getD start)

/-- The file is there and is not empty. -/
def isPresent (c : ConfigFile) (files : FileTree) : Bool :=
  match files.read? c.path with
  | some content => content.size != 0
  | none => false

/-! ## Reading and writing -/

/-- The data that a text holds: none if it is blank, else it has to be a JSON map. -/
def parse? (text : String) : Option Store :=
  if (Unicode.trim text.toList).isEmpty then some .empty
  else
    match Json.read? text with
    | some (.map fields) => some ⟨fields⟩
    | _ => none

/-- The data in the file, and none if there is no file. -/
def load (c : ConfigFile) (files : FileTree) : Except Fault Store :=
  match files.read? c.path with
  | none => .ok .empty
  | some content =>
    match String.fromUTF8? content with
    | none => .error (.io s!"reading config {c.path.text}")
    | some text =>
      match parse? text with
      | some data => .ok data
      | none => .error (.configParse c.path)

/-- Reads the file again; when that fails, there is no data. -/
def reload (files : FileTree) : Step ConfigFile Fault Unit :=
  fun c =>
    match c.load files with
    | .ok data => (.ok (), { c with data := data })
    | .error e => (.error e, { c with data := .empty })

/-- The file with the data that is in it now. -/
def loaded (c : ConfigFile) : Act ConfigFile := do
  let files ← Step.asks World.files
  let data ← Step.ofExcept (c.load files)
  return { c with data := data }

/-- Steps on a configuration file and the world. -/
abbrev Editing (α : Type) := Step (ConfigFile × World) Fault α

/-- A step on the world beside the file. -/
def beside {α : Type} (m : Act α) : Editing α :=
  m.on Prod.snd fun w s => (s.1, w)

/-- Changes the data, without writing it. -/
def edit (f : Store → Store) : Editing Unit :=
  Step.modify fun s => ({ s.1 with data := f s.1.data }, s.2)

/-- The text of a configuration file. -/
def fileText (data : Store) : String :=
  String.ofList (Json.pretty 0 data.toValue ++ ['\n'])

/-- Writes the data, making the directory if need be. -/
def save (c : ConfigFile) : Act Unit := do
  World.makeDirs c.dir (.configWrite c.path)
  World.writeHere c.path (fileText c.data).toUTF8 (.configWrite c.path)

/-- Writes the data as it is now. -/
def saveNow : Editing Unit := do
  let s ← Step.get
  beside s.1.save

end ConfigFile

end Stencil
