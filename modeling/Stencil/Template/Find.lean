import Stencil.Session.Basic
import Stencil.Template.Reference

/-!
# Finding templates

A template is a directory in the directory of a namespace. `locate` finds the one that a
reference asks for, and when it is not where the namespace says, offers those of other namespaces
to the operator one by one. `installedTemplates` lists all that are installed: the directories that
hold a template's configuration file, at any depth from the second on, outside hidden ones. What
lies inside a template is not searched for more. A directory whose path is too long cannot be
listed, and then the search fails.
-/

set_option autoImplicit false

namespace Stencil

/-- The namespace of references that name none, in a session that has none. -/
def defaultSpace : String := "default"

/-! ## Locating one -/

/-- The namespaces that hold a directory of a name, in order, as templates. -/
def spacesWith (settings : Settings) (files : FileTree) (name : String) : List ActiveTemplate :=
  let spaces := ((files.list? settings.templatesDir).getD []).filter fun dir =>
    files.isDir dir && files.isDir (dir.joinText name)
  spaces.filterMap fun dir => dir.fileName?.map fun space => .of settings space name

/-- The namespace of a reference in a session. -/
def spaceOf (s : Session) (ref : TemplateRef) : String :=
  (ref.space.or s.space).getD defaultSpace

/-- Offers templates until one is agreed to. -/
def offer (operator : Operator) (wanted : ActiveTemplate) :
    List ActiveTemplate → Act ActiveTemplate
  | [] => Step.fail (.templateNotFound wanted.id)
  | candidate :: rest => do
    World.tell .success s!"Found template at: {candidate.dir.text}"
    if ← World.confirm operator "Are you sure you want to use this template?" false then
      return candidate
    else offer operator wanted rest

/-- Looks for a template in other namespaces than its own. -/
def searchElsewhere (services : Services) (wanted : ActiveTemplate) : Act ActiveTemplate := do
  World.tell .warning s!"Unable to find template at: {wanted.dir.text}"
  World.tell .warning "Attempting to locate template from another location..."
  let files ← Step.asks World.files
  let candidates := spacesWith services.settings files wanted.name
  offer services.operator wanted (candidates.filter (·.space != wanted.space))

/-- Finds the template that a reference asks for. A session without a namespace takes that of the
reference. -/
def locate (services : Services) (ref : TemplateRef) : Job ActiveTemplate := do
  let space ← Job.consult fun s => .ok (spaceOf s ref)
  Job.change fun s => { s with space := some (s.space.getD space) }
  let wanted := ActiveTemplate.of services.settings space ref.name
  if ← Job.outside (World.exists wanted.dir) then return wanted
  else Job.outside (searchElsewhere services wanted)

/-! ## Listing all -/

/-- A name that listings pass over. -/
def isHidden (name : String) : Bool :=
  match name.toList with
  | '.' :: _ :: _ => true
  | _ => false

/-- A directory is a template. -/
def holdsTemplate (files : FileTree) (dir : Path) : Bool :=
  files.isFile (dir.joinText templateConfigName)

/-- What a search comes upon below a directory, `depth` levels down at most: the directories of
templates, and `none` for a directory that is to be searched and cannot be listed. -/
def searchBelow (files : FileTree) : (depth : Nat) → Path → List (Option Path)
  | 0, _ => []
  | depth + 1, dir =>
    match files.dirNames? dir with
    | none => [none]
    | some names =>
      (names.filter fun name => !isHidden name).flatMap fun name =>
        if holdsTemplate files (dir.joinText name) then [some (dir.joinText name)]
        else searchBelow files depth (dir.joinText name)

/-- What a search of all namespaces comes upon. -/
def searchAll (settings : Settings) (files : FileTree) : List (Option Path) :=
  ((files.dirNames? settings.templatesDir).getD []).flatMap fun space =>
    searchBelow files (files.entries.length + 1) (settings.templatesDir.joinText space)

/-- The name of a template with slashes only. -/
def slashed (name : String) : String :=
  String.ofList (name.toList.map fun c => if c = '\\' then '/' else c)

/-- The template of a directory, named by its path below the templates directory. -/
def templateAt (root dir : Path) : Option ActiveTemplate :=
  (root.after? dir).bind fun rel =>
    match rel.components with
    | [] => none
    | space :: name => some ⟨space.text, slashed ("/".intercalate (name.map (·.text))), dir⟩

/-- The templates that a search comes upon, in the order of their paths. -/
def findTemplates (settings : Settings) (files : FileTree) : List ActiveTemplate :=
  (searchAll settings files).filterMap fun dir => dir.bind (templateAt settings.templatesDir)

/-- The installed templates, if all that is to be searched can be. -/
def installedTemplates (settings : Settings) (files : FileTree) :
    Except Fault (List ActiveTemplate) :=
  if (searchAll settings files).contains none then
    .error (.io s!"searching {settings.templatesDir.text}")
  else .ok (findTemplates settings files)

end Stencil
