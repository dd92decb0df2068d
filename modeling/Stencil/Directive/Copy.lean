import Stencil.Directive.Spec
import Stencil.Scaffold
import Stencil.Session.Basic

/-!
# Copying

What a copy directive does. Source and target are rendered; the source lies in the directory of
the active template. The directive says whether files that are there are replaced, and when it
does not, the session does. The template's configuration file is passed over in a directory.
-/

set_option autoImplicit false

namespace Stencil.CopyDirective

/-- The copies of a directive in a session. -/
def scaffold (d : CopyDirective) (services : Services) (s : Session) (templateDir : Path) :
    Except Fault Scaffold :=
  Scaffold.excluding
    { Scaffold.plain services.transforms with
      overwrite := d.overwrite.getD s.overwrite
      ignored := [templateDir.joinText templateConfigName]
      displayBase := some s.workingDir }
    d.exclude

/-- What is copied when the directive does not say: what the source is. -/
def actionFor (d : CopyDirective) (sourceIsDir : Bool) : CopyAction :=
  d.action.getD (if sourceIsDir then .copyDir else .copyFile)

/-- Copies a source that is there to its target. -/
def copy (d : CopyDirective) (services : Services) (templateDir source target : Path) :
    Job Unit := do
  let s ← Job.session
  let copies ← Step.ofExcept (d.scaffold services s templateDir)
  match d.actionFor (← Job.outside (World.isDir source)) with
  | .copyDir =>
    let _ ← Job.outside (copies.copyDir s.data source target)
    return ()
  | .copyFile =>
    let _ ← Job.outside (copies.copyFile s.data source target)
    return ()

/-- Carries out the directive. -/
def perform (d : CopyDirective) (services : Services) : Job Unit := do
  let templateDir ← Job.consult Session.templateDir
  let source := templateDir.joinParts ⟨← services.render d.source⟩
  let base ← Job.consult (·.baseDir d.relativeTo)
  let target := base.joinParts ⟨← services.render d.target⟩
  if ← Job.outside (World.exists source) then d.copy services templateDir source target
  else Step.fail (.fileMissing source)

end Stencil.CopyDirective
