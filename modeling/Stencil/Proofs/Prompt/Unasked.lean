import Stencil.CommandLine.Dispatch
import Stencil.Proofs.Directive.Faults
import Stencil.Proofs.Prompt.Read
import Stencil.Proofs.Prompt.Tracks

/-!
# What asks nothing

Questions are asked by prompts, by the search for a template, by projects, by the authoring of templates
and by the deletion of a repository. Nothing else touches the exchange with the operator: not the copying
of files, not git and what is done with it, not spawned commands and scripts, and not the reading of
configurations.
-/

set_option autoImplicit false

namespace Stencil

/-! ## 1. The world -/

namespace World

variable {α : Type}

theorem unasked_tell (kind : MessageKind) (text : String) : Step.Keeps exchange (tell kind text) :=
  fun _ => rfl

theorem unasked_asks (f : World → α) : Step.Keeps exchange (Step.asks f : Act α) :=
  fun _ => rfl

theorem unasked_onFiles (m : Step FileTree Fault α) : Step.Keeps exchange (onFiles m) :=
  fun _ => rfl

theorem unasked_read (p : Path) : Step.Keeps exchange (read p) := by
  intro w
  unfold read
  split <;> rfl

theorem unasked_list (p : Path) : Step.Keeps exchange (list p) := by
  intro w
  unfold list
  split <;> rfl

theorem unasked_write (p : Path) (content : ByteArray) : Step.Keeps exchange (write p content) := by
  unfold write
  split
  · exact Step.keeps_first (unasked_onFiles _) (unasked_onFiles _)
  · exact unasked_onFiles _

end World

theorem Git.unasked_perform (git : Git) (operation : String) (arguments : List String) :
    Step.Keeps World.exchange (git.perform operation arguments) := by
  refine Step.keeps_ite (Step.keeps_fail _) fun w => ?_
  dsimp only
  split <;> rfl

theorem RunDirective.unasked_spawnIn (shell : Shell) (dir : Path) (command : String) :
    Step.Keeps World.exchange (spawnIn shell dir command) := by
  intro w
  unfold spawnIn
  split
  · dsimp only
    split
    · split <;> rfl
    · rfl
  · rfl

/-! ## 2. Copies -/

namespace Scaffold

variable (s : Scaffold) (data : Store)

theorem unasked_copyFile (source target : Path) :
    Step.Keeps World.exchange (s.copyFile data source target) := by
  refine (World.unasked_asks _).bind fun there => ?_
  refine Step.keeps_ite ?_ ?_
  · exact (World.unasked_tell _ _).bind fun _ => Step.keeps_pure _
  · refine (World.unasked_asks _).bind fun found => Step.keeps_ite (Step.keeps_fail _) ?_
    refine (World.unasked_read source).bind fun content => ?_
    refine Step.keeps_get.bind fun w => (Step.keeps_ofExcept _).bind fun rendered => ?_
    refine (World.unasked_write target rendered).bind fun _ => ?_
    exact (World.unasked_tell _ _).bind fun _ => Step.keeps_pure _

theorem unasked_copyDir (source target : Path) :
    Step.Keeps World.exchange (s.copyDir data source target) :=
  s.law_copyPending (Step.closed_keeps _) World.unasked_list (fun _ _ => rfl)
    (s.unasked_copyFile data) _ _

end Scaffold

/-! ## 3. Configurations and repositories -/

namespace ConfigFile

variable {α : Type}

theorem unasked_beside {m : Act α} (h : Step.Keeps World.exchange m) :
    Step.Keeps World.exchangeBeside (beside m) :=
  fun s => h s.2

theorem unasked_edit (f : Store → Store) : Step.Keeps World.exchangeBeside (edit f) :=
  fun _ => rfl

theorem unasked_saveNow : Step.Keeps World.exchangeBeside saveNow :=
  Step.keeps_get.bind fun s => unasked_beside (unasked_save s.1)

end ConfigFile

namespace Repository

open ConfigFile

theorem unasked_clone (settings : Settings) (git? : Option Git) (url : String)
    (options : CloneOptions) :
    Step.Keeps World.exchangeBeside (clone settings git? url options) := by
  have hway : ∀ name path, Step.Keeps World.exchange (makeWay name path options.force) := by
    intro name path
    refine (World.unasked_asks _).bind fun there => ?_
    refine Step.keeps_ite (Step.keeps_ite ?_ (Step.keeps_fail _)) (Step.keeps_pure ())
    exact (World.unasked_tell _ _).bind fun _ => World.unasked_onFiles _
  have hstage : ∀ dir, Step.Keeps World.exchange (stage dir) := by
    intro dir w
    unfold stage
    dsimp only
    split <;> rfl
  have hthrough : ∀ git staging name path,
      Step.Keeps World.exchangeBeside (cloneThrough git staging url options name path) := by
    intro git staging name path
    refine (unasked_beside (git.unasked_perform _ _)).bind fun _ => ?_
    refine (unasked_beside (World.unasked_onFiles _)).bind fun _ => ?_
    refine ((unasked_edit _).bind fun _ => unasked_saveNow).bind fun _ => ?_
    exact (unasked_beside (World.unasked_tell _ _)).bind fun _ => Step.keeps_pure _
  refine Step.Keeps.bind (fun _ => rfl) fun git => ?_
  refine (unasked_beside (hway _ _)).bind fun _ => ?_
  refine (unasked_beside (World.unasked_onFiles _)).bind fun _ => ?_
  refine (unasked_beside (hstage _)).bind fun staging => ?_
  refine Step.Keeps.bind (fun s => hthrough git staging _ _ s) fun result => ?_
  exact (unasked_beside (World.unasked_onFiles _)).bind fun _ => Step.keeps_ofExcept _

theorem unasked_update (settings : Settings) (git? : Option Git) (data : Store) (name : String)
    (branch : Option String) (remote : String) :
    Step.Keeps World.exchange (update settings git? data name branch remote) := by
  refine Step.Keeps.bind (fun _ => rfl) fun git => ?_
  refine (World.unasked_asks _).bind fun there => Step.keeps_first (Step.keeps_fail _) ?_
  exact (git.unasked_perform _ _).bind fun _ => World.unasked_tell _ _

theorem unasked_delete (settings : Settings) (name : String) :
    Step.Keeps World.exchangeBeside (delete settings name) := by
  have hforget : Step.Keeps World.exchangeBeside (do
      edit (·.forget (key (nameOf name)))
      saveNow
      beside (World.tell .success "Repository deleted successfully!") : Editing Unit) :=
    (unasked_edit _).bind fun _ => unasked_saveNow.bind fun _ =>
      unasked_beside (World.unasked_tell _ _)
  refine Step.Keeps.bind (fun _ => rfl) fun data => ?_
  refine (unasked_beside (World.unasked_asks _)).bind fun present => ?_
  refine Step.keeps_first (Step.keeps_fail _) (Step.keeps_ite ?_ hforget)
  refine (unasked_beside (World.unasked_tell _ _)).bind fun _ => ?_
  exact (unasked_beside (World.unasked_onFiles _)).bind fun _ => hforget

end Repository

/-! ## 4. Runs -/

/-- Where the exchange of a run stands. -/
def Run.exchange (r : Run) : Exchange :=
  r.world.exchange

namespace Job

variable {α : Type}

theorem unasked_outside {m : Act α} (h : Step.Keeps World.exchange m) :
    Step.Keeps Run.exchange (outside m) :=
  fun r => h r.world

theorem unasked_session : Step.Keeps Run.exchange session := fun _ => rfl

theorem unasked_change (f : Session → Session) : Step.Keeps Run.exchange (change f) := fun _ => rfl

theorem unasked_consult (f : Session → Except Fault α) : Step.Keeps Run.exchange (consult f) :=
  fun _ => rfl

theorem unasked_render (services : Services) (text : String) :
    Step.Keeps Run.exchange (services.render text) :=
  fun _ => rfl

end Job

theorem CopyDirective.unasked_perform (d : CopyDirective) (services : Services) :
    Step.Keeps Run.exchange (d.perform services) := by
  have hcopy : ∀ templateDir source target,
      Step.Keeps Run.exchange (d.copy services templateDir source target) := by
    intro templateDir source target
    refine Job.unasked_session.bind fun s => (Step.keeps_ofExcept _).bind fun copies => ?_
    refine (Job.unasked_outside (World.unasked_asks _)).bind fun isDir => ?_
    split
    · exact (Job.unasked_outside (copies.unasked_copyDir _ _ _)).bind fun _ => Step.keeps_pure ()
    · exact (Job.unasked_outside (copies.unasked_copyFile _ _ _)).bind fun _ => Step.keeps_pure ()
  refine (Job.unasked_consult _).bind fun templateDir => ?_
  refine (Job.unasked_render services _).bind fun source => ?_
  refine (Job.unasked_consult _).bind fun base => ?_
  refine (Job.unasked_render services _).bind fun target => ?_
  refine (Job.unasked_outside (World.unasked_asks _)).bind fun there => ?_
  exact Step.keeps_ite (hcopy _ _ _) (Step.keeps_fail _)

end Stencil
