import Stencil.Proofs.Files.Spare
import Stencil.Proofs.Prompt.Read
import Stencil.Proofs.Template.Find
import Stencil.Template.Make

/-!
# What leaves the files as they are

Files are changed by copies and by commands, and by nothing else that a template does: not by
finding and loading it, not by asking its prompts, not by executing its scripts, and not by putting
messages aside. Each is a list of steps that read the files at most.
-/

set_option autoImplicit false

namespace Stencil

/-! ## 1. Jobs -/

namespace Job

variable {α : Type}

/-- The job leaves the files as they are, however it ends. -/
abbrev KeepsFiles (m : Job α) : Prop :=
  Step.Keeps (fun r : Run => r.world.files) m

theorem session_of_outside {m : Act α} {r r' : Run} {x : Except Fault α}
    (h : outside m r = (x, r')) : r'.session = r.session := by
  obtain ⟨-, rfl⟩ := Prod.mk.inj h
  rfl

theorem world_outside (m : Act α) (r : Run) : (outside m r).2.world = (m r.world).2 := rfl

theorem world_of_outside {m : Act α} {r r' : Run} {x : Except Fault α}
    (h : outside m r = (x, r')) : m r.world = (x, r'.world) := by
  obtain ⟨hx, rfl⟩ := Prod.mk.inj h
  exact Prod.ext hx rfl

theorem KeepsFiles.files_eq {m : Job α} (h : KeepsFiles m) {r r' : Run} {x : Except Fault α}
    (hm : m r = (x, r')) : r'.world.files = r.world.files := by
  have hfiles := h r
  rw [hm] at hfiles
  exact hfiles

theorem KeepsFiles.spares {m : Job α} (h : KeepsFiles m) (blamed : Location → Prop) (r : Run) :
    FileTree.Spares blamed r.world.files (m r).2.world.files := by
  have hfiles : (m r).2.world.files = r.world.files := h r
  rw [hfiles]
  exact .refl _ _

theorem keepsFiles_outside {m : Act α} (h : Step.Keeps World.files m) : KeepsFiles (outside m) :=
  fun r => h r.world

theorem keepsFiles_change (f : Session → Session) : KeepsFiles (change f) := fun _ => rfl

theorem keepsFiles_render (services : Services) (text : String) :
    KeepsFiles (services.render text) := fun _ => rfl

end Job

/-! ## 2. Finding and loading a template -/

/-- Reading prompts shows lines, and does nothing else to the world. -/
theorem Pipeline.keeps_read {γ : Type} {part : World → γ}
    (hpart : ∀ w lines, part (World.showing w lines) = part w) (transforms : Registry)
    (entries : List Value) : Step.Keeps part (read transforms entries) := by
  refine (Step.keeps_collect fun entry w => ?_).bind fun _ => Step.keeps_pure _
  rw [readEntry_eq]
  exact hpart w _

/-- Prompts are asked on the data and the world alone. -/
theorem Pipeline.keepsFiles_collect (prompts : Pipeline) (transforms : Registry)
    (operator : Operator) :
    Step.Keeps (fun s : Store × World => s.2.files) (prompts.collect transforms operator) := by
  refine Step.keeps_each fun spec _ => ?_
  refine Step.Keeps.bind (fun _ => rfl) fun s => ?_
  refine Step.keeps_ite (Step.keeps_pure ()) ?_
  refine Step.Keeps.bind (fun _ => rfl) fun s => ?_
  refine (Step.keeps_ofExcept _).bind fun default => ?_
  refine Step.Keeps.bind (fun _ => rfl) fun answer => ?_
  exact (Step.keeps_ofExcept _).bind fun value => fun _ => rfl

theorem LoadedTemplate.keeps_load {γ : Type} {part : World → γ}
    (hpart : ∀ w lines, part (World.showing w lines) = part w) (services : Services)
    (template : ActiveTemplate) : Step.Keeps part (load services template) := by
  refine Step.Keeps.bind (fun _ => rfl) fun files => ?_
  refine (Step.keeps_ofExcept _).bind fun sections => ?_
  refine (Pipeline.keeps_read hpart _ _).bind fun prompts => ?_
  exact (Step.keeps_ofExcept _).bind fun directives => Step.keeps_pure _

theorem keepsFiles_locate (services : Services) (ref : TemplateRef) :
    Job.KeepsFiles (locate services ref) :=
  fun r => (sought_locate services ref r).world.files

namespace Make

/-- Up to the loading of a template, the files are as they were. -/
theorem keepsFiles_prepare (services : Services) (template : String) (options : MakeOptions) :
    Job.KeepsFiles (prepare services template options) := by
  refine (Job.keepsFiles_change _).bind fun _ => ?_
  refine (Step.keeps_ofExcept _).bind fun ref => ?_
  refine (keepsFiles_locate services ref).bind fun located => ?_
  exact Job.keepsFiles_outside (LoadedTemplate.keeps_load (fun _ _ => rfl) services located)

/-- Asking prompts leaves the files as they are. -/
theorem keepsFiles_askAll (services : Services) (prompts : Pipeline) :
    Job.KeepsFiles (askAll services prompts) :=
  fun r => prompts.keepsFiles_collect services.transforms services.operator
    (r.session.data, r.world)

theorem keepsFiles_deferMessage (services : Services) (spec : MessageSpec) :
    Job.KeepsFiles (deferMessage services spec) :=
  (Job.keepsFiles_render services _).bind fun _ => Job.keepsFiles_change _

end Make

/-- A script leaves the world as it is. -/
theorem ExecuteDirective.keepsWorld_perform (d : ExecuteDirective) (services : Services) :
    Step.Keeps Run.world (d.perform services) := by
  have hadopt : ∀ file result, Step.Keeps Run.world (ExecuteDirective.adopt file result) := by
    intro file result
    unfold ExecuteDirective.adopt ExecuteDirective.adoptData ExecuteDirective.adoptMessages
    refine Step.Keeps.bind ?_ fun _ => ?_
    · split
      · exact Step.keeps_pure ()
      · exact fun _ => rfl
      · exact Step.keeps_fail _
    · split
      · exact Step.keeps_pure ()
      · exact fun _ => rfl
      · exact Step.keeps_fail _
  refine Step.Keeps.bind (fun _ => rfl) fun templateDir => ?_
  refine Step.Keeps.bind (fun _ => rfl) fun file => ?_
  refine Step.Keeps.bind (fun _ => rfl) fun there => ?_
  refine Step.keeps_ite ?_ (Step.keeps_fail _)
  refine Step.Keeps.bind (fun r => ?_) fun content => ?_
  · show (World.read _ r.world).2 = r.world
    unfold World.read
    split
    · rfl
    · rfl
  refine Step.keeps_get.bind fun r => ?_
  dsimp only
  split
  · exact Step.keeps_fail _
  · exact hadopt _ _

end Stencil
