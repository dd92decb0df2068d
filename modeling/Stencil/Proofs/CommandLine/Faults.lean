import Stencil.CommandLine.Dispatch
import Stencil.Proofs.Directive.Faults
import Stencil.Proofs.Project.Saved
import Stencil.Proofs.Template.Clone
import Stencil.Proofs.Template.Questions

/-!
# What commands fail with

Only the making of a template reads specifications that someone has written. A project and a template
that is being authored are asked for with prompts of the program itself, which are all well formed; the
commands for repositories read none. So a command that fails with a fault of a specification was one to
make a template (`CommandLine.make_of_host_error`), as far as the operator does not bring such faults in.
-/

set_option autoImplicit false

namespace Stencil

/-! ## 1. Operators and prompts -/

/-- The operator fails with no fault of a specification. -/
def Operator.Clean (operator : Operator) : Prop :=
  ∀ asked answers q e, (operator asked answers q).1 = .error e → e.OfRunning

theorem Operator.ofRunning_of_defaultAnswer {q : Question} {e : Fault}
    (h : defaultAnswer q = .error e) : e.OfRunning := by
  unfold defaultAnswer at h
  split at h
  · exact absurd h (by simp)
  · exact absurd h (by simp)
  · exact absurd h (by simp)
  · exact absurd h (by simp)
  · rw [← Except.error.inj h]
    rfl

theorem Operator.clean_defaults : Operator.defaults.Clean :=
  fun _ _ _ _ h => ofRunning_of_defaultAnswer h

theorem Operator.clean_scripted : Operator.scripted.Clean := by
  intro asked answers q e h
  unfold scripted at h
  split at h
  · exact absurd h (by simp)
  · rw [← Except.error.inj h]
    rfl
  · exact ofRunning_of_defaultAnswer h

section

variable {operator : Operator} (hoperator : operator.Clean)

include hoperator

theorem World.clean_ask (q : Question) : (World.ask operator q).Clean :=
  fun w e _ h => hoperator w.asked w.answers q e (Prod.mk.inj h).1

theorem World.clean_confirm (message : String) (default : Bool) :
    (World.confirm operator message default).Clean :=
  (clean_ask hoperator _).bind fun _ => Step.raises_pure _

theorem World.clean_askLine (message : String) : (World.askLine operator message).Clean :=
  (clean_ask hoperator _).bind fun _ => Step.raises_pure _

namespace Pipeline

omit hoperator in
theorem ofRunning_of_resolveDefault {c : Render.Context} {spec : PromptSpec} {e : Fault}
    (h : resolveDefault c spec = .error e) : e.OfRunning := by
  unfold resolveDefault at h
  split at h
  · exact absurd h (by simp)
  · dsimp only at h
    split at h
    · rename_i e' hrendered
      rw [← Except.error.inj h]
      split at hrendered
      · exact Fault.ofRunning_of_unknownTransform
          (Render.unknownTransform_of_text (Fault.error_of_map hrendered))
      · exact absurd hrendered (by simp)
    · exact Fault.ofRunning_of_unknownTransform
        (Registry.unknownTransform_of_apply (Fault.error_of_map h))

theorem clean_askOne (transforms : Registry) (spec : PromptSpec) :
    (askOne transforms operator spec).Clean := by
  refine Step.raises_get.bind fun s => ?_
  refine Step.raises_ite (Step.raises_pure ()) ?_
  refine Step.raises_get.bind fun s => ?_
  refine (Step.raises_ofExcept fun e => ofRunning_of_resolveDefault).bind fun default => ?_
  refine Step.Raises.bind ((World.clean_ask hoperator _).on _ _) fun answer => ?_
  refine (Step.raises_ofExcept fun e he => ?_).bind fun value => Step.raises_modify _
  exact Fault.ofRunning_of_unknownTransform (Registry.unknownTransform_of_apply he)

/-- Asking prompts fails with no fault of a specification. -/
theorem clean_collect (pipeline : Pipeline) (transforms : Registry) :
    (pipeline.collect transforms operator).Clean :=
  Step.raises_each fun spec _ => clean_askOne hoperator transforms spec

omit hoperator in
/-- Entries that are well formed are read, or name a transform that is not registered. -/
theorem clean_read (transforms : Registry) {entries : List Value}
    (h : ∀ v ∈ entries, ∃ spec, PromptSpec.ofValue v = .ok spec) :
    (read transforms entries).Clean := by
  refine (Step.raises_collect fun v hv => ?_).bind fun _ => Step.raises_pure _
  obtain ⟨spec, hspec⟩ := h v hv
  intro w e w' hfail
  rw [readEntry_eq] at hfail
  have hcheck : PromptSpec.check transforms v = .error e := (Prod.mk.inj hfail).1
  rw [PromptSpec.check_of_ofValue hspec] at hcheck
  exact Fault.ofRunning_of_unknownTransform
    (Registry.unknownTransform_of_ensureKnown (Fault.error_of_map hcheck))

end Pipeline

/-! ## 2. Projects and templates -/

omit hoperator in
theorem ConfigFile.clean_save (c : ConfigFile) : c.save.Clean :=
  raises_save rfl

theorem Project.clean_init {services : Services} (hservices : services.operator = operator)
    (force : Bool) : (init services force).Clean := by
  subst hservices
  have hconfirm : ∀ dir, (confirmReplacing services dir force).Clean := by
    intro dir
    refine (Step.raises_asks _).bind fun files => ?_
    refine Step.raises_ite ?_ (Step.raises_pure ())
    refine (Step.raises_modify _).bind fun _ => ?_
    refine (World.clean_confirm hoperator _ _).bind fun agreed => ?_
    exact Step.raises_ite (Step.raises_fail rfl) (Step.raises_pure ())
  have hask : ∀ dir, (askAll services dir).Clean := by
    intro dir
    have hasked : (do
        let pipeline ← Pipeline.onWorld (Pipeline.read services.transforms
          (prompts dir.text (dir.fileName?.getD "")))
        pipeline.collect services.transforms services.operator : Pipeline.Filling Unit).Clean := by
      refine Step.Raises.bind ((Pipeline.clean_read _ fun v hv => ?_).on _ _) fun pipeline =>
        Pipeline.clean_collect hoperator pipeline _
      have hmem := List.mem_map_of_mem (f := PromptSpec.ofValue) hv
      rw [ofValue_prompts] at hmem
      obtain ⟨spec, -, hspec⟩ := List.mem_map.1 hmem
      exact ⟨spec, hspec.symm⟩
    exact Pipeline.raises_fill hasked
  have hsave : ∀ dir answers, (saveAnswers services dir answers).Clean := by
    intro dir answers
    refine (Step.raises_asks _).bind fun files => Step.raises_first (Step.raises_fail (by rfl)) ?_
    refine (ConfigFile.clean_save _).bind fun _ => ?_
    exact (Step.raises_modify _).bind fun _ => Step.raises_pure _
  refine (Step.raises_asks _).bind fun s => ?_
  refine (Job.clean_outside (hconfirm _)).bind fun _ => ?_
  refine (Job.clean_outside (hask _)).bind fun answers => ?_
  refine (Job.clean_outside (hsave _ _)).bind fun config => ?_
  exact (Step.raises_modify _).bind fun _ => Step.raises_pure config

namespace Authoring

omit hoperator in
theorem ofValue_fieldPrompts : ∀ v ∈ fieldPrompts, ∃ spec, PromptSpec.ofValue v = .ok spec := by
  have hall : ∀ v ∈ fieldPrompts, (PromptSpec.ofValue v).toOption.isSome = true := by
    decide +kernel
  intro v hv
  have hv' := hall v hv
  cases hspec : PromptSpec.ofValue v with
  | ok spec => exact ⟨spec, rfl⟩
  | error e =>
    rw [hspec] at hv'
    exact absurd hv' (by simp [Except.toOption])

/-- No question of the dialogue fails with a fault of a specification. -/
theorem upholds_clean (transforms : Registry) :
    Upholds (fun {α} (m : Act α) => m.Clean) transforms operator where
  closed := Step.closed_raises Fault.OfRunning
  confirm := World.clean_confirm hoperator
  askLine := World.clean_askLine hoperator
  read := Pipeline.clean_read transforms ofValue_fieldPrompts
  fill pipeline := Pipeline.raises_fill (Pipeline.clean_collect hoperator pipeline transforms)
  abort := Step.raises_fail rfl

theorem clean_create (transforms : Registry) (dir : Path) (force : Bool) :
    (create transforms operator dir force).Clean := by
  have hclean := upholds_clean hoperator transforms
  refine (Step.raises_asks _).bind fun there => Step.raises_first (Step.raises_fail (by rfl)) ?_
  refine Step.Raises.bind (hclean.askPrompts fieldLimit) fun prompts => ?_
  refine Step.Raises.bind hclean.askDirectives fun directives => ?_
  refine (ConfigFile.clean_save _).bind fun _ => ?_
  exact (Step.raises_modify _).bind fun _ => Step.raises_pure _

end Authoring

end

/-! ## 3. Repositories -/

theorem ConfigFile.ofRunning_of_load {c : ConfigFile} {files : FileTree} {e : Fault}
    (h : c.load files = .error e) : e.OfRunning := by
  unfold load at h
  split at h
  · exact absurd h (by simp)
  · split at h
    · rw [← Except.error.inj h]
      rfl
    · split at h
      · exact absurd h (by simp)
      · rw [← Except.error.inj h]
        rfl

theorem ConfigFile.clean_beside {α : Type} {m : Act α} (h : m.Clean) : (beside m).Clean :=
  h.on _ _

namespace Repository

theorem clean_perform (git : Git) (operation : String) (arguments : List String) :
    (git.perform operation arguments).Clean :=
  git.raises_perform (by rfl) (fun _ => by rfl) arguments

theorem clean_clone (settings : Settings) (git? : Option Git) (url : String)
    (options : CloneOptions) : (clone settings git? url options).Clean := by
  have hthrough : ∀ (git : Git) staging name path,
      (cloneThrough git staging url options name path).Clean := by
    intro git staging name path
    refine (ConfigFile.clean_beside (clean_perform git _ _)).bind fun _ => ?_
    exact raises_settle (fun _ => by rfl) (fun _ => by rfl) _ url name path
  refine (Step.raises_ofOption (by rfl) _).bind fun git => ?_
  refine (ConfigFile.clean_beside (raises_makeWay (by rfl) (by rfl) _)).bind fun _ => ?_
  refine (ConfigFile.clean_beside (World.raises_makeDirs _ (by rfl))).bind fun _ => ?_
  refine (ConfigFile.clean_beside (raises_stage (by rfl) _)).bind fun staging => ?_
  refine Step.Raises.outcome_bind (hthrough git staging _ _) fun x hx => ?_
  exact (ConfigFile.clean_beside (raises_discard _)).bind fun _ => Step.raises_ofExcept hx

theorem clean_update (settings : Settings) (git? : Option Git) (data : Store) (name : String)
    (branch : Option String) (remote : String) :
    (update settings git? data name branch remote).Clean := by
  refine (Step.raises_ofOption (by rfl) _).bind fun git => ?_
  refine (Step.raises_asks _).bind fun there => Step.raises_first (Step.raises_fail (by rfl)) ?_
  exact (clean_perform git _ _).bind fun _ => Step.raises_modify _

theorem clean_delete (settings : Settings) (name : String) : (delete settings name).Clean := by
  have hforget : (do
      ConfigFile.edit (·.forget (key (nameOf name)))
      ConfigFile.saveNow
      ConfigFile.beside (World.tell .success "Repository deleted successfully!") :
      ConfigFile.Editing Unit).Clean := by
    refine (Step.raises_modify _).bind fun _ => ?_
    refine (ConfigFile.raises_saveNow fun _ => by rfl).bind fun _ => ?_
    exact ConfigFile.clean_beside (Step.raises_modify _)
  refine (Step.raises_asks _).bind fun data => ?_
  refine (ConfigFile.clean_beside (Step.raises_asks _)).bind fun present => ?_
  refine Step.raises_first (Step.raises_fail (by rfl)) (Step.raises_ite ?_ hforget)
  refine (ConfigFile.clean_beside (Step.raises_modify _)).bind fun _ => ?_
  exact (ConfigFile.clean_beside (World.raises_delete (by rfl))).bind fun _ => hforget

end Repository

namespace CommandLine

theorem clean_onGlobal {α : Type} (services : Services) {m : ConfigFile.Editing α}
    (h : m.Clean) : (onGlobal services m).Clean := by
  intro w e w' hfail
  unfold onGlobal at hfail
  split at hfail
  · rename_i e' hload
    rw [← Except.error.inj (Prod.mk.inj hfail).1]
    exact ConfigFile.ofRunning_of_load hload
  · exact h _ e _ (Step.eq_error_of_fst (Prod.mk.inj hfail).1)

theorem clean_cloneRepo (services : Services) (url name : String) (branch : Option String)
    (force : Bool) : (cloneRepo services url name branch force).Clean := by
  refine Step.Raises.outcome_bind (Repository.clean_clone _ _ _ _) fun x hx => ?_
  split
  · exact Step.raises_pure ()
  · refine (ConfigFile.clean_beside (Step.raises_modify _)).bind fun _ => ?_
    refine (ConfigFile.clean_beside (Step.raises_modify _)).bind fun _ => ?_
    exact Step.raises_fail rfl
  · exact Step.raises_fail (hx _ rfl)

theorem clean_deleteRepo {services : Services} (hoperator : services.operator.Clean)
    (name : String) (yes : Bool) : (deleteRepo services name yes).Clean := by
  have hdelete := Repository.clean_delete services.settings name
  refine Step.raises_ite ?_ hdelete
  refine (ConfigFile.clean_beside (World.clean_confirm hoperator _ _)).bind fun agreed => ?_
  exact Step.raises_first (Step.raises_fail (by rfl)) hdelete

theorem clean_listRepos (services : Services) (data : Store) :
    (listRepos services data).Clean := by
  unfold listRepos
  split
  · exact Step.raises_modify _
  · exact Step.raises_each fun _ _ => Step.raises_modify _

theorem clean_listTemplates (services : Services) : (listTemplates services).Clean := by
  refine (Step.raises_asks _).bind fun files => ?_
  refine (Step.raises_ofExcept fun e he => ?_).bind fun templates => ?_
  · unfold installedTemplates at he
    split at he
    · rw [← Except.error.inj he]
      rfl
    · exact absurd he (by simp)
  · split
    · exact Step.raises_modify _
    · exact (Step.raises_modify _).bind fun _ => Step.raises_each fun _ _ => Step.raises_modify _

/-- A command other than the making of a template fails with no fault of a specification. -/
theorem clean_dispatch {services : Services} (hoperator : services.operator.Clean)
    {command : Command} (hcommand : ∀ template force data, command ≠ .make template force data) :
    (dispatch services command).Clean := by
  cases command with
  | make template force data => exact absurd rfl (hcommand template force data)
  | init force =>
    exact (Project.clean_init hoperator rfl force).bind fun _ => Step.raises_pure ()
  | cloneRepo url name branch force =>
    exact Job.clean_outside (clean_onGlobal services (clean_cloneRepo services _ _ _ _))
  | updateRepo name branch remote =>
    refine Job.clean_outside (clean_onGlobal services (Step.raises_get.bind fun s => ?_))
    exact ConfigFile.clean_beside (Repository.clean_update _ _ _ _ _ _)
  | deleteRepo name yes =>
    exact Job.clean_outside (clean_onGlobal services (clean_deleteRepo hoperator name yes))
  | listRepos =>
    refine Job.clean_outside (clean_onGlobal services (Step.raises_get.bind fun s => ?_))
    exact ConfigFile.clean_beside (clean_listRepos _ _)
  | createTemplate force =>
    refine (Step.raises_asks _).bind fun s => ?_
    exact (Job.clean_outside (Authoring.clean_create hoperator _ _ _)).bind fun _ =>
      Step.raises_pure ()
  | listTemplates => exact Job.clean_outside (clean_listTemplates services)

/-- A command line that a host fails to carry out with a fault of a specification asks for the making
of a template. -/
theorem make_of_host_error {services : Services} (hoperator : services.operator.Clean)
    {depth : Nat} {args : List String} {r r' : Run} {e : Fault}
    (h : host services depth args r = (.error e, r')) (he : e.isSpecification = true) :
    ∃ defaults template force data,
      read args = .ok ⟨defaults, .make template force data⟩ := by
  have hdirty : ∀ {m : Job Unit}, m.Clean → m r ≠ (.error e, r') := fun hm hfail =>
    absurd (he.symm.trans (hm r e r' hfail)) (by simp)
  have hrefused : ∀ reason,
      (Step.fail (.invalidSubcommand (calledAs args) reason) : Job Unit).Clean :=
    fun reason => Step.raises_fail rfl
  cases depth with
  | zero => exact absurd h (hdirty (hrefused _))
  | succ depth =>
    unfold host at h
    cases hread : read args with
    | error e' =>
      simp only [hread] at h
      exact absurd h (hdirty (hrefused _))
    | ok invocation =>
      simp only [hread] at h
      obtain ⟨defaults, command⟩ := invocation
      by_cases hmake : ∃ template force data, command = .make template force data
      · obtain ⟨template, force, data, rfl⟩ := hmake
        exact ⟨defaults, template, force, data, rfl⟩
      · have hdispatch : ∀ {inner : Services}, inner.operator.Clean →
            (dispatch inner command).Clean := fun hinner =>
          clean_dispatch hinner fun template force data hcommand =>
            hmake ⟨template, force, data, hcommand⟩
        refine absurd h (hdirty (hdispatch ?_))
        exact hoperator

end CommandLine

end Stencil
