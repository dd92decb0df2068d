import Stencil.Proofs.Directive.Faults
import Stencil.Proofs.Project.Global
import Stencil.Proofs.Project.Published
import Stencil.Proofs.Template.Clone
import Stencil.Proofs.Template.Dialogue
import Stencil.Proofs.Template.Questions

/-!
# Commands that are abandoned

Initialising a project and authoring a template are dialogues, and the operator can break off each of
them at any question. Both write once, after the last question, and nothing that comes after the write
can fail. So a failure that is not the failure of that write has changed no file (`Step.Harmless`), and
the session takes in what was answered only when all is done.

Authoring refuses, before the first question, to replace a configuration that it finds. It looks for it
by its path, and saving makes the directories on that path which are missing:

    new/../t/config.json      with t/config.json, and no directory new

Such a path leads nowhere when it is looked up and to the configuration of `t` when it is written, so
that this one is replaced without force (`detour_replaces_configuration`).
-/

set_option autoImplicit false

namespace Stencil

open FileTree (Spares)

/-! ## 1. Saving -/

/-- The fault is that a configuration could not be written. -/
def Fault.OfSaving (e : Fault) : Prop :=
  ∃ path, e = .configWrite path

theorem ConfigFile.harmless_save {γ : Type} (part : World → γ) (c : ConfigFile) :
    Step.Harmless part Fault.OfSaving c.save :=
  (raises_save ⟨c.path, rfl⟩).harmless part

/-- A save replaces a file only as a write to its path does. -/
theorem ConfigFile.spares_save (c : ConfigFile) (w : World) :
    Spares (w.files.Replaces c.path) w.files (c.save w).2.files := by
  have hdirs := World.extends_makeDirs c.dir (.configWrite c.path) w
  unfold save
  rcases Step.bind_cases (World.makeDirs c.dir (.configWrite c.path))
    (fun _ => World.writeHere c.path (fileText c.data).toUTF8 (.configWrite c.path)) w with
    ⟨e, w₁, hm, hb⟩ | ⟨_, w₁, hm, hb⟩
  · rw [hm] at hdirs
    rw [hb]
    exact FileTree.spares_of_writable hdirs (.refl _ _)
  · rw [hm] at hdirs
    rw [hb]
    exact FileTree.spares_of_writable hdirs (World.extends_writeHere _ _ _ w₁)

/-! ## 2. Initialising -/

theorem Job.harmlessFiles_outside {α : Type} {excused : Fault → Prop} {m : Act α}
    (h : Step.Harmless World.files excused m) :
    Step.Harmless (fun r : Run => r.world.files) excused (outside m) :=
  fun r e _ hfail => h r.world e _ (world_of_outside hfail)

namespace Project

variable (services : Services)

theorem harmlessFiles_saveAnswers (workingDir : Path) (answers : Store) :
    Step.Harmless World.files Fault.OfSaving (saveAnswers services workingDir answers) := by
  refine Step.Harmless.bind (fun _ => rfl) fun files => ?_
  refine Step.harmless_first (Step.keeps_fail _) ?_
  refine (ConfigFile.harmless_save World.files _).andThen fun _ => ?_
  exact (Step.raises_modify _).bind fun _ => Step.raises_pure _

theorem harmlessFiles_init (force : Bool) :
    Step.Harmless (fun r : Run => r.world.files) Fault.OfSaving (init services force) := by
  refine Step.Harmless.bind (fun _ => rfl) fun s => ?_
  refine Step.Harmless.bind
    (Job.keepsFiles_outside (keepsFiles_confirmReplacing services _ force)) fun _ => ?_
  refine Step.Harmless.bind (Job.keepsFiles_outside (keepsFiles_askAll services _)) fun answers => ?_
  refine (Job.harmlessFiles_outside (harmlessFiles_saveAnswers services _ answers)).andThen
    fun config => ?_
  exact (Step.raises_modify _).bind fun _ => Step.raises_pure _

end Project

/-! ## 3. Authoring -/

namespace World

variable (operator : Operator)

theorem keepsFiles_confirm (message : String) (default : Bool) :
    Step.Keeps World.files (confirm operator message default) :=
  Step.Keeps.bind (fun _ => rfl) fun _ => Step.keeps_pure _

theorem keepsFiles_askLine (message : String) :
    Step.Keeps World.files (askLine operator message) :=
  Step.Keeps.bind (fun _ => rfl) fun _ => Step.keeps_pure _

end World

namespace Authoring

variable (transforms : Registry) (operator : Operator)

/-- No question of the dialogue changes a file. -/
theorem upholds_keepsFiles :
    Upholds (fun {α} (m : Act α) => Step.Keeps World.files m) transforms operator where
  closed := Step.closed_keeps World.files
  confirm := World.keepsFiles_confirm operator
  askLine := World.keepsFiles_askLine operator
  read := Pipeline.keeps_read (fun _ _ => rfl) transforms fieldPrompts
  fill pipeline := Pipeline.keeps_fill (pipeline.keepsFiles_collect transforms operator)
  abort := Step.keeps_fail _

theorem harmlessFiles_createWithin (rounds : Nat) (dir : Path) (force : Bool) :
    Step.Harmless World.files Fault.OfSaving
      (createWithin rounds transforms operator dir force) := by
  refine Step.Harmless.bind (fun _ => rfl) fun there => ?_
  refine Step.harmless_first (Step.keeps_fail _) ?_
  have hkept := upholds_keepsFiles transforms operator
  refine Step.Harmless.bind (hkept.askPrompts rounds) fun prompts => ?_
  refine Step.Harmless.bind hkept.askDirectives fun directives => ?_
  refine (ConfigFile.harmless_save World.files _).andThen fun _ => ?_
  exact (Step.raises_modify _).bind fun _ => Step.raises_pure _

/-- What authoring says of a configuration that it finds. -/
def refusal (dir : Path) : Fault :=
  .invalidSubcommand "template create"
    s!"{(ConfigFile.template dir).path.text} already exists, add --force to overwrite it"

/-- Without force, a configuration that is found ends the dialogue before it has begun. -/
theorem createWithin_of_exists (rounds : Nat) {dir : Path} {w : World}
    (h : w.files.exists (ConfigFile.template dir).path) :
    createWithin rounds transforms operator dir false w = (.error (refusal dir), w) := by
  have hthere : World.exists (ConfigFile.template dir).path w = (.ok true, w) := by
    rw [← h]
    rfl
  unfold createWithin
  exact (Step.bind_of_ok hthere).trans (Step.bind_of_error rfl)

/-- Authoring replaces a file only as a write to the configuration does. -/
theorem spares_createWithin (rounds : Nat) (dir : Path) (force : Bool) (w : World) :
    Spares (w.files.Replaces (ConfigFile.template dir).path) w.files
      (createWithin rounds transforms operator dir force w).2.files := by
  let rel : FileTree → FileTree → Prop := fun t t' =>
    Spares (t.Replaces (ConfigFile.template dir).path) t t'
  have hrefl : ∀ t, rel t t := fun t => .refl _ t
  suffices h : Step.Leads (fun w w' : World => rel w.files w'.files)
      (createWithin rounds transforms operator dir force) from h w
  refine Step.Leads.of_keeps_bind hrefl (fun _ => rfl) fun there => ?_
  refine Step.leads_first hrefl (Step.keeps_fail _) ?_
  have hkept := upholds_keepsFiles transforms operator
  refine .of_keeps_bind hrefl (hkept.askPrompts rounds) fun prompts => ?_
  refine .of_keeps_bind hrefl hkept.askDirectives fun directives => ?_
  refine .bind_keeps (fun w => ConfigFile.spares_save
    { ConfigFile.template dir with data := sections prompts directives } w) fun _ => ?_
  exact Step.Keeps.bind (fun _ => rfl) fun _ => Step.keeps_pure _

end Authoring

/-! ## 4. Both commands -/

/-- **A command that is abandoned leaves everything as it was.** Initialising that fails leaves the
session, and neither command has touched the files when it fails, unless with the write of its
configuration. Without force, authoring asks nothing where a configuration is found; and it leaves every
file as it is, apart from one that a detour leads to: nothing was found at the path of the configuration,
and the path turns back on its way. -/
theorem abandoned_leaves_files (services : Services) (force : Bool) (rounds : Nat) (dir : Path) :
    (∀ r e r', Project.init services force r = (.error e, r') →
      r'.session = r.session ∧ (¬ e.OfSaving → r'.world.files = r.world.files)) ∧
    (∀ w e w', Authoring.createWithin rounds services.transforms services.operator dir force w =
      (.error e, w') → ¬ e.OfSaving → w'.files = w.files) ∧
    (∀ w, w.files.exists (ConfigFile.template dir).path →
      Authoring.createWithin rounds services.transforms services.operator dir false w =
        (.error (Authoring.refusal dir), w)) ∧
    (∀ w x w', Authoring.createWithin rounds services.transforms services.operator dir false w =
      (x, w') → w.files.WellFormed → ∀ loc content, w.files.at? loc = some (.file content) →
        w'.files.at? loc = some (.file content) ∨
          (loc = w.files.aim (ConfigFile.template dir).path ∧
            w.files.exists (ConfigFile.template dir).path = false ∧
            ".." ∈ (ConfigFile.template dir).path.steps)) := by
  refine ⟨fun r e r' h => ⟨Project.session_of_init_error h, fun hother => ?_⟩,
    fun w e w' h hother => ?_, fun w h => ?_, fun w x w' h hw loc content hat => ?_⟩
  · exact Project.harmlessFiles_init services force r e r' h hother
  · exact Authoring.harmlessFiles_createWithin _ _ rounds dir force w e w' h hother
  · exact Authoring.createWithin_of_exists _ _ rounds h
  · cases hthere : w.files.exists (ConfigFile.template dir).path with
    | true =>
      rw [Authoring.createWithin_of_exists _ _ rounds hthere] at h
      rw [← (Prod.mk.inj h).2]
      exact Or.inl hat
    | false =>
      have hspares := Authoring.spares_createWithin services.transforms services.operator rounds dir
        false w
      rw [h] at hspares
      exact (hspares.kept hw loc content hat).imp_right fun ⟨haim, hturns⟩ =>
        ⟨haim, rfl, hturns hthere⟩

namespace AbandonedSample

open Project.Sample (services)

def old : ByteArray :=
  "\x7b\x7d".toUTF8

/-- A template in `/work/t`, which has its configuration. -/
def files : FileTree :=
  ⟨[(["home"], .dir), (["work"], .dir), (["work", "t"], .dir),
    (["work", "t", "config.json"], .file old)], ["work"]⟩

/-- Someone who stops at the vendor of a project, and at the name of a field. -/
def stopping : World :=
  ⟨files, [], [], [("project_name", [.value (.str "site")]), ("vendor_name", [.abort]),
    ("Would you like to request data from the user?", [.value (.bool true)]),
    ("message", [.value (.str "Colour")]), ("name", [.abort])], [], []⟩

def run : Run :=
  ⟨Session.fresh ⟨"/work"⟩, stopping⟩

def initialised : Except Fault ConfigFile × Run :=
  Project.init services false run

/-- What authoring in a directory comes to, without force. -/
def authored (dir : String) : Except Fault ConfigFile × World :=
  Authoring.create services.transforms services.operator ⟨dir⟩ false stopping

/-- Someone who takes every default, in a directory that is reached by a detour. -/
def detoured : Except Fault ConfigFile × World :=
  Authoring.create services.transforms .defaults ⟨"/work/new/../t"⟩ false stopping

theorem files_wellFormed : files.WellFormed := by
  decide

theorem not_ofSaving_userAbort : ¬ Fault.OfSaving .userAbort := by
  rintro ⟨path, h⟩
  exact absurd h (by simp)

end AbandonedSample

open AbandonedSample in
theorem abandoned_leaves_files_stopping :
    initialised.1 = .error .userAbort ∧ initialised.2.session = run.session ∧
      initialised.2.world.files = files ∧ initialised.2.world.asked.length = 3 ∧
    (authored "/work/s").1 = .error .userAbort ∧ (authored "/work/s").2.files = files ∧
      (authored "/work/s").2.files.at? ["work", "t", "config.json"] = some (.file old) ∧
    authored "/work/t" = (.error (Authoring.refusal ⟨"/work/t"⟩), stopping) := by
  have hvalues : (initialised.1.map fun _ => ()) = .error .userAbort ∧
      initialised.2.world.asked.length = 3 ∧
      ((authored "/work/s").1.map fun _ => ()) = .error .userAbort := by decide +kernel
  have hthere : files.exists (ConfigFile.template ⟨"/work/t"⟩).path := by decide +kernel
  obtain ⟨hinit, hasked, hauthored⟩ := hvalues
  have hinit := Fault.error_of_map hinit
  have hauthored := Fault.error_of_map hauthored
  obtain ⟨hinitialised, -⟩ :=
    abandoned_leaves_files Project.Sample.services false Authoring.fieldLimit ⟨"/work/t"⟩
  obtain ⟨-, hfiles, -, hspares⟩ :=
    abandoned_leaves_files Project.Sample.services false Authoring.fieldLimit ⟨"/work/s"⟩
  obtain ⟨-, -, hrefused, -⟩ :=
    abandoned_leaves_files Project.Sample.services false Authoring.fieldLimit ⟨"/work/t"⟩
  obtain ⟨hsession, hworld⟩ := hinitialised run _ _ (Step.eq_error_of_fst hinit)
  have hkept : (authored "/work/s").2.files = files :=
    hfiles stopping _ _ (Step.eq_error_of_fst hauthored) not_ofSaving_userAbort
  refine ⟨hinit, hsession, hworld not_ofSaving_userAbort, hasked, hauthored, hkept, ?_,
    hrefused stopping hthere⟩
  rcases hspares stopping _ _ (Step.eq_error_of_fst hauthored) files_wellFormed
    ["work", "t", "config.json"] old rfl with hold | ⟨haim, -, -⟩
  · exact hold
  · exact absurd haim (by decide +kernel)

open AbandonedSample in
/-- By a detour, authoring without force asks its questions and replaces a configuration. -/
theorem detour_replaces_configuration :
    detoured.1.isOk = true ∧ detoured.2.asked.length = 2 ∧
      stopping.files.read? ⟨"/work/t/config.json"⟩ = some old ∧
      (detoured.2.files.read? ⟨"/work/t/config.json"⟩).isSome = true ∧
      detoured.2.files.read? ⟨"/work/t/config.json"⟩ ≠ some old := by
  decide +kernel

end Stencil
