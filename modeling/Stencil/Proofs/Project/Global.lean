import Stencil.Proofs.Project.Saved

/-!
# Initialising and the user's configuration

A project's configuration has the name of the user's own, so the answers are not saved where the root
is the home directory. Whether it is, is asked before the directory of the root is made. A root that is
there, or that is there only afterwards but by a path that does not turn back, is known for home if it
is home, as long as home is there. What is left are roots that only come to be the home directory
during the save (`Unseen`):

    home/new/..      with home, and no directory new in it
    home             with no directory home, from a working directory that it is relative to

and paths that are written empty, which lead nowhere and so cannot be compared. Apart from these,
initialising leaves the file of the user's configuration as it was, however it ends
(`init_spares_global`).
-/

set_option autoImplicit false

namespace Stencil

open FileTree (Extends AgreesBut Gains)

/-! ## 1. A file whose directory is there -/

namespace ConfigFile

variable {settings : Settings} {t t₁ t' : FileTree} {dir : Path}

/-- The path of the user's configuration turns back only if that of the home directory does. -/
theorem not_mem_steps_global (h : ".." ∉ settings.home.steps) :
    ".." ∉ (global settings).path.steps := by
  have hname : '/' ∉ globalConfigName.toList := by decide
  by_cases hhome : settings.home.text = ""
  · have hpath : (global settings).path = Path.joinText ⟨""⟩ globalConfigName := by
      rw [path, global, ← hhome]
    rw [hpath]
    decide
  · have hown : ".." ∉ [globalConfigName] := by decide
    rw [path, show ((global settings).dir.joinText (global settings).fileName).steps = _ from
      Path.steps_joinText hhome hname, List.mem_append, not_or]
    refine ⟨fun hmem => h ?_, hown⟩
    rcases Path.steps_eq_stem settings.home with hsteps | hsteps
    · rw [hsteps]
      exact hmem
    · rw [hsteps]
      exact List.mem_append_left _ hmem

/-- Directories that are made do not change what the user's configuration is, when home was there or
its path does not turn back. -/
theorem read?_global_of_extends (h : Extends (fun _ => False) t t₁) (hw : t.WellFormed)
    (hhome : t.exists settings.home ∨ ".." ∉ settings.home.steps) :
    t₁.read? (global settings).path = t.read? (global settings).path := by
  refine Option.ext fun content => ?_
  rw [FileTree.read?_eq_some, FileTree.read?_eq_some]
  constructor
  · rintro ⟨loc, hlocate, hat⟩
    have hold : t.at? loc = some (.file content) := (h.unwritten loc content hat).resolve_right id
    refine ⟨loc, ?_, hold⟩
    rcases hhome with hthere | hup
    · obtain ⟨home, hlochome, hsome⟩ := FileTree.exists_iff.1 hthere
      have hne : settings.home.text ≠ "" := (FileTree.locate_eq_ok.1 hlochome).2.1
      obtain ⟨hadmissible, home', hlochome', hdir, rfl⟩ :=
        (FileTree.locate_joinText hne proper_globalConfigName).1 hlocate
      rw [h.locate hlochome, Except.ok.injEq] at hlochome'
      subst hlochome'
      exact (FileTree.locate_joinText hne proper_globalConfigName).2
        ⟨hadmissible, home, hlochome, (h.dir_iff hsome).1 hdir, rfl⟩
    · exact FileTree.locate_of_extends h hw (not_mem_steps_global hup) (by rw [hold]; rfl) hlocate
  · rintro ⟨loc, hlocate, hat⟩
    exact ⟨loc, h.locate hlocate, h.file_eq hat id⟩

/-- Saving makes the directory, where nothing is there by its path, and then puts the file into it or
fails. -/
theorem files_save (c : ConfigFile) (w : World) :
    ∃ t₁, Extends (fun _ => False) w.files t₁ ∧
      (c.dir.text = "" ∨ w.files.exists c.dir → t₁ = w.files) ∧
      ((c.save w).2.files = t₁ ∨ AgreesBut c.path t₁ (c.save w).2.files) := by
  refine ⟨(w.files.makeDirs c.dir).2, FileTree.extends_makeDirsAmong _ _, ?_, ?_⟩
  · rintro (hempty | hthere)
    · rw [FileTree.makeDirs_of_empty hempty]
    · obtain ⟨loc, hlocate, hsome⟩ := FileTree.exists_iff.1 hthere
      rw [FileTree.makeDirs_of_locate hlocate hsome]
  · rcases hdirs : w.files.makeDirs c.dir with ⟨_ | _, t₁⟩
    · have hstop : World.makeDirs c.dir (.configWrite c.path) w =
          (.error (.configWrite c.path), { w with files := t₁ }) := World.onFiles_of_false hdirs
      exact Or.inl (by rw [save, Step.bind_of_error hstop])
    · have hmade : World.makeDirs c.dir (.configWrite c.path) w =
          (.ok (), { w with files := t₁ }) := World.onFiles_of_true hdirs
      rw [save, Step.bind_of_ok hmade]
      rcases hwrite : t₁.write c.path (fileText c.data).toUTF8 with ⟨_ | _, t'⟩
      · have hstop : World.writeHere c.path (fileText c.data).toUTF8 (.configWrite c.path)
            { w with files := t₁ } = (.error (.configWrite c.path), { w with files := t' }) :=
          World.onFiles_of_false hwrite
        exact Or.inl (by rw [hstop, FileTree.write_of_false hwrite])
      · have hwritten : World.writeHere c.path (fileText c.data).toUTF8 (.configWrite c.path)
            { w with files := t₁ } = (.ok (), { w with files := t' }) := World.onFiles_of_true hwrite
        exact Or.inr (by rw [hwritten]; exact FileTree.agreesBut_of_write hwrite)

/-- A file that is written somewhere leads no path elsewhere. -/
theorem holdsGlobal_of_agreesBut {p : Path} (h : AgreesBut p t₁ t') :
    HoldsGlobal settings t' dir ↔ HoldsGlobal settings t₁ dir :=
  exists_congr fun _ => and_congr h.locate_iff h.locate_iff

/-! ## 2. Roots that become the home directory -/

/-- A root that is not known for home before its directory is made, and the ways in which making it
can come upon the user's configuration. -/
inductive Unseen (settings : Settings) (before after : FileTree) (dir : Path) : Prop
  /-- One of the two paths is written empty, and leads nowhere. -/
  | unwritten : settings.home.text = "" ∨ dir.text = "" → HoldsGlobal settings after dir →
    Unseen settings before after dir
  /-- The root was not there, by a path that turns back, and then it is the home directory. -/
  | turning : before.exists dir = false → ".." ∈ dir.steps → HoldsGlobal settings after dir →
    Unseen settings before after dir
  /-- Neither of the two was there, and then the root is the home directory. -/
  | homeless : before.exists dir = false → before.exists settings.home = false →
    HoldsGlobal settings after dir → Unseen settings before after dir
  /-- Neither of the two was there, and the path of the home directory turns back: making the root can
  be what lets it lead anywhere. -/
  | revealed : before.exists dir = false → before.exists settings.home = false →
    ".." ∈ settings.home.steps → Unseen settings before after dir

section

variable {t₂ : FileTree} (hmade : Extends (fun _ => False) t t₁) (hw : t.WellFormed)
  (hsame : dir.text = "" ∨ t.exists dir → t₁ = t)
  (hhome : isHome settings t dir = false)

include hmade hw hsame hhome

/-- A root that is home after its directory has been made, and was not known for it, is one of
those. -/
theorem unseen_of_holdsGlobal (h : HoldsGlobal settings t₁ dir) : Unseen settings t t₁ dir := by
  by_cases hempty : settings.home.text = "" ∨ dir.text = ""
  · exact .unwritten hempty h
  rw [not_or] at hempty
  obtain ⟨loc, hloc, hglobal⟩ := h
  cases hdir : t.exists dir with
  | true =>
    -- the root was there, so it is known for home if it is home
    rw [hsame (Or.inr hdir)] at hloc hglobal
    rw [isHome_of_holdsGlobal hempty.2 hempty.1 ⟨loc, hloc, hglobal⟩] at hhome
    exact absurd hhome (by simp)
  | false =>
    cases hthere : t.exists settings.home with
    | false => exact .homeless hdir hthere ⟨loc, hloc, hglobal⟩
    | true =>
      refine .turning hdir (Classical.byContradiction fun hup => ?_) ⟨loc, hloc, hglobal⟩
      -- without turning back it led to home before
      obtain ⟨home, hlochome, hsome⟩ := FileTree.exists_iff.1 hthere
      obtain ⟨-, here, hhere, -, rfl⟩ :=
        (FileTree.locate_joinText hempty.2 proper_projectConfigName).1 hloc
      obtain ⟨home', hlochome', -, heq⟩ := locate_global hempty.1 hglobal
      rw [hmade.locate hlochome, Except.ok.injEq] at hlochome'
      rw [(List.append_inj' heq rfl).1, ← hlochome'] at hhere
      have hbefore := FileTree.locate_of_extends hmade hw hup hsome hhere
      rw [FileTree.exists_iff.2 ⟨home, hbefore, hsome⟩] at hdir
      exact absurd hdir (by simp)

omit hhome in
theorem read?_global_or_unseen :
    t₁.read? (global settings).path = t.read? (global settings).path ∨ Unseen settings t t₁ dir := by
  by_cases hsafe : t.exists settings.home ∨ ".." ∉ settings.home.steps
  · exact Or.inl (read?_global_of_extends hmade hw hsafe)
  · rw [not_or, not_not, Bool.not_eq_true] at hsafe
    cases hdir : t.exists dir with
    | true => exact Or.inl (by rw [hsame (Or.inr hdir)])
    | false => exact Or.inr (.revealed hdir hsafe.1 hsafe.2)

end

theorem Unseen.of_agreesBut {p : Path} (h : Unseen settings t t₁ dir) (hagrees : AgreesBut p t₁ t') :
    Unseen settings t t' dir := by
  cases h with
  | unwritten hempty hholds => exact .unwritten hempty ((holdsGlobal_of_agreesBut hagrees).2 hholds)
  | turning hdir hup hholds => exact .turning hdir hup ((holdsGlobal_of_agreesBut hagrees).2 hholds)
  | homeless hdir hhome hholds =>
    exact .homeless hdir hhome ((holdsGlobal_of_agreesBut hagrees).2 hholds)
  | revealed hdir hhome hup => exact .revealed hdir hhome hup

/-- A save at a root that is not known for home leaves the user's configuration as it was. -/
theorem read?_global_save {c : ConfigFile} {w : World} (hw : w.files.WellFormed)
    (hname : c.fileName = projectConfigName) (hhome : isHome settings w.files c.dir = false) :
    (c.save w).2.files.read? (global settings).path = w.files.read? (global settings).path ∨
      Unseen settings w.files (c.save w).2.files c.dir := by
  obtain ⟨t₁, hmade, hsame, hwritten⟩ := c.files_save w
  have hmiddle : t₁.read? (global settings).path = w.files.read? (global settings).path ∨
      Unseen settings w.files t₁ c.dir := read?_global_or_unseen hmade hw hsame
  rcases hwritten with hnothing | hagrees
  · rwa [hnothing]
  · by_cases hholds : HoldsGlobal settings t₁ c.dir
    · exact Or.inr ((unseen_of_holdsGlobal hmade hw hsame hhome hholds).of_agreesBut hagrees)
    · have hother : (c.save w).2.files.read? (global settings).path =
          t₁.read? (global settings).path := by
        refine hagrees.read?_eq fun loc hglobal hproject => hholds ⟨loc, ?_, hglobal⟩
        rw [path, hname] at hproject
        exact hproject
      rw [hother]
      exact hmiddle.imp_right fun hunseen => hunseen.of_agreesBut hagrees

end ConfigFile

/-! ## 3. Initialising -/

namespace Project

variable {services : Services} {workingDir : Path}

/-- The root that the answers name, if initialising comes so far as to save them. -/
def chosenRoot (services : Services) (workingDir : Path) (force : Bool) : Act Path := do
  confirmReplacing services workingDir force
  let answers ← askAll services workingDir
  return rootOf workingDir answers

theorem keepsFiles_confirmReplacing (services : Services) (workingDir : Path) (force : Bool) :
    Step.Keeps World.files (confirmReplacing services workingDir force) := by
  refine Step.Keeps.bind (fun _ => rfl) fun files => ?_
  refine Step.keeps_ite ?_ (Step.keeps_pure ())
  refine Step.Keeps.bind (fun _ => rfl) fun _ => ?_
  refine Step.Keeps.bind (Step.Keeps.bind (fun _ => rfl) fun _ => Step.keeps_pure _) fun agreed => ?_
  exact Step.keeps_ite (Step.keeps_fail _) (Step.keeps_pure ())

theorem keepsFiles_askAll (services : Services) (workingDir : Path) :
    Step.Keeps World.files (askAll services workingDir) := by
  have hasked : Step.Keeps (fun s : Store × World => s.2.files) (do
      let pipeline ← Pipeline.onWorld (Pipeline.read services.transforms
        (prompts workingDir.text (workingDir.fileName?.getD "")))
      pipeline.collect services.transforms services.operator) := by
    refine Step.Keeps.bind (fun s => Pipeline.keeps_read (fun _ _ => rfl) _ _ s.2) fun pipeline => ?_
    exact pipeline.keepsFiles_collect _ _
  exact Pipeline.keeps_fill hasked

/-- Answers are refused, or they are saved at a root that is not known for home. -/
theorem files_saveAnswers (services : Services) (workingDir : Path) (answers : Store) (w : World) :
    (saveAnswers services workingDir answers w).2.files = w.files ∨
      ∃ config : ConfigFile, config.dir = rootOf workingDir answers ∧
        config.fileName = projectConfigName ∧
        ConfigFile.isHome services.settings w.files config.dir = false ∧
        (saveAnswers services workingDir answers w).2.files = (config.save w).2.files := by
  unfold saveAnswers
  rw [Step.bind_of_ok (show Step.asks World.files w = (.ok w.files, w) from rfl)]
  dsimp only
  split
  · exact Or.inl rfl
  · rename_i hhome
    refine Or.inr ⟨{ ConfigFile.project (rootOf workingDir answers) with
      data := answers.forget "project_root" }, rfl, rfl, ?_, ?_⟩
    · simpa [ConfigFile.isGlobal, ConfigFile.project, projectConfigName, globalConfigName] using hhome
    · rw [Step.part_bind World.files fun _ =>
        Step.Keeps.bind (fun _ => rfl) fun _ => Step.keeps_pure _]

/-- Initialising leaves the files as they are, or saves answers at the root that they name. -/
theorem files_init (services : Services) (force : Bool) (r : Run) :
    (init services force r).2.world.files = r.world.files ∨
      ∃ (config : ConfigFile) (w : World),
        chosenRoot services r.session.workingDir force r.world = (.ok config.dir, w) ∧
        w.files = r.world.files ∧ config.fileName = projectConfigName ∧
        ConfigFile.isHome services.settings r.world.files config.dir = false ∧
        (init services force r).2.world.files = (config.save w).2.files := by
  have hconfirms := Job.keepsFiles_outside
    (keepsFiles_confirmReplacing services r.session.workingDir force)
  have hasks := Job.keepsFiles_outside (keepsFiles_askAll services r.session.workingDir)
  unfold init
  rw [Step.bind_of_ok (show Job.session r = (.ok r.session, r) from rfl)]
  rcases Step.bind_cases (Job.outside (confirmReplacing services r.session.workingDir force)) _ r with
    ⟨e, r₁, hconfirm, hb⟩ | ⟨_, r₁, hconfirm, hb⟩
  · exact Or.inl (by rw [hb]; exact hconfirms.files_eq hconfirm)
  have hfiles₁ := hconfirms.files_eq hconfirm
  rw [hb]
  rcases Step.bind_cases (Job.outside (askAll services r.session.workingDir)) _ r₁ with
    ⟨e, r₂, hask, hb⟩ | ⟨answers, r₂, hask, hb⟩
  · exact Or.inl (by rw [hb, hasks.files_eq hask, hfiles₁])
  have hfiles₂ : r₂.world.files = r.world.files := (hasks.files_eq hask).trans hfiles₁
  rw [hb]
  -- what comes after saving is for the session
  rw [Step.part_bind (fun r : Run => r.world.files) fun config =>
    Step.Keeps.bind (Job.keepsFiles_change _) fun _ => Step.keeps_pure config]
  rw [← hfiles₂, Job.world_outside]
  refine (files_saveAnswers services r.session.workingDir answers r₂.world).imp_right ?_
  rintro ⟨config, hdir, hname, hhome, hsaved⟩
  refine ⟨config, r₂.world, ?_, rfl, hname, hhome, hsaved⟩
  unfold chosenRoot
  rw [Step.bind_of_ok (Job.world_of_outside hconfirm), Step.bind_of_ok (Job.world_of_outside hask),
    hdir]
  rfl

/-- **Initialising leaves the user's configuration as it was**, however it ends, unless the root that
the answers name is one that becomes the home directory unseen. -/
theorem init_spares_global (services : Services) (force : Bool) {r : Run}
    (hw : r.world.files.WellFormed) :
    (init services force r).2.world.files.read? (ConfigFile.global services.settings).path =
        r.world.files.read? (ConfigFile.global services.settings).path ∨
      ∃ dir w, chosenRoot services r.session.workingDir force r.world = (.ok dir, w) ∧
        ConfigFile.isHome services.settings r.world.files dir = false ∧
        ConfigFile.Unseen services.settings r.world.files (init services force r).2.world.files
          dir := by
  rcases files_init services force r with hfiles | ⟨config, w, hroot, hfiles, hname, hhome, hsaved⟩
  · exact Or.inl (by rw [hfiles])
  · rw [hsaved, ← hfiles]
    rw [← hfiles] at hw hhome
    refine (ConfigFile.read?_global_save hw hname hhome).imp_right fun hunseen => ?_
    exact ⟨config.dir, w, hroot, hhome, hunseen⟩

namespace GlobalSample

def kept : ByteArray :=
  "\x7b\"default_template_repo\":\"u\"\x7d".toUTF8

def files : FileTree :=
  ⟨[(["home"], .dir), (["home", ".forge.json"], .file kept), (["work"], .dir)], ["work"]⟩

/-- Someone who names the project and its root. -/
def run (root : String) : Run :=
  ⟨Session.fresh ⟨"/work"⟩, ⟨files, [], [], [("project_root", [.value (.str root)]),
    ("project_name", [.value (.str "site")]), ("vendor_name", [.value (.str "acme")])], [], []⟩⟩

def left (root : String) : Except Fault ConfigFile × Run :=
  init Sample.services false (run root)

def globalPath : Path :=
  (ConfigFile.global Sample.services.settings).path

theorem files_wellFormed : files.WellFormed := by
  decide

theorem chosenRoot_run :
    (chosenRoot Sample.services ⟨"/work"⟩ false (run "/work/site").world).1.toOption =
      some ⟨"/work/site"⟩ := by
  decide +kernel

end GlobalSample

open GlobalSample in
/-- A root in the working directory is none of those. -/
theorem init_spares_global_sample :
    (run "/work/site").world.files.WellFormed ∧
      (left "/work/site").2.world.files.read? globalPath = some kept := by
  refine ⟨files_wellFormed, ?_⟩
  have hbefore : files.read? globalPath = some kept := by decide +kernel
  rcases init_spares_global Sample.services false (r := run "/work/site") files_wellFormed with
    hsame | ⟨dir, w, hroot, -, hunseen⟩
  · exact hsame.trans hbefore
  · have hchosen := Step.eq_ok_of_toOption chosenRoot_run
    obtain rfl := Except.ok.inj (Prod.mk.inj (hchosen.symm.trans hroot)).1
    have hthere : files.exists Sample.services.settings.home = true := by decide
    cases hunseen with
    | unwritten hempty _ => exact absurd hempty (by decide)
    | turning _ hup _ => exact absurd hup (by decide)
    | homeless _ hhome _ => exact absurd (hhome.symm.trans hthere) (by simp)
    | revealed _ hhome _ => exact absurd (hhome.symm.trans hthere) (by simp)

open GlobalSample in
/-- A root that turns back into the home directory has the user's configuration replaced. -/
theorem init_replaces_global :
    (left "/home/new/..").1.isOk = true ∧ files.read? globalPath = some kept ∧
      ((left "/home/new/..").2.world.files.read? globalPath).isSome = true ∧
      (left "/home/new/..").2.world.files.read? globalPath ≠ some kept := by
  decide +kernel

end Project

end Stencil
