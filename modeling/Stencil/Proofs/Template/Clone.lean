import Stencil.Proofs.Directive.Faults
import Stencil.Proofs.Files.Apart
import Stencil.Proofs.Files.Remove
import Stencil.Proofs.Template.Register

/-!
# A clone that fails

A clone is staged: git works in a fresh directory beside the place of the repository, and the
directory is removed again whatever happened in it. So where git fails, the tree is the one that git
was called on, as far as git touches nothing but its target (`FailsCleanly`): the staging directory
was free before, and nothing is left of it (`at?_discard`).

What happens before git is run is the rest of the story (`clone_eq_error`). The directories down to
the templates directory are made, which takes nothing away. But a repository that is to be replaced
is removed at that point, and it is not put back: `clone_loses_nothing` excepts it, and
`failed_clone_takes_replaced` shows that it has to.

That git has failed is told by the fault. No other step fails with one of these (`Elsewhere`).
-/

set_option autoImplicit false

namespace Stencil

open FileTree (SameOutside Gains)

/-! ## 1. Faults of git -/

theorem World.raises_delete {allowed : Fault → Prop} {p : Path}
    (h : allowed (.io s!"deleting {p.text}")) : Step.Raises allowed (World.delete p) :=
  World.raises_onFiles (Step.raises_attempt h _)

theorem ConfigFile.raises_save {allowed : Fault → Prop} {c : ConfigFile}
    (h : allowed (.configWrite c.path)) : Step.Raises allowed c.save :=
  (World.raises_onFiles (Step.raises_attempt h _)).bind fun _ =>
    World.raises_onFiles (Step.raises_attempt h _)

theorem ConfigFile.raises_saveNow {allowed : Fault → Prop}
    (h : ∀ path, allowed (.configWrite path)) : Step.Raises allowed saveNow :=
  fun s e s' hfail => raises_save (h s.1.path) s.2 e s'.2 (saveNow_eq hfail).2

theorem Git.raises_perform {allowed : Fault → Prop} {operation : String}
    (hio : allowed (.io s!"running git {operation}"))
    (hgit : ∀ reason, allowed (.git operation reason)) (git : Git) (arguments : List String) :
    Step.Raises allowed (git.perform operation arguments) := by
  unfold perform
  refine Step.raises_ite (Step.raises_fail hio) fun w e w' h => ?_
  dsimp only at h
  split at h
  · exact absurd (Prod.mk.inj h).1 (by simp)
  · rw [← Except.error.inj (Prod.mk.inj h).1]
    exact hgit _

/-- Where git has failed, the files are as it left them; it may not have been run at all. -/
theorem Git.perform_eq_error {git : Git} {operation : String} {arguments : List String}
    {w w' : World} {e : Fault} (h : git.perform operation arguments w = (.error e, w')) :
    w'.files = w.files ∨
      (git arguments w.files).1.succeeded = false ∧ w'.files = (git arguments w.files).2 := by
  by_cases hbad : arguments.any unspeakable = true
  · have hperform : git.perform operation arguments w = _ := congrFun (if_pos hbad) w
    rw [hperform] at h
    rw [← (Prod.mk.inj h).2]
    exact Or.inl rfl
  · have hperform : git.perform operation arguments w = _ := congrFun (if_neg hbad) w
    rw [hperform] at h
    dsimp only at h
    split at h
    · exact absurd (Prod.mk.inj h).1 (by simp)
    · rename_i hfailed
      rw [← (Prod.mk.inj h).2]
      exact Or.inr ⟨by simpa using hfailed, rfl⟩

namespace Repository

/-- The fault is that git could not clone. -/
def OfClone (e : Fault) : Prop :=
  (∃ reason, e = .git "clone" reason) ∨ e = .io "running git clone"

/-- The fault is another one. -/
def Elsewhere (e : Fault) : Prop :=
  ¬ OfClone e

theorem elsewhere_io {front : String} (h : front.toList.head?.any (· != 'r') = true)
    (rest : String) : Elsewhere (.io (front ++ rest)) := by
  rintro (⟨reason, hgit⟩ | hio)
  · exact absurd hgit (by simp)
  · have hhead := congrArg (fun context => context.toList.head?) (Fault.io.inj hio)
    rw [Option.any_eq_true] at h
    obtain ⟨c, hfront, hc⟩ := h
    obtain ⟨cs, hcs⟩ := List.head?_eq_some_iff.1 hfront
    rw [String.toList_append, hcs] at hhead
    have hr : some c = some 'r' := hhead
    rw [Option.some.inj hr] at hc
    exact absurd hc (by decide)

theorem elsewhere_configWrite (path : Path) : Elsewhere (.configWrite path) := by
  simp [Elsewhere, OfClone]

/-! The steps beside git, by what they can fail with. -/

section

variable {allowed : Fault → Prop}

theorem raises_makeWay {name : String} {path : Path} (hio : allowed (.io s!"deleting {path.text}"))
    (hexists : allowed (.repoExists name)) (force : Bool) :
    Step.Raises allowed (makeWay name path force) := by
  refine (Step.raises_asks _).bind fun present => ?_
  refine Step.raises_ite (Step.raises_ite ?_ (Step.raises_fail hexists)) (Step.raises_pure ())
  exact (Step.raises_modify _).bind fun _ => World.raises_delete hio

theorem raises_register (h : ∀ path, allowed (.configWrite path)) (name url : String)
    (path : Path) : Step.Raises allowed (register name url path) :=
  (Step.raises_modify _).bind fun _ => ConfigFile.raises_saveNow h

theorem raises_stage (h : allowed (.io "creating temporary directory for git clone"))
    (dir : Path) : Step.Raises allowed (stage dir) := by
  intro w e w' hfail
  unfold stage at hfail
  dsimp only at hfail
  split at hfail
  · exact absurd (Prod.mk.inj hfail).1 (by simp)
  · rw [← Except.error.inj (Prod.mk.inj hfail).1]
    exact h

theorem raises_discard (dir : Path) : Step.Raises allowed (discard dir) :=
  World.raises_onFiles (Step.raises_modify _)

/-- What a clone that git has made can still fail with. -/
theorem raises_settle (hmove : ∀ path : Path, allowed (.io s!"moving clone into {path.text}"))
    (hwrite : ∀ path, allowed (.configWrite path)) (clone : Path) (url name : String)
    (path : Path) : Step.Raises allowed (do
      ConfigFile.beside (World.onFiles
        (Step.attempt (.io s!"moving clone into {path.text}") fun t => t.rename clone path))
      register name url path
      ConfigFile.beside (World.tell .success s!"Cloned {url} as '{name}'")
      return path : ConfigFile.Editing Path) := by
  refine Step.Raises.bind ?_ fun _ => ?_
  · exact (World.raises_onFiles (Step.raises_attempt (hmove path) _)).on _ _
  refine (raises_register hwrite name url path).bind fun _ => ?_
  exact (Step.Raises.on (Step.raises_modify _) _ _).bind fun _ => Step.raises_pure path

end

/-! ## 2. The steps of a clone that fails -/

/-- A step on the world that does not fail like that is behind a sequence that did. -/
theorem past_beside {α β : Type} {m : Act α} {f : α → ConfigFile.Editing β} {c : ConfigFile}
    {w : World} {s' : ConfigFile × World} {e : Fault} (hm : Step.Raises Elsewhere m)
    (he : OfClone e) (h : (ConfigFile.beside m >>= f) (c, w) = (.error e, s')) :
    ∃ a w₁, m w = (.ok a, w₁) ∧ f a (c, w₁) = (.error e, s') := by
  rcases Step.bind_eq_error h with hfail | ⟨a, ⟨c₁, w₁⟩, hbeside, hthen⟩
  · exact absurd he (hm w e s'.2 (ConfigFile.beside_eq hfail).2)
  · obtain ⟨rfl, hstep⟩ := ConfigFile.beside_eq hbeside
    exact ⟨a, w₁, hstep, hthen⟩

/-- Where cloning through a staging directory fails because of git, git has failed. -/
theorem perform_of_cloneThrough {git : Git} {staging path : Path} {url name : String}
    {options : CloneOptions} {s s' : ConfigFile × World} {e : Fault} (he : OfClone e)
    (h : cloneThrough git staging url options name path s = (.error e, s')) :
    s'.1 = s.1 ∧ git.perform "clone"
      (cloneArguments url options.branch (staging.joinText "repo")) s.2 = (.error e, s'.2) := by
  unfold cloneThrough at h
  rcases Step.bind_eq_error h with hgit | ⟨_, s₁, -, hthen⟩
  · exact ConfigFile.beside_eq hgit
  · refine absurd he (?_ : Elsewhere e)
    refine raises_settle (fun path => ?_) elsewhere_configWrite _ url name path s₁ e s' hthen
    exact elsewhere_io (by decide) _

/-! ## 3. What is left -/

/-- A git whose failed clones have touched nothing but the directory that they were to go to. -/
def FailsCleanly (git : Git) : Prop :=
  ∀ (url : String) (branch : Option String) (target : Path) (t : FileTree), t.WellFormed →
    target.isAbsolute = true → (git (cloneArguments url branch target) t).1.succeeded = false →
    SameOutside (t.aim target) t (git (cloneArguments url branch target) t).2

theorem sameOutside_perform {git : Git} (hgit : FailsCleanly git) {url : String}
    {branch : Option String} {target : Path} {w w' : World} {e : Fault}
    (hfiles : w.files.WellFormed) (htarget : target.isAbsolute = true)
    (h : git.perform "clone" (cloneArguments url branch target) w = (.error e, w')) :
    SameOutside (w.files.aim target) w.files w'.files := by
  rcases Git.perform_eq_error h with hfiles' | ⟨hfailed, hfiles'⟩
  · rw [hfiles']
    exact .refl _ _
  · rw [hfiles']
    exact hgit url branch target w.files hfiles htarget hfailed

/-- What is at the place of the clone gives way only where that is asked for. -/
theorem makeWay_leaves {name : String} {path : Path} {force : Bool} {w w' : World}
    (h : makeWay name path force w = (.ok (), w')) :
    w'.files = w.files ∨
      force = true ∧ w.files.exists path = true ∧ w'.files = (w.files.delete path).2 := by
  unfold makeWay at h
  obtain ⟨present, w₁, hasked, hthen⟩ := Step.bind_eq_ok h
  obtain ⟨hpresent, rfl⟩ := Prod.mk.inj hasked
  split at hthen
  · rename_i hthere
    split at hthen
    · rename_i hforce
      obtain ⟨_, w₂, htell, hdelete⟩ := Step.bind_eq_ok hthen
      rw [← (Prod.mk.inj htell).2] at hdelete
      have hdone := World.onFiles_attempt hdelete
      refine Or.inr ⟨hforce, ?_, ?_⟩
      · rw [← hthere]
        exact Except.ok.inj hpresent
      · exact (congrArg Prod.snd hdone).symm
    · exact absurd (Prod.mk.inj hthen).1 (by simp)
  · rw [← (Prod.mk.inj hthen).2]
    exact Or.inl rfl

theorem freshName_not_absolute (files : FileTree) (dir : Path) :
    Path.isAbsolute ⟨freshName files dir⟩ = false := by
  have hdot : ∀ rest : String, Path.isAbsolute ⟨".tmp" ++ rest⟩ = false := by
    intro rest
    unfold Path.isAbsolute
    rw [String.toList_append]
    rfl
  unfold freshName
  dsimp only
  cases hfind : ((List.range (files.entries.length + 1)).map fun n => s!".tmp{n}").find?
      fun name => !files.exists (dir.joinText name) with
  | none => rfl
  | some name =>
    obtain ⟨n, -, rfl⟩ := List.mem_map.1 (List.mem_of_find?_eq_some hfind)
    exact hdot _

/-- A staging directory is made under an absolute path. -/
theorem stage_leaves {dir staging : Path} {w w' : World} (h : stage dir w = (.ok staging, w')) :
    staging.isAbsolute = true ∧ w.files.makeDir staging = .ok w'.files := by
  unfold stage at h
  dsimp only at h
  split at h
  · rename_i files hmade
    obtain ⟨hstaging, rfl⟩ := Prod.mk.inj h
    rw [← Except.ok.inj hstaging]
    refine ⟨?_, hmade⟩
    rw [Path.isAbsolute_joinText _ (freshName_not_absolute _ _)]
    exact Path.isAbsolute_join (FileTree.isAbsolute_absolute _) dir
  · exact absurd (Prod.mk.inj h).1 (by simp)

/-- The steps of a clone that has failed because of git. -/
theorem clone_eq_error {settings : Settings} {git : Git} {url : String} {options : CloneOptions}
    {c c' : ConfigFile} {w w' : World} {e : Fault} (he : OfClone e)
    (h : clone settings (some git) url options (c, w) = (.error e, (c', w'))) :
    c' = c ∧ ∃ w₁ w₂ w₃ w₄ staging,
      makeWay (nameOf options.name) (settings.repoDir (nameOf options.name)) options.force w =
        (.ok (), w₁) ∧
      World.makeDirs settings.templatesDir (.io s!"creating {settings.templatesDir.text}") w₁ =
        (.ok (), w₂) ∧
      stage settings.templatesDir w₂ = (.ok staging, w₃) ∧
      git.perform "clone" (cloneArguments url options.branch (staging.joinText "repo")) w₃ =
        (.error e, w₄) ∧
      w'.files = (w₄.files.delete staging).2 := by
  unfold clone at h
  obtain ⟨g, s₀, hinstalled, hclone⟩ := (Step.bind_eq_error h).resolve_left fun hnone =>
    absurd (Prod.mk.inj hnone).1 (by simp)
  obtain ⟨hg, rfl⟩ := Prod.mk.inj hinstalled
  have hg : git = g := Except.ok.inj hg
  subst hg
  obtain ⟨_, w₁, hway, hthen⟩ := past_beside
    (raises_makeWay (elsewhere_io (by decide) _) (by simp [Elsewhere, OfClone]) _) he hclone
  obtain ⟨_, w₂, hdirs, hthen⟩ := past_beside
    (World.raises_onFiles (Step.raises_attempt (elsewhere_io (by decide) _) _)) he hthen
  obtain ⟨staging, w₃, hstage, hthen⟩ := past_beside
    (raises_stage (by simp [Elsewhere, OfClone]) _) he hthen
  obtain ⟨result, ⟨c₄, w₄⟩, hthrough, hthen⟩ := (Step.bind_eq_error hthen).resolve_left fun hnone =>
    absurd (Prod.mk.inj hnone).1 (by simp)
  obtain ⟨_, w₅, hdiscard, hend⟩ := past_beside (raises_discard staging) he hthen
  obtain ⟨hresult, hleft⟩ := Prod.mk.inj hthrough
  obtain ⟨hfault, hstate⟩ := Prod.mk.inj hend
  obtain ⟨rfl, rfl⟩ := Prod.mk.inj hstate
  have hfailed : cloneThrough git staging url options (nameOf options.name)
      (settings.repoDir (nameOf options.name)) (c, w₃) = (.error e, (c₄, w₄)) :=
    Prod.ext ((Except.ok.inj hresult).trans hfault) hleft
  obtain ⟨rfl, hgit⟩ := perform_of_cloneThrough he hfailed
  refine ⟨rfl, w₁, w₂, w₃, w₄, staging, hway, hdirs, hstage, hgit, ?_⟩
  rw [← (Prod.mk.inj hdiscard).2]
  rfl

/-- A staging directory in which nothing is but the clone is removed without a trace. -/
theorem at?_discard {t t₃ t₄ : FileTree} {staging : Path} (hfiles : t.WellFormed)
    (hmade : t.makeDir staging = .ok t₃)
    (hclone : SameOutside (t₃.aim (staging.joinText "repo")) t₃ t₄) (loc : Location) :
    (t₄.delete staging).2.at? loc = t.at? loc := by
  obtain ⟨rfl, hfree, hlocate, hends⟩ := FileTree.makeDir_leaves hmade
  generalize t.aim staging = place at hfree hlocate hclone ⊢
  have hne : place ≠ [] := by
    rintro rfl
    exact absurd hfree (by simp [FileTree.at?_root])
  have hat : ∀ other, (t.place place .dir).at? other =
      if other = place then some .dir else t.at? other :=
    fun other => FileTree.at?_place t .dir other hne
  have hrepo : FileTree.turn place "repo" = place ++ ["repo"] := by
    simp [FileTree.turn, Path.isIdle]
  rw [FileTree.aim_joinText (by decide), ← FileTree.eq_aim_of_locate hlocate,
    hrepo] at hclone
  -- nothing stood below the place, so the clone is all that stands there now
  have hbelow : ∀ other, place <+: other → t.at? other = none := fun _ => hfiles.free_below hfree
  have hdirs : ∀ other, (t.place place .dir).at? other = some .dir →
      ¬ (place <+: other ∧ other ≠ place) := by
    rintro other hdir ⟨hplace, hother⟩
    rw [hat, if_neg hother, hbelow other hplace] at hdir
    exact absurd hdir (by simp)
  have hkept : ∀ other, (t.place place .dir).at? other = some .dir → t₄.at? other = some .dir := by
    intro other hdir
    rw [hclone.elsewhere other fun hin => ?_]
    · exact hdir
    · refine hdirs other hdir ⟨(List.prefix_append place _).trans hin, fun heq => ?_⟩
      have hlen := hin.length_le
      rw [heq, List.length_append] at hlen
      exact absurd hlen (Nat.not_succ_le_self _)
  have hthere : t₄.locate staging = .ok place :=
    FileTree.locate_of_dirs hkept hclone.current hlocate
  have hstay : (t₄.clearBelow place).locate staging = .ok place := by
    have hkept' : ∀ other, (t.place place .dir).at? other = some .dir →
        (t₄.clearBelow place).at? other = some .dir := by
      intro other hdir
      rw [FileTree.at?_clearBelow, if_neg (hdirs other hdir)]
      exact hkept other hdir
    exact FileTree.locate_of_dirs hkept' hclone.current hlocate
  have hplace : t₄.at? place = some .dir := hkept place (by rw [hat, if_pos rfl])
  rw [FileTree.at?_delete_dir hthere hplace hstay hends hne]
  by_cases hloc : place <+: loc
  · rw [if_pos hloc, hbelow loc hloc]
  · have hother : loc ≠ place := by
      rintro rfl
      exact hloc List.prefix_rfl
    rw [if_neg hloc, hclone.elsewhere loc fun hin => hloc ((List.prefix_append place _).trans hin),
      hat, if_neg hother]

/-- **A failed clone loses nothing.** Where git fails, the configuration in memory is the one that
was there before, and so is whatever stands in any place: the configuration's file, and every other
repository. What is new is at most the directories down to the templates directory. The exception is
a repository that the clone was to replace. -/
theorem clone_loses_nothing (settings : Settings) (git : Git) (url : String)
    (options : CloneOptions) (s s' : ConfigFile × World) (e : Fault) (hgit : FailsCleanly git)
    (hfiles : s.2.files.WellFormed) (he : OfClone e)
    (h : clone settings (some git) url options s = (.error e, s')) :
    let path := settings.repoDir (nameOf options.name)
    s'.1 = s.1 ∧ ∀ loc,
      (options.force = true → s.2.files.exists path = true → ¬ s.2.files.aim path <+: loc) →
      s'.2.files.at? loc = s.2.files.at? loc ∨
        s.2.files.at? loc = none ∧ s'.2.files.at? loc = some .dir ∧
          ∃ up ∈ settings.templatesDir.ancestors, loc = s.2.files.aim up := by
  obtain ⟨c, w⟩ := s
  obtain ⟨c', w'⟩ := s'
  obtain ⟨rfl, w₁, w₂, w₃, w₄, staging, hway, hdirs, hstage, hclone, hend⟩ := clone_eq_error he h
  refine ⟨rfl, fun loc hloc => ?_⟩
  dsimp only at hfiles hloc ⊢
  have hway := makeWay_leaves hway
  have hfiles₁ : w₁.files.WellFormed := by
    rcases hway with hsame | ⟨-, -, hdeleted⟩
    · rw [hsame]
      exact hfiles
    · rw [hdeleted]
      exact hfiles.delete _
  have hmade : w₁.files.makeDirs settings.templatesDir = (true, w₂.files) :=
    World.onFiles_attempt hdirs
  have hextends := FileTree.extends_makeDirsAmong w₁.files settings.templatesDir.ancestors
  have hgains := FileTree.gains_makeDirsAmong w₁.files settings.templatesDir.ancestors
  rw [show w₁.files.makeDirsAmong settings.templatesDir.ancestors = _ from hmade] at hextends hgains
  have hfiles₂ : w₂.files.WellFormed := hextends.wellFormed hfiles₁
  obtain ⟨habs, hstaging⟩ := stage_leaves hstage
  have hfiles₃ : w₃.files.WellFormed := (FileTree.extends_of_makeDir hstaging).wellFormed hfiles₂
  have htarget : (staging.joinText "repo").isAbsolute = true := by
    rw [Path.isAbsolute_joinText staging (by decide), habs]
  have hrest : w'.files.at? loc = w₂.files.at? loc := by
    rw [hend]
    exact at?_discard hfiles₂ hstaging (sameOutside_perform hgit hfiles₃ htarget hclone) loc
  have hsame : w₁.files.at? loc = w.files.at? loc ∧ w₁.files.current = w.files.current := by
    rcases hway with hsame | ⟨hforce, hthere, hdeleted⟩
    · rw [hsame]
      exact ⟨rfl, rfl⟩
    · have houtside := FileTree.sameOutside_delete w.files (settings.repoDir (nameOf options.name))
      rw [← hdeleted] at houtside
      exact ⟨houtside.elsewhere loc (hloc hforce hthere), houtside.current⟩
  rw [hrest, ← hsame.1]
  refine (hgains.entry loc).imp_right fun hnew => ⟨hnew.1, hnew.2.1, ?_⟩
  obtain ⟨up, hup, haim⟩ := hnew.2.2
  exact ⟨up, hup, haim.trans (FileTree.aim_congr hsame.2 up)⟩

namespace CloneSample

def settings : Settings := .ofHome ⟨"/home"⟩

/-- Where a file of the repository of the default name is. -/
def kept : Location := ["home", ".forge", "templates", "default", "t", "config.json"]

/-- One repository is there and registered. -/
def world : World :=
  ⟨⟨[(["home"], .dir), (["home", ".forge"], .dir), (["home", ".forge", "templates"], .dir),
      (["home", ".forge", "templates", "default"], .dir),
      (["home", ".forge", "templates", "default", "t"], .dir), (kept, .file "[]".toUTF8),
      (["home", globalConfigName],
        .file (ConfigFile.fileText (registered "default" "u" ⟨"p"⟩ .empty)).toUTF8)], ["home"]⟩,
    [], [], [], [], []⟩

theorem files_wellFormed : world.files.WellFormed := by
  decide

/-- A git that finds nothing to clone. -/
def git : Git := fun _ t => (⟨false, "fatal: no such repository".toUTF8⟩, t)

theorem failsCleanly : FailsCleanly git := fun _ _ _ t _ _ _ => .refl _ t

def file : ConfigFile :=
  { ConfigFile.global settings with data := registered "default" "u" ⟨"p"⟩ .empty }

/-- A clone that replaces what is there. -/
def left (name : String) : Except Fault Path × ConfigFile × World :=
  clone settings (some git) "u" ⟨name, none, true⟩ (file, world)

def fault : Fault := .git "clone" "fatal: no such repository"

end CloneSample

open CloneSample in
theorem clone_loses_nothing_sample :
    left "acme" = (.error fault, (left "acme").2) ∧ (left "acme").2.1 = file ∧
      (left "acme").2.2.files.at? kept = some (.file "[]".toUTF8) := by
  have hrun : left "acme" = (.error fault, (left "acme").2) :=
    Step.eq_error_of_fst (by decide +kernel)
  have hplace : world.files.at? kept = some (.file "[]".toUTF8) := rfl
  have hall := clone_loses_nothing settings git "u" ⟨"acme", none, true⟩ (file, world) _ fault
    failsCleanly files_wellFormed (Or.inl ⟨_, rfl⟩) hrun
  refine ⟨hrun, hall.1, ?_⟩
  have hkept := (hall.2 kept fun _ hthere => ?_)
  · rcases hkept with hsame | ⟨hnone, -⟩
    · exact hsame.trans hplace
    · rw [hplace] at hnone
      exact absurd hnone (by simp)
  · exact absurd hthere (by decide)

open CloneSample in
/-- What is to be replaced is removed before git is run, so a clone that fails has lost it. -/
theorem failed_clone_takes_replaced :
    (left "default").1 = .error fault ∧
      (world.files.at? kept).isSome = true ∧
      ((left "default").2.2.files.at? kept).isSome = false := by
  refine ⟨?_, by decide +kernel, by decide +kernel⟩
  decide +kernel

end Repository
end Stencil
