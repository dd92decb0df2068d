import Stencil.Proofs.Files.Loss
import Stencil.Proofs.Template.Clone

/-!
# What repositories take away

Two operations remove files: a repository is deleted, and a clone that may replace what is there
makes way for itself. Both remove what one path leads to (`losesOnly_delete`, `losesOnly_clone`).
Everything else that they do adds files, or takes away what they have put there themselves: nothing
stood in the staging directory of a clone before it was made.

Which path it is depends on the name. A registered repository is deleted at its registered path. In
every other case the name is joined to the templates directory, and what is removed then lies
strictly below that directory, as long as the name does not lead out of it
(`removals_are_confined`). Nothing checks that it does not: a name that is absolute or climbs takes
away what is elsewhere (`upward_name_deletes_outside`).
-/

set_option autoImplicit false

namespace Stencil

open FileTree (LosesOnly Removed SameOutside StrictlyBelow)

/-! ## 1. Steps that lose nothing -/

namespace ConfigFile

variable {α : Type} {lost : Location → Prop} {t : FileTree} {s : ConfigFile × World}

/-- Of the files there were at first, all that is gone was at some locations. -/
abbrev Left (lost : Location → Prop) (t : FileTree) (s : ConfigFile × World) : Prop :=
  LosesOnly lost t s.2.files

theorem Left.beside {m : Act α} (h : Left lost t s)
    (hm : LosesOnly lost s.2.files (m s.2).2.files) : Left lost t (beside m s).2 :=
  LosesOnly.trans h hm

theorem Left.saveNow (h : Left lost t s) : Left lost t (saveNow s).2 := by
  refine Left.beside (m := s.1.save) h ?_
  refine Step.after_bind (P := fun w : World => LosesOnly lost s.2.files w.files) ?_
    fun _ w _ hw => ?_
  · exact (World.extends_makeDirs _ _ s.2).losesOnly lost
  · exact hw.trans ((World.extends_writeHere _ _ _ w).losesOnly lost)

end ConfigFile

open ConfigFile (Left)

theorem World.files_onFiles_attempt (e : Fault) (f : FileTree → Bool × FileTree) (w : World) :
    (onFiles (Step.attempt e f) w).2.files = (f w.files).2 :=
  Step.snd_attempt e f w.files

/-- Where git was not run, it has left the files alone. -/
theorem Git.files_perform (git : Git) (operation : String) (arguments : List String) (w : World) :
    (git.perform operation arguments w).2.files = w.files ∨
      (git.perform operation arguments w).2.files = (git arguments w.files).2 := by
  by_cases hbad : arguments.any unspeakable = true
  · have hperform : git.perform operation arguments w = _ := congrFun (if_pos hbad) w
    rw [hperform]
    exact Or.inl rfl
  · have hperform : git.perform operation arguments w = _ := congrFun (if_neg hbad) w
    rw [hperform]
    dsimp only
    split
    · exact Or.inr rfl
    · exact Or.inr rfl

namespace Repository

/-! ## 2. Deleting -/

/-- Deleting a repository takes away what is removed where it is, and nothing else. -/
theorem losesOnly_delete (settings : Settings) (name : String) (s : ConfigFile × World) :
    LosesOnly
      (Removed s.2.files (s.2.files.delete (location settings s.1.data (nameOf name))).2)
      s.2.files (delete settings name s).2.2.files := by
  generalize hpath : location settings s.1.data (nameOf name) = path
  have hstart : ∀ lost, Left lost s.2.files s := fun lost => .refl lost s.2.files
  have hend : ∀ lost s₁, Left lost s.2.files s₁ → Left lost s.2.files ((do
      ConfigFile.edit (·.forget (key (nameOf name)))
      ConfigFile.saveNow
      ConfigFile.beside (World.tell .success "Repository deleted successfully!") :
        ConfigFile.Editing Unit) s₁).2 := by
    intro lost s₁ h₁
    refine Step.after_bind (P := Left lost s.2.files) h₁ fun _ s₂ _ h₂ => ?_
    exact Step.after_bind (P := Left lost s.2.files) (Left.saveNow h₂) fun _ _ _ h₃ => h₃
  unfold delete
  refine Step.after_reading (P := Left _ s.2.files) rfl (hstart _) fun data hdata => ?_
  obtain rfl := Except.ok.inj hdata
  dsimp only
  rw [hpath]
  refine Step.after_reading (P := Left _ s.2.files) rfl (hstart _) fun present _ => ?_
  split
  · exact hstart _
  · split
    · rw [Step.bind_of_ok (show ConfigFile.beside (World.tell _ _) s = (.ok (), _) from rfl)]
      refine Step.after_bind (P := Left _ s.2.files) ?_ fun _ s₁ _ h₁ => hend _ s₁ h₁
      refine Left.beside (m := World.delete path) (.refl _ s.2.files) ?_
      rw [World.delete, World.files_onFiles_attempt]
      exact ⟨(FileTree.sameOutside_delete _ path).current, fun _ hloc => hloc⟩
    · exact hend _ s (hstart _)

/-! ## 3. Cloning -/

/-- A git whose clones touch nothing but the directory that they go to. -/
def ClonesInPlace (git : Git) : Prop :=
  ∀ (url : String) (branch : Option String) (target : Path) (t : FileTree), t.WellFormed →
    target.isAbsolute = true →
    SameOutside (t.aim target) t (git (cloneArguments url branch target) t).2

/-- Making way is removing what is at the place, if anything is done. -/
theorem files_makeWay (name : String) (path : Path) (force : Bool) (w : World) :
    (makeWay name path force w).2.files = w.files ∨
      force = true ∧ (makeWay name path force w).2.files = (w.files.delete path).2 := by
  unfold makeWay
  rw [Step.bind_of_ok (show World.exists path w = (.ok _, w) from rfl)]
  split
  · split
    · rename_i hforce
      refine Or.inr ⟨hforce, ?_⟩
      rw [Step.bind_of_ok (show World.tell _ _ w = (.ok (), _) from rfl)]
      exact World.files_onFiles_attempt _ _ _
    · exact Or.inl rfl
  · exact Or.inl rfl

theorem aim_clone (t : FileTree) (staging : Path) :
    t.aim (staging.joinText "repo") = t.aim staging ++ ["repo"] := by
  rw [FileTree.aim_joinText (by decide)]
  rfl

/-- What is done with a staging directory takes away nothing but what is in it. -/
theorem losesOnly_cloneThrough {git : Git} (hgit : ClonesInPlace git) {staging : Path}
    (habs : staging.isAbsolute = true) (url : String) (options : CloneOptions) (name : String)
    (path : Path) {s : ConfigFile × World} (hfiles : s.2.files.WellFormed) :
    LosesOnly (s.2.files.aim staging <+: ·) s.2.files
      (cloneThrough git staging url options name path s).2.2.files := by
  have htarget : (staging.joinText "repo").isAbsolute = true := by
    rw [Path.isAbsolute_joinText staging (by decide), habs]
  have hin : ∀ loc, s.2.files.aim (staging.joinText "repo") <+: loc →
      s.2.files.aim staging <+: loc := by
    intro loc hloc
    rw [aim_clone] at hloc
    exact (List.prefix_append _ _).trans hloc
  unfold cloneThrough
  refine Step.after_bind (P := Left _ s.2.files) ?_ fun _ s₁ _ h₁ => ?_
  · refine Left.beside (.refl _ s.2.files) ?_
    rcases git.files_perform "clone" (cloneArguments url options.branch (staging.joinText "repo"))
      s.2 with hsame | hrun
    · rw [hsame]
      exact .refl _ s.2.files
    · rw [hrun]
      exact (hgit url options.branch _ s.2.files hfiles htarget).losesOnly.mono hin
  refine Step.after_bind (P := Left _ s.2.files) ?_ fun _ s₂ _ h₂ => ?_
  · refine Left.beside h₁ ?_
    rw [World.files_onFiles_attempt]
    refine (FileTree.losesOnly_rename s₁.2.files _ path).mono fun loc hloc => hin loc ?_
    rwa [← h₁.aim_eq]
  refine Step.after_bind (P := Left _ s.2.files) ?_ fun _ s₃ _ h₃ => ?_
  · exact Step.after_bind (P := Left _ s.2.files) h₂ fun _ _ _ h => Left.saveNow h
  exact Step.after_bind (P := Left _ s.2.files) h₃ fun _ _ _ h₄ => h₄

/-- Staging takes away nothing. -/
theorem extends_stage (dir : Path) (w : World) :
    FileTree.Extends (fun _ => False) w.files (stage dir w).2.files := by
  unfold stage
  dsimp only
  split
  · rename_i files hmade
    exact FileTree.extends_of_makeDir hmade
  · exact .refl _ w.files

/-- A clone that has a place to work in takes away nothing: what it removes it has made. -/
theorem losesOnly_staged {git : Git} (hgit : ClonesInPlace git) (lost : Location → Prop)
    {dir staging : Path} (url : String) (options : CloneOptions) (name : String) (path : Path)
    {s s₁ : ConfigFile × World} (hfiles : s.2.files.WellFormed)
    (h : ConfigFile.beside (stage dir) s = (.ok staging, s₁)) :
    LosesOnly lost s.2.files ((do
      let result ← Step.outcome (cloneThrough git staging url options name path)
      ConfigFile.beside (discard staging)
      Step.ofExcept result : ConfigFile.Editing Path) s₁).2.2.files := by
  obtain ⟨habs, hmade⟩ := stage_leaves (ConfigFile.beside_eq h).2
  have hstage := FileTree.extends_of_makeDir hmade
  have hfree := (FileTree.makeDir_leaves hmade).2.1
  refine ((hstage.losesOnly (s.2.files.aim staging <+: ·)).trans ?_).of_free fun loc hloc =>
    hfiles.free_below hfree hloc
  rw [← hstage.aim_eq]
  refine Step.after_bind (P := Left _ s₁.2.files) ?_ fun _ s₂ _ h₂ => ?_
  · exact losesOnly_cloneThrough hgit habs url options name path (hstage.wellFormed hfiles)
  refine Step.after_bind (P := Left _ s₁.2.files) ?_ fun _ _ _ h₃ => h₃
  refine Left.beside h₂ ?_
  rw [← h₂.aim_eq]
  exact (FileTree.sameOutside_delete s₂.2.files staging).losesOnly

/-- A clone takes away what is removed at its place, when it may, and nothing else. -/
theorem losesOnly_clone (settings : Settings) (git? : Option Git) (url : String)
    (options : CloneOptions) (s : ConfigFile × World) (hgit : ∀ git ∈ git?, ClonesInPlace git)
    (hfiles : s.2.files.WellFormed) :
    LosesOnly
      (fun loc => options.force = true ∧
        Removed s.2.files (s.2.files.delete (settings.repoDir (nameOf options.name))).2 loc)
      s.2.files (clone settings git? url options s).2.2.files := by
  generalize hlost : (fun loc => options.force = true ∧ Removed s.2.files
    (s.2.files.delete (settings.repoDir (nameOf options.name))).2 loc) = lost
  unfold clone
  refine Step.after_reading (P := Left lost s.2.files) rfl (.refl lost s.2.files)
    fun git hsome => ?_
  have hclones : ClonesInPlace git := by
    cases hgit? : git? with
    | none =>
      rw [hgit?] at hsome
      exact absurd hsome (by simp)
    | some g =>
      rw [hgit?] at hsome
      exact Except.ok.inj hsome ▸ hgit g hgit?
  have hway := files_makeWay (nameOf options.name) (settings.repoDir (nameOf options.name))
    options.force s.2
  refine Step.after_bind (P := Left lost s.2.files) ?_ fun _ s₁ hway₁ h₁ => ?_
  · refine Left.beside (.refl lost s.2.files) ?_
    rcases hway with hsame | ⟨hforce, hgone⟩
    · rw [hsame]
      exact .refl lost s.2.files
    · rw [hgone, ← hlost]
      exact ⟨(FileTree.sameOutside_delete _ _).current, fun _ hloc => ⟨hforce, hloc⟩⟩
  rw [(ConfigFile.beside_eq hway₁).2] at hway
  have hfiles₁ : s₁.2.files.WellFormed := by
    rcases hway with hsame | ⟨-, hgone⟩
    · exact hsame ▸ hfiles
    · exact hgone ▸ hfiles.delete _
  have hdirs := World.extends_makeDirs settings.templatesDir
    (.io s!"creating {settings.templatesDir.text}") s₁.2
  refine Step.after_bind (P := Left lost s.2.files) (h₁.beside (hdirs.losesOnly lost)) ?_
  intro _ s₂ hdirs₂ h₂
  rw [(ConfigFile.beside_eq hdirs₂).2] at hdirs
  refine Step.after_bind (P := Left lost s.2.files) ?_ fun staging s₃ hstage _ => ?_
  · exact h₂.beside ((extends_stage _ s₂.2).losesOnly lost)
  · exact h₂.trans (losesOnly_staged hclones lost url options _ _ (hdirs.wellFormed hfiles₁) hstage)

/-! ## 4. Where it lies -/

/-- A place at or below the path that is registered for the name. -/
def AtRegistered (data : Store) (name : String) (files : FileTree) (loc : Location) : Prop :=
  ∃ path, data.getStr? (pathKey name) = some path ∧ files.aim ⟨path⟩ <+: loc

/-- A place at or below the one that the name leads to from the templates directory, for a name that
leads out of it. -/
def Astray (settings : Settings) (name : String) (files : FileTree) (loc : Location) : Prop :=
  Path.staysInside ⟨name⟩ = false ∧ files.aim (settings.repoDir name) <+: loc

theorem nameOf_ne_empty (name : String) : nameOf name ≠ "" := by
  unfold nameOf
  split
  · decide
  · assumption

/-- What is removed at the place of a clone is inside the templates directory, or the name leads out
of it. -/
theorem below_or_astray {settings : Settings} {name : String} {files : FileTree} {loc : Location}
    (h : Removed files (files.delete (settings.repoDir (nameOf name))).2 loc) :
    StrictlyBelow (files.aim settings.templatesDir) loc ∨
      Astray settings (nameOf name) files loc := by
  cases hin : Path.staysInside ⟨nameOf name⟩ with
  | true => exact Or.inl (FileTree.strictlyBelow_of_removed hin (nameOf_ne_empty name) h)
  | false => exact Or.inr ⟨hin, (FileTree.removed_delete h).2.1⟩

/-- **Removals are confined.** Whatever a deletion takes away, however it ends, stood at or below
the path that is registered for the name, or, when none is, strictly below the templates directory;
and whatever a clone takes away, which is nothing without force, stood strictly below the templates
directory. The exceptions are names that lead out of that directory: for these it stood at or below
the place to which they lead. -/
theorem removals_are_confined (settings : Settings) (name : String) (s : ConfigFile × World) :
    (∀ loc, Removed s.2.files (delete settings name s).2.2.files loc →
      AtRegistered s.1.data (nameOf name) s.2.files loc ∨
        s.1.data.getStr? (pathKey (nameOf name)) = none ∧
          (StrictlyBelow (s.2.files.aim settings.templatesDir) loc ∨
            Astray settings (nameOf name) s.2.files loc)) ∧
      ∀ (git? : Option Git) (url : String) (branch : Option String) (force : Bool),
        (∀ git ∈ git?, ClonesInPlace git) → s.2.files.WellFormed →
        ∀ loc, Removed s.2.files (clone settings git? url ⟨name, branch, force⟩ s).2.2.files loc →
          force = true ∧
            (StrictlyBelow (s.2.files.aim settings.templatesDir) loc ∨
              Astray settings (nameOf name) s.2.files loc) := by
  refine ⟨fun loc hloc => ?_, fun git? url branch force hgit hfiles loc hloc => ?_⟩
  · have hgone := (losesOnly_delete settings name s).removed loc hloc
    unfold location at hgone
    split at hgone
    · rename_i path hpath
      exact Or.inl ⟨path, hpath, (FileTree.removed_delete hgone).2.1⟩
    · rename_i hnone
      exact Or.inr ⟨hnone, below_or_astray hgone⟩
  · obtain ⟨hforce, hgone⟩ :=
      (losesOnly_clone settings git? url ⟨name, branch, force⟩ s hgit hfiles).removed loc hloc
    exact ⟨hforce, below_or_astray hgone⟩

namespace RemovalSample

open CloneSample (settings world)

/-- A file beside the templates directory. -/
def outside : Location := ["home", "keep.txt"]

/-- Two directories up from the templates directory. -/
def upward : String := "../../keep.txt"

/-- Nothing is registered. -/
def start : ConfigFile × World :=
  (.global settings, { world with files := world.files.place outside (.file "old".toUTF8) })

theorem files_wellFormed : start.2.files.WellFormed :=
  CloneSample.files_wellFormed.place _ (by decide) (FileTree.isDirAt_iff.1 (by decide))
    fun hdir => absurd (FileTree.isDirAt_iff.2 hdir) (by decide)

theorem clonesInPlace : ClonesInPlace CloneSample.git :=
  fun _ _ _ t _ _ => .refl _ t

def deleted (name : String) : Except Fault Unit × ConfigFile × World :=
  delete settings name start

/-- A clone that replaces what is there. -/
def cloned (name : String) : Except Fault Path × ConfigFile × World :=
  clone settings (some CloneSample.git) "u" ⟨name, none, true⟩ start

end RemovalSample

open CloneSample (settings kept) in
open RemovalSample in
/-- A repository that is not registered is removed where the templates directory has it. -/
theorem removals_are_confined_sample :
    Removed start.2.files (deleted "default").2.2.files kept ∧
      Removed start.2.files (cloned "default").2.2.files kept ∧
      StrictlyBelow (start.2.files.aim settings.templatesDir) kept := by
  have hdeleted : Removed start.2.files (deleted "default").2.2.files kept :=
    ⟨by decide +kernel, by decide +kernel⟩
  have hcloned : Removed start.2.files (cloned "default").2.2.files kept :=
    ⟨by decide +kernel, by decide +kernel⟩
  have hall := (removals_are_confined settings "default" start).2 (some CloneSample.git) "u" none
    true (fun git hgit => Option.mem_some.1 hgit ▸ clonesInPlace) files_wellFormed kept hcloned
  refine ⟨hdeleted, hcloned, hall.2.resolve_right fun hastray => ?_⟩
  exact absurd hastray.1 (by decide)

open CloneSample (settings) in
open RemovalSample in
/-- A name that climbs out of the templates directory takes away what is elsewhere, in a deletion
and in a clone. -/
theorem upward_name_deletes_outside :
    (deleted upward).1 = .ok () ∧
      start.1.data.getStr? (pathKey (nameOf upward)) = none ∧
      Removed start.2.files (deleted upward).2.2.files outside ∧
      Removed start.2.files (cloned upward).2.2.files outside ∧
      ¬ StrictlyBelow (start.2.files.aim settings.templatesDir) outside := by
  refine ⟨by decide +kernel, by decide +kernel, ⟨by decide +kernel, by decide +kernel⟩,
    ⟨by decide +kernel, by decide +kernel⟩, ?_⟩
  rintro ⟨names, -, hnames⟩
  have hprefix : start.2.files.aim settings.templatesDir <+: outside := ⟨names, hnames.symm⟩
  exact absurd hprefix (by decide +kernel)

end Repository

end Stencil
