import Stencil.Proofs.Files.Tree
import Stencil.Proofs.Step
import Stencil.World

/-!
# What a write leaves alone

`Extends written t t'` says that the tree `t'` is the tree `t` after some writing: nothing was taken
away, a directory is a directory still and a file a file, and wherever the content of a file is new
the location is one of `written`. Making directories extends a tree with nothing written, a write
extends it with the one location its path aims at, and the runs of both are extensions again
(`Extends.trans`).
-/

set_option autoImplicit false

namespace Stencil

namespace FileTree

/-! ## 1. Extensions -/

/-- The second tree is the first one after writing files at some locations and making
directories. -/
structure Extends (written : Location → Prop) (t t' : FileTree) : Prop where
  current : t'.current = t.current
  wellFormed : t.WellFormed → t'.WellFormed
  dir : ∀ loc, t.at? loc = some .dir → t'.at? loc = some .dir
  file : ∀ loc c, t.at? loc = some (.file c) → ∃ c', t'.at? loc = some (.file c')
  unwritten : ∀ loc c, t'.at? loc = some (.file c) → t.at? loc = some (.file c) ∨ written loc

namespace Extends

variable {written written' : Location → Prop} {t t₁ t' : FileTree}

protected theorem refl (written : Location → Prop) (t : FileTree) : Extends written t t :=
  ⟨rfl, id, fun _ => id, fun _ c h => ⟨c, h⟩, fun _ _ => Or.inl⟩

protected theorem trans (h : Extends written t t₁) (h' : Extends written t₁ t') :
    Extends written t t' := by
  refine ⟨h'.current.trans h.current, h'.wellFormed ∘ h.wellFormed,
    fun loc hd => h'.dir loc (h.dir loc hd), fun loc c hf => ?_, fun loc c hf => ?_⟩
  · obtain ⟨c₁, hc₁⟩ := h.file loc c hf
    exact h'.file loc c₁ hc₁
  · rcases h'.unwritten loc c hf with hf | hw
    · exact h.unwritten loc c hf
    · exact Or.inr hw

theorem mono (h : Extends written t t') (hsub : ∀ loc, written loc → written' loc) :
    Extends written' t t' :=
  ⟨h.current, h.wellFormed, h.dir, h.file,
    fun loc c hf => (h.unwritten loc c hf).imp_right (hsub loc)⟩

/-- Whatever is written on the way, the last tree is a later one. -/
theorem trans_any (h : Extends written t t₁) (h' : Extends written' t₁ t') :
    Extends (fun _ => True) t t' :=
  (h.mono fun _ _ => trivial).trans (h'.mono fun _ _ => trivial)

/-- Where something stood, something stands. -/
theorem isSome (h : Extends written t t') {loc : Location} (hsome : (t.at? loc).isSome) :
    (t'.at? loc).isSome := by
  obtain ⟨e, he⟩ := Option.isSome_iff_exists.1 hsome
  cases e with
  | dir => rw [h.dir loc he]; rfl
  | file c =>
    obtain ⟨c', hc'⟩ := h.file loc c he
    rw [hc']
    rfl

/-- What stood anywhere stands there still, a directory as a directory and a file as a file. -/
theorem dir_iff (h : Extends written t t') {loc : Location} (hsome : (t.at? loc).isSome) :
    t'.at? loc = some .dir ↔ t.at? loc = some .dir := by
  refine ⟨fun hd => ?_, h.dir loc⟩
  obtain ⟨e, he⟩ := Option.isSome_iff_exists.1 hsome
  cases e with
  | dir => exact he
  | file c =>
    obtain ⟨c', hc'⟩ := h.file loc c he
    rw [hc'] at hd
    exact absurd hd (by simp)

/-! ## 2. Paths in an extension -/

theorem route_eq (h : Extends written t t') (p : Path) : t'.route p = t.route p := by
  unfold route
  rw [h.current]

theorem aim_eq (h : Extends written t t') (p : Path) : t'.aim p = t.aim p :=
  aim_congr h.current p

theorem follow (h : Extends written t t') {loc loc' : Location} {ss : List String}
    (hfollow : t.follow loc ss = .ok loc') : t'.follow loc ss = .ok loc' :=
  follow_of_dirs h.dir hfollow

/-- A path that led somewhere leads there still. -/
theorem locate (h : Extends written t t') {p : Path} {loc : Location} (hp : t.locate p = .ok loc) :
    t'.locate p = .ok loc :=
  locate_of_dirs h.dir h.current hp

theorem isFile (h : Extends written t t') {p : Path} (hp : t.isFile p) : t'.isFile p := by
  obtain ⟨loc, c, hloc, hat⟩ := isFile_iff.1 hp
  obtain ⟨c', hat'⟩ := h.file loc c hat
  exact isFile_iff.2 ⟨loc, c', h.locate hloc, hat'⟩

theorem isDir (h : Extends written t t') {p : Path} (hp : t.isDir p) : t'.isDir p := by
  obtain ⟨loc, hloc, hat⟩ := isDir_iff.1 hp
  exact isDir_iff.2 ⟨loc, h.locate hloc, h.dir loc hat⟩

end Extends

/-! ## 3. Making directories -/

theorem extends_place_dir {t : FileTree} {loc : Location} (hnone : t.at? loc = none)
    (hwf : t.WellFormed → (t.place loc .dir).WellFormed) :
    Extends (fun _ => False) t (t.place loc .dir) := by
  have hne : loc ≠ [] := by
    rintro rfl
    exact absurd hnone (by simp [at?])
  refine ⟨rfl, hwf, fun loc' hd => ?_, fun loc' c hf => ⟨c, ?_⟩, fun loc' c hf => Or.inl ?_⟩
  · rw [at?_place t .dir loc' hne]
    split
    · rfl
    · exact hd
  · rw [at?_place t .dir loc' hne, if_neg (fun heq : loc' = loc => ?_), hf]
    rw [← heq, hf] at hnone
    exact absurd hnone (by simp)
  · rw [at?_place t .dir loc' hne] at hf
    split at hf
    · exact absurd hf (by simp)
    · exact hf

theorem no_slash_of_mem_stepsToName {p : Path} {s : String} (h : s ∈ stepsToName p) :
    '/' ∉ s.toList := by
  rw [stepsToName, List.mem_reverse] at h
  exact Text.not_mem_of_mem_split (List.mem_reverse.1 ((List.dropWhile_sublist _).subset h))

/-- What there has to be for a directory to be made: one to make it in, and a name that is free. -/
structure Makes (t : FileTree) (p : Path) (dir : Location) (name : String) : Prop where
  last : (stepsToName p).getLast? = some name
  follow : t.follow (t.route p).1 (stepsToName p).dropLast = .ok dir
  admissible : admissible p = true
  standing : t.at? dir = some .dir
  not_idle : Path.isIdle name = false
  ne_up : name ≠ ".."
  size_le : name.utf8ByteSize ≤ nameLimit
  free : t.at? (dir ++ [name]) = none

theorem makes_of_makeDir {t t' : FileTree} {p : Path} (h : t.makeDir p = .ok t') :
    ∃ dir name, Makes t p dir name ∧ t' = t.place (dir ++ [name]) .dir := by
  unfold makeDir at h
  -- A directory is made on the last branch only; on all others the path is refused.
  split at h
  · exact absurd h (by simp)
  · rename_i hadmissible
    dsimp only at h
    split at h
    · exact absurd h (by simp)
    · rename_i name hname
      split at h
      · exact absurd h (by simp)
      · exact absurd h (by simp)
      · rename_i dir hdir
        split at h
        · exact absurd h (by simp)
        · exact absurd h (by simp)
        · rename_i hstanding
          split at h
          · exact absurd h (by simp)
          · rename_i hbad
            split at h
            · exact absurd h (by simp)
            · rename_i hnone
              rw [Except.ok.injEq] at h
              simp only [Bool.or_eq_true, decide_eq_true_eq, not_or, Nat.not_lt] at hbad
              refine ⟨dir, name, ⟨hname, ?_, by simpa using hadmissible, standing_eq_ok.1 hstanding,
                by simpa using hbad.1.1, hbad.1.2, hbad.2, by simpa using hnone⟩, h.symm⟩
              unfold route
              split
              · rename_i habs
                rw [if_pos habs] at hdir
                exact hdir
              · rename_i habs
                rw [if_neg habs] at hdir
                exact hdir

theorem Makes.proper {t : FileTree} {p : Path} {dir : Location} {name : String}
    (h : Makes t p dir name) : Proper name := by
  have hidle := h.not_idle
  simp only [Path.isIdle, Bool.or_eq_false_iff, beq_eq_false_iff_ne] at hidle
  exact ⟨hidle.1, hidle.2, h.ne_up, no_slash_of_mem_stepsToName (List.mem_of_getLast? h.last),
    h.size_le⟩

theorem extends_of_makeDir {t t' : FileTree} {p : Path} (h : t.makeDir p = .ok t') :
    Extends (fun _ => False) t t' := by
  obtain ⟨dir, name, hmakes, rfl⟩ := makes_of_makeDir h
  refine extends_place_dir hmakes.free fun hwf => hwf.place .dir ?_ ?_ ?_
  · have hstart : ∀ n ∈ (t.route p).1, Proper n := by
      unfold route
      split
      · simp
      · exact hwf.current
    have hdir := proper_of_follow hstart
      (fun s hs => no_slash_of_mem_stepsToName ((List.dropLast_subset _) hs)) hmakes.follow
    intro n hn
    rcases List.mem_append.1 hn with hn | hn
    · exact hdir n hn
    · rw [List.mem_singleton.1 hn]
      exact hmakes.proper
  · rw [List.dropLast_concat]
    exact hmakes.standing
  · rw [hmakes.free]
    simp

/-- What making one directory keeps, making those among several paths keeps. -/
theorem makeDirsAmong_induction {P : FileTree → Prop} {paths : List Path}
    (hstep : ∀ p ∈ paths, ∀ t t', P t → t.makeDir p = .ok t' → P t') {t : FileTree} (ht : P t) :
    P (t.makeDirsAmong paths).2 := by
  induction paths generalizing t with
  | nil => exact ht
  | cons p up ih =>
    have hhere := hstep p List.mem_cons_self
    unfold makeDirsAmong
    split
    · exact ht
    · cases hp : t.makeDir p with
      | ok t' => exact hhere t t' ht hp
      | error e =>
        cases e with
        | other => exact ht
        | noParent =>
          dsimp only
          have hup := ih (fun q hq => hstep q (List.mem_cons_of_mem p hq)) ht
          rcases hmade : t.makeDirsAmong up with ⟨made, t₁⟩
          rw [hmade] at hup
          cases made with
          | false => exact hup
          | true =>
            dsimp only
            cases hp₁ : t₁.makeDir p with
            | ok t' => exact hhere t₁ t' hup hp₁
            | error e => exact hup

theorem extends_makeDirsAmong (t : FileTree) (paths : List Path) :
    Extends (fun _ => False) t (t.makeDirsAmong paths).2 :=
  makeDirsAmong_induction (fun _ _ _ _ h hmade => h.trans (extends_of_makeDir hmade)) (.refl _ t)

/-! ## 4. Writing a file -/

/-- A file can be put at the end of the path: no directory stands there. -/
structure Writable (t : FileTree) (p : Path) (loc : Location) : Prop where
  locate : t.locate p = .ok loc
  no_dir : t.at? loc ≠ some .dir

/-- A write that comes to an end put the file where its path leads. -/
theorem place_of_write {t t' : FileTree} {p : Path} {content : ByteArray}
    (h : t.write p content = (true, t')) :
    ∃ loc, Writable t p loc ∧ loc ≠ [] ∧ t' = t.place loc (.file content) := by
  unfold write at h
  split at h
  · rename_i loc hloc
    split at h
    · exact absurd h (by simp)
    · rename_i hdir
      rw [isDirAt_iff] at hdir
      exact ⟨loc, ⟨hloc, hdir⟩, fun hroot => hdir (by rw [hroot, at?_root]), (Prod.mk.inj h).2.symm⟩
  · exact absurd h (by simp)

theorem extends_of_write {t t' : FileTree} {p : Path} {content : ByteArray}
    (h : t.write p content = (true, t')) : Extends (t.Writable p) t t' := by
  obtain ⟨loc, ⟨hloc, hdir⟩, hne, rfl⟩ := place_of_write h
  refine ⟨rfl, fun hwf => ?_, fun loc' hd => ?_, fun loc' c hf => ?_, fun loc' c hf => ?_⟩
  · exact hwf.place _ (hwf.proper_of_locate hloc) (hwf.parent_of_locate hloc hdir) hdir
  · rw [at?_place t _ loc' hne, if_neg (fun heq : loc' = loc => hdir (heq ▸ hd)), hd]
  · rw [at?_place t _ loc' hne]
    split
    · exact ⟨content, rfl⟩
    · exact ⟨c, hf⟩
  · rw [at?_place t _ loc' hne] at hf
    split at hf
    · rename_i heq
      exact Or.inr (heq ▸ ⟨hloc, hdir⟩)
    · exact Or.inl hf

theorem write_of_false {t t' : FileTree} {p : Path} {content : ByteArray}
    (h : t.write p content = (false, t')) : t' = t := by
  unfold write at h
  split at h
  · split at h
    · exact (Prod.mk.inj h).2.symm
    · exact absurd h (by simp)
  · exact (Prod.mk.inj h).2.symm

end FileTree

/-! ## 5. Writes of the world -/

namespace World

open FileTree (Extends)

section

variable {f : FileTree → Bool × FileTree} {e : Fault} {t : FileTree} {w w' : World}

theorem onFiles_attempt (h : onFiles (Step.attempt e f) w = (.ok (), w')) :
    f w.files = (true, w'.files) := by
  unfold onFiles Step.on Step.attempt at h
  rcases hf : f w.files with ⟨_ | _, t⟩
  · rw [hf] at h
    exact absurd (Prod.mk.inj h).1 (by simp)
  · rw [hf] at h
    rw [← (Prod.mk.inj h).2]

theorem onFiles_of_true (h : f w.files = (true, t)) :
    onFiles (Step.attempt e f) w = (.ok (), { w with files := t }) := by
  unfold onFiles Step.on Step.attempt
  rw [h]

theorem onFiles_of_false (h : f w.files = (false, t)) :
    onFiles (Step.attempt e f) w = (.error e, { w with files := t }) := by
  unfold onFiles Step.on Step.attempt
  rw [h]

end

theorem extends_makeDirs (p : Path) (e : Fault) (w : World) :
    Extends (fun _ => False) w.files (makeDirs p e w).2.files := by
  show Extends _ w.files (Step.attempt e (fun t => t.makeDirs p) w.files).2
  rw [Step.snd_attempt]
  exact FileTree.extends_makeDirsAmong w.files p.ancestors

theorem extends_writeHere (p : Path) (content : ByteArray) (e : Fault) (w : World) :
    Extends (w.files.Writable p) w.files (writeHere p content e w).2.files := by
  show Extends _ w.files (Step.attempt e (fun t => t.write p content) w.files).2
  rw [Step.snd_attempt]
  rcases hwrite : w.files.write p content with ⟨_ | _, t⟩
  · rw [FileTree.write_of_false hwrite]
    exact .refl _ _
  · exact FileTree.extends_of_write hwrite

/-- A write makes directories, and then it touches a file at most where its path leads by then. -/
theorem write_cases (p : Path) (content : ByteArray) (w : World) :
    ∃ t, Extends (fun _ => False) w.files t ∧
      Extends (t.Writable p) t (write p content w).2.files := by
  have hhere := extends_writeHere p content (.io s!"writing {p.text}")
  unfold write
  cases hp : p.parent? with
  | none => exact ⟨w.files, .refl _ _, hhere w⟩
  | some dir =>
    by_cases hdir : dir.text ≠ ""
    · have hdirs := extends_makeDirs dir (.io s!"creating directory {dir.text}") w
      simp only [if_pos hdir]
      rcases Step.bind_cases (makeDirs dir (.io s!"creating directory {dir.text}"))
        (fun _ => writeHere p content (.io s!"writing {p.text}")) w with
        ⟨e, w₁, hm, hb⟩ | ⟨u, w₁, hm, hb⟩
      · rw [hm] at hdirs
        exact ⟨w₁.files, hdirs, by rw [hb]; exact .refl _ _⟩
      · rw [hm] at hdirs
        exact ⟨w₁.files, hdirs, by rw [hb]; exact hhere w₁⟩
    · simp only [if_neg hdir]
      exact ⟨w.files, .refl _ _, hhere w⟩

/-- However a write ends, the only file it may have touched is the one its path aims at. -/
theorem extends_write (p : Path) (content : ByteArray) (w : World) :
    Extends (· = w.files.aim p) w.files (write p content w).2.files := by
  obtain ⟨t, hdirs, hwrite⟩ := write_cases p content w
  refine (hdirs.mono fun _ => False.elim).trans (hwrite.mono fun loc hloc => ?_)
  rw [FileTree.eq_aim_of_locate hloc.locate, hdirs.aim_eq]

end World

end Stencil
