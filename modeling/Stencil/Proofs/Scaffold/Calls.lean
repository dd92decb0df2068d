import Stencil.Proofs.Files.Below
import Stencil.Proofs.Files.Write
import Stencil.Proofs.Scaffold.Walk

/-!
# The calls of a copy

`Access.noting` is an access that does what another one does and keeps a list of the directories
that were listed and the files that were copied, each with the state it was asked for in. A copy
over an access that takes notes comes to the same end as without them (`erases_copyPending`).

The access to the files of the world is steady on trees that a file system can hold
(`steady_access`): a write never puts a file where a directory stands, and directories are made only
where nothing stands. So what was listed as a directory is one for the rest of the run, also where a
copy writes into the tree that it copies.
-/

set_option autoImplicit false

namespace Stencil.Scaffold

variable {σ : Type}

/-! ## 1. Calls -/

/-- A file that was to be copied, in a state, and what came of it. -/
structure Attempt (σ : Type) where
  before : σ
  source : Path
  target : Path
  outcome : Except Fault CopyOutcome

inductive Call (σ : Type) where
  | list (before : σ) (dir : Path)
  | copy (attempt : Attempt σ)

/-- The access with its calls noted, the oldest first. -/
def Access.noting (a : Access σ) : Access (σ × List (Call σ)) where
  list p := fun st => ((a.list p st.1).1, (a.list p st.1).2, st.2 ++ [.list st.1 p])
  isDir p st := a.isDir p st.1
  render rel := fun st => ((a.render rel st.1).1, (a.render rel st.1).2, st.2)
  copy source target := fun st =>
    let r := a.copy source target st.1
    (r.1, r.2, st.2 ++ [.copy ⟨st.1, source, target, r.1⟩])
  admissible_of_list := by
    rintro p paths ⟨state, calls⟩ state' h
    rw [Prod.mk.injEq] at h
    exact a.admissible_of_list (Prod.ext h.1 rfl)

theorem Access.noting_list {a : Access σ} {p : Path} {state state' : σ}
    {r : Except Fault (List Path)} (h : a.list p state = (r, state')) (calls : List (Call σ)) :
    a.noting.list p (state, calls) = (r, state', calls ++ [.list state p]) := by
  show ((a.list p state).1, (a.list p state).2, calls ++ [Call.list state p]) = _
  rw [h]

theorem Access.noting_copy {a : Access σ} {source target : Path} {state state' : σ}
    {r : Except Fault CopyOutcome} (h : a.copy source target state = (r, state'))
    (calls : List (Call σ)) :
    a.noting.copy source target (state, calls) =
      (r, state', calls ++ [.copy ⟨state, source, target, r⟩]) := by
  show ((a.copy source target state).1, (a.copy source target state).2,
    calls ++ [Call.copy ⟨state, source, target, (a.copy source target state).1⟩]) = _
  rw [h]

/-- Two steps come to the same end, apart from what the first one notes. -/
def Erases {τ α : Type} (m : Step (σ × τ) Fault α) (n : Step σ Fault α) : Prop :=
  ∀ state notes, n state = ((m (state, notes)).1, (m (state, notes)).2.1)

theorem Erases.bind {τ α β : Type} {m : Step (σ × τ) Fault α} {n : Step σ Fault α}
    {f : α → Step (σ × τ) Fault β} {g : α → Step σ Fault β} (hm : Erases m n)
    (hf : ∀ a, Erases (f a) (g a)) : Erases (m >>= f) (n >>= g) := by
  intro state notes
  have h := hm state notes
  rcases Step.bind_cases m f (state, notes) with ⟨e, s₁, hs, hb⟩ | ⟨a, s₁, hs, hb⟩
  · rw [hs] at h
    rw [hb, Step.bind_of_error h]
  · rw [hs] at h
    rw [hb, Step.bind_of_ok h]
    exact hf a s₁.1 s₁.2

theorem erases_pure {τ α : Type} (x : α) :
    Erases (pure x : Step (σ × τ) Fault α) (pure x : Step σ Fault α) := fun _ _ => rfl

/-- The first access does what the second one does, and takes notes. -/
structure Access.Notes {τ : Type} (b : Access (σ × τ)) (a : Access σ) : Prop where
  list : ∀ p, Erases (b.list p) (a.list p)
  isDir : ∀ p state notes, b.isDir p (state, notes) = a.isDir p state
  render : ∀ rel, Erases (b.render rel) (a.render rel)
  copy : ∀ source target, Erases (b.copy source target) (a.copy source target)

theorem Access.noting_notes (a : Access σ) : a.noting.Notes a where
  list _ _ _ := rfl
  isDir _ _ _ := rfl
  render _ _ _ := rfl
  copy _ _ _ _ := rfl

section

variable {τ : Type} (s : Scaffold) {a : Access σ} {b : Access (σ × τ)} (hb : b.Notes a)
variable (source target : Path)

include hb

theorem erases_copyEntries (rel : Path) (report : CopyReport) (subdirs entries : List Path) :
    Erases (s.copyEntries b target rel report subdirs entries)
      (s.copyEntries a target rel report subdirs entries) := by
  induction entries generalizing report subdirs with
  | nil =>
    rw [copyEntries_nil, copyEntries_nil]
    exact erases_pure _
  | cons entry rest ih =>
    by_cases hkeep : ∃ name, entry.fileName? = some name ∧ s.skips entry (rel.joinText name) = false
    · obtain ⟨name, hname, hskips⟩ := hkeep
      intro state notes
      rw [copyEntries_keep s a target report subdirs rest hname hskips,
        copyEntries_keep s b target report subdirs rest hname hskips, hb.isDir]
      split
      · exact ih report _ state notes
      · exact (hb.render _).bind (fun rendered => (hb.copy entry _).bind fun outcome => ih _ _)
          state notes
    · have hpass : ∀ name, entry.fileName? = some name → s.skips entry (rel.joinText name) :=
        fun name hname => Bool.of_not_eq_false fun hskips => hkeep ⟨name, hname, hskips⟩
      rw [copyEntries_pass s a target report subdirs rest hpass,
        copyEntries_pass s b target report subdirs rest hpass]
      exact ih report subdirs

/-- The notes that are taken during a copy change nothing else. -/
theorem erases_copyPending (report : CopyReport) (pending : List Path) :
    Erases (s.copyPending b source target report pending)
      (s.copyPending a source target report pending) := by
  induction report, pending using copyPending.induct s a source target with
  | case1 report =>
    rw [copyPending_nil, copyPending_nil]
    exact erases_pure _
  | case2 report rel pending ih =>
    rw [copyPending_cons, copyPending_cons]
    have hlevel : Erases (s.copyLevel b source target rel report)
        (s.copyLevel a source target rel report) :=
      (hb.list (source.join rel)).bind fun entries => erases_copyEntries s hb target rel report [] entries
    intro state notes
    have h := hlevel state notes
    rcases Step.bind_cases (s.copyLevel b source target rel report)
        (fun found => s.copyPending b source target found.1 (found.2 ++ pending))
        (state, notes) with ⟨e, s₁, hs, hend⟩ | ⟨found, s₁, hs, hend⟩
    · rw [hs] at h
      rw [hend, Step.bind_of_error h]
    · rw [hs] at h
      rw [hend, Step.bind_of_ok h]
      exact ih state found.1 found.2 s₁.1 h s₁.1 s₁.2

end

theorem Access.Steady.noting {a : Access σ} {good : σ → Prop} {later : σ → σ → Prop}
    (h : a.Steady good later) :
    a.noting.Steady (fun st => good st.1) (fun st st' => later st.1 st'.1) where
  refl st := h.refl st.1
  trans := h.trans
  stays_good := h.stays_good
  list p st := h.list p st.1
  render rel st := h.render rel st.1
  copy source target st := h.copy source target st.1
  isDir := by
    rintro p entries ⟨state, calls⟩ ⟨state₁, calls₁⟩ ⟨state₂, calls₂⟩ hgood hlist hlater
    rw [Prod.mk.injEq, Prod.mk.injEq] at hlist
    exact h.isDir hgood (Prod.ext hlist.1 hlist.2.1) hlater

/-! ## 2. One file -/

section

variable (s : Scaffold) (data : Store) (source target : Path)

/-- A file is skipped, or missing, or read, rendered and written. -/
theorem copyFile_apply (w : World) :
    s.copyFile data source target w =
      if w.files.exists target && !s.overwrite then
        (World.tell .notice s!"File exists, skipping: {s.shown target}" >>=
          fun _ => pure CopyOutcome.skipped) w
      else if !w.files.exists source then (.error (.fileMissing source), w)
      else
        (World.read source >>= fun content =>
          Step.ofExcept (Render.content (s.context data w) content) >>= fun rendered =>
            World.write target rendered >>= fun _ =>
              World.tell .success s!"Created {s.shown target}" >>= fun _ =>
                pure CopyOutcome.created) w := by
  unfold copyFile
  rw [Step.bind_of_ok (show World.exists target w = (.ok (w.files.exists target), w) from rfl)]
  split
  · rfl
  · rw [Step.bind_of_ok (show World.exists source w = (.ok (w.files.exists source), w) from rfl)]
    split
    · rfl
    · refine Step.bind_congr_of_ok fun content w₁ hread => ?_
      have hw₁ : w₁ = w := by
        cases hcontent : w.files.read? source with
        | none =>
          rw [World.read_of_none hcontent] at hread
          exact absurd hread (by simp)
        | some c =>
          rw [World.read_of_some hcontent] at hread
          exact (Prod.mk.inj hread).2.symm
      rw [hw₁]
      rfl

/-- The copy of a file leaves the files as they are, or it has read its source and written. -/
theorem copyFile_cases {w w' : World} {r : Except Fault CopyOutcome}
    (h : s.copyFile data source target w = (r, w')) :
    (w'.files = w.files ∧ r ≠ .ok .created) ∨
      (w.files.isFile source ∧ r ≠ .ok .skipped ∧
        ∃ rendered, w'.files = (World.write target rendered w).2.files) := by
  rw [copyFile_apply] at h
  split at h
  · obtain ⟨rfl, rfl⟩ := Prod.mk.inj h
    exact Or.inl ⟨rfl, by simp⟩
  · split at h
    · obtain ⟨rfl, rfl⟩ := Prod.mk.inj h
      exact Or.inl ⟨rfl, by simp⟩
    · cases hread : w.files.read? source with
      | none =>
        rw [Step.bind_of_error (World.read_of_none hread)] at h
        obtain ⟨rfl, rfl⟩ := Prod.mk.inj h
        exact Or.inl ⟨rfl, by simp⟩
      | some content =>
        have hfile : w.files.isFile source := by
          rw [FileTree.isFile, hread]
          rfl
        rw [Step.bind_of_ok (World.read_of_some hread)] at h
        rcases Step.bind_cases (Step.ofExcept (Render.content (s.context data w) content))
            (fun rendered => World.write target rendered >>= fun _ =>
              World.tell .success s!"Created {s.shown target}" >>= fun _ =>
                pure CopyOutcome.created) w with ⟨e, w₁, hm, hb⟩ | ⟨rendered, w₁, hm, hb⟩
        · rw [hb] at h
          obtain ⟨rfl, rfl⟩ := Prod.mk.inj h
          exact Or.inl ⟨by rw [← (Prod.mk.inj hm).2], by simp⟩
        · rw [hb, ← (Prod.mk.inj hm).2] at h
          refine Or.inr ⟨hfile, ?_⟩
          rcases hwrite : World.write target rendered w with ⟨e | u, w₂⟩
          · rw [Step.bind_of_error hwrite] at h
            obtain ⟨rfl, rfl⟩ := Prod.mk.inj h
            exact ⟨by simp, rendered, by rw [hwrite]⟩
          · rw [Step.bind_of_ok hwrite] at h
            obtain ⟨rfl, rfl⟩ := Prod.mk.inj h
            exact ⟨by simp, rendered, by rw [hwrite]⟩

theorem extends_copyFile {w w' : World} {r : Except Fault CopyOutcome}
    (h : s.copyFile data source target w = (r, w')) :
    FileTree.Extends (· = w.files.aim target) w.files w'.files := by
  rcases s.copyFile_cases data source target h with ⟨hfiles, -⟩ | ⟨-, -, rendered, hfiles⟩
  · rw [hfiles]
    exact .refl _ _
  · rw [hfiles]
    exact World.extends_write target rendered w

theorem files_of_skipped {w w' : World}
    (h : s.copyFile data source target w = (.ok .skipped, w')) : w'.files = w.files := by
  rcases s.copyFile_cases data source target h with ⟨hfiles, -⟩ | ⟨-, hne, -⟩
  · exact hfiles
  · exact absurd rfl hne

theorem isFile_of_created {w w' : World}
    (h : s.copyFile data source target w = (.ok .created, w')) : w.files.isFile source := by
  rcases s.copyFile_cases data source target h with ⟨-, hne⟩ | ⟨hfile, -⟩
  · exact absurd rfl hne
  · exact hfile

end

/-! ## 3. The files of the world -/

open FileTree (Extends)

/-- The trees of two worlds, the second after some writing. -/
def Written (w w' : World) : Prop :=
  Extends (fun _ => True) w.files w'.files

/-- A list is of a directory, and of everything in it. -/
theorem list_eq_ok {p : Path} {entries : List Path} {w w' : World} :
    World.list p w = (.ok entries, w') ↔
      w' = w ∧ ∃ dir, w.files.locate p = .ok dir ∧ w.files.at? dir = some .dir ∧
        entries = (w.files.namesIn dir).map p.joinText := by
  unfold World.list FileTree.list?
  cases hp : w.files.locate p with
  | error e => simp
  | ok dir =>
    by_cases hdir : w.files.isDirAt dir
    · have hat := FileTree.isDirAt_iff.1 hdir
      simp only [if_pos hdir, Prod.mk.injEq, Except.ok.injEq]
      constructor
      · rintro ⟨rfl, rfl⟩
        exact ⟨rfl, dir, rfl, hat, rfl⟩
      · rintro ⟨rfl, dir', rfl, -, rfl⟩
        exact ⟨rfl, rfl⟩
    · have hat : w.files.at? dir ≠ some .dir := fun hat => hdir (FileTree.isDirAt_iff.2 hat)
      simp [hdir, hat]

theorem snd_list (p : Path) (w : World) : (World.list p w).2 = w := by
  unfold World.list
  split
  · rfl
  · rfl

/-- What lies in the tree in the order of its names is listed as it lies there. -/
theorem list_of_sorted {p : Path} {dir : Location} {names : List String} {w : World}
    (hdir : w.files.locate p = .ok dir) (hat : w.files.isDirAt dir)
    (hnames : w.files.entries.filterMap (FileTree.nameIn dir ·.1) = names)
    (hsorted : names.Pairwise fun a b => decide (a ≤ b)) :
    World.list p w = (.ok (names.map p.joinText), w) := by
  refine list_eq_ok.2 ⟨rfl, dir, hdir, FileTree.isDirAt_iff.1 hat, ?_⟩
  rw [FileTree.namesIn, hnames, List.mergeSort_of_pairwise hsorted]

/-- What a list found stays a directory, or something else. -/
theorem isDir_of_list {w w₁ w₂ : World} {p : Path} {entries : List Path}
    (hw : w.files.WellFormed) (hlist : World.list p w = (.ok entries, w₁)) (hlater : Written w₁ w₂) :
    ∀ entry ∈ entries, w₂.files.isDir entry = w₁.files.isDir entry := by
  obtain ⟨rfl, dir, hdir, hat, rfl⟩ := list_eq_ok.1 hlist
  intro entry hentry
  obtain ⟨name, hname, rfl⟩ := List.mem_map.1 hentry
  have hproper := hw.proper_of_mem_namesIn hname
  rw [Bool.eq_iff_iff, FileTree.isDir_joinText hdir hat hproper,
    FileTree.isDir_joinText (hlater.locate hdir) (hlater.dir dir hat) hproper,
    hlater.dir_iff (FileTree.mem_namesIn.1 hname)]

/-- The access to the files is steady on trees that a file system can hold. -/
theorem steady_access (s : Scaffold) (data : Store) :
    (s.access data).Steady (fun w => w.files.WellFormed) Written where
  refl w := .refl _ _
  trans := .trans
  stays_good hw hlater := hlater.wellFormed hw
  list p w := by
    show Written w (World.list p w).2
    rw [snd_list]
    exact .refl _ _
  render rel w := .refl _ _
  copy source target w := (s.extends_copyFile data source target rfl).mono fun _ _ => trivial
  isDir hw hlist hlater := isDir_of_list hw hlist hlater

end Stencil.Scaffold
