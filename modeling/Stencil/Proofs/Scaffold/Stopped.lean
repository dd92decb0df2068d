import Stencil.Proofs.Directive.Faults
import Stencil.Proofs.Files.Dirs
import Stencil.Proofs.Scaffold.Complete

/-!
# Where a copy stops

The copy of a file looks at all that it needs before it writes: is the source there, can it be read, is
every transform in it known. A copy that one of these puts an end to leaves the world as it was, with the
target that was to be replaced and without a line shown (`copyFile_of_unready`). Its other faults are
those of the write (`copyFile_error_cases`).

The copy of a directory gives its files their turns. A turn renders the path of a file and copies the
file, and which turns there were can be noted (`Access.turns`). Then

> **the copy does what its turns do**, one after the other, up to the first one that fails
> (`ends_copyDir`).

So when a turn fails before its write, what is left is what the turns before it left, to the last line.
`Follows` says so of a part of the loop and goes through the loop as it is written: entry by entry, and
directory by directory. Turns are known by paths below the source; that an entry of a directory is found
under such a path again needs a tree that a file system can hold, and turns keep it one.
-/

set_option autoImplicit false

namespace Stencil

/-! ## 1. Faults of a write -/

/-- A directory could not be made, or a file could not be written. -/
def Fault.OfWriting (e : Fault) : Prop :=
  ∃ p : Path, e = .io s!"creating directory {p.text}" ∨ e = .io s!"writing {p.text}"

theorem World.ofWriting_of_write {p : Path} {content : ByteArray} {w w' : World} {e : Fault}
    (h : write p content w = (.error e, w')) : e.OfWriting :=
  raises_write p content (fun dir => ⟨dir, Or.inl rfl⟩) ⟨p, Or.inr rfl⟩ w e w' h

/-- A fault of a write has a text, and the text does not begin as that of a read does. -/
theorem Fault.OfWriting.exists_text {e : Fault} (h : e.OfWriting) :
    ∃ text, e = .io text ∧ text.toList.head? ≠ some 'r' := by
  obtain ⟨p, rfl | rfl⟩ := h
  · exact ⟨_, rfl, by simp [String.toList_append, toString]⟩
  · exact ⟨_, rfl, by simp [String.toList_append, toString]⟩

theorem Fault.not_ofWriting_reading (p : Path) : ¬ (Fault.io s!"reading {p.text}").OfWriting := by
  intro h
  obtain ⟨text, htext, hhead⟩ := h.exists_text
  rw [← Fault.io.inj htext] at hhead
  exact hhead (by simp [String.toList_append, toString])

theorem Fault.not_ofWriting_unknownTransform (name : String) :
    ¬ (Fault.unknownTransform name).OfWriting :=
  fun h => absurd h.exists_text (by simp)

namespace Scaffold

/-! ## 2. One file -/

/-- Why a file cannot be copied, as far as it is known before anything is written. -/
inductive Unready (s : Scaffold) (data : Store) (source : Path) (w : World) : Fault → Prop
  | missing (h : w.files.exists source = false) : Unready s data source w (.fileMissing source)
  | unreadable (h : w.files.exists source = true) (hread : w.files.read? source = none) :
      Unready s data source w (.io s!"reading {source.text}")
  | unrenderable {bytes : ByteArray} {name : String} (hread : w.files.read? source = some bytes)
      (h : Render.content (s.context data w) bytes = .error (.unknownTransform name)) :
      Unready s data source w (.unknownTransform name)

/-- The target stays as it is, and the source is not looked at. -/
def Stays (s : Scaffold) (target : Path) (w : World) : Prop :=
  w.files.exists target = true ∧ s.overwrite = false

section

variable {s : Scaffold} {data : Store} {source target : Path} {w w' : World} {e : Fault}

theorem stays_iff : (w.files.exists target && !s.overwrite) = true ↔ s.Stays target w := by
  simp [Stays]

theorem Unready.not_ofWriting (h : s.Unready data source w e) : ¬ e.OfWriting := by
  cases h with
  | missing h => exact fun h => absurd h.exists_text (by simp)
  | unreadable h hread => exact Fault.not_ofWriting_reading source
  | unrenderable hread h => exact Fault.not_ofWriting_unknownTransform _

/-- A file that cannot be copied leaves no trace of the attempt. -/
theorem copyFile_of_unready (hstays : ¬ s.Stays target w) (h : s.Unready data source w e) :
    s.copyFile data source target w = (.error e, w) := by
  rw [copyFile_apply, if_neg (mt stays_iff.1 hstays)]
  cases h with
  | missing h => rw [h, Bool.not_false, if_pos rfl]
  | unreadable h hread =>
    rw [h, Bool.not_true, if_neg Bool.false_ne_true, Step.bind_of_error (World.read_of_none hread)]
  | unrenderable hread h =>
    rw [FileTree.exists_of_read? hread, Bool.not_true, if_neg Bool.false_ne_true,
      Step.bind_of_ok (World.read_of_some hread)]
    refine Step.bind_of_error ?_
    rw [Step.ofExcept, h]

/-- A copy that fails was not ready, or fails in its write. -/
theorem copyFile_error_cases (h : s.copyFile data source target w = (.error e, w')) :
    (¬ s.Stays target w ∧ s.Unready data source w e ∧ w' = w) ∨ e.OfWriting := by
  have happly := h
  rw [copyFile_apply] at happly
  split at happly
  · exact absurd (Prod.mk.inj happly).1 (by simp)
  rename_i hgoes
  have hstays : ¬ s.Stays target w := mt stays_iff.2 hgoes
  -- whatever makes the file unready decides how the copy ends
  have hunready : ∀ e', s.Unready data source w e' →
      ¬ s.Stays target w ∧ s.Unready data source w e ∧ w' = w := by
    intro e' he'
    rw [copyFile_of_unready hstays he', Prod.mk.injEq, Except.error.injEq] at h
    exact ⟨hstays, h.1 ▸ he', h.2.symm⟩
  cases hexists : w.files.exists source with
  | false => exact Or.inl (hunready _ (.missing hexists))
  | true =>
    cases hread : w.files.read? source with
    | none => exact Or.inl (hunready _ (.unreadable hexists hread))
    | some bytes =>
      cases hrender : Render.content (s.context data w) bytes with
      | error e' =>
        obtain ⟨name, rfl⟩ := Render.unknownTransform_of_content hrender
        exact Or.inl (hunready _ (.unrenderable hread hrender))
      | ok rendered =>
        rw [hexists, Bool.not_true, if_neg Bool.false_ne_true,
          Step.bind_of_ok (World.read_of_some hread),
          Step.bind_of_ok (show Step.ofExcept _ w = (.ok rendered, w) from by
            rw [Step.ofExcept, hrender])] at happly
        rcases Step.bind_eq_error happly with hwrite | ⟨u, w₁, hwrite, hrest⟩
        · exact Or.inr (World.ofWriting_of_write hwrite)
        · exact absurd (Prod.mk.inj hrest).1 (by simp)

end

/-! ## 3. One turn -/

/-- The turn of the file at a path below the source: the path is rendered, and the file is copied. -/
def turn (s : Scaffold) (data : Store) (source target rel : Path) : Act Unit := do
  let rendered ← (s.access data).render rel
  let _ ← (s.access data).copy (source.join rel) (target.join rendered)
  return ()

/-- Why a turn comes to nothing, as far as it is known before anything is written. -/
inductive Fruitless (s : Scaffold) (data : Store) (source target rel : Path) (w : World) :
    Fault → Prop
  | unnamed {name : String}
      (h : Render.path (s.context data w) rel = .error (.unknownTransform name)) :
      Fruitless s data source target rel w (.unknownTransform name)
  | unready {rendered : Path} {e : Fault} (hpath : Render.path (s.context data w) rel = .ok rendered)
      (hgoes : ¬ s.Stays (target.join rendered) w) (h : s.Unready data (source.join rel) w e) :
      Fruitless s data source target rel w e

section

variable {s : Scaffold} {data : Store} {source target rel rendered : Path} {w w' : World} {e : Fault}

theorem turn_of_path_error (h : Render.path (s.context data w) rel = .error e) :
    s.turn data source target rel w = (.error e, w) :=
  Step.bind_of_error (Prod.ext h rfl)

/-- With its path rendered, the turn of a file ends as the copy of the file. -/
theorem turn_of_path (h : Render.path (s.context data w) rel = .ok rendered) :
    s.turn data source target rel w =
      (s.copyFile data (source.join rel) (target.join rendered) >>= fun _ => pure ()) w :=
  Step.bind_of_ok (Prod.ext h rfl)

theorem Fruitless.not_ofWriting (h : s.Fruitless data source target rel w e) : ¬ e.OfWriting := by
  cases h with
  | unnamed h => exact Fault.not_ofWriting_unknownTransform _
  | unready hpath hgoes h => exact h.not_ofWriting

theorem turn_of_fruitless (h : s.Fruitless data source target rel w e) :
    s.turn data source target rel w = (.error e, w) := by
  cases h with
  | unnamed h => exact turn_of_path_error h
  | unready hpath hgoes h =>
    rw [turn_of_path hpath]
    exact Step.bind_of_error (copyFile_of_unready hgoes h)

/-- A turn that fails comes to nothing, or fails in its write. -/
theorem turn_error_cases (h : s.turn data source target rel w = (.error e, w')) :
    (s.Fruitless data source target rel w e ∧ w' = w) ∨ e.OfWriting := by
  cases hpath : Render.path (s.context data w) rel with
  | error e' =>
    rw [turn_of_path_error hpath, Prod.mk.injEq, Except.error.injEq] at h
    obtain ⟨rfl, rfl⟩ := h
    obtain ⟨name, rfl⟩ := Render.unknownTransform_of_components hpath
    exact Or.inl ⟨.unnamed hpath, rfl⟩
  | ok rendered =>
    rw [turn_of_path hpath] at h
    rcases Step.bind_eq_error h with hcopy | ⟨outcome, w₁, -, hrest⟩
    · refine (copyFile_error_cases hcopy).imp_left ?_
      rintro ⟨hgoes, hunready, rfl⟩
      exact ⟨.unready hpath hgoes hunready, rfl⟩
    · exact absurd (Prod.mk.inj hrest).1 (by simp)

theorem wellFormed_turn (hw : w.files.WellFormed) :
    (s.turn data source target rel w).2.files.WellFormed := by
  cases hpath : Render.path (s.context data w) rel with
  | error e =>
    rw [turn_of_path_error hpath]
    exact hw
  | ok rendered =>
    rw [turn_of_path hpath, Step.snd_bind_pure]
    exact (s.extends_copyFile data _ _ rfl).wellFormed hw

theorem wellFormed_each_turn {rels : List Path} (hw : w.files.WellFormed) :
    (Step.each (s.turn data source target) rels w).2.files.WellFormed :=
  Step.each_induction (P := fun w' : World => w'.files.WellFormed) hw fun _ _ _ _ _ hw₁ =>
    wellFormed_turn hw₁

end

/-! ## 4. Turns, noted -/

/-- The access with the path of every file noted whose turn has come. -/
def Access.turns {σ : Type} (a : Access σ) : Access (σ × List Path) where
  list p := fun st => ((a.list p st.1).1, (a.list p st.1).2, st.2)
  isDir p st := a.isDir p st.1
  render rel := fun st => ((a.render rel st.1).1, (a.render rel st.1).2, st.2 ++ [rel])
  copy source target := fun st =>
    ((a.copy source target st.1).1, (a.copy source target st.1).2, st.2)
  admissible_of_list := by
    rintro p paths ⟨state, noted⟩ state' h
    rw [Prod.mk.injEq] at h
    exact a.admissible_of_list (Prod.ext h.1 rfl)

theorem Access.turns_copy {σ : Type} {a : Access σ} {source target : Path} {state state' : σ}
    {r : Except Fault CopyOutcome} (h : a.copy source target state = (r, state'))
    (noted : List Path) : a.turns.copy source target (state, noted) = (r, state', noted) := by
  show ((a.copy source target state).1, (a.copy source target state).2, noted) = _
  rw [h]

theorem Access.turns_notes {σ : Type} (a : Access σ) : a.turns.Notes a where
  list _ _ _ := rfl
  isDir _ _ _ := rfl
  render _ _ _ := rfl
  copy _ _ _ _ := rfl

/-- The files whose turn comes when a directory is copied, by their paths below it. -/
def turns (s : Scaffold) (data : Store) (source target : Path) (w : World) : List Path :=
  (s.copyPending (s.access data).turns source target .empty [⟨""⟩] (w, [])).2.2

/-- How it ends when some files have had their turns: well, with a turn that failed, or at a directory
that cannot be listed. -/
inductive Ends (s : Scaffold) (data : Store) (source target : Path) (w : World) {α : Type} :
    List Path → Except Fault α → World → Prop
  | well {rels : List Path} {w' : World} (a : α)
      (h : Step.each (s.turn data source target) rels w = (.ok (), w')) :
      Ends s data source target w rels (.ok a) w'
  | failed {front : List Path} {rel : Path} {w₀ w' : World} {e : Fault}
      (h : Step.each (s.turn data source target) front w = (.ok (), w₀))
      (hlast : s.turn data source target rel w₀ = (.error e, w')) :
      Ends s data source target w (front ++ [rel]) (.error e) w'
  | unlisted {rels : List Path} {w' : World} {e : Fault} {dir : Path}
      (h : Step.each (s.turn data source target) rels w = (.ok (), w'))
      (hlist : World.list dir w' = (.error e, w')) :
      Ends s data source target w rels (.error e) w'

/-- Whatever has been noted before, the step notes the turns that it consists of. -/
def Follows (s : Scaffold) (data : Store) (source target : Path) {α : Type}
    (m : Step (World × List Path) Fault α) (w : World) : Prop :=
  ∀ noted, ∃ rels, (m (w, noted)).2.2 = noted ++ rels ∧
    Ends s data source target w rels (m (w, noted)).1 (m (w, noted)).2.1

section

variable {s : Scaffold} {data : Store} {source target : Path} {α β : Type} {w w₁ w' : World}

theorem Ends.failed_at_once {rel : Path} {e : Fault}
    (h : s.turn data source target rel w = (.error e, w')) :
    Ends s data source target w [rel] (.error e : Except Fault α) w' :=
  show Ends s data source target w ([] ++ [rel]) _ w' from .failed rfl h

/-- Turns that went well come in front. -/
theorem Ends.after {rels rels' : List Path} {r : Except Fault α}
    (hfirst : Step.each (s.turn data source target) rels w = (.ok (), w₁))
    (h : Ends s data source target w₁ rels' r w') :
    Ends s data source target w (rels ++ rels') r w' := by
  have hboth : ∀ more w₂, Step.each (s.turn data source target) more w₁ = (.ok (), w₂) →
      Step.each (s.turn data source target) (rels ++ more) w = (.ok (), w₂) := by
    intro more w₂ hmore
    rw [Step.each_append, Step.bind_of_ok hfirst]
    exact hmore
  cases h with
  | well a h => exact .well a (hboth _ _ h)
  | failed h hlast =>
    rw [← List.append_assoc]
    exact .failed (hboth _ _ h) hlast
  | unlisted h hlist => exact .unlisted (hboth _ _ h) hlist

theorem Ends.of_error {rels : List Path} {e : Fault}
    (h : Ends s data source target w rels (.error e : Except Fault α) w') :
    Ends s data source target w rels (.error e : Except Fault β) w' := by
  cases h with
  | failed h hlast => exact .failed h hlast
  | unlisted h hlist => exact .unlisted h hlist

theorem follows_pure (a : α) : Follows s data source target (pure a) w :=
  fun noted => ⟨[], (List.append_nil noted).symm, .well a rfl⟩

/-- The second step of a sequence starts in a world that the turns of the first one have left. -/
theorem Follows.bind {m : Step (World × List Path) Fault α}
    {f : α → Step (World × List Path) Fault β} (hw : w.files.WellFormed)
    (hm : Follows s data source target m w)
    (hf : ∀ a w₁ noted noted', m (w, noted) = (.ok a, w₁, noted') → w₁.files.WellFormed →
      Follows s data source target (f a) w₁) : Follows s data source target (m >>= f) w := by
  intro noted
  obtain ⟨rels, hnoted, hends⟩ := hm noted
  rcases hrun : m (w, noted) with ⟨e | a, w₁, noted'⟩
  · rw [hrun] at hnoted hends
    rw [Step.bind_of_error hrun]
    exact ⟨rels, hnoted, hends.of_error⟩
  · rw [hrun] at hnoted hends
    cases hends with
    | well _ hwell =>
      have hw₁ : (Step.each (s.turn data source target) rels w).2.files.WellFormed :=
        wellFormed_each_turn hw
      rw [hwell] at hw₁
      obtain ⟨rels', hnoted', hends'⟩ := hf a w₁ noted noted' hrun hw₁ noted'
      rw [Step.bind_of_ok hrun]
      refine ⟨rels ++ rels', ?_, hends'.after hwell⟩
      rw [hnoted', show noted' = noted ++ rels from hnoted, List.append_assoc]

/-- A path that is rendered and a file that is copied are a turn. -/
theorem follows_turn {rel : Path} {f : Path → CopyOutcome → Step (World × List Path) Fault β}
    (hw : w.files.WellFormed)
    (hf : ∀ rendered outcome w₁, w₁.files.WellFormed →
      Follows s data source target (f rendered outcome) w₁) :
    Follows s data source target (do
      let rendered ← (s.access data).turns.render rel
      let outcome ← (s.access data).turns.copy (source.join rel) (target.join rendered)
      f rendered outcome) w := by
  intro noted
  cases hpath : Render.path (s.context data w) rel with
  | error e =>
    have hrender : (s.access data).turns.render rel (w, noted) = (.error e, w, noted ++ [rel]) :=
      Prod.ext hpath rfl
    rw [Step.bind_of_error hrender]
    exact ⟨[rel], rfl, .failed_at_once (turn_of_path_error hpath)⟩
  | ok rendered =>
    have hrender : (s.access data).turns.render rel (w, noted) = (.ok rendered, w, noted ++ [rel]) :=
      Prod.ext hpath rfl
    have hturn : s.turn data source target rel w = _ := turn_of_path hpath
    rw [Step.bind_of_ok hrender]
    rcases hcopy : s.copyFile data (source.join rel) (target.join rendered) w with ⟨e | outcome, w₁⟩
    · have hnoted := Access.turns_copy (a := s.access data) hcopy (noted ++ [rel])
      rw [Step.bind_of_error hcopy] at hturn
      rw [Step.bind_of_error hnoted]
      exact ⟨[rel], rfl, .failed_at_once hturn⟩
    · have hnoted := Access.turns_copy (a := s.access data) hcopy (noted ++ [rel])
      have hw₁ : w₁.files.WellFormed := (s.extends_copyFile data _ _ hcopy).wellFormed hw
      obtain ⟨rels, hmore, hends⟩ := hf rendered outcome w₁ hw₁ (noted ++ [rel])
      rw [Step.bind_of_ok hcopy] at hturn
      rw [Step.bind_of_ok hnoted]
      refine ⟨[rel] ++ rels, ?_, hends.after ?_⟩
      · rw [hmore, List.append_assoc]
      · rw [Step.each_cons, Step.bind_of_ok hturn]
        rfl

/-! ## 5. The loop -/

theorem follows_list (dir : Path) :
    Follows s data source target ((s.access data).turns.list dir) w := by
  intro noted
  refine ⟨[], (List.append_nil noted).symm, ?_⟩
  show Ends s data source target w [] (World.list dir w).1 (World.list dir w).2
  rw [snd_list]
  rcases hlist : (World.list dir w).1 with e | entries
  · exact .unlisted rfl (Prod.ext hlist (snd_list dir w))
  · exact .well entries rfl

/-- What is found in a directory below the source is found again by its path below the source. -/
theorem source_of_list {rel : Path} {entries : List Path} (hw : w.files.WellFormed)
    (hrel : rel.isAbsolute = false) (hlist : World.list (source.join rel) w = (.ok entries, w₁)) :
    ∀ entry ∈ entries, ∀ name, entry.fileName? = some name →
      entry = source.join (rel.joinText name) := by
  obtain ⟨-, dir, -, -, rfl⟩ := list_eq_ok.1 hlist
  intro entry hentry name hname
  obtain ⟨n, hn, rfl⟩ := List.mem_map.1 hentry
  have hproper := hw.proper_of_mem_namesIn hn
  rw [Path.fileName?_joinText hproper.not_idle hproper.ne_up hproper.no_slash,
    Option.some.injEq] at hname
  rw [← hname, Path.joinText_join source hrel (Path.isAbsolute_eq_false hproper.no_slash)]

theorem follows_copyEntries {rel : Path} {entries : List Path} (hw : w.files.WellFormed)
    (hsource : ∀ entry ∈ entries, ∀ name, entry.fileName? = some name →
      entry = source.join (rel.joinText name)) (report : CopyReport) (subdirs : List Path) :
    Follows s data source target
      (s.copyEntries (s.access data).turns target rel report subdirs entries) w := by
  induction entries generalizing report subdirs w with
  | nil =>
    rw [copyEntries_nil]
    exact follows_pure _
  | cons entry rest ih =>
    have hrest : ∀ entry' ∈ rest, ∀ name, entry'.fileName? = some name →
        entry' = source.join (rel.joinText name) :=
      fun entry' h => hsource entry' (List.mem_cons_of_mem entry h)
    by_cases hkeep : ∃ name, entry.fileName? = some name ∧ s.skips entry (rel.joinText name) = false
    · obtain ⟨name, hname, hskips⟩ := hkeep
      obtain rfl := hsource entry List.mem_cons_self name hname
      intro noted
      rw [copyEntries_keep s _ target report subdirs rest hname hskips]
      split
      · exact ih hw hrest report _ noted
      · exact follows_turn hw (fun rendered outcome w₁ hw₁ => ih hw₁ hrest _ _) noted
    · rw [copyEntries_pass s _ target report subdirs rest fun name hname =>
        Bool.of_not_eq_false fun hskips => hkeep ⟨name, hname, hskips⟩]
      exact ih hw hrest report subdirs

theorem follows_copyLevel {rel : Path} (hw : w.files.WellFormed) (hrel : rel.isAbsolute = false)
    (report : CopyReport) :
    Follows s data source target (s.copyLevel (s.access data).turns source target rel report) w := by
  refine (follows_list (source.join rel)).bind hw fun entries w₁ noted noted' hlist hw₁ => ?_
  obtain ⟨hfound, hrest⟩ := Prod.mk.inj hlist
  have hsame : w = w₁ := (snd_list _ w).symm.trans (Prod.mk.inj hrest).1
  subst hsame
  exact follows_copyEntries hw (source_of_list hw hrel (Prod.ext hfound (snd_list _ w))) report []

/-- Subdirectories are known by paths that go on from the one of their directory. -/
theorem relative_of_copyLevel {σ : Type} {a : Access σ} {rel : Path} {report report' : CopyReport}
    {subdirs : List Path} {state state' : σ} (hrel : rel.isAbsolute = false)
    (h : s.copyLevel a source target rel report state = (.ok (report', subdirs), state')) :
    ∀ d ∈ subdirs, d.isAbsolute = false := by
  intro d hd
  obtain ⟨entries, s₁, -, h⟩ := Step.bind_eq_ok h
  rcases of_mem_copyEntries s a target h hd with hd | ⟨name, rfl, -, hslash⟩
  · exact absurd hd (by simp)
  · rw [Path.isAbsolute_joinText rel (Path.isAbsolute_eq_false hslash), hrel]

theorem follows_copyPending (hw : w.files.WellFormed) (report : CopyReport) (pending : List Path)
    (hpending : ∀ rel ∈ pending, rel.isAbsolute = false) :
    Follows s data source target
      (s.copyPending (s.access data).turns source target report pending) w := by
  induction report, pending using copyPending.induct s (s.access data).turns source target
    generalizing w with
  | case1 report =>
    rw [copyPending_nil]
    exact follows_pure _
  | case2 report rel pending ih =>
    rw [copyPending_cons]
    have hrel : rel.isAbsolute = false := hpending rel List.mem_cons_self
    refine (follows_copyLevel hw hrel report).bind hw fun found w₁ noted noted' hrun hw₁ => ?_
    refine ih _ found.1 found.2 _ hrun hw₁ fun d hd => ?_
    rcases List.mem_append.1 hd with hd | hd
    · exact relative_of_copyLevel hrel hrun d hd
    · exact hpending d (List.mem_cons_of_mem rel hd)

variable (s data source target) in
/-- The copy of a directory does what the turns of its files do. -/
theorem ends_copyDir (hw : w.files.WellFormed) :
    Ends s data source target w (s.turns data source target w) (s.copyDir data source target w).1
      (s.copyDir data source target w).2 := by
  have hsame := erases_copyPending s (s.access data).turns_notes source target .empty [⟨""⟩] w []
  have hfollows : Follows s data source target
      (s.copyPending (s.access data).turns source target .empty [⟨""⟩]) w :=
    follows_copyPending hw .empty [⟨""⟩] (by decide)
  obtain ⟨rels, hnoted, hends⟩ := hfollows []
  rw [List.nil_append] at hnoted
  rw [copyDir, hsame, turns, hnoted]
  exact hends

/-! ## 6. Where the copy stops -/

/-- A turn that fails is the last one, and the copy ends with it. -/
theorem Ends.of_failed {front rest : List Path} {rel : Path} {w₀ : World} {e : Fault}
    {r : Except Fault α} (h : Ends s data source target w (front ++ rel :: rest) r w')
    (hfront : Step.each (s.turn data source target) front w = (.ok (), w₀))
    (hturn : s.turn data source target rel w₀ = (.error e, w₁)) :
    rest = [] ∧ r = .error e ∧ w' = w₁ := by
  -- no row of turns goes past the one that fails
  have hstop : ∀ more,
      Step.each (s.turn data source target) (front ++ rel :: more) w = (.error e, w₁) := by
    intro more
    rw [Step.each_append, Step.bind_of_ok hfront, Step.each_cons]
    exact Step.bind_of_error hturn
  generalize hrels : front ++ rel :: rest = rels at h
  cases h with
  | well a hwell =>
    rw [← hrels, hstop] at hwell
    exact absurd (Prod.mk.inj hwell).1 (by simp)
  | unlisted hwell hlist =>
    rw [← hrels, hstop] at hwell
    exact absurd (Prod.mk.inj hwell).1 (by simp)
  | @failed front' rel' w₀' _ e' hwell hlast =>
    rcases List.eq_nil_or_concat rest with rfl | ⟨more, last, rfl⟩
    · obtain ⟨rfl, hlastRel⟩ := List.append_inj' hrels rfl
      obtain rfl := List.singleton_inj.1 hlastRel
      rw [hfront, Prod.mk.injEq] at hwell
      rw [← hwell.2, hturn, Prod.mk.injEq, Except.error.injEq] at hlast
      exact ⟨rfl, congrArg Except.error hlast.1.symm, hlast.2.symm⟩
    · rw [List.concat_eq_append, ← List.cons_append, ← List.append_assoc] at hrels
      obtain ⟨rfl, -⟩ := List.append_inj' hrels rfl
      rw [hstop] at hwell
      exact absurd (Prod.mk.inj hwell).1 (by simp)

/-- A copy of a directory that fails before a write has done what some turns do that went well: all
those before the one that comes to nothing, or all there were before a directory that cannot be
listed. -/
theorem Ends.of_error_before_write {rels : List Path} {e : Fault}
    (h : Ends s data source target w rels (.error e : Except Fault α) w') (he : ¬ e.OfWriting) :
    ∃ front, Step.each (s.turn data source target) front w = (.ok (), w') ∧
      ((∃ rel, rels = front ++ [rel] ∧ s.Fruitless data source target rel w' e) ∨
        (rels = front ∧ ∃ dir, World.list dir w' = (.error e, w'))) := by
  cases h with
  | @failed front rel w₀ _ _ hwell hlast =>
    obtain ⟨hfruitless, rfl⟩ := (turn_error_cases hlast).resolve_right he
    exact ⟨front, hwell, Or.inl ⟨rel, rfl, hfruitless⟩⟩
  | unlisted hwell hlist => exact ⟨rels, hwell, Or.inr ⟨rfl, _, hlist⟩⟩

end

/-- A copy of a file that fails before its write leaves no trace, and fails so just when the file is not
ready. In the copy of a directory such a fault ends the turn it belongs to and the copy with it, and what
is left is what the turns before it left. -/
theorem failing_copy_leaves_no_trace (s : Scaffold) (data : Store) (source target : Path) (w : World)
    (hw : w.files.WellFormed) :
    (∀ e, s.Unready data source w e → ¬ e.OfWriting ∧
      (¬ s.Stays target w → s.copyFile data source target w = (.error e, w))) ∧
    (∀ e w', s.copyFile data source target w = (.error e, w') → ¬ e.OfWriting →
      s.Unready data source w e ∧ w' = w) ∧
    (∀ front rel rest w₀ e, s.turns data source target w = front ++ rel :: rest →
      Step.each (s.turn data source target) front w = (.ok (), w₀) →
      s.Fruitless data source target rel w₀ e →
      rest = [] ∧ s.copyDir data source target w = (.error e, w₀) ∧ ¬ e.OfWriting) ∧
    ∀ e w', s.copyDir data source target w = (.error e, w') → ¬ e.OfWriting →
      ∃ front, Step.each (s.turn data source target) front w = (.ok (), w') ∧
        ((∃ rel, s.turns data source target w = front ++ [rel] ∧
            s.Fruitless data source target rel w' e) ∨
          (s.turns data source target w = front ∧ ∃ dir, World.list dir w' = (.error e, w'))) := by
  have hends := ends_copyDir s data source target hw
  refine ⟨fun e h => ⟨h.not_ofWriting, fun hgoes => copyFile_of_unready hgoes h⟩, ?_, ?_, ?_⟩
  · intro e w' h he
    exact ((copyFile_error_cases h).resolve_right he).2
  · intro front rel rest w₀ e hturns hfront hfruitless
    rw [hturns] at hends
    obtain ⟨hlast, hfault, hworld⟩ := hends.of_failed hfront (turn_of_fruitless hfruitless)
    exact ⟨hlast, Prod.ext hfault hworld, hfruitless.not_ofWriting⟩
  · intro e w' h he
    rw [h] at hends
    exact hends.of_error_before_write he

namespace Broken

/-- Two files. The second one asks for a transform that nobody knows, and its target is there. -/
def files : FileTree :=
  ⟨[(["t"], .dir), (["t", "a"], .file "one".toUTF8),
    (["t", "b"], .file "\x7b\x7b x | nope \x7d\x7d".toUTF8),
    (["out"], .dir), (["out", "b"], .file "old".toUTF8)], []⟩

def world : World :=
  ⟨files, [], [], [], [], []⟩

def replacing : Scaffold :=
  { Scaffold.plain .builtins with overwrite := true }

/-- What comes of the entries of the directory. -/
def outcome : Except Fault (CopyReport × List Path) × World :=
  replacing.copyEntries (replacing.access ⟨[]⟩) ⟨"/out"⟩ ⟨""⟩ .empty [] [⟨"/t/a"⟩, ⟨"/t/b"⟩] world

theorem run : replacing.copyDir ⟨[]⟩ ⟨"/t"⟩ ⟨"/out"⟩ world =
    (.error (.unknownTransform "nope"), outcome.2) := by
  have hlist : World.list ⟨"/t/"⟩ world = (.ok [⟨"/t/a"⟩, ⟨"/t/b"⟩], world) :=
    list_of_sorted (show _ = Except.ok ["t"] by decide +kernel) (by decide +kernel)
      (show _ = ["a", "b"] by decide +kernel) (by decide +kernel)
  have hlevel : replacing.copyLevel (replacing.access ⟨[]⟩) ⟨"/t"⟩ ⟨"/out"⟩ ⟨""⟩ .empty world =
      outcome := Step.bind_of_ok hlist
  have hfails : outcome = (.error (.unknownTransform "nope"), outcome.2) :=
    Step.eq_error_of_fst (by decide +kernel)
  rw [copyDir, copyPending_cons, Step.bind_of_error (hlevel.trans hfails)]

end Broken

/-- The second file is not copied. The first one stays copied, and the target of the second one stays as
it was. -/
theorem failing_copy_leaves_no_trace_second_file :
    Broken.files.WellFormed ∧ ¬ (Fault.unknownTransform "nope").OfWriting ∧
      ∃ w', Broken.replacing.copyDir ⟨[]⟩ ⟨"/t"⟩ ⟨"/out"⟩ Broken.world =
          (.error (.unknownTransform "nope"), w') ∧
        w'.files.read? ⟨"/out/a"⟩ = some "one".toUTF8 ∧
        w'.files.read? ⟨"/out/b"⟩ = some "old".toUTF8 ∧ w'.shown = [⟨.success, "Created /out/a"⟩] ∧
        ∃ front, Step.each (Broken.replacing.turn ⟨[]⟩ ⟨"/t"⟩ ⟨"/out"⟩) front Broken.world =
            (.ok (), w') ∧
          ∃ rel, Broken.replacing.turns ⟨[]⟩ ⟨"/t"⟩ ⟨"/out"⟩ Broken.world = front ++ [rel] ∧
            Broken.replacing.Fruitless ⟨[]⟩ ⟨"/t"⟩ ⟨"/out"⟩ rel w' (.unknownTransform "nope") := by
  have hwell : Broken.files.WellFormed := by decide +kernel
  have hfault := Fault.not_ofWriting_unknownTransform "nope"
  obtain ⟨-, -, -, hstops⟩ := failing_copy_leaves_no_trace Broken.replacing ⟨[]⟩ ⟨"/t"⟩ ⟨"/out"⟩
    Broken.world hwell
  obtain ⟨front, hfront, hlast | ⟨-, dir, hlist⟩⟩ := hstops _ _ Broken.run hfault
  · exact ⟨hwell, hfault, _, Broken.run, by decide +kernel, by decide +kernel, by decide +kernel, front,
      hfront, hlast⟩
  · have hlisting : Step.Raises (· ≠ Fault.unknownTransform "nope") (World.list dir) :=
      World.raises_list dir (by simp)
    exact absurd rfl (hlisting _ _ _ hlist)

end Scaffold

end Stencil
