import Stencil.Proofs.Scaffold.Trace

/-!
# A copy of a directory is complete

The loop that copies a directory is the walk over it, call by call (`copyDir_walks_and_covers`), and
what the walk does can be read off the tree:

    s.notedCopy data source target (w, []) = s.notedWalk data source target (w, [])

    s.Wanted source w.files names →
      ∃ c ∈ attempts calls, c.source = source.join (Path.below names)

Three things have to be kept apart while the walk goes on. **Once**: the places on one level lie
`Apart`, so the runs below them have nothing in common (`Walked.nodup`). **All**: a file that was
there at the start is there when its directory is listed, because writes only extend the tree
(`Walked.complete`). **No other**: a file that was created was read first, and if no target lies under
the source, what was read there was there at the start (`Walked.wanted`).

A file below the source is one that can be read under its path. A path that is too long leads nowhere
for the copy as it does for every reader, and what lies behind it is not a file of the source.

The copy comes to an end on every tree. That no path can grow without end is enough for that; when a
copy ends well, the directories that it looked into are directories of the tree, and no two of them
the same (`listed_once`, `listed_dirs`, `listed_few`).
-/

set_option autoImplicit false

namespace Stencil.Scaffold

open FileTree (Proper Extends)

section

variable {s : Scaffold} {data : Store} {source target : Path}

/-! ## 1. Once -/

/-- Neither place lies at or below the other. -/
def Apart (p q : List String) : Prop :=
  ¬ p <+: q ∧ ¬ q <+: p

theorem Apart.not_both {p q v : List String} (h : Apart p q) (hp : p <+: v) : ¬ q <+: v := by
  intro hq
  rcases List.prefix_or_prefix_of_prefix hp hq with hpq | hqp
  · exact h.1 hpq
  · exact h.2 hqp

variable (s source) in
theorem children_apart {t : FileTree} (ht : t.WellFormed) (dir : Location) (names : List String) :
    (s.children source t dir names).Pairwise Apart := by
  have hsingle : ∀ n m : String, names ++ [n] <+: names ++ [m] → n = m := by
    intro n m h
    have heq := h.eq_of_length (by simp)
    simpa using heq
  refine List.Pairwise.filter _ (List.Pairwise.map _ (fun n m hne => ?_) (ht.namesIn_nodup dir))
  exact ⟨fun h => hne (hsingle n m h), fun h => hne (hsingle m n h).symm⟩

theorem nodup_of_apart {places : List (List String)} (h : places.Pairwise Apart) :
    places.Nodup := by
  refine h.imp fun {p q} hpq heq => ?_
  rw [heq] at hpq
  exact hpq.1 (List.prefix_refl q)

/-- What lies in a subdirectory has a longer way than what lies in the directory itself. -/
theorem Walked.below_children {t : FileTree} {dir : Location} {names : List String}
    {isDir : List String → Bool} {looked visited : List (List String)} {w w' : World}
    {calls : List (Call World)}
    (h : Walked s data source target ((s.children source t dir names).filter isDir)
      w looked visited calls w') (hw : w.files.WellFormed)
    (hproper : ∀ place ∈ (s.children source t dir names).filter isDir, ∀ n ∈ place, Proper n) :
    (∀ v ∈ looked, names <+: v ∧ names.length < v.length) ∧
      ∀ v ∈ visited, names <+: v ∧ names.length + 1 < v.length := by
  constructor
  · intro v hv
    obtain ⟨-, -, place, hplace, hprefix⟩ := h.looked_below hw hproper v hv
    obtain ⟨n, -, rfl, -⟩ := mem_children.1 (List.mem_filter.1 hplace).1
    have hlength := hprefix.length_le
    rw [List.length_append, List.length_singleton] at hlength
    exact ⟨(List.prefix_append names [n]).trans hprefix, hlength⟩
  · intro v hv
    obtain ⟨-, place, hplace, tail, hne, rfl, -⟩ := h.visited_below hw hproper v hv
    obtain ⟨n, -, rfl, -⟩ := mem_children.1 (List.mem_filter.1 hplace).1
    have hlength := List.length_pos_iff.2 hne
    refine ⟨(List.prefix_append names [n]).trans (List.prefix_append _ tail), ?_⟩
    rw [List.length_append, List.length_append, List.length_singleton]
    omega

/-- Walks over places apart from a directory do not come into it. -/
theorem Walked.apart {names : List String} {places looked visited : List (List String)}
    {w w' : World} {calls : List (Call World)}
    (h : Walked s data source target places w looked visited calls w') (hw : w.files.WellFormed)
    (hproper : ∀ place ∈ places, ∀ n ∈ place, Proper n)
    (hapart : ∀ place ∈ places, Apart names place) :
    (∀ v ∈ looked, ¬ names <+: v) ∧ ∀ v ∈ visited, ¬ names <+: v := by
  constructor
  · intro v hv hnames
    obtain ⟨-, -, place, hplace, hprefix⟩ := h.looked_below hw hproper v hv
    exact (hapart place hplace).not_both hnames hprefix
  · intro v hv hnames
    obtain ⟨-, place, hplace, tail, -, rfl, -⟩ := h.visited_below hw hproper v hv
    exact (hapart place hplace).not_both hnames (List.prefix_append place tail)

/-- No directory is looked into twice, and no file is visited twice. -/
theorem Walked.nodup {places looked visited : List (List String)} {w w' : World}
    {calls : List (Call World)}
    (h : Walked s data source target places w looked visited calls w') (hw : w.files.WellFormed)
    (hproper : ∀ place ∈ places, ∀ n ∈ place, Proper n) (hapart : places.Pairwise Apart) :
    looked.Nodup ∧ visited.Nodup := by
  induction h with
  | nil => simp
  | @cons names rest w w₁ w₂ w₃ dir copies looked looked' visited visited' _ _ _ _ hfiles hdirs hrest
      ih₁ ih₂ =>
    have hw₁ := hfiles.extends.wellFormed hw
    have hw₂ := hdirs.extends.wellFormed hw₁
    have hchildren := children_apart s source hw dir names
    have hnames : ∀ place ∈ s.children source w.files dir names, ∀ n ∈ place, Proper n :=
      fun place hplace => proper_of_mem_children hw (hproper names List.mem_cons_self) hplace
    have hdirsProper : ∀ place ∈ (s.children source w.files dir names).filter (isDirBelow source w),
        ∀ n ∈ place, Proper n := fun place hplace => hnames place (List.mem_filter.1 hplace).1
    have hrestProper : ∀ place ∈ rest, ∀ n ∈ place, Proper n :=
      fun place hplace => hproper place (List.mem_cons_of_mem _ hplace)
    obtain ⟨hlooked, hvisited⟩ := ih₁ hw₁ hdirsProper (hchildren.filter _)
    obtain ⟨hlooked', hvisited'⟩ := ih₂ hw₂ hrestProper hapart.of_cons
    obtain ⟨hlookedBelow, hvisitedBelow⟩ := hdirs.below_children hw₁ hdirsProper
    obtain ⟨hlookedApart, hvisitedApart⟩ :=
      hrest.apart hw₂ hrestProper (List.pairwise_cons.1 hapart).1
    constructor
    · rw [List.nodup_cons, List.nodup_append]
      refine ⟨fun hmem => ?_, hlooked, hlooked', fun v hv v' hv' heq => ?_⟩
      · rcases List.mem_append.1 hmem with hmem | hmem
        · exact Nat.lt_irrefl _ (hlookedBelow names hmem).2
        · exact hlookedApart names hmem (List.prefix_refl names)
      · exact hlookedApart v' hv' (heq ▸ (hlookedBelow v hv).1)
    · rw [List.nodup_append, List.nodup_append]
      refine ⟨nodup_of_apart (hchildren.filter _),
        ⟨hvisited, hvisited', fun v hv v' hv' heq => ?_⟩, fun v hv v' hv' heq => ?_⟩
      · exact hvisitedApart v' hv' (heq ▸ (hvisitedBelow v hv).1)
      · obtain ⟨n, -, rfl, -⟩ := mem_children.1 (List.mem_filter.1 hv).1
        rcases List.mem_append.1 hv' with hv' | hv'
        · have hlength := (hvisitedBelow v' hv').2
          rw [← heq, List.length_append, List.length_singleton] at hlength
          exact Nat.lt_irrefl _ hlength
        · exact hvisitedApart v' hv' (heq ▸ List.prefix_append names [n])

/-! ## 2. All -/

/-- On the way to a file the next name is listed. It is a subdirectory, unless it is the file. -/
theorem child_toward {w : World} {root : Location}
    (hroot : w.files.locate (source.join ⟨""⟩) = .ok root) {names tail : List String} {n : String}
    (hproper : ∀ m ∈ names ++ [n] ++ tail, Proper m)
    (hfile : w.files.isFile (source.join (Path.below (names ++ [n] ++ tail))))
    (htakes : s.Takes source (names ++ [n])) :
    names ++ [n] ∈ s.children source w.files (root ++ names) names ∧
      (isDirBelow source w (names ++ [n]) = true ↔ tail ≠ []) := by
  obtain ⟨loc, c, hloc, hat⟩ := FileTree.isFile_iff.1 hfile
  obtain ⟨-, rfl, hfronts⟩ := (FileTree.locate_join_below hroot hproper).1 hloc
  by_cases hnil : tail = []
  · subst hnil
    rw [List.append_nil] at hloc hat
    have hmem : n ∈ w.files.namesIn (root ++ names) := by
      rw [FileTree.mem_namesIn, List.append_assoc, hat]
      rfl
    refine ⟨mem_children.2 ⟨n, hmem, rfl, htakes⟩, iff_of_false (fun hdir => ?_) (by simp)⟩
    obtain ⟨loc', hloc', hat'⟩ := FileTree.isDir_iff.1 hdir
    rw [hloc, Except.ok.injEq] at hloc'
    rw [← hloc', hat] at hat'
    exact absurd hat' (by simp)
  · have hmem : n ∈ w.files.namesIn (root ++ names) := by
      rw [FileTree.mem_namesIn, List.append_assoc, hfronts (names ++ [n]) tail rfl hnil]
      rfl
    exact ⟨mem_children.2 ⟨n, hmem, rfl, htakes⟩,
      iff_of_true (FileTree.isDir_front hroot hproper hnil hloc) hnil⟩

/-- A file that is there at the start, with nothing on the way to it passed over, is visited. -/
theorem Walked.complete {places looked visited : List (List String)} {w w' : World}
    {calls : List (Call World)}
    (h : Walked s data source target places w looked visited calls w') (hw : w.files.WellFormed)
    {root : Location} (hroot : w.files.locate (source.join ⟨""⟩) = .ok root) {place : List String}
    (hplace : place ∈ places) {tail : List String} (hne : tail ≠ [])
    (hproper : ∀ n ∈ place ++ tail, Proper n)
    (hfile : w.files.isFile (source.join (Path.below (place ++ tail))))
    (htakes : ∀ front, front <+: tail → front ≠ [] → s.Takes source (place ++ front)) :
    place ++ tail ∈ visited := by
  induction h generalizing place tail with
  | nil => simp at hplace
  | @cons names rest w w₁ w₂ w₃ dir copies _ _ _ _ calls calls' hdir hat hfiles hdirs hrest
      ih₁ ih₂ =>
    have hlater₁ := hfiles.extends
    have hlater₂ := hdirs.extends
    have hw₁ := hlater₁.wellFormed hw
    rcases List.mem_cons.1 hplace with rfl | hplace
    · obtain ⟨n, rest', rfl⟩ := List.exists_cons_of_ne_nil hne
      have hnames : ∀ m ∈ place, Proper m := fun m hm => hproper m (List.mem_append_left _ hm)
      obtain ⟨-, rfl, -⟩ := (FileTree.locate_join_below hroot hnames).1 hdir
      rw [List.append_cons] at hproper hfile ⊢
      obtain ⟨hchild, hisDir⟩ := child_toward hroot hproper hfile (htakes [n] (by simp) (by simp))
      -- the file is among those of this directory, or the walk goes into the subdirectory later
      by_cases hnil : rest' = []
      · refine List.mem_append_left _ (List.mem_filter.2 ⟨?_, ?_⟩)
        · rwa [hnil, List.append_nil]
        · rw [hnil, List.append_nil, Bool.eq_false_iff.2 fun h => hisDir.1 h hnil]
          rfl
      · refine List.mem_append_right _ (List.mem_append_left _ ?_)
        refine ih₁ hw₁ (hlater₁.locate hroot) (List.mem_filter.2 ⟨hchild, hisDir.2 hnil⟩) hnil
          hproper (hlater₁.isFile hfile) fun front hfront hne' => ?_
        rw [← List.append_cons]
        exact htakes (n :: front) (List.cons_prefix_cons.2 ⟨rfl, hfront⟩) (by simp)
    · refine List.mem_append_right _ (List.mem_append_right _ ?_)
      exact ih₂ (hlater₂.wellFormed hw₁) (hlater₂.locate (hlater₁.locate hroot)) hplace hne hproper
        (hlater₂.isFile (hlater₁.isFile hfile)) htakes

end

/-! ## 3. What a copy of a directory does -/

/-- The loop of a copy, with its calls noted. -/
def notedCopy (s : Scaffold) (data : Store) (source target : Path) :
    Step (World × List (Call World)) Fault CopyReport :=
  s.copyPending (s.access data).noting source target .empty [⟨""⟩]

/-- The walk over a directory, with its calls noted. -/
def notedWalk (s : Scaffold) (data : Store) (source target : Path) :
    Step (World × List (Call World)) Fault CopyReport :=
  s.walk (s.access data).noting source target .empty [⟨""⟩]

section

variable (s : Scaffold) (data : Store) (source target : Path) (w : World)

theorem copyDir_eq_notedCopy : s.copyDir data source target w =
    ((s.notedCopy data source target (w, [])).1, (s.notedCopy data source target (w, [])).2.1) :=
  erases_copyPending s (s.access data).noting_notes source target .empty [⟨""⟩] w []

theorem notedCopy_eq_notedWalk (hw : w.files.WellFormed) :
    s.notedCopy data source target (w, []) = s.notedWalk data source target (w, []) :=
  copyPending_eq_walk (steady_access s data).noting s source target hw .empty [⟨""⟩]

/-- A directory without subdirectories is copied in one go. -/
theorem notedCopy_of_level {w : World} {entries : List Path} {report : CopyReport}
    {st st' : World × List (Call World)}
    (hlist : (s.access data).noting.list (source.join ⟨""⟩) (w, []) = (.ok entries, st))
    (hentries : s.copyEntries (s.access data).noting target ⟨""⟩ .empty [] entries st =
      (.ok (report, []), st')) :
    s.notedCopy data source target (w, []) = (.ok report, st') := by
  have hlevel : s.copyLevel (s.access data).noting source target ⟨""⟩ .empty (w, []) = _ :=
    Step.bind_of_ok hlist
  rw [notedCopy, copyPending_cons, Step.bind_of_ok (hlevel.trans hentries)]
  dsimp only
  rw [List.append_nil, copyPending_nil, Step.pure_apply]

end

/-- A path aims at a place below the one that `dir` aims at. -/
def LiesUnder (t : FileTree) (p dir : Path) : Prop :=
  ∃ names, names ≠ [] ∧ t.aim p = t.aim dir ++ names

theorem LiesUnder.prefix {t : FileTree} {p dir : Path} (h : LiesUnder t p dir) :
    t.aim dir <+: t.aim p := by
  obtain ⟨names, -, haim⟩ := h
  exact ⟨names, haim.symm⟩

/-- A file below the source that neither itself nor with a directory on the way to it is passed
over. -/
structure Wanted (s : Scaffold) (source : Path) (t : FileTree) (names : List String) : Prop where
  proper : ∀ n ∈ names, Proper n
  file : t.isFile (source.join (Path.below names))
  taken : ∀ front, front <+: names → front ≠ [] → s.Takes source front

/-- What a copy of a directory that ends well has done. -/
structure Covers (s : Scaffold) (data : Store) (source target : Path) (w w' : World)
    (report : CopyReport) (calls : List (Call World)) : Prop where
  /-- Every directory is looked into once. -/
  listed_once : (listings calls).Nodup
  listed_dirs : ∀ dir ∈ listings calls, w'.files.isDir dir
  listed_few : (listings calls).length ≤ w'.files.entries.length + 1
  /-- Every file is attempted once, and every wanted one is attempted. -/
  attempted_once : ((attempts calls).map (·.source)).Nodup
  attempted : ∀ names, s.Wanted source w.files names →
    ∃ c ∈ attempts calls, c.source = source.join (Path.below names)
  /-- An attempt is made at the rendered path of its file, and it stands in the report. -/
  rendered : ∀ c ∈ attempts calls, ∃ names rendered,
    c.source = source.join (Path.below names) ∧ (∀ n ∈ names, Proper n) ∧
      (∀ front, front <+: names → front ≠ [] → s.Takes source front) ∧
      Render.path (s.context data c.before) (Path.below names) = .ok rendered ∧
      c.target = target.join rendered
  ended : ∀ c ∈ attempts calls, c.Ended .created ∨ c.Ended .skipped
  created : report.created =
    ((attempts calls).filter fun c => decide (c.Ended .created)).map (·.target)
  skipped : report.skipped =
    ((attempts calls).filter fun c => decide (c.Ended .skipped)).map (·.target)
  /-- Only the targets of wanted files that were created are written. -/
  written : Extends (fun loc => ∃ c ∈ attempts calls, c.Ended .created ∧ loc = w.files.aim c.target ∧
    ∃ names, s.Wanted source w.files names ∧ c.source = source.join (Path.below names))
    w.files w'.files

section

variable {s : Scaffold} {data : Store} {source target : Path}

theorem exists_fits {copies : List (Attempt World)} {places : List (List String)}
    (h : List.Forall₂ (Attempt.Fits s data source target) copies places) :
    ∀ c ∈ copies, ∃ names ∈ places, c.Fits s data source target names := by
  induction h with
  | nil => simp
  | cons hfits _ ih =>
    intro c hc
    rcases List.mem_cons.1 hc with rfl | hc
    · exact ⟨_, List.mem_cons_self, hfits⟩
    · obtain ⟨names, hnames, hc⟩ := ih c hc
      exact ⟨names, List.mem_cons_of_mem _ hnames, hc⟩

theorem sources_eq {copies : List (Attempt World)} {places : List (List String)}
    (h : List.Forall₂ (Attempt.Fits s data source target) copies places) :
    copies.map (·.source) = places.map fun names => source.join (Path.below names) := by
  induction h with
  | nil => rfl
  | cons hfits _ ih => rw [List.map_cons, List.map_cons, ih, hfits.source_eq]

/-- Every attempt that ended stands in the report, in one of its lists. -/
theorem foldl_record (copies : List (Attempt World)) (report : CopyReport) :
    (copies.foldl Attempt.record report).created = report.created ++
        (copies.filter fun c => decide (c.Ended .created)).map (·.target) ∧
      (copies.foldl Attempt.record report).skipped = report.skipped ++
        (copies.filter fun c => decide (c.Ended .skipped)).map (·.target) := by
  induction copies generalizing report with
  | nil => simp
  | cons c rest ih =>
    rw [List.foldl_cons, (ih _).1, (ih _).2]
    unfold Attempt.record
    rcases hc : c.outcome with e | outcome
    · simp [Attempt.Ended, hc]
    · cases outcome with
      | created => simp [Attempt.Ended, hc, CopyReport.record]
      | skipped => simp [Attempt.Ended, hc, CopyReport.record]

/-- A file that was created was there at the start: nothing below the source is written. -/
theorem Walked.wanted {looked visited : List (List String)} {w w' : World}
    {calls : List (Call World)}
    (h : Walked s data source target [[]] w looked visited calls w') (hw : w.files.WellFormed)
    {root : Location} (hroot : w.files.locate (source.join ⟨""⟩) = .ok root)
    (hclear : ∀ c ∈ attempts calls, ¬ LiesUnder w.files c.target source)
    {c : Attempt World} (hc : c ∈ attempts calls) (hcreated : c.Ended .created) :
    ∃ names, s.Wanted source w.files names ∧ c.source = source.join (Path.below names) := by
  obtain ⟨names, hnames, hfits⟩ := exists_fits h.fits c hc
  obtain ⟨hproper, place, hplace, tail, hne, rfl, htaken⟩ :=
    h.visited_below hw (by simp) names hnames
  obtain rfl := List.mem_singleton.1 hplace
  rw [List.nil_append] at hproper hfits
  have hfile : c.before.files.isFile (source.join (Path.below tail)) := by
    rcases hfits.ended with hended | hended
    · exact hfits.source_eq ▸ hended.2
    · rw [Attempt.Ended, hcreated] at hended
      exact absurd hended (by simp)
  have hbefore := h.before c hc
  obtain ⟨loc, content, hloc, hat⟩ := FileTree.isFile_iff.1 hfile
  obtain ⟨hadmissible, rfl, -⟩ := (FileTree.locate_join_below (hbefore.locate hroot) hproper).1 hloc
  have haim : root = w.files.aim source := by
    rw [FileTree.eq_aim_of_locate hroot, w.files.aim_join_empty source]
  -- Had the file been written since the start, a target would lie under the source.
  have hstart : w.files.at? (root ++ tail) = some (.file content) := by
    rcases hbefore.unwritten _ content hat with hstart | ⟨c', hc', -, hwritten⟩
    · exact hstart
    · exact absurd ⟨tail, hne, by rw [← hwritten, haim]⟩ (hclear c' hc')
  refine ⟨tail, ⟨hproper, ?_, fun front hfront hne' => htaken front hfront hne'⟩, hfits.source_eq⟩
  refine FileTree.isFile_iff.2 ⟨root ++ tail, content, ?_, hstart⟩
  refine (FileTree.locate_join_below hroot hproper).2
    ⟨hadmissible, rfl, fun front rest hsplit hrest => ?_⟩
  refine hw.dir_above hrest ?_
  rw [List.append_assoc, ← hsplit, hstart]
  rfl

/-- Different places that are directories are no more than there are directories. -/
theorem length_le_of_isDir {t : FileTree} {root : Location}
    (hroot : t.locate (source.join ⟨""⟩) = .ok root) {places : List (List String)}
    (honce : places.Nodup) (hproper : ∀ place ∈ places, ∀ n ∈ place, Proper n)
    (hdirs : ∀ place ∈ places, t.isDir (source.join (Path.below place))) :
    places.length ≤ t.entries.length + 1 := by
  have hnodup : (places.map (root ++ ·)).Nodup :=
    List.Nodup.map (fun _ _ heq => List.append_cancel_left heq) honce
  have hsub : places.map (root ++ ·) ⊆ [] :: t.entries.map (·.1) := by
    intro loc hloc
    obtain ⟨place, hplace, rfl⟩ := List.mem_map.1 hloc
    obtain ⟨loc', hloc', hat⟩ := FileTree.isDir_iff.1 (hdirs place hplace)
    obtain ⟨-, rfl, -⟩ := (FileTree.locate_join_below hroot (hproper place hplace)).1 hloc'
    by_cases hnil : root ++ place = []
    · rw [hnil]
      exact List.mem_cons_self
    · rw [FileTree.at?, if_neg hnil] at hat
      exact List.mem_cons_of_mem _ (List.mem_map.2 ⟨_, FileTree.mem_of_lookup hat, rfl⟩)
  have hlength := List.Nodup.length_le_of_subset hnodup hsub
  simpa using hlength

/-- A walk over the source starts at a directory. -/
theorem Walked.root_dir {looked visited : List (List String)} {w w' : World}
    {calls : List (Call World)}
    (h : Walked s data source target [[]] w looked visited calls w') :
    ∃ root, w.files.locate (source.join ⟨""⟩) = .ok root ∧ w.files.at? root = some .dir := by
  cases h with
  | cons hdir hat _ _ _ => exact ⟨_, hdir, hat⟩

/-- A wanted file lies below the source, and is not the source itself. -/
theorem Wanted.ne_nil {t : FileTree} {names : List String} (h : s.Wanted source t names)
    {root : Location} (hroot : t.locate (source.join ⟨""⟩) = .ok root)
    (hat : t.at? root = some .dir) : names ≠ [] := by
  rintro rfl
  obtain ⟨loc, content, hloc, hfile⟩ := FileTree.isFile_iff.1 h.file
  rw [show Path.below [] = ⟨""⟩ from rfl, hroot, Except.ok.injEq] at hloc
  rw [← hloc, hat] at hfile
  exact absurd hfile (by simp)

/-- A run that visits everything is a copy that covers its source. -/
theorem Walked.covers {looked visited : List (List String)} {w w' : World}
    {calls : List (Call World)}
    (h : Walked s data source target [[]] w looked visited calls w') (hw : w.files.WellFormed)
    (hclear : ∀ c ∈ attempts calls, ¬ LiesUnder w.files c.target source) :
    s.Covers data source target w w' ((attempts calls).foldl Attempt.record .empty) calls := by
  obtain ⟨root, hroot, hatroot⟩ := h.root_dir
  have hsource : source.text ≠ "" := by
    intro hempty
    exact (FileTree.locate_eq_ok.1 hroot).2.1 (by simp [Path.join, Path.isAbsolute, hempty])
  have hlooked := h.looked_below hw (by simp)
  have hvisited := h.visited_below hw (by simp)
  obtain ⟨honce, honce'⟩ := h.nodup hw (by simp) (List.pairwise_singleton _ _)
  have hsources := sources_eq h.fits
  exact {
    listed_once := by
      rw [h.listings_eq]
      refine List.Nodup.map_on (fun v hv v' hv' heq => ?_) honce
      exact Path.join_below_injective hsource (hlooked v hv).1 (hlooked v' hv').1 heq
    listed_dirs := by
      intro dir hdir
      rw [h.listings_eq] at hdir
      obtain ⟨v, hv, rfl⟩ := List.mem_map.1 hdir
      exact (hlooked v hv).2.1
    listed_few := by
      rw [h.listings_eq, List.length_map]
      exact length_le_of_isDir (h.extends.locate hroot) honce (fun v hv => (hlooked v hv).1)
        fun v hv => (hlooked v hv).2.1
    attempted_once := by
      -- places are told apart by their paths, so sources are as different as places
      rw [hsources]
      refine List.Nodup.map_on (fun v hv v' hv' heq => ?_) honce'
      exact Path.join_below_injective hsource (hvisited v hv).1 (hvisited v' hv').1 heq
    attempted := by
      intro names hwanted
      have hmem := h.complete hw hroot (List.mem_singleton.2 rfl) (hwanted.ne_nil hroot hatroot)
        hwanted.proper hwanted.file hwanted.taken
      have hpath : source.join (Path.below names) ∈ (attempts calls).map (·.source) := by
        rw [hsources]
        exact List.mem_map.2 ⟨names, hmem, rfl⟩
      exact List.mem_map.1 hpath
    rendered := by
      intro c hc
      obtain ⟨names, hnames, hfits⟩ := exists_fits h.fits c hc
      obtain ⟨rendered, hrendered, htarget⟩ := hfits.target_eq
      obtain ⟨hproper, place, hplace, tail, -, rfl, htaken⟩ := hvisited names hnames
      obtain rfl := List.mem_singleton.1 hplace
      exact ⟨_, rendered, hfits.source_eq, hproper, htaken, hrendered, htarget⟩
    ended := by
      intro c hc
      obtain ⟨names, -, hfits⟩ := exists_fits h.fits c hc
      exact hfits.ended.imp_left And.left
    created := (foldl_record (attempts calls) .empty).1
    skipped := (foldl_record (attempts calls) .empty).2
    written := by
      refine h.extends.mono fun loc hloc => ?_
      obtain ⟨c, hc, hcreated, rfl⟩ := hloc
      exact ⟨c, hc, hcreated, rfl, h.wanted hw hroot hclear hc hcreated⟩ }

end

/-- The loop of a copy makes the calls of the walk and ends as it does, and a copy that ends well and
does not write into its source has attempted every file it should, once, and written no other. -/
theorem copyDir_walks_and_covers (s : Scaffold) (data : Store) (source target : Path) (w : World)
    (hw : w.files.WellFormed) :
    s.copyDir data source target w = ((s.notedCopy data source target (w, [])).1,
        (s.notedCopy data source target (w, [])).2.1) ∧
      s.notedCopy data source target (w, []) = s.notedWalk data source target (w, []) ∧
      ∀ report w' calls, s.notedCopy data source target (w, []) = (.ok report, w', calls) →
        (∀ c ∈ attempts calls, ¬ LiesUnder w.files c.target source) →
        s.Covers data source target w w' report calls := by
  have hwalk := s.notedCopy_eq_notedWalk data source target w hw
  refine ⟨s.copyDir_eq_notedCopy data source target w, hwalk, ?_⟩
  intro report w' calls hrun hclear
  rw [hwalk] at hrun
  obtain ⟨looked, visited, new, hwalked, hcalls, rfl⟩ :=
    walked_of_walk hrun hw (show [⟨""⟩] = [[]].map Path.below from rfl) (by simp)
  rw [List.nil_append] at hcalls
  obtain rfl : calls = new := hcalls
  exact hwalked.covers hw hclear

/-! ## 4. A directory with a file in it and another one below it -/

namespace Sample

def files : FileTree :=
  ⟨[(["t"], .dir), (["t", "a"], .file ⟨#[97]⟩), (["t", "d"], .dir),
    (["t", "d", "b"], .file ⟨#[98]⟩)], []⟩

def world : World :=
  ⟨files, [], [], [], [], []⟩

def copies : Scaffold :=
  .plain .builtins

theorem files_wellFormed : files.WellFormed := by
  decide +kernel

/-- A list that is noted. -/
theorem list_noted (s : Scaffold) (data : Store) {p : Path} {dir : Location} {names : List String}
    {w : World} (hdir : w.files.locate p = .ok dir) (hat : w.files.isDirAt dir)
    (hnames : w.files.entries.filterMap (FileTree.nameIn dir ·.1) = names)
    (hsorted : names.Pairwise fun a b => decide (a ≤ b)) (calls : List (Call World)) :
    (s.access data).noting.list p (w, calls) =
      (.ok (names.map p.joinText), w, calls ++ [.list w p]) :=
  Access.noting_list (list_of_sorted hdir hat hnames hsorted) calls

/-- What comes of the entries of the directory. -/
def first : Except Fault (CopyReport × List Path) × World × List (Call World) :=
  copies.copyEntries (copies.access ⟨[]⟩).noting ⟨"/out"⟩ ⟨""⟩ .empty [] [⟨"/t/a"⟩, ⟨"/t/d"⟩]
    (world, [.list world ⟨"/t/"⟩])

/-- What comes of the entries of its subdirectory. -/
def second : Except Fault (CopyReport × List Path) × World × List (Call World) :=
  copies.copyEntries (copies.access ⟨[]⟩).noting ⟨"/out"⟩ ⟨"d"⟩ ⟨[⟨"/out/a"⟩], []⟩ [] [⟨"/t/d/b"⟩]
    (first.2.1, first.2.2 ++ [.list first.2.1 ⟨"/t/d"⟩])

theorem run : copies.notedCopy ⟨[]⟩ ⟨"/t"⟩ ⟨"/out"⟩ (world, []) =
    (.ok ⟨[⟨"/out/a"⟩, ⟨"/out/d/b"⟩], []⟩, second.2) := by
  have hfirst : first = (.ok (⟨[⟨"/out/a"⟩], []⟩, [⟨"d"⟩]), first.2) :=
    Step.eq_ok_of_toOption (by decide +kernel)
  have hsecond : second = (.ok (⟨[⟨"/out/a"⟩, ⟨"/out/d/b"⟩], []⟩, []), second.2) :=
    Step.eq_ok_of_toOption (by decide +kernel)
  have hlist : (copies.access ⟨[]⟩).noting.list ⟨"/t/"⟩ (world, []) =
      (.ok [⟨"/t/a"⟩, ⟨"/t/d"⟩], world, [.list world ⟨"/t/"⟩]) :=
    list_noted copies ⟨[]⟩ (show _ = Except.ok ["t"] by decide +kernel) (by decide +kernel)
      (show _ = ["a", "d"] by decide +kernel) (by decide +kernel) []
  have hlist' : (copies.access ⟨[]⟩).noting.list ⟨"/t/d"⟩ first.2 =
      (.ok [⟨"/t/d/b"⟩], first.2.1, first.2.2 ++ [.list first.2.1 ⟨"/t/d"⟩]) :=
    list_noted copies ⟨[]⟩ (show _ = Except.ok ["t", "d"] by decide +kernel) (by decide +kernel)
      (show _ = ["b"] by decide +kernel) (by decide +kernel) first.2.2
  have hlevel : copies.copyLevel (copies.access ⟨[]⟩).noting ⟨"/t"⟩ ⟨"/out"⟩ ⟨""⟩ .empty (world, [])
      = first := Step.bind_of_ok hlist
  have hlevel' : copies.copyLevel (copies.access ⟨[]⟩).noting ⟨"/t"⟩ ⟨"/out"⟩ ⟨"d"⟩
      ⟨[⟨"/out/a"⟩], []⟩ first.2 = second := Step.bind_of_ok hlist'
  rw [notedCopy, copyPending_cons, Step.bind_of_ok (hlevel.trans hfirst)]
  dsimp only
  rw [List.append_nil, copyPending_cons, Step.bind_of_ok (hlevel'.trans hsecond)]
  dsimp only
  rw [List.append_nil, copyPending_nil, Step.pure_apply]

end Sample

/-- The sample's two files are copied to where nothing lies below the source. -/
theorem copyDir_walks_and_covers_sample :
    Sample.files.WellFormed ∧ ∃ report w' calls,
      Sample.copies.notedCopy ⟨[]⟩ ⟨"/t"⟩ ⟨"/out"⟩ (Sample.world, []) = (.ok report, w', calls) ∧
      report.created = [⟨"/out/a"⟩, ⟨"/out/d/b"⟩] ∧
      Sample.copies.Covers ⟨[]⟩ ⟨"/t"⟩ ⟨"/out"⟩ Sample.world w' report calls := by
  refine ⟨Sample.files_wellFormed, _, _, _, Sample.run, rfl, ?_⟩
  obtain ⟨-, -, hcovers⟩ := copyDir_walks_and_covers Sample.copies ⟨[]⟩ ⟨"/t"⟩ ⟨"/out"⟩ Sample.world
    Sample.files_wellFormed
  refine hcovers _ _ _ Sample.run fun c hc => ?_
  rintro ⟨names, -, haim⟩
  have htargets : (attempts Sample.second.2.2).map (fun c => Sample.files.aim c.target) =
      [["out", "a"], ["out", "d", "b"]] := by decide +kernel
  have hmem : Sample.files.aim c.target ∈ [["out", "a"], ["out", "d", "b"]] := by
    rw [← htargets]
    exact List.mem_map.2 ⟨c, hc, rfl⟩
  have hsource : Sample.files.aim ⟨"/t"⟩ = ["t"] := by decide +kernel
  rw [show Sample.world.files = Sample.files from rfl, hsource] at haim
  rw [haim] at hmem
  simp at hmem

end Stencil.Scaffold
