import Mathlib.Data.List.Forall2
import Stencil.Proofs.Scaffold.Calls

/-!
# What a walk visits

`Walked` is the run of a walk that ends well, as a derivation: which directories it looked into, which
files it visited and the calls it made, all by the names on the way from the copied directory. A
derivation follows the tree, and so do the inductions over it:

* what was visited lies below one of the directories the walk was given, with nothing on the way
  passed over (`Walked.visited_below`);
* nothing is looked into or visited twice, when the given directories lie apart (`Walked.nodup`): two
  subdirectories have different names, and a file and what lies in a subdirectory differ in length;
* every file that was there at the start and can be reached is visited (`Walked.complete`). The tree
  changes under the walk, but only by extension: the file is there still when the walk comes to its
  directory.
-/

set_option autoImplicit false

namespace Stencil.Scaffold

open FileTree (Proper Extends)
open Stencil.Path (below)

/-! ## 1. Calls by kind -/

section

variable {σ : Type}

/-- The files that were to be copied, in order. -/
def attempts : List (Call σ) → List (Attempt σ)
  | [] => []
  | .list _ _ :: rest => attempts rest
  | .copy attempt :: rest => attempt :: attempts rest

/-- The directories that were listed, in order. -/
def listings : List (Call σ) → List Path
  | [] => []
  | .list _ dir :: rest => dir :: listings rest
  | .copy _ :: rest => listings rest

theorem attempts_append (calls calls' : List (Call σ)) :
    attempts (calls ++ calls') = attempts calls ++ attempts calls' := by
  induction calls with
  | nil => rfl
  | cons call rest ih =>
    cases call with
    | list _ _ => exact ih
    | copy attempt => rw [List.cons_append, attempts, attempts, ih, List.cons_append]

theorem listings_append (calls calls' : List (Call σ)) :
    listings (calls ++ calls') = listings calls ++ listings calls' := by
  induction calls with
  | nil => rfl
  | cons call rest ih =>
    cases call with
    | list _ dir => rw [List.cons_append, listings, listings, ih, List.cons_append]
    | copy _ => exact ih

theorem attempts_map_copy (copies : List (Attempt σ)) : attempts (copies.map .copy) = copies := by
  induction copies with
  | nil => rfl
  | cons c rest ih => rw [List.map_cons, attempts, ih]

/-- The attempts of a directory, of its subdirectories and of the directories behind it. -/
theorem attempts_visit (w : σ) (dir : Path) (copies : List (Attempt σ)) (calls calls' : List (Call σ)) :
    attempts (.list w dir :: (copies.map .copy ++ (calls ++ calls'))) =
      copies ++ (attempts calls ++ attempts calls') := by
  rw [attempts, attempts_append, attempts_map_copy, attempts_append]

theorem listings_map_copy (copies : List (Attempt σ)) : listings (copies.map .copy) = [] := by
  induction copies with
  | nil => rfl
  | cons c rest ih => exact ih

/-- The attempt came to this end. -/
def Attempt.Ended (c : Attempt σ) (outcome : CopyOutcome) : Prop :=
  c.outcome = .ok outcome

instance (c : Attempt σ) (outcome : CopyOutcome) : Decidable (c.Ended outcome) :=
  match h : c.outcome with
  | .ok o => decidable_of_iff (o = outcome) (by rw [Attempt.Ended, h, Except.ok.injEq])
  | .error _ => isFalse (by rw [Attempt.Ended, h]; exact fun he => nomatch he)

/-- A report with one more attempt. -/
def Attempt.record (report : CopyReport) (c : Attempt σ) : CopyReport :=
  match c.outcome with
  | .ok outcome => report.record outcome c.target
  | .error _ => report

end

/-! ## 2. Runs -/

section

variable (s : Scaffold) (data : Store) (source target : Path)

/-- A place below the source is not passed over. -/
def Takes (names : List String) : Prop :=
  s.skips (source.join (below names)) (below names) = false

instance (names : List String) : Decidable (s.Takes source names) := by
  unfold Takes
  infer_instance

/-- The places in a directory that are not passed over. -/
def children (t : FileTree) (dir : Location) (names : List String) : List (List String) :=
  ((t.namesIn dir).map fun n => names ++ [n]).filter fun place => decide (s.Takes source place)

/-- A directory is at the place. -/
def isDirBelow (w : World) (names : List String) : Bool :=
  w.files.isDir (source.join (below names))

/-- Files at some places, copied one after the other. -/
inductive Copied : List (List String) → World → List (Attempt World) → World → Prop
  | nil {w : World} : Copied [] w [] w
  | cons {names : List String} {rest : List (List String)} {w w₁ w₂ : World} {rendered : Path}
      {outcome : CopyOutcome} {copies : List (Attempt World)}
      (hrender : Render.path (s.context data w) (below names) = .ok rendered)
      (hcopy : s.copyFile data (source.join (below names)) (target.join rendered) w
        = (.ok outcome, w₁))
      (hrest : Copied rest w₁ copies w₂) :
      Copied (names :: rest) w
        (⟨w, source.join (below names), target.join rendered, .ok outcome⟩ :: copies) w₂

/-- A walk over the directories at some places: the directories looked into, the files visited, and
the calls. -/
inductive Walked : List (List String) → World → List (List String) → List (List String) →
    List (Call World) → World → Prop
  | nil {w : World} : Walked [] w [] [] [] w
  | cons {names : List String} {rest : List (List String)} {w w₁ w₂ w₃ : World}
      {dir : Location} {copies : List (Attempt World)}
      {looked looked' visited visited' : List (List String)} {calls calls' : List (Call World)}
      (hdir : w.files.locate (source.join (below names)) = .ok dir)
      (hat : w.files.at? dir = some .dir)
      (hfiles : Copied s data source target
        ((s.children source w.files dir names).filter fun place => !isDirBelow source w place)
        w copies w₁)
      (hdirs : Walked ((s.children source w.files dir names).filter (isDirBelow source w))
        w₁ looked visited calls w₂)
      (hrest : Walked rest w₂ looked' visited' calls' w₃) :
      Walked (names :: rest) w (names :: (looked ++ looked'))
        ((s.children source w.files dir names).filter (fun place => !isDirBelow source w place)
          ++ (visited ++ visited'))
        (.list w (source.join (below names)) :: (copies.map .copy ++ (calls ++ calls'))) w₃

end

section

variable {s : Scaffold} {data : Store} {source target : Path}

theorem mem_children {t : FileTree} {dir : Location} {names place : List String} :
    place ∈ s.children source t dir names ↔
      ∃ n ∈ t.namesIn dir, place = names ++ [n] ∧ s.Takes source place := by
  simp only [children, List.mem_filter, List.mem_map, decide_eq_true_eq]
  constructor
  · rintro ⟨⟨n, hn, rfl⟩, htakes⟩
    exact ⟨n, hn, rfl, htakes⟩
  · rintro ⟨n, hn, rfl, htakes⟩
    exact ⟨⟨n, hn, rfl⟩, htakes⟩

theorem proper_of_mem_children {t : FileTree} (ht : t.WellFormed) {dir : Location}
    {names place : List String} (hnames : ∀ n ∈ names, Proper n)
    (h : place ∈ s.children source t dir names) : ∀ n ∈ place, Proper n := by
  obtain ⟨n, hn, rfl, -⟩ := mem_children.1 h
  intro m hm
  rcases List.mem_append.1 hm with hm | hm
  · exact hnames m hm
  · rw [List.mem_singleton.1 hm]
    exact ht.proper_of_mem_namesIn hn

/-- The entries of a directory that are kept are its children. -/
theorem kept_list {t : FileTree} (ht : t.WellFormed) {dir : Location}
    {names : List String} (hnames : ∀ n ∈ names, Proper n)
    (hdir : t.locate (source.join (below names)) = .ok dir) :
    s.kept (below names) ((t.namesIn dir).map (source.join (below names)).joinText) =
      (s.children source t dir names).map fun place => (source.join (below place), below place) := by
  have hne : (source.join (below names)).text ≠ "" := (FileTree.locate_eq_ok.1 hdir).2.1
  have hlist : ∀ ns : List String, (∀ n ∈ ns, Proper n) →
      s.kept (below names) (ns.map (source.join (below names)).joinText) =
        ((ns.map fun n => names ++ [n]).filter fun place => decide (s.Takes source place)).map
          fun place => (source.join (below place), below place) := by
    intro ns hns
    induction ns with
    | nil => rfl
    | cons n ns ih =>
      have hn : Proper n := hns n List.mem_cons_self
      have hname : ((source.join (below names)).joinText n).fileName? = some n :=
        Path.fileName?_joinText hn.not_idle hn.ne_up hn.no_slash
      have hpath := Path.join_below_concat source hnames hn
      rw [List.map_cons, List.map_cons]
      by_cases htakes : s.Takes source (names ++ [n])
      · rw [List.filter_cons_of_pos (by simpa using htakes), List.map_cons,
          s.kept_keep _ hname (by rw [← Path.below_concat, ← hpath]; exact htakes),
          ih fun m hm => hns m (List.mem_cons_of_mem n hm), hpath, Path.below_concat]
      · rw [List.filter_cons_of_neg (by simpa using htakes), s.kept_pass,
          ih fun m hm => hns m (List.mem_cons_of_mem n hm)]
        intro name hname'
        rw [hname, Option.some.injEq] at hname'
        rw [← hname', ← Path.below_concat, ← hpath]
        exact Bool.of_not_eq_false htakes
  exact hlist _ fun n hn => ht.proper_of_mem_namesIn hn

/-! ## 3. From walks to runs -/

theorem copied_of_copyFiles {places : List (List String)} {report report' : CopyReport}
    {w : World} {calls : List (Call World)} {st' : World × List (Call World)}
    (h : copyFiles (s.access data).noting target report
      (places.map fun place => (source.join (below place), below place)) (w, calls)
        = (.ok report', st')) :
    ∃ copies, Copied s data source target places w copies st'.1 ∧
      st'.2 = calls ++ copies.map .copy ∧ report' = copies.foldl Attempt.record report := by
  induction places generalizing report w calls with
  | nil =>
    rw [List.map_nil, copyFiles, Step.pure_apply, Prod.mk.injEq, Except.ok.injEq] at h
    obtain ⟨rfl, rfl⟩ := h
    exact ⟨[], .nil, (List.append_nil _).symm, rfl⟩
  | cons names rest ih =>
    rw [List.map_cons, copyFiles] at h
    obtain ⟨rendered, s₁, hrender, h⟩ := Step.bind_eq_ok h
    obtain ⟨outcome, s₂, hcopy, h⟩ := Step.bind_eq_ok h
    have hs₁ : s₁ = (w, calls) := (Prod.mk.inj hrender).2.symm
    rcases hw₁ : s.copyFile data (source.join (below names)) (target.join rendered) w with ⟨r, w₁⟩
    have hnoted := Access.noting_copy (show (s.access data).copy _ _ w = _ from hw₁) calls
    rw [hs₁, hnoted, Prod.mk.injEq] at hcopy
    obtain ⟨rfl, rfl⟩ := hcopy
    obtain ⟨copies, hcopies, hcalls, hreport⟩ := ih h
    refine ⟨_ :: copies, .cons (Prod.mk.inj hrender).1 hw₁ hcopies, ?_, hreport⟩
    rw [hcalls, List.append_assoc]
    rfl

/-! ## 4. What a run writes -/

/-- A file was created at the location. -/
def WrittenBy (t : FileTree) (copies : List (Attempt World)) (loc : Location) : Prop :=
  ∃ c ∈ copies, c.Ended .created ∧ loc = t.aim c.target

theorem WrittenBy.mono {t : FileTree} {copies copies' : List (Attempt World)}
    (hsub : copies ⊆ copies') {loc : Location} (h : WrittenBy t copies loc) :
    WrittenBy t copies' loc := by
  obtain ⟨c, hc, hended, hloc⟩ := h
  exact ⟨c, hsub hc, hended, hloc⟩

/-- Where a path aims is no matter of what was written. -/
theorem WrittenBy.before {written : Location → Prop} {t t' : FileTree} (h : Extends written t t')
    {copies : List (Attempt World)} {loc : Location} (hloc : WrittenBy t' copies loc) :
    WrittenBy t copies loc := by
  obtain ⟨c, hc, hended, rfl⟩ := hloc
  exact ⟨c, hc, hended, h.aim_eq c.target⟩

/-- What one run wrote and then another one. -/
theorem extends_append {t t₁ t₂ : FileTree} {copies copies' : List (Attempt World)}
    (h : Extends (WrittenBy t copies) t t₁) (h' : Extends (WrittenBy t₁ copies') t₁ t₂) :
    Extends (WrittenBy t (copies ++ copies')) t t₂ := by
  have hfirst : Extends (WrittenBy t (copies ++ copies')) t t₁ :=
    h.mono fun loc hloc => hloc.mono (List.subset_append_left copies copies')
  refine hfirst.trans (h'.mono fun loc hloc => ?_)
  exact (hloc.before h).mono (List.subset_append_right copies copies')

theorem extends_append_left {t t₁ : FileTree} {copies : List (Attempt World)}
    (copies' : List (Attempt World)) (h : Extends (WrittenBy t copies) t t₁) :
    Extends (WrittenBy t (copies ++ copies')) t t₁ :=
  extends_append h (.refl _ t₁)

theorem Copied.extends {places : List (List String)} {w w' : World} {copies : List (Attempt World)}
    (h : Copied s data source target places w copies w') :
    Extends (WrittenBy w.files copies) w.files w'.files := by
  induction h with
  | nil => exact .refl _ _
  | @cons names rest w w₁ w₂ rendered outcome copies hrender hcopy hrest ih =>
    have hfirst : Extends (WrittenBy w.files
        [⟨w, source.join (Path.below names), target.join rendered, .ok outcome⟩])
        w.files w₁.files := by
      cases outcome with
      | created =>
        refine (s.extends_copyFile data _ _ hcopy).mono fun loc hloc => ?_
        exact ⟨_, List.mem_cons_self, rfl, hloc⟩
      | skipped =>
        rw [s.files_of_skipped data _ _ hcopy]
        exact .refl _ _
    exact extends_append hfirst ih

theorem Walked.extends {places looked visited : List (List String)} {w w' : World}
    {calls : List (Call World)}
    (h : Walked s data source target places w looked visited calls w') :
    Extends (WrittenBy w.files (attempts calls)) w.files w'.files := by
  induction h with
  | nil => exact .refl _ _
  | cons hdir hat hfiles hdirs hrest ih₁ ih₂ =>
    rw [attempts_visit]
    exact extends_append hfiles.extends (extends_append ih₁ ih₂)

/-- The files of a directory are copied first; its subdirectories are left for the walk. -/
theorem copied_of_walkFiles {names : List String} {report report' : CopyReport}
    {subdirs : List Path} {w : World} {calls : List (Call World)} {st' : World × List (Call World)}
    (h : s.walkFiles (s.access data).noting source target (below names) report (w, calls)
      = (.ok (report', subdirs), st'))
    (hw : w.files.WellFormed) (hnames : ∀ n ∈ names, Proper n) :
    ∃ dir copies, w.files.locate (source.join (below names)) = .ok dir ∧
      w.files.at? dir = some .dir ∧
      Copied s data source target
        ((s.children source w.files dir names).filter fun place => !isDirBelow source w place)
        w copies st'.1 ∧
      subdirs = ((s.children source w.files dir names).filter (isDirBelow source w)).map below ∧
      st'.2 = calls ++ .list w (source.join (below names)) :: copies.map .copy ∧
      report' = copies.foldl Attempt.record report := by
  obtain ⟨entries, st, hlist, h⟩ := Step.bind_eq_ok h
  rcases hl : World.list (source.join (below names)) w with ⟨r, w₁⟩
  rw [Access.noting_list (show (s.access data).list _ w = _ from hl), Prod.mk.injEq] at hlist
  obtain ⟨rfl, rfl⟩ := hlist
  obtain ⟨rfl, dir, hdir, hat, rfl⟩ := list_eq_ok.1 hl
  rw [Step.bind_of_ok (show Step.asks _ _ = (Except.ok _, _) from rfl),
    kept_list hw hnames hdir, List.filter_map, List.filter_map] at h
  obtain ⟨r, st, hcopies, h⟩ := Step.bind_eq_ok h
  rw [Step.pure_apply, Prod.mk.injEq, Except.ok.injEq, Prod.mk.injEq] at h
  obtain ⟨⟨rfl, rfl⟩, rfl⟩ := h
  obtain ⟨copies, hcopied, hcalls, hreport⟩ := copied_of_copyFiles hcopies
  refine ⟨dir, copies, hdir, hat, hcopied, ?_, ?_, hreport⟩
  · rw [List.map_map]
    rfl
  · rw [hcalls, List.append_assoc]
    rfl

/-- A walk that ends well is a run. -/
theorem walked_of_walk {report report' : CopyReport} {rels : List Path} {w : World}
    {calls : List (Call World)} {st' : World × List (Call World)}
    (h : s.walk (s.access data).noting source target report rels (w, calls) = (.ok report', st'))
    (hw : w.files.WellFormed) {places : List (List String)} (hrels : rels = places.map below)
    (hproper : ∀ place ∈ places, ∀ n ∈ place, Proper n) :
    ∃ looked visited new, Walked s data source target places w looked visited new st'.1 ∧
      st'.2 = calls ++ new ∧ report' = (attempts new).foldl Attempt.record report := by
  induction report, rels using walk.induct s (s.access data).noting source target
    generalizing w calls report' st' places with
  | case1 report =>
    rw [walk_nil, Step.pure_apply, Prod.mk.injEq, Except.ok.injEq] at h
    obtain ⟨rfl, rfl⟩ := h
    rw [List.map_eq_nil_iff.1 hrels.symm]
    exact ⟨[], [], [], .nil, (List.append_nil _).symm, rfl⟩
  | case2 report rel rest ih₁ ih₂ =>
    obtain ⟨names, places, rfl, rfl, rfl⟩ := List.map_eq_cons_iff.1 hrels.symm
    have hnames : ∀ n ∈ names, Proper n := hproper names List.mem_cons_self
    rw [walk_cons] at h
    obtain ⟨⟨report₁, subdirs⟩, ⟨w₁, calls₁⟩, hfiles, h⟩ := Step.bind_eq_ok h
    obtain ⟨report₂, ⟨w₂, calls₂⟩, hdirs, hrest⟩ := Step.bind_eq_ok h
    obtain ⟨dir, copies, hdir, hat, hcopied, hsubdirs, hcalls₁, hreport₁⟩ :=
      copied_of_walkFiles hfiles hw hnames
    -- The subdirectories are walked through in the tree that the copies left.
    have hw₁ := hcopied.extends.wellFormed hw
    obtain ⟨looked, visited, new, hwalked, hcalls₂, hreport₂⟩ :=
      ih₁ _ _ _ _ hfiles hdirs hw₁ hsubdirs fun place hplace =>
        proper_of_mem_children hw hnames (List.mem_filter.1 hplace).1
    have hw₂ := hwalked.extends.wellFormed hw₁
    obtain ⟨looked', visited', new', hwalked', hcalls', hreport'⟩ :=
      ih₂ _ hrest hw₂ rfl fun place hplace => hproper place (List.mem_cons_of_mem _ hplace)
    refine ⟨_, _, _, .cons hdir hat hcopied hwalked hwalked', ?_, ?_⟩
    · rw [hcalls', show calls₂ = _ from hcalls₂, show calls₁ = _ from hcalls₁]
      simp only [List.append_assoc, List.cons_append]
    · rw [hreport', hreport₂, hreport₁, attempts_visit, List.foldl_append, List.foldl_append]

/-! ## 5. Each attempt -/

/-- The attempt is the one for a place below the source. -/
structure Attempt.Fits (s : Scaffold) (data : Store) (source target : Path) (c : Attempt World)
    (names : List String) : Prop where
  source_eq : c.source = source.join (below names)
  target_eq : ∃ rendered, Render.path (s.context data c.before) (below names) = .ok rendered ∧
    c.target = target.join rendered
  ended : (c.Ended .created ∧ c.before.files.isFile c.source) ∨ c.Ended .skipped

theorem Copied.fits {places : List (List String)} {w w' : World} {copies : List (Attempt World)}
    (h : Copied s data source target places w copies w') :
    List.Forall₂ (Attempt.Fits s data source target) copies places := by
  induction h with
  | nil => exact .nil
  | @cons names rest w w₁ w₂ rendered outcome copies hrender hcopy hrest ih =>
    refine .cons ⟨rfl, ⟨rendered, hrender, rfl⟩, ?_⟩ ih
    cases outcome with
    | created => exact Or.inl ⟨rfl, s.isFile_of_created data _ _ hcopy⟩
    | skipped => exact Or.inr rfl

theorem Walked.fits {places looked visited : List (List String)} {w w' : World}
    {calls : List (Call World)}
    (h : Walked s data source target places w looked visited calls w') :
    List.Forall₂ (Attempt.Fits s data source target) (attempts calls) visited := by
  induction h with
  | nil => exact .nil
  | cons hdir hat hfiles hdirs hrest ih₁ ih₂ =>
    rw [attempts_visit]
    exact List.rel_append hfiles.fits (List.rel_append ih₁ ih₂)

theorem Walked.listings_eq {places looked visited : List (List String)} {w w' : World}
    {calls : List (Call World)}
    (h : Walked s data source target places w looked visited calls w') :
    listings calls = looked.map fun names => source.join (Path.below names) := by
  induction h with
  | nil => rfl
  | cons hdir hat hfiles hdirs hrest ih₁ ih₂ =>
    rw [listings, listings_append, listings_map_copy, listings_append, ih₁, ih₂, List.map_cons,
      List.map_append, List.nil_append]

theorem Copied.before {places : List (List String)} {w w' : World} {copies : List (Attempt World)}
    (h : Copied s data source target places w copies w') :
    ∀ c ∈ copies, Extends (WrittenBy w.files copies) w.files c.before.files := by
  induction h with
  | nil => simp
  | cons hrender hcopy hrest ih =>
    intro c hc
    rcases List.mem_cons.1 hc with rfl | hc
    · exact .refl _ _
    · exact extends_append (Copied.cons hrender hcopy .nil).extends (ih c hc)

/-- The tree that an attempt found is the one at the start, after what was written so far. -/
theorem Walked.before {places looked visited : List (List String)} {w w' : World}
    {calls : List (Call World)}
    (h : Walked s data source target places w looked visited calls w') :
    ∀ c ∈ attempts calls, Extends (WrittenBy w.files (attempts calls)) w.files c.before.files := by
  induction h with
  | nil => simp [attempts]
  | @cons _ _ _ _ _ _ _ copies _ _ _ _ calls calls' hdir hat hfiles hdirs hrest ih₁ ih₂ =>
    rw [attempts_visit]
    intro c hc
    rcases List.mem_append.1 hc with hc | hc
    · exact extends_append_left _ (hfiles.before c hc)
    · rcases List.mem_append.1 hc with hc | hc
      · exact extends_append hfiles.extends (extends_append_left _ (ih₁ c hc))
      · exact extends_append hfiles.extends (extends_append hdirs.extends (ih₂ c hc))

/-! ## 6. Where a run goes -/

/-- A walk visits places below the ones it was given, with nothing on the way passed over. -/
theorem Walked.visited_below {places looked visited : List (List String)} {w w' : World}
    {calls : List (Call World)}
    (h : Walked s data source target places w looked visited calls w') (hw : w.files.WellFormed)
    (hproper : ∀ place ∈ places, ∀ n ∈ place, Proper n) :
    ∀ v ∈ visited, (∀ n ∈ v, Proper n) ∧ ∃ place ∈ places, ∃ tail, tail ≠ [] ∧ v = place ++ tail ∧
      ∀ front, front <+: tail → front ≠ [] → s.Takes source (place ++ front) := by
  induction h with
  | nil => simp
  | @cons names rest w w₁ w₂ w₃ dir copies _ _ _ _ calls calls' hdir hat hfiles hdirs hrest
      ih₁ ih₂ =>
    have hnames := hproper names List.mem_cons_self
    have hw₁ := hfiles.extends.wellFormed hw
    have hchild : ∀ place ∈ s.children source w.files dir names, ∃ n, place = names ++ [n] ∧
        (∀ m ∈ place, Proper m) ∧ s.Takes source place := by
      intro place hplace
      obtain ⟨n, -, heq, htakes⟩ := mem_children.1 hplace
      exact ⟨n, heq, proper_of_mem_children hw hnames hplace, htakes⟩
    intro v hv
    rcases List.mem_append.1 hv with hv | hv
    · obtain ⟨n, rfl, hp, htakes⟩ := hchild v (List.mem_filter.1 hv).1
      refine ⟨hp, names, List.mem_cons_self, [n], by simp, rfl, fun front hfront hne => ?_⟩
      rcases List.prefix_concat_iff.1 (show front <+: [] ++ [n] from hfront) with rfl | hfront
      · exact htakes
      · exact absurd (List.prefix_nil.1 hfront) hne
    · rcases List.mem_append.1 hv with hv | hv
      · obtain ⟨hp, place, hplace, tail, -, rfl, htakes⟩ := ih₁ hw₁
          (fun place hplace => (hchild place (List.mem_filter.1 hplace).1).choose_spec.2.1) v hv
        obtain ⟨n, rfl, -, htakes₁⟩ := hchild place (List.mem_filter.1 hplace).1
        refine ⟨hp, names, List.mem_cons_self, n :: tail, by simp, by simp,
          fun front hfront hne => ?_⟩
        cases front with
        | nil => exact absurd rfl hne
        | cons m front =>
          rw [List.cons_prefix_cons] at hfront
          obtain ⟨rfl, hfront⟩ := hfront
          rw [List.append_cons]
          by_cases hnil : front = []
          · rw [hnil, List.append_nil]
            exact htakes₁
          · exact htakes front hfront hnil
      · obtain ⟨hp, place, hplace, hv⟩ := ih₂ (hdirs.extends.wellFormed hw₁)
          (fun place hplace => hproper place (List.mem_cons_of_mem _ hplace)) v hv
        exact ⟨hp, place, List.mem_cons_of_mem _ hplace, hv⟩

/-- A walk looks into the directories it was given and into ones below them. -/
theorem Walked.looked_below {places looked visited : List (List String)} {w w' : World}
    {calls : List (Call World)}
    (h : Walked s data source target places w looked visited calls w') (hw : w.files.WellFormed)
    (hproper : ∀ place ∈ places, ∀ n ∈ place, Proper n) :
    ∀ v ∈ looked, (∀ n ∈ v, Proper n) ∧ w'.files.isDir (source.join (Path.below v)) ∧
      ∃ place ∈ places, place <+: v := by
  induction h with
  | nil => simp
  | @cons names rest w w₁ w₂ w₃ dir copies _ _ _ _ calls calls' hdir hat hfiles hdirs hrest
      ih₁ ih₂ =>
    have hnames := hproper names List.mem_cons_self
    have hw₁ := hfiles.extends.wellFormed hw
    have h₁ := hfiles.extends.mono fun _ _ => (trivial : True)
    have h₂ := hdirs.extends.mono fun _ _ => (trivial : True)
    have h₃ := hrest.extends.mono fun _ _ => (trivial : True)
    intro v hv
    rcases List.mem_cons.1 hv with rfl | hv
    · have hlater := (h₁.trans h₂).trans h₃
      refine ⟨hnames, FileTree.isDir_iff.2 ⟨dir, hlater.locate hdir, hlater.dir dir hat⟩, ?_⟩
      exact ⟨v, List.mem_cons_self, List.prefix_refl v⟩
    · rcases List.mem_append.1 hv with hv | hv
      · obtain ⟨hp, hisDir, place, hplace, hprefix⟩ := ih₁ hw₁ (fun place hplace =>
          proper_of_mem_children hw hnames (List.mem_filter.1 hplace).1) v hv
        obtain ⟨n, -, rfl, -⟩ := mem_children.1 (List.mem_filter.1 hplace).1
        exact ⟨hp, h₃.isDir hisDir, names, List.mem_cons_self,
          (List.prefix_append names [n]).trans hprefix⟩
      · obtain ⟨hp, hisDir, place, hplace, hprefix⟩ := ih₂ (hdirs.extends.wellFormed hw₁)
          (fun place hplace => hproper place (List.mem_cons_of_mem _ hplace)) v hv
        exact ⟨hp, hisDir, place, List.mem_cons_of_mem _ hplace, hprefix⟩

end

end Stencil.Scaffold
