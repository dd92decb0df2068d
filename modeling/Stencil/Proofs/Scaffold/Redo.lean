import Stencil.Proofs.Files.Alike
import Stencil.Proofs.Render.Blind
import Stencil.Proofs.Scaffold.Places

/-!
# A walk that is made again

A walk over a directory is made a second time, from the files that it left. The second run finds a tree
that the first one has changed while walking over it, so what keeps the two together is not the tree
that either of them sees, but the order of the attempts:

* the second run comes to the places that the first one came to, in the same order, and perhaps to
  directories that were made on the way since. In these there are no files (`New`, `Woven`);
* an attempt finds its target in place. It is skipped, or it writes what it wrote (`Due`): a file that
  several attempts write changes back and forth during the second run, and holds in the end what the
  last of them wrote.

The induction is on the walk of the second run, with the derivation of the first one beside it
(`redo_walk`). What it takes is that no target lies under the source, that what was rendered renders
again, and that the directories that were made under the source can be listed (`Repeats`).
-/

set_option autoImplicit false

namespace Stencil.Scaffold

open FileTree (Proper Extends Alike)
open Stencil.Path (below)

/-! ## 1. Runs that repeat -/

section

variable (s : Scaffold) (data : Store) (source : Path)

/-- What becomes of a file whose target is there. -/
def again : CopyOutcome :=
  if s.overwrite then .created else .skipped

/-- The file of an attempt renders in a tree as it did then: its path, and its content if it is read
again. -/
structure Attempt.RendersIn (t : FileTree) (c : Attempt World) : Prop where
  path : ∀ names, (∀ n ∈ names, Proper n) → c.source = source.join (below names) →
    Render.path ⟨data, s.transforms, t⟩ (below names) =
      Render.path (s.context data c.before) (below names)
  content : s.overwrite = true → ∀ bytes, c.before.files.read? c.source = some bytes →
    Render.content ⟨data, s.transforms, t⟩ bytes = Render.content (s.context data c.before) bytes

/-- What the attempts of a run need to come to the same when the run is repeated. -/
structure Repeats (start last : FileTree) (copies : List (Attempt World)) : Prop where
  clear : ∀ c ∈ copies, ¬ LiesUnder start c.target source
  /-- Overwriting changes what is in the files, and nothing else. -/
  renders : ∀ c ∈ copies, ∀ t, Alike last t → Attempt.RendersIn s data source t c
  /-- A directory that was made under the source has a path that can be asked for. -/
  listable : ∀ names, (∀ n ∈ names, Proper n) → start.at? (start.aim source ++ names) = none →
    last.at? (start.aim source ++ names) = some .dir →
      FileTree.admissible (source.join (below names))

end

/-- The tree in the middle of a run, with some attempts still to be made. -/
structure Midway (start last : FileTree) (copies rest : List (Attempt World)) (t : FileTree) :
    Prop where
  after : Extends (AimedAt start copies) start t
  subset : rest ⊆ copies
  before : Extends (AimedAt start rest) t last

/-- The tree in the middle of the run that repeats another one, with some attempts still to be made:
apart from the files that these will write it is the tree that the other run left. -/
structure Due (s : Scaffold) (start last : FileTree) (rest : List (Attempt World)) (t : FileTree) :
    Prop where
  alike : Alike last t
  same : ∀ loc, t.at? loc = last.at? loc ∨ AimedAt start rest loc
  kept : s.overwrite = false → t = last

theorem WrittenBy.aimedAt {written : Location → Prop} {start t : FileTree}
    (h : Extends written start t) {copies : List (Attempt World)} {loc : Location}
    (hloc : WrittenBy t copies loc) : AimedAt start copies loc := by
  obtain ⟨c, hc, -, rfl⟩ := hloc
  exact ⟨c, hc, h.aim_eq c.target⟩

theorem Copied.extends_aimedAt {s : Scaffold} {data : Store} {source target : Path}
    {places : List (List String)} {w w' : World} {copies : List (Attempt World)}
    (h : Copied s data source target places w copies w') {written : Location → Prop}
    {start : FileTree} (hstart : Extends written start w.files) :
    Extends (AimedAt start copies) w.files w'.files :=
  h.extends.mono fun _ hloc => hloc.aimedAt hstart

theorem Walked.extends_aimedAt {s : Scaffold} {data : Store} {source target : Path}
    {places looked visited : List (List String)} {w w' : World} {calls : List (Call World)}
    (h : Walked s data source target places w looked visited calls w') {written : Location → Prop}
    {start : FileTree} (hstart : Extends written start w.files) :
    Extends (AimedAt start (attempts calls)) w.files w'.files :=
  h.extends.mono fun _ hloc => hloc.aimedAt hstart

theorem extends_aimedAt_append {start t t₁ t₂ : FileTree} {copies copies' : List (Attempt World)}
    (h : Extends (AimedAt start copies) t t₁) (h' : Extends (AimedAt start copies') t₁ t₂) :
    Extends (AimedAt start (copies ++ copies')) t t₂ :=
  (h.mono (AimedAt.mono (List.subset_append_left _ _))).trans
    (h'.mono (AimedAt.mono (List.subset_append_right _ _)))

section

variable {s : Scaffold} {data : Store} {source target : Path} {start last : FileTree}
  {copies rest : List (Attempt World)}

/-- A tree between two ones in the middle of a run is one in the middle, too. -/
theorem Midway.between {t t₁ t₂ : FileTree} {done next : List (Attempt World)}
    (h : Midway start last copies (done ++ (next ++ rest)) t) (h₂ : Midway start last copies rest t₂)
    (hdone : Extends (AimedAt start done) t t₁) (hnext : Extends (AimedAt start next) t₁ t₂) :
    Midway start last copies (next ++ rest) t₁ where
  after := h.after.trans
    (hdone.mono (AimedAt.mono (List.Subset.trans (List.subset_append_left _ _) h.subset)))
  subset := List.Subset.trans (List.subset_append_right _ _) h.subset
  before := extends_aimedAt_append hnext h₂.before

/-! ## 2. Files below the source -/

/-- Nothing is written below the source. -/
theorem Repeats.not_aimedAt (h : Repeats s data source start last copies)
    {cs : List (Attempt World)} (hsub : cs ⊆ copies) {names : List String} (hne : names ≠ []) :
    ¬ AimedAt start cs (start.aim source ++ names) := by
  rintro ⟨c, hc, haim⟩
  exact h.clear c (hsub hc) ⟨names, hne, haim.symm⟩

/-- What the first run has read below the source, the second one reads. -/
theorem Midway.read?_again (hrep : Repeats s data source start last copies)
    (hroot : start.locate (source.join ⟨""⟩) = .ok (start.aim source)) {t : FileTree}
    (h : Midway start last copies rest t) {names : List String} (hproper : ∀ n ∈ names, Proper n)
    (hne : names ≠ []) {bytes : ByteArray}
    (hread : t.read? (source.join (below names)) = some bytes) {v : FileTree}
    (hdue : Due s start last rest v) : v.read? (source.join (below names)) = some bytes := by
  obtain ⟨loc, hloc, hat⟩ := FileTree.read?_eq_some.1 hread
  obtain ⟨-, rfl, -⟩ := (FileTree.locate_join_below (h.after.locate hroot) hproper).1 hloc
  have hlast := h.before.file_eq hat (hrep.not_aimedAt h.subset hne)
  refine FileTree.read?_eq_some.2 ⟨_, hdue.alike.later.locate (h.before.locate hloc), ?_⟩
  rw [(hdue.same _).resolve_right (hrep.not_aimedAt h.subset hne), hlast]

/-! ## 3. One file -/

/-- A file that was dealt with was skipped, or it was read, rendered and written. -/
theorem copyFile_eq_ok {source target : Path} {w w₁ : World} {outcome : CopyOutcome}
    (h : s.copyFile data source target w = (.ok outcome, w₁)) :
    (outcome = .skipped ∧ s.overwrite = false ∧ w.files.exists target ∧ w₁.files = w.files) ∨
      (outcome = .created ∧ ∃ bytes rendered w₂, w.files.read? source = some bytes ∧
        Render.content (s.context data w) bytes = .ok rendered ∧
        World.write target rendered w = (.ok (), w₂) ∧ w₁.files = w₂.files) := by
  rw [copyFile_apply] at h
  split at h
  · rename_i hskip
    simp only [Bool.and_eq_true, Bool.not_eq_true'] at hskip
    obtain ⟨hout, rfl⟩ := Prod.mk.inj h
    exact Or.inl ⟨(Except.ok.inj hout).symm, hskip.2, hskip.1, rfl⟩
  · split at h
    · exact absurd (Prod.mk.inj h).1 (by simp)
    · obtain ⟨bytes, w₂, hread, h⟩ := Step.bind_eq_ok h
      obtain ⟨rendered, w₃, hrendered, h⟩ := Step.bind_eq_ok h
      obtain ⟨u, w₄, hwrite, h⟩ := Step.bind_eq_ok h
      obtain ⟨hout, rfl⟩ := Prod.mk.inj h
      cases hcontent : w.files.read? source with
      | none =>
        rw [World.read_of_none hcontent] at hread
        exact absurd (Prod.mk.inj hread).1 (by simp)
      | some found =>
        rw [World.read_of_some hcontent] at hread
        obtain ⟨hbytes, rfl⟩ := Prod.mk.inj hread
        obtain ⟨hok, rfl⟩ := Prod.mk.inj hrendered
        rw [Except.ok.inj hbytes]
        exact Or.inr ⟨(Except.ok.inj hout).symm, bytes, rendered, w₄, rfl, hok, hwrite, rfl⟩

/-- A file whose target stays is passed over in every later tree: its target is there by then. -/
theorem copyFile_again_of_keep (hoverwrite : s.overwrite = false) {source target : Path}
    {w w₁ v : World} {outcome : CopyOutcome}
    (hcopy : s.copyFile data source target w = (.ok outcome, w₁))
    (hlater : Extends (fun _ => True) w₁.files v.files) :
    ∃ v₁, s.copyFile data source target v = (.ok s.again, v₁) ∧ v₁.files = v.files := by
  have hthere : w₁.files.exists target := by
    rcases copyFile_eq_ok hcopy with ⟨-, -, hexists, hfiles⟩ |
      ⟨-, bytes, content, w₂, -, -, hwrite, hfiles⟩
    · rw [hfiles]
      exact hexists
    · obtain ⟨loc, hloc, hat, -⟩ := World.write_again hwrite (.refl _ _)
      rw [hfiles]
      exact FileTree.exists_iff.2 ⟨loc, hloc, by rw [hat]; rfl⟩
  rw [copyFile_apply, if_pos (by rw [hlater.exists hthere, hoverwrite]; rfl), again, hoverwrite]
  exact ⟨_, rfl, rfl⟩

/-- A file that replaces its target is written in every later tree to where it was written, when it is
read and renders as it did. -/
theorem copyFile_again_of_replace (hoverwrite : s.overwrite = true) {source target : Path}
    {w w₁ v : World} {outcome : CopyOutcome}
    (hcopy : s.copyFile data source target w = (.ok outcome, w₁))
    (hlater : Extends (fun _ => True) w₁.files v.files)
    (hread : ∀ bytes, w.files.read? source = some bytes → v.files.read? source = some bytes)
    (hcontent : ∀ bytes, w.files.read? source = some bytes →
      Render.content (s.context data v) bytes = Render.content (s.context data w) bytes) :
    outcome = .created ∧ ∃ loc content v₁, s.copyFile data source target v = (.ok s.again, v₁) ∧
      w₁.files.locate target = .ok loc ∧ w₁.files.at? loc = some (.file content) ∧
      v₁.files = v.files.place loc (.file content) := by
  rcases copyFile_eq_ok hcopy with ⟨-, hno, -, -⟩ |
    ⟨rfl, bytes, content, w₂, hbytes, hok, hwrite, hfiles⟩
  · rw [hoverwrite] at hno
    exact absurd hno (by simp)
  · rw [hfiles] at hlater ⊢
    obtain ⟨loc, hloc, hat, hwriteAgain⟩ := World.write_again hwrite hlater
    have hreadAgain := hread bytes hbytes
    have hrendered : (Step.ofExcept (Render.content (s.context data v) bytes) : Act ByteArray) v =
        (.ok content, v) := congrArg (·, v) ((hcontent bytes hbytes).trans hok)
    refine ⟨rfl, loc, content, ?_⟩
    rw [copyFile_apply, if_neg (by rw [hoverwrite]; simp),
      if_neg (by rw [FileTree.exists_of_read? hreadAgain]; simp),
      Step.bind_of_ok (World.read_of_some hreadAgain), Step.bind_of_ok hrendered,
      Step.bind_of_ok (hwriteAgain content), again, hoverwrite]
    exact ⟨_, rfl, hloc, hat, rfl⟩

/-- An attempt of the second run has written what it wrote in the first one. -/
theorem Due.place {c : Attempt World} {t t₁ : FileTree} (hdue : Due s start last (c :: rest) t)
    (ht : t.WellFormed) (hoverwrite : s.overwrite = true) {loc : Location} {content : ByteArray}
    (haim : start.aim c.target = loc) (hat : t₁.at? loc = some (.file content))
    (hlast : Extends (AimedAt start rest) t₁ last) :
    Due s start last rest (t.place loc (.file content)) where
  alike := by
    obtain ⟨old, hold⟩ := (hlast.trans_any hdue.alike.later).file loc content hat
    exact hdue.alike.trans (.place ht hold content)
  same loc' := by
    have hne : loc ≠ [] := by
      rintro rfl
      exact absurd hat (by simp [FileTree.at?])
    rw [FileTree.at?_place _ _ _ hne]
    by_cases heq : loc' = loc
    · -- a later attempt at the same target writes over this one, in both runs
      rw [if_pos heq, heq]
      by_cases hagain : AimedAt start rest loc
      · exact Or.inr hagain
      · exact Or.inl (hlast.file_eq hat hagain).symm
    · rw [if_neg heq]
      refine (hdue.same loc').imp_right ?_
      rintro ⟨c', hc', hcaim⟩
      rcases List.mem_cons.1 hc' with rfl | hc'
      · exact absurd (hcaim.trans haim) heq
      · exact ⟨c', hc', hcaim⟩
  kept hno := by
    rw [hoverwrite] at hno
    exact absurd hno (by simp)

/-- An attempt that is made again finds its target, and leaves it or writes what it wrote. -/
theorem redo_copyFile (hrep : Repeats s data source start last copies) (hstart : start.WellFormed)
    (hroot : start.locate (source.join ⟨""⟩) = .ok (start.aim source)) {names : List String}
    (hproper : ∀ n ∈ names, Proper n) (hne : names ≠ []) {w w₁ v : World} {rendered : Path}
    {outcome : CopyOutcome}
    (hrender : Render.path (s.context data w) (below names) = .ok rendered)
    (hcopy : s.copyFile data (source.join (below names)) (target.join rendered) w =
      (.ok outcome, w₁))
    (hmid : Midway start last copies
      (⟨w, source.join (below names), target.join rendered, .ok outcome⟩ :: rest) w.files)
    (hmid₁ : Midway start last copies rest w₁.files)
    (hdue : Due s start last
      (⟨w, source.join (below names), target.join rendered, .ok outcome⟩ :: rest) v.files) :
    Render.path (s.context data v) (below names) = .ok rendered ∧
      (∃ v₁, s.copyFile data (source.join (below names)) (target.join rendered) v =
        (.ok s.again, v₁) ∧ Due s start last rest v₁.files) ∧
      (s.overwrite = true → outcome = .created) := by
  have hrenders := hrep.renders _ (hmid.subset List.mem_cons_self) v.files hdue.alike
  have hlater := hmid₁.before.trans_any hdue.alike.later
  refine ⟨(hrenders.path names hproper rfl).trans hrender, ?_⟩
  cases hoverwrite : s.overwrite with
  | false =>
    obtain ⟨v₁, hskip, hsame⟩ := copyFile_again_of_keep hoverwrite hcopy hlater
    have hkept := hdue.kept hoverwrite
    rw [← hsame] at hkept
    refine ⟨⟨v₁, hskip, ?_⟩, fun h => absurd h (by simp)⟩
    exact ⟨hkept ▸ .refl _, fun loc => Or.inl (by rw [hkept]), fun _ => hkept⟩
  | true =>
    obtain ⟨hcreated, loc, content, v₁, hcreate, hloc, hat, hplaced⟩ :=
      copyFile_again_of_replace hoverwrite hcopy hlater
        (fun bytes hread => hmid.read?_again hrep hroot hproper hne hread hdue)
        (hrenders.content hoverwrite)
    have hv : v.files.WellFormed :=
      hdue.alike.later.wellFormed (hmid.before.wellFormed (hmid.after.wellFormed hstart))
    have haim : start.aim (target.join rendered) = loc :=
      ((FileTree.eq_aim_of_locate hloc).trans (hmid₁.after.aim_eq _)).symm
    refine ⟨⟨v₁, hcreate, ?_⟩, fun _ => hcreated⟩
    rw [hplaced]
    exact hdue.place hv hoverwrite haim hat hmid₁.before

/-- A report with one more attempt that was made again. -/
def Attempt.recordAgain (s : Scaffold) (report : CopyReport) (c : Attempt World) : CopyReport :=
  report.record s.again c.target

/-- Files that are copied again. -/
theorem redo_copyFiles (hrep : Repeats s data source start last copies) (hstart : start.WellFormed)
    (hroot : start.locate (source.join ⟨""⟩) = .ok (start.aim source))
    {places : List (List String)} {w w' : World} {done : List (Attempt World)}
    (hrun : Copied s data source target places w done w')
    (hplaces : ∀ place ∈ places, (∀ n ∈ place, Proper n) ∧ place ≠ [])
    (hmid : Midway start last copies (done ++ rest) w.files)
    (hmid' : Midway start last copies rest w'.files) {v : World}
    (hdue : Due s start last (done ++ rest) v.files) (report : CopyReport) :
    (∃ v', copyFiles (s.access data) target report
        (places.map fun place => (source.join (below place), below place)) v =
          (.ok (done.foldl (Attempt.recordAgain s) report), v') ∧ Due s start last rest v'.files) ∧
      (s.overwrite = true → ∀ c ∈ done, c.Ended .created) := by
  induction hrun generalizing v report with
  | nil => exact ⟨⟨v, rfl, hdue⟩, by simp⟩
  | @cons names places w w₁ w₂ rendered outcome done hrender hcopy hrest ih =>
    obtain ⟨⟨hproper, hne⟩, hplaces⟩ := List.forall_mem_cons.1 hplaces
    have hfirst : Extends (AimedAt start
        [⟨w, source.join (below names), target.join rendered, .ok outcome⟩]) w.files w₁.files :=
      (s.extends_copyFile data _ _ hcopy).mono fun loc hloc =>
        ⟨_, List.mem_singleton_self _, hloc.trans (hmid.after.aim_eq _)⟩
    have hmid₁ := hmid.between hmid' hfirst (hrest.extends_aimedAt (hmid.after.trans_any hfirst))
    obtain ⟨hrenderAgain, ⟨v₁, hcopyAgain, hdue₁⟩, hcreated⟩ :=
      redo_copyFile hrep hstart hroot hproper hne hrender hcopy hmid hmid₁ hdue
    obtain ⟨⟨v', hagain, hdue'⟩, hcreated'⟩ := ih hplaces hmid₁ hmid' hdue₁
      (report.record s.again (target.join rendered))
    refine ⟨⟨v', ?_, hdue'⟩, fun hoverwrite => ?_⟩
    · rw [List.map_cons, copyFiles,
        Step.bind_of_ok (show (s.access data).render (below names) v = (.ok rendered, v) from
          Prod.ext hrenderAgain rfl),
        Step.bind_of_ok (show (s.access data).copy _ _ v = _ from hcopyAgain)]
      exact hagain
    · refine List.forall_mem_cons.2 ⟨?_, hcreated' hoverwrite⟩
      exact congrArg Except.ok (hcreated hoverwrite)

/-! ## 4. What a later listing finds -/

/-- A directory that was made since the start. -/
structure New (source : Path) (start last : FileTree) (names : List String) : Prop where
  free : start.at? (start.aim source ++ names) = none
  made : last.at? (start.aim source ++ names) = some .dir

/-- The second list is the first one with new places in between. -/
inductive Woven (fresh : List String → Prop) : List (List String) → List (List String) → Prop
  | nil : Woven fresh [] []
  | old {place : List String} {xs ys : List (List String)} (h : Woven fresh xs ys) :
      Woven fresh (place :: xs) (place :: ys)
  | new {place : List String} {xs ys : List (List String)} (hplace : fresh place)
      (h : Woven fresh xs ys) : Woven fresh xs (place :: ys)

/-- Where places that were there before are sorted as before, and the others are new and directories,
the same ones are no directories, and the directories are those from before with new ones in between. -/
theorem woven_of_sorted {fresh : List String → Prop} {there before now : List String → Bool}
    {places : List (List String)}
    (h : ∀ place ∈ places,
      if there place then now place = before place else fresh place ∧ now place = true) :
    (places.filter fun place => !now place) =
        (places.filter there).filter (fun place => !before place) ∧
      Woven fresh ((places.filter there).filter before) (places.filter now) := by
  induction places with
  | nil => exact ⟨rfl, .nil⟩
  | cons place places ih =>
    obtain ⟨hplace, hplaces⟩ := List.forall_mem_cons.1 h
    obtain ⟨hfiles, hdirs⟩ := ih hplaces
    cases hthere : there place with
    | false =>
      rw [hthere, if_neg Bool.false_ne_true] at hplace
      simp only [List.filter_cons, hthere, hplace.2, Bool.not_true, Bool.false_eq_true, if_false,
        if_true]
      exact ⟨hfiles, .new hplace.1 hdirs⟩
    | true =>
      rw [hthere, if_pos rfl] at hplace
      cases hbefore : before place with
      | false =>
        simp only [List.filter_cons, hthere, hplace, hbefore, Bool.not_false, Bool.false_eq_true,
          if_false, if_true]
        exact ⟨congrArg _ hfiles, hdirs⟩
      | true =>
        simp only [List.filter_cons, hthere, hplace, hbefore, Bool.not_true, Bool.false_eq_true,
          if_false, if_true]
        exact ⟨hfiles, .old hdirs⟩

theorem woven_of_fresh {fresh : List String → Prop} {places : List (List String)}
    (h : ∀ place ∈ places, fresh place) : Woven fresh [] places := by
  induction places with
  | nil => exact .nil
  | cons place places ih =>
    obtain ⟨hplace, hplaces⟩ := List.forall_mem_cons.1 h
    exact .new hplace (ih hplaces)

/-- What was in a directory is listed later in the same order, among what is new. -/
theorem children_eq_filter {written : Location → Prop} {t t' : FileTree} (h : Extends written t t')
    (ht : t.WellFormed) (s : Scaffold) (source : Path) (root : Location) (names : List String) :
    s.children source t (root ++ names) names =
      (s.children source t' (root ++ names) names).filter fun place =>
        (t.at? (root ++ place)).isSome := by
  unfold children
  rw [h.namesIn_eq_filter ht, List.filter_filter, List.filter_map, List.filter_map,
    List.filter_filter]
  refine congrArg (List.map _) (List.filter_congr fun n _ => ?_)
  simp only [Function.comp_apply, List.append_assoc]
  exact Bool.and_comm _ _

/-- An entry of a directory is a directory when its path can be asked for. -/
theorem isDirBelow_concat {w : World} {root : Location} {names : List String}
    (hdir : w.files.locate (source.join (below names)) = .ok (root ++ names))
    (hat : w.files.at? (root ++ names) = some .dir) (hproper : ∀ n ∈ names, Proper n) {n : String}
    (hn : Proper n) : isDirBelow source w (names ++ [n]) ↔
      FileTree.admissible (source.join (below (names ++ [n]))) ∧
        w.files.at? (root ++ (names ++ [n])) = some .dir := by
  unfold isDirBelow
  rw [Path.join_below_concat source hproper hn, FileTree.isDir_joinText hdir hat hn,
    List.append_assoc]

/-- Looking into a directory again. -/
theorem walkFiles_apply {v : World} {dir : Location} {names : List String}
    (hdir : v.files.locate (source.join (below names)) = .ok dir)
    (hat : v.files.at? dir = some .dir) (hv : v.files.WellFormed) (hproper : ∀ n ∈ names, Proper n)
    (report : CopyReport) :
    s.walkFiles (s.access data) source target (below names) report v =
      (copyFiles (s.access data) target report
        (((s.children source v.files dir names).filter fun place => !isDirBelow source v place).map
          fun place => (source.join (below place), below place)) >>= fun report =>
            pure (report,
              ((s.children source v.files dir names).filter (isDirBelow source v)).map below)) v := by
  have hlist : (s.access data).list (source.join (below names)) v =
      (.ok ((v.files.namesIn dir).map (source.join (below names)).joinText), v) :=
    list_eq_ok.2 ⟨rfl, dir, hdir, hat, rfl⟩
  unfold walkFiles
  rw [Step.bind_of_ok hlist, Step.bind_of_ok (show Step.asks _ _ = (Except.ok _, _) from rfl),
    kept_list hv hproper hdir, List.filter_map, List.filter_map, List.map_map]
  rfl

section

variable (hrep : Repeats s data source start last copies) (hstart : start.WellFormed)
  {t : FileTree} {v : World} {names : List String} (hproper : ∀ n ∈ names, Proper n)
  (hmid : Midway start last copies rest t) (halike : Alike last v.files)

include hrep hproper hmid halike

/-- What is found later in a directory and was not there before is new, and a directory. -/
theorem new_of_mem_children (hv : v.files.WellFormed)
    (hdir : v.files.locate (source.join (below names)) = .ok (start.aim source ++ names))
    (hat : v.files.at? (start.aim source ++ names) = some .dir) {place : List String}
    (hplace : place ∈ s.children source v.files (start.aim source ++ names) names)
    (hfree : t.at? (start.aim source ++ place) = none) :
    New source start last place ∧ isDirBelow source v place := by
  have hplaceProper := proper_of_mem_children hv hproper hplace
  obtain ⟨n, hn, rfl, -⟩ := mem_children.1 hplace
  have hfree' : start.at? (start.aim source ++ (names ++ [n])) = none := by
    cases hold : start.at? (start.aim source ++ (names ++ [n])) with
    | none => rfl
    | some e =>
      cases e with
      | dir =>
        rw [hmid.after.dir _ hold] at hfree
        exact absurd hfree (by simp)
      | file bytes =>
        obtain ⟨bytes', hfile⟩ := hmid.after.file _ _ hold
        rw [hfile] at hfree
        exact absurd hfree (by simp)
  have hmade : last.at? (start.aim source ++ (names ++ [n])) = some .dir := by
    rw [FileTree.mem_namesIn, List.append_assoc] at hn
    obtain ⟨e, he⟩ := Option.isSome_iff_exists.1 hn
    cases e with
    | dir => exact halike.earlier.dir _ he
    | file bytes =>
      -- a file would have been there before: nothing is written below the source
      obtain ⟨bytes', hlast⟩ := halike.earlier.file _ _ he
      rcases hmid.before.unwritten _ _ hlast with hthere | haimed
      · rw [hthere] at hfree
        exact absurd hfree (by simp)
      · exact absurd haimed (hrep.not_aimedAt hmid.subset (by simp))
  refine ⟨⟨hfree', hmade⟩, (isDirBelow_concat hdir hat hproper (hplaceProper n (by simp))).2
    ⟨hrep.listable _ hplaceProper hfree' hmade, halike.later.dir _ hmade⟩⟩

include hstart

/-- What was in a directory before is a directory now if it was one, and the rest is new. -/
theorem isDirBelow_again {w : World} (hw : w.files = t)
    (hdir : t.locate (source.join (below names)) = .ok (start.aim source ++ names))
    (hat : t.at? (start.aim source ++ names) = some .dir) {place : List String}
    (hplace : place ∈ s.children source v.files (start.aim source ++ names) names) :
    if (t.at? (start.aim source ++ place)).isSome
      then isDirBelow source v place = isDirBelow source w place
      else New source start last place ∧ isDirBelow source v place = true := by
  subst hw
  have hlater := hmid.before.trans_any halike.later
  have hv : v.files.WellFormed := hlater.wellFormed (hmid.after.wellFormed hstart)
  have hdirv := hlater.locate hdir
  have hatv := hlater.dir _ hat
  split
  · rename_i hsome
    have hplaceProper := proper_of_mem_children hv hproper hplace
    obtain ⟨n, -, rfl, -⟩ := mem_children.1 hplace
    rw [Bool.eq_iff_iff, isDirBelow_concat hdirv hatv hproper (hplaceProper n (by simp)),
      isDirBelow_concat hdir hat hproper (hplaceProper n (by simp)), hlater.dir_iff hsome]
  · rename_i hnone
    exact new_of_mem_children hrep hproper hmid halike hv hdirv hatv hplace (by simpa using hnone)

/-- The second run finds a directory with the same files, and new directories among the others. -/
theorem sorted_again {w : World} (hw : w.files = t)
    (hdir : t.locate (source.join (below names)) = .ok (start.aim source ++ names))
    (hat : t.at? (start.aim source ++ names) = some .dir) :
    ((s.children source v.files (start.aim source ++ names) names).filter
        fun place => !isDirBelow source v place) =
      ((s.children source t (start.aim source ++ names) names).filter
        fun place => !isDirBelow source w place) ∧
    Woven (New source start last)
      ((s.children source t (start.aim source ++ names) names).filter (isDirBelow source w))
      ((s.children source v.files (start.aim source ++ names) names).filter
        (isDirBelow source v)) := by
  have hlater := hmid.before.trans_any halike.later
  rw [children_eq_filter hlater (hmid.after.wellFormed hstart)]
  exact woven_of_sorted fun place hplace =>
    isDirBelow_again hrep hstart hproper hmid halike hw hdir hat hplace

/-- In a new directory there are new directories only, and nothing to be copied. -/
theorem walkFiles_new (target : Path) (hroot : start.locate (source.join ⟨""⟩) = .ok (start.aim source))
    (hnew : New source start last names) (report : CopyReport) :
    ∃ places : List (List String), s.walkFiles (s.access data) source target (below names) report v =
        (.ok (report, places.map below), v) ∧
      ∀ place ∈ places, New source start last place ∧ ∀ n ∈ place, Proper n := by
  have hwhole : Midway start last copies copies start :=
    ⟨.refl _ _, List.Subset.refl _, hmid.after.trans (hmid.before.mono (AimedAt.mono hmid.subset))⟩
  have hlater := hwhole.before.trans_any halike.later
  have hv : v.files.WellFormed := hlater.wellFormed hstart
  have hat : v.files.at? (start.aim source ++ names) = some .dir := halike.later.dir _ hnew.made
  have hdir : v.files.locate (source.join (below names)) = .ok (start.aim source ++ names) := by
    refine (FileTree.locate_join_below (hlater.locate hroot) hproper).2
      ⟨hrep.listable names hproper hnew.free hnew.made, rfl, fun front tail hsplit hne => ?_⟩
    rw [hsplit, ← List.append_assoc] at hat
    exact hv.dir_above hne (by rw [hat]; rfl)
  have hnews : ∀ place ∈ s.children source v.files (start.aim source ++ names) names,
      New source start last place ∧ isDirBelow source v place := by
    intro place hplace
    refine new_of_mem_children hrep hproper hwhole halike hv hdir hat hplace ?_
    obtain ⟨n, -, rfl, -⟩ := mem_children.1 hplace
    refine hstart.free_below hnew.free ?_
    rw [← List.append_assoc]
    exact List.prefix_append _ _
  have hnone : ((s.children source v.files (start.aim source ++ names) names).filter
      fun place => !isDirBelow source v place) = [] :=
    List.filter_eq_nil_iff.2 fun place hplace => by simp [(hnews place hplace).2]
  refine ⟨(s.children source v.files (start.aim source ++ names) names).filter
    (isDirBelow source v), ?_, fun place hplace => ?_⟩
  · rw [walkFiles_apply hdir hat hv hproper, hnone]
    rfl
  · have hchild := (List.mem_filter.1 hplace).1
    exact ⟨(hnews place hchild).1, proper_of_mem_children hv hproper hchild⟩

end

/-! ## 5. The walk -/

/-- A directory that was there is looked into again: the files that were copied are copied, and what is
left for the walk are the subdirectories that were there, with new ones in between. -/
theorem redo_walkFiles (hrep : Repeats s data source start last copies) (hstart : start.WellFormed)
    (hroot : start.locate (source.join ⟨""⟩) = .ok (start.aim source)) {names : List String}
    (hnames : ∀ n ∈ names, Proper n) {w w₁ v : World} {dir : Location} {done : List (Attempt World)}
    (hdir : w.files.locate (source.join (below names)) = .ok dir) (hat : w.files.at? dir = some .dir)
    (hcopied : Copied s data source target
      ((s.children source w.files dir names).filter fun place => !isDirBelow source w place) w done w₁)
    (hmid : Midway start last copies (done ++ rest) w.files)
    (hmid₁ : Midway start last copies rest w₁.files)
    (hdue : Due s start last (done ++ rest) v.files) (report : CopyReport) :
    (∃ (subdirs : List (List String)) (v₁ : World),
      s.walkFiles (s.access data) source target (below names) report v =
        (.ok (done.foldl (Attempt.recordAgain s) report, subdirs.map below), v₁) ∧
      Woven (New source start last)
        ((s.children source w.files dir names).filter (isDirBelow source w)) subdirs ∧
      (∀ place ∈ subdirs, ∀ n ∈ place, Proper n) ∧ Due s start last rest v₁.files) ∧
    (s.overwrite = true → ∀ c ∈ done, c.Ended .created) := by
  obtain ⟨-, rfl, -⟩ := (FileTree.locate_join_below (hmid.after.locate hroot) hnames).1 hdir
  have hlater := hmid.before.trans_any hdue.alike.later
  have hw : w.files.WellFormed := hmid.after.wellFormed hstart
  have hv : v.files.WellFormed := hlater.wellFormed hw
  obtain ⟨hsame, hwoven⟩ := sorted_again hrep hstart hnames hmid hdue.alike rfl hdir hat
  have hplaces : ∀ place ∈ (s.children source w.files (start.aim source ++ names) names).filter
      (fun place => !isDirBelow source w place), (∀ n ∈ place, Proper n) ∧ place ≠ [] := by
    intro place hplace
    have hchild := (List.mem_filter.1 hplace).1
    obtain ⟨n, -, heq, -⟩ := mem_children.1 hchild
    exact ⟨proper_of_mem_children hw hnames hchild, by simp [heq]⟩
  obtain ⟨⟨v₁, hcopies, hdue₁⟩, hcreated⟩ :=
    redo_copyFiles hrep hstart hroot hcopied hplaces hmid hmid₁ hdue report
  refine ⟨⟨_, v₁, ?_, hwoven, fun place hplace => ?_, hdue₁⟩, hcreated⟩
  · rw [walkFiles_apply (hlater.locate hdir) (hlater.dir _ hat) hv hnames report, hsame,
      Step.bind_of_ok hcopies]
    rfl
  · exact proper_of_mem_children hv hnames (List.mem_filter.1 hplace).1

/-- A walk that is made again attempts what it attempted, and leaves what it left. -/
theorem redo_walk (hrep : Repeats s data source start last copies) (hstart : start.WellFormed)
    (hroot : start.locate (source.join ⟨""⟩) = .ok (start.aim source)) (report : CopyReport)
    {rels : List Path} {places old looked visited : List (List String)} {w w' v : World}
    {calls : List (Call World)} (hrels : rels = places.map below)
    (hproper : ∀ place ∈ places, ∀ n ∈ place, Proper n)
    (hrun : Walked s data source target old w looked visited calls w')
    (hwoven : Woven (New source start last) old places)
    (hmid : Midway start last copies (attempts calls ++ rest) w.files)
    (hmid' : Midway start last copies rest w'.files)
    (hdue : Due s start last (attempts calls ++ rest) v.files) :
    (∃ v', s.walk (s.access data) source target report rels v =
        (.ok ((attempts calls).foldl (Attempt.recordAgain s) report), v') ∧
      Due s start last rest v'.files) ∧
    (s.overwrite = true → ∀ c ∈ attempts calls, c.Ended .created) := by
  induction report, rels using walk.induct s (s.access data) source target
    generalizing places old looked visited w w' v calls rest with
  | case1 report =>
    obtain rfl : places = [] := List.map_eq_nil_iff.1 hrels.symm
    cases hwoven
    cases hrun
    exact ⟨⟨v, by rw [walk_nil]; rfl, hdue⟩, by simp [attempts]⟩
  | case2 report rel rels ih₁ ih₂ =>
    obtain ⟨names, places, rfl, rfl, rfl⟩ := List.map_eq_cons_iff.1 hrels.symm
    obtain ⟨hnames, hplaces⟩ := List.forall_mem_cons.1 hproper
    rw [walk_cons]
    cases hwoven with
    | new hnew hwoven =>
      obtain ⟨subdirs, hfiles, hsubdirs⟩ := walkFiles_new hrep hstart hnames
        hmid hdue.alike target hroot hnew report
      obtain ⟨⟨v₁, hwalk, hdue₁⟩, -⟩ := ih₁ _ _ _ _ hfiles rfl
        (fun place hplace => (hsubdirs place hplace).2) .nil
        (woven_of_fresh fun place hplace => (hsubdirs place hplace).1) hmid hmid hdue
      obtain ⟨hrest, hcreated⟩ := ih₂ report rfl hplaces hrun hwoven hmid hmid' hdue₁
      refine ⟨?_, hcreated⟩
      rw [Step.bind_of_ok hfiles]
      dsimp only
      rw [Step.bind_of_ok hwalk]
      exact hrest
    | old hwoven =>
      cases hrun with
      | @cons _ _ _ w₁ w₂ _ dir done looked looked' visited visited' calls calls' hdir hat hcopied
          hdirs hrest =>
        rw [attempts_visit] at hmid hdue ⊢
        -- the trees that the first run left when it had copied the files, and the subdirectories
        have hdone := hcopied.extends_aimedAt hmid.after
        have hsubs := hdirs.extends_aimedAt (hmid.after.trans_any hdone)
        have hothers := hrest.extends_aimedAt ((hmid.after.trans_any hdone).trans_any hsubs)
        rw [List.append_assoc] at hmid hdue
        have hmid₁ := hmid.between hmid' hdone (extends_aimedAt_append hsubs hothers)
        rw [List.append_assoc (attempts calls)] at hmid hmid₁ hdue
        have hmid₂ := hmid₁.between hmid' hsubs hothers
        obtain ⟨⟨subdirs, v₁, hfiles, hwoven₁, hsubdirs, hdue₁⟩, hcreated₁⟩ :=
          redo_walkFiles hrep hstart hroot hnames hdir hat hcopied hmid hmid₁ hdue report
        obtain ⟨⟨v₂, hwalk, hdue₂⟩, hcreated₂⟩ :=
          ih₁ _ _ _ _ hfiles rfl hsubdirs hdirs hwoven₁ hmid₁ hmid₂ hdue₁
        obtain ⟨⟨v₃, hwalk', hdue₃⟩, hcreated₃⟩ :=
          ih₂ _ rfl hplaces hrest hwoven hmid₂ hmid' hdue₂
        refine ⟨⟨v₃, ?_, hdue₃⟩, fun hoverwrite => List.forall_mem_append.2
          ⟨hcreated₁ hoverwrite, List.forall_mem_append.2
            ⟨hcreated₂ hoverwrite, hcreated₃ hoverwrite⟩⟩⟩
        rw [Step.bind_of_ok hfiles]
        dsimp only
        rw [Step.bind_of_ok hwalk, hwalk', List.foldl_append, List.foldl_append]

end

end Stencil.Scaffold
