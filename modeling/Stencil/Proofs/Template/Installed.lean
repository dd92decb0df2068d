import Mathlib.Data.List.Lex
import Mathlib.Data.List.ReduceOption
import Mathlib.Data.String.Basic
import Stencil.Proofs.Files.After
import Stencil.Proofs.Files.Alike
import Stencil.Proofs.Files.Loss
import Stencil.Proofs.Text.Bytes
import Stencil.Template.Find

/-!
# What is listed as installed

The search for templates goes down from the directories of namespaces, and a place below the
templates directory is known by the names on the way to it. It comes to a directory unless something
on the way keeps it out (`Visited`):

* a name that is hidden, the namespace's own name apart: that one is never looked at;
* a directory between that is a template itself.

What is listed are the directories that the search comes to and that hold a configuration, once each
and in the order of the bytes of their names (`installed_are_listed`). A search that comes to a
directory whose path is too long finds nothing at all: it fails.
-/

set_option autoImplicit false

namespace Stencil

open FileTree (Proper admissible)

/-- The path of a place below the templates directory. -/
def Settings.pathBelow (settings : Settings) (names : List String) : Path :=
  names.foldl Path.joinText settings.templatesDir

/-- A template's configuration stands in the directory, and its path is not too long. -/
def HoldsConfig (settings : Settings) (files : FileTree) (root : Location) (names : List String) :
    Prop :=
  (∃ content, files.at? (root ++ names ++ [templateConfigName]) = some (.file content)) ∧
    admissible (settings.pathBelow (names ++ [templateConfigName]))

/-- The search below the templates directory comes to the directory. -/
structure Visited (settings : Settings) (files : FileTree) (root : Location) (names : List String) :
    Prop where
  ne_nil : names ≠ []
  dir : files.at? (root ++ names) = some .dir
  visible : ∀ name ∈ names.tail, isHidden name = false
  apart : ∀ front rest, names = front ++ rest → rest ≠ [] → 2 ≤ front.length →
    ¬ HoldsConfig settings files root front

/-- The directory is that of an installed template. -/
structure Installed (settings : Settings) (files : FileTree) (root : Location)
    (names : List String) : Prop extends Visited settings files root names where
  deep : 2 ≤ names.length
  holds : HoldsConfig settings files root names

/-- The template of a place below the templates directory: the first name is that of its namespace,
the others make up its own. -/
def templateOf (settings : Settings) (names : List String) : ActiveTemplate :=
  ⟨names.headD "", slashed ("/".intercalate names.tail), settings.pathBelow names⟩

section

variable {settings : Settings} {files : FileTree} {root : Location} {names : List String}
  {name : String}

theorem Settings.pathBelow_concat (settings : Settings) (names : List String) (name : String) :
    settings.pathBelow (names ++ [name]) = (settings.pathBelow names).joinText name := by
  rw [pathBelow, List.foldl_append]
  rfl

/-! ## 1. Where the paths of places lead -/

theorem FileTree.dirNames?_of_not_isDir {t : FileTree} {p : Path} (h : ¬ t.isDir p) :
    t.dirNames? p = none := by
  unfold dirNames?
  cases hlocate : t.locate p with
  | error e => rfl
  | ok loc => exact if_neg fun hdir => h (isDir_iff.2 ⟨loc, hlocate, isDirAt_iff.1 hdir⟩)

theorem Settings.admissible_front (hproper : ∀ n ∈ names, Proper n)
    (h : admissible (settings.pathBelow names)) {front rest : List String}
    (hsplit : names = front ++ rest) : admissible (settings.pathBelow front) := by
  subst hsplit
  induction rest using List.reverseRecOn with
  | nil =>
    rw [List.append_nil] at h
    exact h
  | append_singleton rest name ih =>
    rw [← List.append_assoc] at h hproper
    rw [pathBelow_concat] at h
    exact ih (fun n hn => hproper n (List.mem_append_left _ hn))
      (FileTree.admissible_of_joinText (hproper name (by simp)).not_absolute h)

/-- The templates directory is at a location of a tree. -/
structure Rooted (settings : Settings) (files : FileTree) (root : Location) : Prop where
  wellFormed : files.WellFormed
  locate : files.locate settings.templatesDir = .ok root
  dir : files.at? root = some .dir

namespace Rooted

theorem proper (h : Rooted settings files root) (hat : (files.at? (root ++ names)).isSome) :
    ∀ n ∈ names, Proper n := by
  intro n hn
  have hne : root ++ names ≠ [] := List.append_ne_nil_of_right_ne_nil _ (List.ne_nil_of_mem hn)
  obtain ⟨e, he⟩ := (FileTree.at?_isSome_iff hne).1 hat
  exact h.wellFormed.named _ he n (List.mem_append_right root hn)

theorem templatesDir_ne_empty (h : Rooted settings files root) :
    settings.templatesDir.text ≠ "" :=
  (FileTree.locate_eq_ok.1 h.locate).2.1

theorem pathBelow_ne_empty (h : Rooted settings files root) (hproper : ∀ n ∈ names, Proper n) :
    (settings.pathBelow names).text ≠ "" := by
  rcases List.eq_nil_or_concat names with rfl | ⟨front, name, rfl⟩
  · exact h.templatesDir_ne_empty
  · have hname : Proper name := hproper name (by simp)
    rw [List.concat_eq_append, Settings.pathBelow_concat]
    exact Path.joinText_ne_empty _ hname.ne_empty hname.no_slash

/-- The path of a directory leads to it, if it is not too long. -/
theorem locate_pathBelow (h : Rooted settings files root)
    (hdir : files.at? (root ++ names) = some .dir) {loc : Location} :
    files.locate (settings.pathBelow names) = .ok loc ↔
      admissible (settings.pathBelow names) ∧ loc = root ++ names := by
  induction names using List.reverseRecOn generalizing loc with
  | nil =>
    have hroot : files.locate (settings.pathBelow []) = .ok root := h.locate
    rw [hroot, List.append_nil, Except.ok.injEq, eq_comm]
    exact (and_iff_right (FileTree.locate_eq_ok.1 h.locate).1).symm
  | append_singleton names name ih =>
    have hsome : (files.at? (root ++ (names ++ [name]))).isSome := by rw [hdir]; rfl
    have hproper := h.proper hsome
    have hfront : ∀ n ∈ names, Proper n := fun n hn => hproper n (List.mem_append_left _ hn)
    rw [← List.append_assoc] at hsome
    have habove := h.wellFormed.dir_above (List.cons_ne_nil name []) hsome
    rw [Settings.pathBelow_concat, FileTree.locate_joinText (h.pathBelow_ne_empty hfront)
      (hproper name (by simp))]
    constructor
    · rintro ⟨hadmissible, dir, hlocate, -, rfl⟩
      obtain ⟨-, rfl⟩ := (ih habove).1 hlocate
      exact ⟨hadmissible, List.append_assoc _ _ _⟩
    · rintro ⟨hadmissible, rfl⟩
      have hup := FileTree.admissible_of_joinText (hproper name (by simp)).not_absolute hadmissible
      exact ⟨hadmissible, _, (ih habove).2 ⟨hup, rfl⟩, habove, (List.append_assoc _ _ _).symm⟩

/-- A directory can be listed when its path is not too long. -/
theorem dirNames?_pathBelow (h : Rooted settings files root)
    (hdir : files.at? (root ++ names) = some .dir) :
    files.dirNames? (settings.pathBelow names) =
      if admissible (settings.pathBelow names) then
        some ((files.namesIn (root ++ names)).filter fun n =>
          files.isDirAt (root ++ names ++ [n]))
      else none := by
  by_cases hadmissible : admissible (settings.pathBelow names)
  · rw [if_pos hadmissible, FileTree.dirNames?,
      (h.locate_pathBelow hdir).2 ⟨hadmissible, rfl⟩]
    exact if_pos (FileTree.isDirAt_iff.2 hdir)
  · rw [if_neg hadmissible, FileTree.dirNames?]
    cases hlocate : files.locate (settings.pathBelow names) with
    | ok loc => exact absurd ((h.locate_pathBelow hdir).1 hlocate).1 hadmissible
    | error e => rfl

theorem holdsTemplate_pathBelow (h : Rooted settings files root)
    (hdir : files.at? (root ++ names) = some .dir) :
    holdsTemplate files (settings.pathBelow names) ↔ HoldsConfig settings files root names := by
  have hproper := h.proper (by rw [hdir]; rfl)
  have hconfig : Proper templateConfigName := by decide
  unfold holdsTemplate HoldsConfig
  rw [Settings.pathBelow_concat, FileTree.isFile_iff]
  constructor
  · rintro ⟨loc, content, hlocate, hat⟩
    obtain ⟨hadmissible, dir, hup, -, rfl⟩ :=
      (FileTree.locate_joinText (h.pathBelow_ne_empty hproper) hconfig).1 hlocate
    obtain ⟨-, rfl⟩ := (h.locate_pathBelow hdir).1 hup
    exact ⟨⟨content, hat⟩, hadmissible⟩
  · rintro ⟨⟨content, hat⟩, hadmissible⟩
    have hup := FileTree.admissible_of_joinText hconfig.not_absolute hadmissible
    refine ⟨_, content, (FileTree.locate_joinText (h.pathBelow_ne_empty hproper) hconfig).2
      ⟨hadmissible, _, (h.locate_pathBelow hdir).2 ⟨hup, rfl⟩, hdir, rfl⟩, hat⟩

end Rooted

/-! ## 2. The search by names -/

/-- What a search comes upon below a place, by the names on the way. -/
def placesBelow (settings : Settings) (files : FileTree) :
    (depth : Nat) → List String → List (Option (List String))
  | 0, _ => []
  | depth + 1, names =>
    match files.dirNames? (settings.pathBelow names) with
    | none => [none]
    | some inside =>
      (inside.filter fun name => !isHidden name).flatMap fun name =>
        if holdsTemplate files (settings.pathBelow (names ++ [name])) then [some (names ++ [name])]
        else placesBelow settings files depth (names ++ [name])

/-- What a search of all namespaces comes upon. -/
def placesOf (settings : Settings) (files : FileTree) : List (Option (List String)) :=
  ((files.dirNames? settings.templatesDir).getD []).flatMap fun space =>
    placesBelow settings files (files.entries.length + 1) [space]

theorem searchBelow_eq (settings : Settings) (files : FileTree) (depth : Nat)
    (names : List String) :
    searchBelow files depth (settings.pathBelow names) =
      (placesBelow settings files depth names).map (Option.map settings.pathBelow) := by
  induction depth generalizing names with
  | zero => rfl
  | succ depth ih =>
    rw [searchBelow, placesBelow]
    cases files.dirNames? (settings.pathBelow names) with
    | none => rfl
    | some inside =>
      dsimp only
      rw [List.map_flatMap]
      refine List.flatMap_congr fun name _ => ?_
      rw [← Settings.pathBelow_concat, ih]
      split
      · rfl
      · rfl

theorem searchAll_eq (settings : Settings) (files : FileTree) :
    searchAll settings files =
      (placesOf settings files).map (Option.map settings.pathBelow) := by
  rw [searchAll, placesOf, List.map_flatMap]
  exact List.flatMap_congr fun space _ => searchBelow_eq settings files _ [space]

/-- What one step of the search comes upon. -/
theorem Rooted.mem_placesBelow_succ (h : Rooted settings files root)
    (hdir : files.at? (root ++ names) = some .dir) {depth : Nat} {found : Option (List String)} :
    found ∈ placesBelow settings files (depth + 1) names ↔
      (¬ admissible (settings.pathBelow names) ∧ found = none) ∨
        (admissible (settings.pathBelow names) ∧
          ∃ name, files.at? (root ++ (names ++ [name])) = some .dir ∧ isHidden name = false ∧
            ((HoldsConfig settings files root (names ++ [name]) ∧ found = some (names ++ [name])) ∨
              (¬ HoldsConfig settings files root (names ++ [name]) ∧
                found ∈ placesBelow settings files depth (names ++ [name])))) := by
  rw [placesBelow, h.dirNames?_pathBelow hdir]
  by_cases hadmissible : admissible (settings.pathBelow names)
  · have hstep : ∀ name, files.at? (root ++ (names ++ [name])) = some .dir →
        (found ∈ (if holdsTemplate files (settings.pathBelow (names ++ [name])) then
            [some (names ++ [name])] else placesBelow settings files depth (names ++ [name])) ↔
          (HoldsConfig settings files root (names ++ [name]) ∧ found = some (names ++ [name])) ∨
            (¬ HoldsConfig settings files root (names ++ [name]) ∧
              found ∈ placesBelow settings files depth (names ++ [name]))) := by
      intro name hat
      rw [← h.holdsTemplate_pathBelow hat]
      split
      · rename_i hholds
        simp [hholds]
      · rename_i hholds
        simp [hholds]
    rw [if_pos hadmissible]
    simp only [List.mem_flatMap, List.mem_filter, FileTree.mem_namesIn, FileTree.isDirAt_iff,
      Bool.not_eq_true', hadmissible, not_true_eq_false, false_and, true_and, false_or]
    refine exists_congr fun name => ?_
    rw [List.append_assoc]
    constructor
    · rintro ⟨⟨⟨-, hat⟩, hvisible⟩, hfound⟩
      exact ⟨hat, hvisible, (hstep name hat).1 hfound⟩
    · rintro ⟨hat, hvisible, hcase⟩
      exact ⟨⟨⟨by rw [hat]; rfl, hat⟩, hvisible⟩, (hstep name hat).2 hcase⟩
  · rw [if_neg hadmissible]
    simp [hadmissible]

/-! ## 3. What the search comes to -/

/-- What is in a directory that the search comes to is at least two levels down. -/
theorem Visited.deep (hv : Visited settings files root names) (name : String) :
    2 ≤ (names ++ [name]).length := by
  have hpos := List.length_pos_iff.2 hv.ne_nil
  rw [List.length_append, List.length_singleton]
  omega

/-- A directory in one that the search looks into. -/
theorem Visited.concat (hv : Visited settings files root names)
    (hopen : 2 ≤ names.length → ¬ HoldsConfig settings files root names)
    (hdir : files.at? (root ++ (names ++ [name])) = some .dir) (hname : isHidden name = false) :
    Visited settings files root (names ++ [name]) where
  ne_nil := by simp
  dir := hdir
  visible := by
    intro n hn
    rw [List.tail_append_of_ne_nil hv.ne_nil, List.mem_append, List.mem_singleton] at hn
    rcases hn with hn | rfl
    · exact hv.visible n hn
    · exact hname
  apart := by
    intro front rest hsplit hrest hlength
    obtain ⟨before, last, rfl⟩ := (List.eq_nil_or_concat rest).resolve_left hrest
    rw [List.concat_eq_append, ← List.append_assoc] at hsplit
    obtain ⟨hnames, -⟩ := List.append_inj' hsplit rfl
    by_cases hbefore : before = []
    · rw [hbefore, List.append_nil] at hnames
      subst hnames
      exact hopen hlength
    · exact hv.apart front before hnames hbefore hlength

/-- The search comes to a directory through those above it. -/
theorem Visited.front (h : Rooted settings files root) {tail : List String}
    (hv : Visited settings files root (names ++ tail)) (hne : names ≠ []) :
    Visited settings files root names where
  ne_nil := hne
  dir := by
    by_cases htail : tail = []
    · rw [← hv.dir, htail, List.append_nil]
    · refine h.wellFormed.dir_above htail ?_
      rw [List.append_assoc, hv.dir]
      rfl
  visible := by
    intro n hn
    refine hv.visible n ?_
    rw [List.tail_append_of_ne_nil hne]
    exact List.mem_append_left _ hn
  apart := by
    intro front rest hsplit hrest hlength
    refine hv.apart front (rest ++ tail) ?_ (by simp [hrest]) hlength
    rw [hsplit, List.append_assoc]

/-- The first step to a directory further down. -/
theorem Visited.step (h : Rooted settings files root) (hne : names ≠ []) {rest : List String}
    (hv : Visited settings files root (names ++ name :: rest)) :
    Visited settings files root (names ++ [name]) ∧ isHidden name = false := by
  refine ⟨?_, hv.visible name ?_⟩
  · rw [List.append_cons] at hv
    exact hv.front h (by simp)
  · rw [List.tail_append_of_ne_nil hne]
    exact List.mem_append_right _ List.mem_cons_self

/-- Where a configuration is found, everything on the way can be listed. -/
theorem HoldsConfig.admissible (h : Rooted settings files root)
    (hholds : HoldsConfig settings files root names) : admissible (settings.pathBelow names) := by
  obtain ⟨⟨content, hat⟩, hadmissible⟩ := hholds
  rw [List.append_assoc] at hat
  exact Settings.admissible_front (h.proper (by rw [hat]; rfl)) hadmissible rfl

namespace Rooted

variable {depth : Nat}

/-- The search below a place finds the templates that are installed there. -/
theorem some_mem_placesBelow (h : Rooted settings files root)
    (hv : Visited settings files root names)
    (hopen : 2 ≤ names.length → ¬ HoldsConfig settings files root names) {found : List String} :
    some found ∈ placesBelow settings files depth names ↔
      ∃ tail, tail ≠ [] ∧ tail.length ≤ depth ∧ found = names ++ tail ∧
        Installed settings files root found := by
  induction depth generalizing names with
  | zero =>
    constructor
    · intro hfound
      exact absurd hfound List.not_mem_nil
    · rintro ⟨tail, hne, hlength, -⟩
      exact absurd (List.eq_nil_of_length_eq_zero (Nat.le_zero.1 hlength)) hne
  | succ depth ih =>
    rw [h.mem_placesBelow_succ hv.dir]
    constructor
    · rintro (⟨-, hnone⟩ | ⟨-, name, hdir, hname, hcase⟩)
      · exact absurd hnone (by simp)
      have hnext := hv.concat hopen hdir hname
      rcases hcase with ⟨hholds, hfound⟩ | ⟨hnot, hfound⟩
      · rw [Option.some.injEq] at hfound
        subst hfound
        exact ⟨[name], by simp, by simp, rfl, { hnext with deep := hv.deep name, holds := hholds }⟩
      · obtain ⟨tail, -, hlength, rfl, hinstalled⟩ := (ih hnext fun _ => hnot).1 hfound
        exact ⟨name :: tail, by simp, by simpa using hlength, by simp, hinstalled⟩
    · rintro ⟨tail, hne, hlength, rfl, hinstalled⟩
      obtain ⟨name, rest, rfl⟩ := List.exists_cons_of_ne_nil hne
      obtain ⟨hnext, hname⟩ := hinstalled.toVisited.step h hv.ne_nil
      have hproper := h.proper (by rw [hinstalled.dir]; rfl)
      refine Or.inr ⟨Settings.admissible_front hproper (hinstalled.holds.admissible h) rfl, name,
        hnext.dir, hname, ?_⟩
      by_cases hrest : rest = []
      · subst hrest
        exact Or.inl ⟨hinstalled.holds, rfl⟩
      · have hnot : ¬ HoldsConfig settings files root (names ++ [name]) :=
          hinstalled.apart _ rest (List.append_cons names name rest) hrest (hv.deep name)
        exact Or.inr ⟨hnot, (ih hnext fun _ => hnot).2
          ⟨rest, hrest, by simpa using hlength, List.append_cons names name rest, hinstalled⟩⟩

/-- The search below a place is stuck at the directories it comes to whose paths are too long. -/
theorem none_mem_placesBelow (h : Rooted settings files root)
    (hv : Visited settings files root names)
    (hopen : 2 ≤ names.length → ¬ HoldsConfig settings files root names) :
    none ∈ placesBelow settings files depth names ↔
      ∃ tail, tail.length < depth ∧ Visited settings files root (names ++ tail) ∧
        ¬ admissible (settings.pathBelow (names ++ tail)) := by
  induction depth generalizing names with
  | zero =>
    constructor
    · intro hfound
      exact absurd hfound List.not_mem_nil
    · rintro ⟨tail, hlength, -⟩
      exact absurd hlength (Nat.not_lt_zero _)
  | succ depth ih =>
    rw [h.mem_placesBelow_succ hv.dir]
    constructor
    · rintro (⟨hlong, -⟩ | ⟨-, name, hdir, hname, hcase⟩)
      · refine ⟨[], Nat.succ_pos depth, ?_⟩
        rw [List.append_nil]
        exact ⟨hv, hlong⟩
      rcases hcase with ⟨-, hnone⟩ | ⟨hnot, hfound⟩
      · exact absurd hnone (by simp)
      · obtain ⟨tail, hlength, hstuck⟩ := (ih (hv.concat hopen hdir hname) fun _ => hnot).1 hfound
        rw [← List.append_cons] at hstuck
        exact ⟨name :: tail, by simpa using hlength, hstuck⟩
    · rintro ⟨tail, hlength, hstuck, hlong⟩
      by_cases hadmissible : admissible (settings.pathBelow names)
      · obtain ⟨name, rest, rfl⟩ := List.exists_cons_of_ne_nil (l := tail) fun hnil => by
          rw [hnil, List.append_nil] at hlong
          exact hlong hadmissible
        obtain ⟨hnext, hname⟩ := hstuck.step h hv.ne_nil
        have hnot : ¬ HoldsConfig settings files root (names ++ [name]) := by
          intro hholds
          by_cases hrest : rest = []
          · rw [hrest] at hlong
            exact hlong (hholds.admissible h)
          · exact hstuck.apart _ rest (List.append_cons names name rest) hrest (hv.deep name) hholds
        rw [List.append_cons] at hstuck hlong
        exact Or.inr ⟨hadmissible, name, hnext.dir, hname, Or.inr ⟨hnot,
          (ih hnext fun _ => hnot).2 ⟨rest, by simpa using hlength, hstuck, hlong⟩⟩⟩
      · exact Or.inl ⟨hadmissible, rfl⟩

end Rooted

/-! ## 4. All of it -/

/-- A tree is no deeper than it has entries: everything on the way to a place is another one. -/
theorem FileTree.WellFormed.length_le_entries {t : FileTree} (hw : t.WellFormed) {loc : Location}
    (hat : (t.at? loc).isSome) : loc.length ≤ t.entries.length := by
  have hnodup : ((List.range loc.length).map fun k => loc.take (k + 1)).Nodup := by
    refine List.Nodup.map_on (fun k hk k' hk' heq => ?_) List.nodup_range
    have hlength := congrArg List.length heq
    rw [List.mem_range] at hk hk'
    rw [List.length_take, List.length_take, Nat.min_eq_left hk, Nat.min_eq_left hk'] at hlength
    exact Nat.succ.inj hlength
  have hsub : (List.range loc.length).map (fun k => loc.take (k + 1)) ⊆ t.entries.map (·.1) := by
    intro front hfront
    obtain ⟨k, hk, rfl⟩ := List.mem_map.1 hfront
    rw [List.mem_range] at hk
    have hne : loc.take (k + 1) ≠ [] := by
      rw [← List.length_pos_iff, List.length_take]
      omega
    have hsome : (t.at? (loc.take (k + 1))).isSome := by
      by_cases hrest : loc.drop (k + 1) = []
      · rwa [List.take_of_length_le (List.drop_eq_nil_iff.1 hrest)]
      · rw [hw.dir_above hrest (by rwa [List.take_append_drop])]
        rfl
    obtain ⟨e, he⟩ := (FileTree.at?_isSome_iff hne).1 hsome
    exact List.mem_map.2 ⟨_, he, rfl⟩
  simpa using List.Nodup.length_le_of_subset hnodup hsub

namespace Rooted

theorem visited_space (hdir : files.at? (root ++ [name]) = some .dir) :
    Visited settings files root [name] where
  ne_nil := by simp
  dir := hdir
  visible := by simp
  apart := by
    intro front rest hsplit hrest hlength
    have htotal := congrArg List.length hsplit
    have hpos := List.length_pos_iff.2 hrest
    rw [List.length_append, List.length_singleton] at htotal
    omega

/-- The search starts in the directories of namespaces. -/
theorem mem_placesOf (h : Rooted settings files root) {found : Option (List String)} :
    found ∈ placesOf settings files ↔
      ∃ space, files.at? (root ++ [space]) = some .dir ∧
        found ∈ placesBelow settings files (files.entries.length + 1) [space] := by
  have hroot : files.at? (root ++ []) = some .dir := by
    rw [List.append_nil]
    exact h.dir
  have hnames := h.dirNames?_pathBelow hroot
  have hadmissible : admissible (settings.pathBelow []) := (FileTree.locate_eq_ok.1 h.locate).1
  rw [if_pos hadmissible, List.append_nil] at hnames
  rw [placesOf, show files.dirNames? settings.templatesDir = _ from hnames, Option.getD_some]
  simp only [List.mem_flatMap, List.mem_filter, FileTree.mem_namesIn, FileTree.isDirAt_iff]
  refine exists_congr fun space => and_congr_left' ?_
  exact ⟨And.right, fun hdir => ⟨by rw [hdir]; rfl, hdir⟩⟩

theorem length_le (h : Rooted settings files root) (hv : Visited settings files root names) :
    names.length ≤ files.entries.length := by
  have hsome : (files.at? (root ++ names)).isSome := by rw [hv.dir]; rfl
  have hlength := h.wellFormed.length_le_entries hsome
  rw [List.length_append] at hlength
  omega

theorem some_mem_placesOf (h : Rooted settings files root) :
    some names ∈ placesOf settings files ↔ Installed settings files root names := by
  rw [h.mem_placesOf]
  constructor
  · rintro ⟨space, hdir, hfound⟩
    obtain ⟨-, -, -, -, hinstalled⟩ :=
      (h.some_mem_placesBelow (visited_space hdir) (by simp)).1 hfound
    exact hinstalled
  · intro hinstalled
    obtain ⟨space, tail, rfl⟩ := List.exists_cons_of_ne_nil hinstalled.ne_nil
    have hspace : Visited settings files root [space] :=
      (hinstalled.toVisited : Visited settings files root ([space] ++ tail)).front h (by simp)
    have hlength := h.length_le hinstalled.toVisited
    have hdeep := hinstalled.deep
    rw [List.length_cons] at hlength hdeep
    refine ⟨space, hspace.dir, (h.some_mem_placesBelow hspace (by simp)).2
      ⟨tail, ?_, by omega, rfl, hinstalled⟩⟩
    rintro rfl
    exact absurd hdeep (by simp)

theorem none_mem_placesOf (h : Rooted settings files root) :
    none ∈ placesOf settings files ↔
      ∃ names, Visited settings files root names ∧ ¬ admissible (settings.pathBelow names) := by
  rw [h.mem_placesOf]
  constructor
  · rintro ⟨space, hdir, hfound⟩
    obtain ⟨tail, -, hstuck⟩ := (h.none_mem_placesBelow (visited_space hdir) (by simp)).1 hfound
    exact ⟨_, hstuck⟩
  · rintro ⟨names, hstuck, hlong⟩
    obtain ⟨space, tail, rfl⟩ := List.exists_cons_of_ne_nil hstuck.ne_nil
    have hspace : Visited settings files root [space] :=
      (hstuck : Visited settings files root ([space] ++ tail)).front h (by simp)
    have hlength := h.length_le hstuck
    rw [List.length_cons] at hlength
    exact ⟨space, hspace.dir, (h.none_mem_placesBelow hspace (by simp)).2
      ⟨tail, by omega, hstuck, hlong⟩⟩

end Rooted

/-! ## 5. Its order -/

theorem FileTree.WellFormed.pairwise_dirNames? (hw : files.WellFormed) {p : Path}
    {inside : List String} (h : files.dirNames? p = some inside) : inside.Pairwise (· < ·) := by
  unfold FileTree.dirNames? at h
  split at h
  · rename_i loc _
    split at h
    · rw [← Option.some.inj h]
      exact (hw.pairwise_namesIn loc).filter _
    · exact absurd h (by simp)
  · exact absurd h (by simp)

/-- What is found below a place lies below it. -/
theorem prefix_of_mem_placesBelow {depth : Nat} {found : List String}
    (h : some found ∈ placesBelow settings files depth names) : names <+: found := by
  induction depth generalizing names with
  | zero => exact absurd h List.not_mem_nil
  | succ depth ih =>
    rw [placesBelow] at h
    split at h
    · exact absurd h (by simp)
    · obtain ⟨name, -, hfound⟩ := List.mem_flatMap.1 h
      split at hfound
      · rw [List.mem_singleton, Option.some.injEq] at hfound
        exact hfound ▸ List.prefix_append names [name]
      · exact (List.prefix_append names [name]).trans (ih hfound)

/-- Below the smaller of two names lies what is smaller. -/
theorem lt_of_below {a b : String} {x y : List String} (hab : a < b) (hx : names ++ [a] <+: x)
    (hy : names ++ [b] <+: y) : x < y := by
  obtain ⟨s, rfl⟩ := hx
  obtain ⟨t, rfl⟩ := hy
  rw [List.append_assoc, List.append_assoc]
  exact List.append_left_lt (List.cons_lt_cons_iff.2 (Or.inl hab))

/-- One after the other, directories that ascend give what ascends. -/
theorem pairwise_flatMap (names : List String) {inside : List String}
    (hinside : inside.Pairwise (· < ·)) {below : String → List (Option (List String))}
    (hbelow : ∀ name ∈ inside, (below name).reduceOption.Pairwise (· < ·))
    (hlies : ∀ name found, some found ∈ below name → names ++ [name] <+: found) :
    (inside.flatMap below).reduceOption.Pairwise (· < ·) := by
  rw [List.reduceOption, List.filterMap_flatMap, List.pairwise_flatMap]
  refine ⟨hbelow, hinside.imp fun {a b} hab x hx y hy => ?_⟩
  exact lt_of_below hab (hlies a x (List.reduceOption_mem_iff.1 hx))
    (hlies b y (List.reduceOption_mem_iff.1 hy))

theorem pairwise_placesBelow (hw : files.WellFormed) (depth : Nat) (names : List String) :
    (placesBelow settings files depth names).reduceOption.Pairwise (· < ·) := by
  induction depth generalizing names with
  | zero => exact List.Pairwise.nil
  | succ depth ih =>
    rw [placesBelow]
    split
    · exact List.Pairwise.nil
    · rename_i inside hinside
      refine pairwise_flatMap names ((hw.pairwise_dirNames? hinside).filter _) (fun name _ => ?_)
        (fun name found hfound => ?_)
      · split
        · exact List.pairwise_singleton _ _
        · exact ih _
      · split at hfound
        · rw [List.mem_singleton, Option.some.injEq] at hfound
          exact hfound ▸ List.prefix_rfl
        · exact prefix_of_mem_placesBelow hfound

theorem pairwise_placesOf (hw : files.WellFormed) :
    (placesOf settings files).reduceOption.Pairwise (· < ·) := by
  unfold placesOf
  cases hinside : files.dirNames? settings.templatesDir with
  | none => exact List.Pairwise.nil
  | some inside =>
    exact pairwise_flatMap [] (hw.pairwise_dirNames? hinside)
      (fun space _ => pairwise_placesBelow hw _ [space])
      fun space found hfound => prefix_of_mem_placesBelow hfound

/-- Names that are in order are in the order of their bytes. -/
theorem map_bytes_lt {x y : List String} (h : x < y) : x.map Text.bytes < y.map Text.bytes := by
  induction x generalizing y with
  | nil =>
    obtain ⟨b, y, rfl⟩ := List.exists_cons_of_ne_nil (l := y) (by rintro rfl; simp at h)
    exact List.nil_lt_cons _ _
  | cons a x ih =>
    obtain ⟨b, y, rfl⟩ := List.exists_cons_of_ne_nil (l := y) (by rintro rfl; simp at h)
    rw [List.map_cons, List.map_cons, List.cons_lt_cons_iff]
    rcases List.cons_lt_cons_iff.1 h with hlt | ⟨rfl, hrest⟩
    · exact Or.inl (Text.bytes_lt_bytes hlt)
    · exact Or.inr ⟨rfl, ih hrest⟩

/-! ## 6. The templates -/

/-- The directory of an installed template is named by its path. -/
theorem templateAt_pathBelow (h : Rooted settings files root)
    (hdir : files.at? (root ++ names) = some .dir) (hne : names ≠ []) :
    templateAt settings.templatesDir (settings.pathBelow names) = some (templateOf settings names) := by
  have hproper := h.proper (by rw [hdir]; rfl)
  have hrel := Path.after?_foldl_joinText h.templatesDir_ne_empty hproper hne
  have hcomponents := Path.components_intercalate hproper hne
  obtain ⟨space, name, rfl⟩ := List.exists_cons_of_ne_nil hne
  rw [templateAt, Settings.pathBelow, hrel, Option.bind_some, hcomponents, List.map_cons]
  simp [templateOf, Settings.pathBelow, Path.Component.text, Function.comp_def]

theorem findTemplates_eq (h : Rooted settings files root) :
    findTemplates settings files =
      (placesOf settings files).reduceOption.map (templateOf settings) := by
  rw [findTemplates, searchAll_eq, List.filterMap_map, List.reduceOption, List.map_filterMap]
  refine List.filterMap_congr fun place hplace => ?_
  cases place with
  | none => rfl
  | some names =>
    have hinstalled := h.some_mem_placesOf.1 hplace
    exact templateAt_pathBelow h hinstalled.dir hinstalled.ne_nil

/-- **What is listed as installed are the directories that the search comes to and that hold a
configuration**, each once and in the order of the bytes of their names. Nothing is installed where
there is no templates directory, and a search that comes to a directory whose path is too long
fails. -/
theorem installed_are_listed (settings : Settings) {files : FileTree} (hw : files.WellFormed) :
    (¬ files.isDir settings.templatesDir → installedTemplates settings files = .ok []) ∧
      ∀ root, files.locate settings.templatesDir = .ok root → files.at? root = some .dir →
        ((∃ names, Visited settings files root names ∧ ¬ admissible (settings.pathBelow names)) →
          installedTemplates settings files =
            .error (.io s!"searching {settings.templatesDir.text}")) ∧
        ((∀ names, Visited settings files root names → admissible (settings.pathBelow names)) →
          ∃ found : List (List String),
            installedTemplates settings files = .ok (found.map (templateOf settings)) ∧
            (found.map (·.map Text.bytes)).Pairwise (· < ·) ∧
            ∀ names, names ∈ found ↔ Installed settings files root names) := by
  constructor
  · intro hno
    have hnothing : searchAll settings files = [] := by
      rw [searchAll, FileTree.dirNames?_of_not_isDir hno]
      rfl
    rw [installedTemplates, findTemplates, hnothing]
    rfl
  · intro root hlocate hdir
    have h : Rooted settings files root := ⟨hw, hlocate, hdir⟩
    have hstuck : (searchAll settings files).contains none = true ↔
        ∃ names, Visited settings files root names ∧
          ¬ admissible (settings.pathBelow names) := by
      rw [← h.none_mem_placesOf, searchAll_eq, List.contains_iff_mem, List.mem_map]
      constructor
      · rintro ⟨place, hplace, hnone⟩
        exact Option.map_eq_none_iff.1 hnone ▸ hplace
      · exact fun hnone => ⟨none, hnone, rfl⟩
    refine ⟨fun hlong => if_pos (hstuck.2 hlong), fun hshort => ?_⟩
    refine ⟨(placesOf settings files).reduceOption, ?_, ?_, fun names => ?_⟩
    · rw [installedTemplates, if_neg, findTemplates_eq h]
      rw [hstuck]
      rintro ⟨names, hv, hlong⟩
      exact hlong (hshort names hv)
    · rw [List.pairwise_map]
      exact (pairwise_placesOf hw).imp map_bytes_lt
    · rw [List.reduceOption_mem_iff]
      exact h.some_mem_placesOf

end

namespace InstalledSample

def settings : Settings :=
  ⟨⟨"home"⟩, ⟨"t"⟩, none⟩

/-- A template with another one inside, next to a hidden directory with one. -/
def files : FileTree :=
  ⟨[(["t"], .dir), (["t", "acme"], .dir), (["t", "acme", "card"], .dir),
    (["t", "acme", "card", "config.json"], .file "\x7b\x7d".toUTF8),
    (["t", "acme", "card", "inner"], .dir),
    (["t", "acme", "card", "inner", "config.json"], .file "\x7b\x7d".toUTF8),
    (["t", "acme", ".git"], .dir), (["t", "acme", ".git", "x"], .dir),
    (["t", "acme", ".git", "x", "config.json"], .file "\x7b\x7d".toUTF8)], []⟩

theorem files_wellFormed : files.WellFormed := by
  decide

theorem admissible_of_visited {names : List String} (hv : Visited settings files ["t"] names) :
    admissible (settings.pathBelow names) := by
  have hall : ∀ e ∈ files.entries, admissible (settings.pathBelow e.1.tail) := by decide
  exact hall _ (FileTree.mem_of_lookup hv.dir)

theorem holdsConfig_card : HoldsConfig settings files ["t"] ["acme", "card"] :=
  ⟨⟨_, rfl⟩, by decide⟩

theorem installed_card : Installed settings files ["t"] ["acme", "card"] where
  ne_nil := by simp
  dir := rfl
  visible := by decide
  apart := by
    intro front rest hsplit hrest hlength
    have htotal := congrArg List.length hsplit
    have hpos := List.length_pos_iff.2 hrest
    rw [List.length_append] at htotal
    exact absurd htotal (by simp; omega)
  deep := by decide
  holds := holdsConfig_card

end InstalledSample

open InstalledSample in
/-- The template is listed, what is inside of it and what is hidden is not. -/
theorem installed_are_listed_sample :
    files.WellFormed ∧ files.locate settings.templatesDir = .ok ["t"] ∧
      ∃ found : List (List String),
        installedTemplates settings files = .ok (found.map (templateOf settings)) ∧
        ["acme", "card"] ∈ found ∧ ["acme", "card", "inner"] ∉ found ∧
        ["acme", ".git", "x"] ∉ found := by
  have hlocate : files.locate settings.templatesDir = .ok ["t"] := by decide
  obtain ⟨-, hlisted⟩ := installed_are_listed settings files_wellFormed
  obtain ⟨found, hfound, -, hmem⟩ :=
    (hlisted ["t"] hlocate rfl).2 fun _ => admissible_of_visited
  refine ⟨files_wellFormed, hlocate, found, hfound, (hmem _).2 installed_card, ?_, ?_⟩
  · intro hinner
    exact ((hmem _).1 hinner).apart ["acme", "card"] ["inner"] rfl (by simp) (by simp)
      holdsConfig_card
  · intro hgit
    exact absurd (((hmem _).1 hgit).visible ".git" (by simp)) (by decide)

open InstalledSample in
/-- A namespace that is hidden is searched all the same. -/
theorem hidden_namespace_is_listed :
    isHidden ".hidden" = true ∧
      installedTemplates settings
          ⟨[(["t"], .dir), (["t", ".hidden"], .dir), (["t", ".hidden", "x"], .dir),
            (["t", ".hidden", "x", "config.json"], .file "\x7b\x7d".toUTF8)], []⟩ =
        .ok [⟨".hidden", "x", ⟨"t/.hidden/x"⟩⟩] := by
  decide +kernel

end Stencil
