import Stencil.Proofs.Scaffold.Complete

/-!
# What a copy of a directory asks for

A relation between the states of a copy holds along the whole copy when it holds of a list and of an
attempt for a place below the source that is not passed over. That is all that a copy ever asks for,
whether it ends well or not:

    c.source = source.join (below names)        names ≠ []        s.Takes source names

The induction is on the walk. The derivations of `Walked` are of no use here, since they exist only
for walks that end well; so each step of the walk is followed to where it fails (`Step.after_bind`).
-/

set_option autoImplicit false

namespace Stencil.Scaffold

open FileTree (Proper Extends)
open Stencil.Path (below)

/-! ## 1. Relations that hold along a copy -/

/-- A relation on noted states that lists and attempts keep. -/
structure Along (s : Scaffold) (data : Store) (source target : Path)
    (rel : World × List (Call World) → World × List (Call World) → Prop) : Prop where
  refl : ∀ st, rel st st
  trans : ∀ {st st₁ st₂}, rel st st₁ → rel st₁ st₂ → rel st st₂
  wellFormed : ∀ {st st'}, rel st st' → st.1.files.WellFormed → st'.1.files.WellFormed
  list : ∀ p st, rel st ((s.access data).noting.list p st).2
  copy : ∀ {w : World} {names : List String} {rendered : Path} (calls : List (Call World)),
    (∀ n ∈ names, Proper n) → names ≠ [] → s.Takes source names →
    Render.path (s.context data w) (below names) = .ok rendered →
    rel (w, calls) ((s.access data).noting.copy (source.join (below names)) (target.join rendered)
      (w, calls)).2

section

variable {s : Scaffold} {data : Store} {source target : Path}
variable {rel : World × List (Call World) → World × List (Call World) → Prop}

theorem Along.copyFiles (h : s.Along data source target rel) {places : List (List String)}
    (hplaces : ∀ place ∈ places, (∀ n ∈ place, Proper n) ∧ place ≠ [] ∧ s.Takes source place)
    (report : CopyReport) (st : World × List (Call World)) :
    rel st (copyFiles (s.access data).noting target report
      (places.map fun place => (source.join (below place), below place)) st).2 := by
  induction places generalizing report st with
  | nil => exact h.refl st
  | cons names rest ih =>
    obtain ⟨w, calls⟩ := st
    rw [List.map_cons, Scaffold.copyFiles]
    cases hrendered : Render.path (s.context data w) (below names) with
    | error e =>
      have hrender : (s.access data).noting.render (below names) (w, calls) =
          (.error e, w, calls) := by
        show (Render.path (s.context data w) (below names), w, calls) = _
        rw [hrendered]
      rw [Step.bind_of_error hrender]
      exact h.refl _
    | ok rendered =>
      have hrender : (s.access data).noting.render (below names) (w, calls) =
          (.ok rendered, w, calls) := by
        show (Render.path (s.context data w) (below names), w, calls) = _
        rw [hrendered]
      obtain ⟨hproper, hne, htakes⟩ := hplaces names List.mem_cons_self
      rw [Step.bind_of_ok hrender]
      refine Step.after_bind (h.copy calls hproper hne htakes hrendered)
        fun outcome st₁ _ hst₁ => h.trans hst₁ ?_
      exact ih (fun place hplace => hplaces place (List.mem_cons_of_mem _ hplace)) _ _

theorem Along.walkFiles (h : s.Along data source target rel) {names : List String}
    (hnames : ∀ n ∈ names, Proper n) (report : CopyReport) {st : World × List (Call World)}
    (hw : st.1.files.WellFormed) :
    rel st (s.walkFiles (s.access data).noting source target (below names) report st).2 := by
  have hlists := h.list (source.join (below names)) st
  rcases hlist : (s.access data).noting.list (source.join (below names)) st with ⟨e | entries, st₁⟩
  · rw [hlist] at hlists
    rw [Scaffold.walkFiles, Step.bind_of_error hlist]
    exact hlists
  · rw [hlist] at hlists
    rw [Scaffold.walkFiles, Step.bind_of_ok hlist,
      Step.bind_of_ok (show Step.asks _ _ = (Except.ok _, _) from rfl), Step.snd_bind_pure]
    have hl : World.list (source.join (below names)) st.1 = (.ok entries, st₁.1) :=
      Prod.ext (Prod.mk.inj hlist).1 (congrArg Prod.fst (Prod.mk.inj hlist).2)
    obtain ⟨-, dir, hdir, -, rfl⟩ := list_eq_ok.1 hl
    rw [kept_list hw hnames hdir, List.filter_map]
    refine h.trans hlists (h.copyFiles (fun place hplace => ?_) _ _)
    have hchild := (List.mem_filter.1 hplace).1
    obtain ⟨n, -, rfl, htakes⟩ := mem_children.1 hchild
    exact ⟨proper_of_mem_children hw hnames hchild, by simp, htakes⟩

theorem Along.walk (h : s.Along data source target rel) {rels : List Path}
    {places : List (List String)} (hrels : rels = places.map below)
    (hproper : ∀ place ∈ places, ∀ n ∈ place, Proper n) (report : CopyReport)
    {st : World × List (Call World)} (hw : st.1.files.WellFormed) :
    rel st (s.walk (s.access data).noting source target report rels st).2 := by
  induction report, rels using walk.induct s (s.access data).noting source target
    generalizing st places with
  | case1 report =>
    rw [walk_nil]
    exact h.refl st
  | case2 report rel' rest ih₁ ih₂ =>
    obtain ⟨names, places, rfl, rfl, rfl⟩ := List.map_eq_cons_iff.1 hrels.symm
    have hnames : ∀ n ∈ names, Proper n := hproper names List.mem_cons_self
    rw [walk_cons]
    refine Step.after_bind (h.walkFiles hnames report hw)
      fun found st₁ hfiles hst₁ => h.trans hst₁ ?_
    have hw₁ := h.wellFormed hst₁ hw
    obtain ⟨dir, copies, -, -, -, hsubdirs, -, -⟩ := copied_of_walkFiles hfiles hw hnames
    have hdirs := ih₁ st found.1 found.2 st₁ hfiles hsubdirs
      (fun place hplace => proper_of_mem_children hw hnames (List.mem_filter.1 hplace).1) hw₁
    refine Step.after_bind hdirs fun report₂ st₂ _ hst₂ => h.trans hst₂ ?_
    exact ih₂ report₂ rfl (fun place hplace => hproper place (List.mem_cons_of_mem _ hplace))
      (h.wellFormed hst₂ hw₁)

/-- What holds along a copy holds of it as a whole, however it ends. -/
theorem Along.notedCopy (h : s.Along data source target rel) {w : World}
    (hw : w.files.WellFormed) : rel (w, []) (s.notedCopy data source target (w, [])).2 := by
  rw [notedCopy_eq_notedWalk s data source target w hw]
  exact h.walk (show [⟨""⟩] = [[]].map below from rfl) (by simp) .empty hw

end

/-! ## 2. Attempts -/

/-- An attempt aimed at the location. -/
def AimedAt (t : FileTree) (copies : List (Attempt World)) (loc : Location) : Prop :=
  ∃ c ∈ copies, loc = t.aim c.target

theorem AimedAt.mono {t : FileTree} {copies copies' : List (Attempt World)}
    (hsub : copies ⊆ copies') (loc : Location) (h : AimedAt t copies loc) :
    AimedAt t copies' loc := by
  obtain ⟨c, hc, hloc⟩ := h
  exact ⟨c, hsub hc, hloc⟩

theorem AimedAt.before {written : Location → Prop} {t t' : FileTree} (h : Extends written t t')
    {copies : List (Attempt World)} {loc : Location} (hloc : AimedAt t' copies loc) :
    AimedAt t copies loc := by
  obtain ⟨c, hc, rfl⟩ := hloc
  exact ⟨c, hc, h.aim_eq c.target⟩

theorem AimedAt.append {t t₁ t₂ : FileTree} {copies copies' : List (Attempt World)}
    (h : Extends (AimedAt t copies) t t₁) (h' : Extends (AimedAt t₁ copies') t₁ t₂) :
    Extends (AimedAt t (copies ++ copies')) t t₂ := by
  refine (h.mono (AimedAt.mono (List.subset_append_left _ _))).trans (h'.mono fun loc hloc => ?_)
  exact (hloc.before h).mono (List.subset_append_right _ _)

section

variable (s : Scaffold) (data : Store) (source target : Path)

/-- The attempt is for a place below the source that is not passed over, made after some writing. -/
structure Attempt.Placed (t : FileTree) (c : Attempt World) (names : List String) : Prop where
  proper : ∀ n ∈ names, Proper n
  ne_nil : names ≠ []
  takes : s.Takes source names
  source_eq : c.source = source.join (below names)
  later : Extends (fun _ => True) t c.before.files

/-- Calls were added, the attempts among them have places, and what was touched is what they aimed
at. -/
def Places (st st' : World × List (Call World)) : Prop :=
  ∃ calls, st'.2 = st.2 ++ calls ∧
    Extends (AimedAt st.1.files (attempts calls)) st.1.files st'.1.files ∧
    ∀ c ∈ attempts calls, ∃ names, Attempt.Placed s source st.1.files c names

theorem along_places : s.Along data source target (s.Places source) where
  refl st := ⟨[], (List.append_nil _).symm, .refl _ _, by simp [attempts]⟩
  trans := by
    rintro st st₁ st₂ ⟨calls, hcalls, hlater, hplaced⟩ ⟨calls', hcalls', hlater', hplaced'⟩
    refine ⟨calls ++ calls', by rw [hcalls', hcalls, List.append_assoc], ?_, ?_⟩
    · rw [attempts_append]
      exact AimedAt.append hlater hlater'
    · intro c hc
      rw [attempts_append] at hc
      rcases List.mem_append.1 hc with hc | hc
      · exact hplaced c hc
      · obtain ⟨names, h⟩ := hplaced' c hc
        exact ⟨names, { h with later := (hlater.mono fun _ _ => trivial).trans h.later }⟩
  wellFormed := fun ⟨_, _, hlater, _⟩ hw => hlater.wellFormed hw
  list p st := by
    refine ⟨[.list st.1 p], rfl, ?_, by simp [attempts]⟩
    show Extends _ st.1.files (World.list p st.1).2.files
    rw [snd_list]
    exact .refl _ _
  copy := by
    intro w names rendered calls hproper hne htakes _
    refine ⟨_, rfl, ?_, ?_⟩
    · refine (s.extends_copyFile data _ _ (Prod.eta _).symm).mono fun loc hloc => ?_
      exact ⟨_, List.mem_singleton_self _, hloc⟩
    · intro c hc
      rw [attempts, attempts, List.mem_singleton] at hc
      subst hc
      exact ⟨names, hproper, hne, htakes, rfl, .refl _ _⟩

/-- Every attempt of a copy, however it ends, has a place below the source. -/
theorem placed_of_mem_attempts {w : World} (hw : w.files.WellFormed) {c : Attempt World}
    (hc : c ∈ attempts (s.notedCopy data source target (w, [])).2.2) :
    ∃ names, Attempt.Placed s source w.files c names := by
  obtain ⟨calls, hcalls, -, hplaced⟩ := (s.along_places data source target).notedCopy hw
  rw [List.nil_append] at hcalls
  exact hplaced c (hcalls ▸ hc)

/-- A copy, however it ends, touches nothing but what its attempts aimed at. -/
theorem extends_copyDir {w : World} (hw : w.files.WellFormed) :
    Extends (AimedAt w.files (attempts (s.notedCopy data source target (w, [])).2.2))
      w.files (s.copyDir data source target w).2.files := by
  obtain ⟨calls, hcalls, hextends, -⟩ := (s.along_places data source target).notedCopy hw
  rw [List.nil_append] at hcalls
  rw [copyDir_eq_notedCopy, hcalls]
  exact hextends

end

end Stencil.Scaffold
