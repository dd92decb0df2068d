import Stencil.Proofs.Files.Ancestors

/-!
# Paths relative to a directory

A place below a directory has the path of the directory with the names on the way joined to it. What
comes after the directory in such a path is the names again (`after?_foldl_joinText`), whatever idle
steps the path of the directory ends in.
-/

set_option autoImplicit false

namespace Stencil

open FileTree (Proper)

namespace Path

/-! ## 1. Components -/

theorem components_joinText {p : Path} {name : String} (h : Proper name) :
    (p.joinText name).components = p.components ++ [.name name] := by
  obtain ⟨front, hparts, hfront⟩ := parts_joinText (p := p) h.not_idle h.no_slash
  have hname : componentOf name = .name name := if_neg h.ne_up
  have hbody : p.parts.2.filter (fun s => !isIdle s) = front.filter fun s => !isIdle s := by
    rcases hfront with hfront | hfront
    · rw [hfront]
    · simp [hfront, isIdle]
  unfold components
  rw [hparts]
  rcases hp : p.parts with ⟨anchor, ss⟩
  rw [hp] at hbody
  cases anchor <;> simp [hbody, h.not_idle, hname]

theorem components_foldl_joinText (p : Path) {names : List String} (h : ∀ n ∈ names, Proper n) :
    (names.foldl joinText p).components = p.components ++ names.map .name := by
  induction names generalizing p with
  | nil => simp
  | cons name names ih =>
    rw [List.foldl_cons, ih _ fun n hn => h n (List.mem_cons_of_mem _ hn),
      components_joinText (h name List.mem_cons_self)]
    simp

/-- A path that is not empty says something. -/
theorem components_ne_nil {p : Path} (hp : p.text ≠ "") : p.components ≠ [] := by
  cases habs : p.isAbsolute with
  | true =>
    unfold components
    rw [parts_of_isAbsolute habs]
    exact List.cons_ne_nil _ _
  | false =>
    obtain ⟨s, rest, hsteps, hs⟩ := FileTree.head_steps_ne_empty habs hp
    by_cases hhere : s = "."
    · subst hhere
      unfold components
      rw [parts_of_here habs hsteps]
      exact List.cons_ne_nil _ _
    · unfold components
      rw [parts_of_free habs (by simpa [hsteps] using hhere), hsteps]
      simp [isIdle, hs, hhere]

/-! ## 2. What comes after a directory -/

/-- The steps that say something are skipped together with the idle ones between them. -/
theorem skipSteps_append (front rest : List String) :
    (skipSteps (front.filter fun s => !isIdle s).length (front ++ rest)).dropWhile isIdle =
      rest.dropWhile isIdle := by
  induction front with
  | nil => rw [List.filter_nil, List.length_nil, skipSteps, List.nil_append]
  | cons s front ih =>
    cases hs : isIdle s with
    | false =>
      rw [List.filter_cons_of_pos (by simp [hs]), List.length_cons, List.cons_append, skipSteps,
        if_neg (by simp [hs])]
      exact ih
    | true =>
      rw [List.filter_cons_of_neg (by simp [hs]), List.cons_append]
      cases hcount : (front.filter fun s => !isIdle s).length with
      | zero =>
        rw [hcount, skipSteps] at ih
        rw [skipSteps, List.dropWhile_cons_of_pos hs, ih]
      | succ n =>
        rw [hcount] at ih
        rw [skipSteps, if_pos hs, ih]

/-- Joined names come behind the steps of the path, an empty last one apart. -/
theorem parts_foldl_joinText {p : Path} {names : List String} (h : ∀ n ∈ names, Proper n)
    (hne : names ≠ []) :
    ∃ front, (names.foldl joinText p).parts = (p.parts.1, front ++ names) ∧
      (p.parts.2 = front ∨ p.parts.2 = front ++ [""]) := by
  induction names using List.reverseRecOn with
  | nil => exact absurd rfl hne
  | append_singleton names name ih =>
    have hname : Proper name := h name (by simp)
    rw [List.foldl_append, List.foldl_cons, List.foldl_nil]
    obtain ⟨front, hparts, hfront⟩ :=
      parts_joinText (p := names.foldl joinText p) hname.not_idle hname.no_slash
    rcases List.eq_nil_or_concat names with rfl | ⟨before, last, hlast⟩
    · exact ⟨front, hparts, hfront⟩
    · have hnames : ∀ n ∈ names, Proper n := fun n hn => h n (by simp [hn])
      obtain ⟨start, hbefore, hstart⟩ := ih hnames (by simp [hlast])
      rw [hbefore] at hparts hfront
      refine ⟨start, ?_, hstart⟩
      rcases hfront with hfront | hfront
      · rw [hparts, ← hfront, List.append_assoc]
      · -- the step before the name is a name, and no name is empty
        rw [hlast, List.concat_eq_append, ← List.append_assoc] at hfront
        have hempty : last = "" := by simpa using (List.append_inj' hfront rfl).2
        exact absurd hempty (hnames last (by simp [hlast])).ne_empty

/-- Names behind each other are a path whose components they are. -/
theorem components_intercalate {names : List String} (h : ∀ n ∈ names, Proper n)
    (hne : names ≠ []) : components ⟨"/".intercalate names⟩ = names.map .name := by
  obtain ⟨name, rest, rfl⟩ := List.exists_cons_of_ne_nil hne
  -- the names come back: none of them is idle
  have hbody : (name :: rest).filter (fun s => !isIdle s) = name :: rest :=
    List.filter_eq_self.2 fun n hn => by simp [(h n hn).not_idle]
  have hparts : parts ⟨"/".intercalate (name :: rest)⟩ = (.free, name :: rest) :=
    parts_ofParts_free (h name List.mem_cons_self).not_idle fun n hn => (h n hn).no_slash
  unfold components
  rw [hparts]
  dsimp only
  rw [hbody]
  exact List.map_congr_left fun n hn => if_neg (h n hn).ne_up

/-- After a directory, in the path of a place below it, come the names on the way. -/
theorem after?_foldl_joinText {p : Path} {names : List String} (hp : p.text ≠ "")
    (h : ∀ n ∈ names, Proper n) (hne : names ≠ []) :
    p.after? (names.foldl joinText p) = some ⟨"/".intercalate names⟩ := by
  obtain ⟨front, hparts, hfront⟩ := parts_foldl_joinText (p := p) h hne
  obtain ⟨name, rest, rfl⟩ := List.exists_cons_of_ne_nil hne
  have hidle : isIdle name = false := (h name List.mem_cons_self).not_idle
  -- as many steps are skipped as there are in front
  have hsays : p.parts.2.filter (fun s => !isIdle s) = front.filter fun s => !isIdle s := by
    rcases hfront with hfront | hfront
    · rw [hfront]
    · simp [hfront, isIdle]
  have hcount : (if p.parts.1 = .free then p.components.length else p.components.length - 1) =
      (front.filter fun s => !isIdle s).length := by
    rw [← hsays]
    unfold components
    rcases p.parts with ⟨anchor, ss⟩
    cases anchor <;> simp
  have hskip := skipSteps_append front (name :: rest)
  rw [List.dropWhile_cons_of_neg (by simp [hidle])] at hskip
  have hdrop : dropIdle (name :: rest) = name :: rest := by
    obtain ⟨before, last, hlast⟩ := (List.eq_nil_or_concat (name :: rest)).resolve_left hne
    rw [hlast, List.concat_eq_append] at h ⊢
    exact dropIdle_concat (h last (by simp)).not_idle before
  unfold after?
  rw [hparts, components_foldl_joinText p h]
  dsimp only
  rw [if_pos (by simp)]
  split
  · rename_i hnil
    exact absurd hnil (components_ne_nil hp)
  · rw [hcount, hskip, hdrop]
    rfl

end Path

end Stencil
