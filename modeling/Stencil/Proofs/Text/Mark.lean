import Stencil.Text

/-!
# The first occurrence of a mark

`breakOn mark cs` stops at the first place where the mark stands. What "first" means is said without
the search: the text in front, with the mark put behind it, holds the mark at its end only
(`FirstAtEnd`). An occurrence that begins in front ends before the text that follows, so nothing
that follows can make the search stop earlier, and

    breakOn mark (front ++ mark ++ rest) = some (front, rest)

for every `rest` (`breakOn_of_firstAtEnd`). A search finds nothing only where the mark is nowhere in
the text (`breakOn_eq_none_iff`).
-/

set_option autoImplicit false

namespace Stencil.Text

/-- The mark, put behind a text, occurs first at that place. -/
def FirstAtEnd (mark front : List Char) : Prop :=
  ∀ before after, front ++ mark = before ++ mark ++ after → after = []

theorem FirstAtEnd.tail {mark front : List Char} {c : Char} (h : FirstAtEnd mark (c :: front)) :
    FirstAtEnd mark front := by
  intro before after heq
  refine h (c :: before) after ?_
  rw [List.cons_append, heq]
  simp

/-- The mark does not begin any earlier, whatever follows it. -/
theorem FirstAtEnd.not_isPrefixOf {mark front : List Char} {c : Char}
    (h : FirstAtEnd mark (c :: front)) (rest : List Char) :
    mark.isPrefixOf (c :: (front ++ mark ++ rest)) = false := by
  rw [Bool.eq_false_iff]
  intro hstarts
  have hwhole : mark <+: (c :: front ++ mark) ++ rest := by
    rw [List.cons_append, List.cons_append]
    exact List.isPrefixOf_iff_prefix.1 hstarts
  have hmark : mark <+: c :: front ++ mark :=
    List.prefix_of_prefix_length_le hwhole (List.prefix_append _ rest) (by simp; omega)
  obtain ⟨after, hafter⟩ := hmark
  have hnil : after = [] := h [] after (by rw [← hafter]; simp)
  have hlength := congrArg List.length hafter
  rw [hnil] at hlength
  simp only [List.length_append, List.length_cons, List.length_nil] at hlength
  omega

/-- A single character that is not in a text occurs first behind it. -/
theorem firstAtEnd_singleton {c : Char} {front : List Char} (h : c ∉ front) :
    FirstAtEnd [c] front := by
  intro before after heq
  rcases List.eq_nil_or_concat after with hnil | ⟨rest, last, hlast⟩
  · exact hnil
  · -- the character would stand in what is in front of the last place
    rw [hlast, List.concat_eq_append, ← List.append_assoc] at heq
    have hfront : front = before ++ [c] ++ rest := (List.append_inj' heq rfl).1
    exact absurd (hfront ▸ by simp) h

theorem breakOn_of_firstAtEnd {mark front : List Char} (hne : mark ≠ [])
    (h : FirstAtEnd mark front) (rest : List Char) :
    breakOn mark (front ++ mark ++ rest) = some (front, rest) := by
  induction front with
  | nil =>
    obtain ⟨m, ms, rfl⟩ := List.exists_cons_of_ne_nil hne
    have hstarts : (m :: ms).isPrefixOf (m :: (ms ++ rest)) = true :=
      List.isPrefixOf_iff_prefix.2 (List.prefix_append (m :: ms) rest)
    simp only [List.nil_append, List.cons_append, breakOn, hstarts, if_true]
    simp
  | cons c front ih =>
    rw [List.cons_append, List.cons_append, breakOn, h.not_isPrefixOf rest, ih h.tail]
    rfl

theorem breakOn_eq_none_iff {mark cs : List Char} (hne : mark ≠ []) :
    breakOn mark cs = none ↔ ¬ mark <:+: cs := by
  induction cs with
  | nil => simp [breakOn, hne]
  | cons c cs ih =>
    rw [List.infix_cons_iff, breakOn]
    by_cases hstarts : mark.isPrefixOf (c :: cs) = true
    · simp [List.isPrefixOf_iff_prefix.1 hstarts, hstarts]
    · rw [if_neg hstarts, Option.map_eq_none_iff, ih]
      rw [List.isPrefixOf_iff_prefix] at hstarts
      simp [hstarts]

/-- What stands in front of the place where the search stops does not hold the mark before it. -/
theorem firstAtEnd_of_breakOn {mark cs front rest : List Char}
    (h : breakOn mark cs = some (front, rest)) : FirstAtEnd mark front := by
  induction cs generalizing front with
  | nil =>
    unfold breakOn at h
    split at h
    · rename_i hempty
      rw [List.isEmpty_iff] at hempty
      simp only [Option.some.injEq, Prod.mk.injEq] at h
      rw [hempty, ← h.1]
      intro before after heq
      exact (List.append_eq_nil_iff.1 heq.symm).2
    · exact absurd h (by simp)
  | cons c cs ih =>
    unfold breakOn at h
    split at h
    · rename_i hstarts
      simp only [Option.some.injEq, Prod.mk.injEq] at h
      rw [← h.1]
      intro before after heq
      have hlength := congrArg List.length heq
      simp only [List.nil_append, List.length_append] at hlength
      exact List.length_eq_zero_iff.1 (by omega)
    · rename_i hstarts
      obtain ⟨found, hfound, heq⟩ := Option.map_eq_some_iff.1 h
      simp only [Prod.mk.injEq] at heq
      obtain ⟨rfl, rfl⟩ := heq
      intro before after hsplit
      cases before with
      | nil =>
        -- an occurrence at the very front would have stopped the search there
        refine absurd ?_ hstarts
        rw [List.isPrefixOf_iff_prefix, eq_of_breakOn hfound]
        refine ⟨after ++ found.2, ?_⟩
        rw [← List.append_assoc, ← List.nil_append mark, ← hsplit]
        rfl
      | cons b before =>
        simp only [List.cons_append, List.cons.injEq] at hsplit
        exact ih hfound before after hsplit.2

end Stencil.Text
