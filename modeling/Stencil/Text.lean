/-!
# Text as a list of characters

Everything in this library that looks inside a text works on its characters as a list: cutting
at a separator, trimming, looking for a mark. The functions here are the ones that more than one
part needs; each is a plain recursion on the list, and the small facts that say what it keeps
stand beside it.
-/

set_option autoImplicit false

namespace Stencil.Text

/-! ## Cutting at a separator -/

/-- The pieces of a text between its separators; a text without one is a single piece. -/
def pieces (sep : Char) : List Char → List (List Char)
  | [] => [[]]
  | c :: cs =>
    if c = sep then [] :: pieces sep cs
    else
      match pieces sep cs with
      | [] => [[c]]
      | p :: ps => (c :: p) :: ps

/-- `pieces` on strings. -/
def split (sep : Char) (s : String) : List String :=
  (pieces sep s.toList).map String.ofList

theorem pieces_ne_nil (sep : Char) (cs : List Char) : pieces sep cs ≠ [] := by
  induction cs with
  | nil => simp [pieces]
  | cons c cs ih =>
    unfold pieces
    split
    · simp
    · split <;> simp

/-- No piece contains the separator. -/
theorem not_mem_of_mem_pieces {sep : Char} {cs p : List Char} (h : p ∈ pieces sep cs) : sep ∉ p := by
  induction cs generalizing p with
  | nil =>
    rw [pieces, List.mem_singleton] at h
    simp [h]
  | cons c cs ih =>
    unfold pieces at h
    split at h
    · rcases List.mem_cons.1 h with rfl | h
      · simp
      · exact ih h
    · rename_i hc
      split at h
      · rw [List.mem_singleton] at h
        simp [h, Ne.symm hc]
      · rename_i q qs hq
        rcases List.mem_cons.1 h with rfl | h
        · have hsep : sep ∉ q := ih (by rw [hq]; exact List.mem_cons_self)
          simp [hsep, Ne.symm hc]
        · exact ih (by rw [hq]; exact List.mem_cons_of_mem _ h)

theorem not_mem_of_mem_split {sep : Char} {s p : String} (h : p ∈ split sep s) :
    sep ∉ p.toList := by
  obtain ⟨q, hq, rfl⟩ := List.mem_map.1 h
  simpa using not_mem_of_mem_pieces hq

/-- Texts with a separator text between neighbours. -/
def joinWith (sep : List Char) : List (List Char) → List Char
  | [] => []
  | [p] => p
  | p :: q :: rest => p ++ sep ++ joinWith sep (q :: rest)

/-- Putting the separators back gives the text that was cut. -/
theorem joinWith_pieces (sep : Char) (cs : List Char) : joinWith [sep] (pieces sep cs) = cs := by
  induction cs with
  | nil => rfl
  | cons c cs ih =>
    have hne := pieces_ne_nil sep cs
    unfold pieces
    split
    · rename_i h
      cases hp : pieces sep cs with
      | nil => exact absurd hp hne
      | cons p ps => rw [hp] at ih; simp [joinWith, ih, h]
    · cases hp : pieces sep cs with
      | nil => exact absurd hp hne
      | cons p ps =>
        rw [hp] at ih
        cases ps with
        | nil => simpa [joinWith] using ih
        | cons q qs => simpa [joinWith] using ih

/-! ## Ends -/

/-- A text without the blanks at its two ends. -/
def trim (blank : Char → Bool) (cs : List Char) : List Char :=
  ((cs.dropWhile blank).reverse.dropWhile blank).reverse

/-- What follows `start`, when the text starts with it. -/
def after? (start : List Char) (cs : List Char) : Option (List Char) :=
  if start.isPrefixOf cs then some (cs.drop start.length) else none

/-- What stands before `ending`, when the text ends with it. -/
def before? (ending : List Char) (cs : List Char) : Option (List Char) :=
  if ending.isSuffixOf cs then some (cs.take (cs.length - ending.length)) else none

/-! ## Looking for a mark -/

/-- The text before the first occurrence of `mark`, and the text after it. -/
def breakOn (mark : List Char) : List Char → Option (List Char × List Char)
  | [] => if mark.isEmpty then some ([], []) else none
  | c :: cs =>
    if mark.isPrefixOf (c :: cs) then some ([], (c :: cs).drop mark.length)
    else (breakOn mark cs).map fun found => (c :: found.1, found.2)

/-- The mark occurs somewhere in the text. -/
def contains (mark cs : List Char) : Bool :=
  (breakOn mark cs).isSome

/-- `contains` on strings. -/
def has (s mark : String) : Bool :=
  contains mark.toList s.toList

/-- Breaking at a mark and putting the mark back gives the text. -/
theorem eq_of_breakOn {mark cs before after : List Char}
    (h : breakOn mark cs = some (before, after)) : cs = before ++ mark ++ after := by
  induction cs generalizing before with
  | nil =>
    unfold breakOn at h
    split at h
    · rename_i hm
      simp only [Option.some.injEq, Prod.mk.injEq] at h
      obtain ⟨rfl, rfl⟩ := h
      simp [List.isEmpty_iff.1 hm]
    · simp at h
  | cons c cs ih =>
    unfold breakOn at h
    split at h
    · rename_i hp
      simp only [Option.some.injEq, Prod.mk.injEq] at h
      obtain ⟨rfl, rfl⟩ := h
      obtain ⟨t, ht⟩ := List.isPrefixOf_iff_prefix.1 hp
      simp [← ht]
    · obtain ⟨found, hf, he⟩ := Option.map_eq_some_iff.1 h
      simp only [Prod.mk.injEq] at he
      obtain ⟨rfl, rfl⟩ := he
      rw [ih hf]; simp

/-- What comes after a mark is shorter than the text. -/
theorem length_of_breakOn {mark cs before after : List Char}
    (h : breakOn mark cs = some (before, after)) :
    cs.length = before.length + mark.length + after.length := by
  rw [eq_of_breakOn h]; simp [Nat.add_assoc]

end Stencil.Text
