import Mathlib.Data.List.Basic
import Stencil.Text

/-!
# Cutting a text that was put together

A path is built by putting names behind a slash, a key by putting names behind a dot. Cutting at the
separator undoes that: the pieces of the whole are the pieces of its parts one after another
(`split_append_sep`), and a name without the separator is a single piece (`split_of_not_mem`). So
texts that are joined at slashes are cut into what each of them is cut into (`split_intercalate`),
and joining undoes cutting (`intercalate_split`).
-/

set_option autoImplicit false

namespace Stencil.Text

theorem pieces_append_sep (sep : Char) (cs ds : List Char) :
    pieces sep (cs ++ sep :: ds) = pieces sep cs ++ pieces sep ds := by
  induction cs with
  | nil => simp [pieces]
  | cons c cs ih =>
    rw [List.cons_append, pieces, pieces, ih]
    split
    · rfl
    · cases hp : pieces sep cs with
      | nil => exact absurd hp (pieces_ne_nil sep cs)
      | cons p ps => rfl

theorem pieces_of_not_mem {sep : Char} {cs : List Char} (h : sep ∉ cs) : pieces sep cs = [cs] := by
  induction cs with
  | nil => rfl
  | cons c cs ih =>
    rw [List.mem_cons, not_or] at h
    rw [pieces, if_neg (Ne.symm h.1), ih h.2]

/-- Cutting brings nothing in. -/
theorem mem_of_mem_pieces {sep c : Char} {cs p : List Char} (hp : p ∈ pieces sep cs) (hc : c ∈ p) :
    c ∈ cs := by
  induction cs generalizing p with
  | nil => exact List.mem_singleton.1 hp ▸ hc
  | cons d cs ih =>
    rw [pieces] at hp
    split at hp
    · rcases List.mem_cons.1 hp with rfl | hp
      · exact absurd hc List.not_mem_nil
      · exact List.mem_cons_of_mem d (ih hp hc)
    · obtain ⟨q, qs, hpieces⟩ := List.exists_cons_of_ne_nil (pieces_ne_nil sep cs)
      rw [hpieces] at hp ih
      rcases List.mem_cons.1 hp with rfl | hp
      · rcases List.mem_cons.1 hc with rfl | hc
        · exact List.mem_cons_self
        · exact List.mem_cons_of_mem d (ih List.mem_cons_self hc)
      · exact List.mem_cons_of_mem d (ih (List.mem_cons_of_mem q hp) hc)

theorem split_append_sep (sep : Char) (s t : String) :
    split sep (s ++ String.singleton sep ++ t) = split sep s ++ split sep t := by
  have hlist : (s ++ String.singleton sep ++ t).toList = s.toList ++ sep :: t.toList := by
    simp [String.toList_append]
  rw [split, hlist, pieces_append_sep, List.map_append, split, split]

theorem split_of_not_mem {sep : Char} {s : String} (h : sep ∉ s.toList) : split sep s = [s] := by
  rw [split, pieces_of_not_mem h, List.map_singleton, String.ofList_toList]

theorem split_append_slash (s t : String) :
    split '/' (s ++ "/" ++ t) = split '/' s ++ split '/' t :=
  split_append_sep '/' s t

theorem split_append_dot (s t : String) : split '.' (s ++ "." ++ t) = split '.' s ++ split '.' t :=
  split_append_sep '.' s t

/-- The pieces of joined texts are the pieces of each. -/
theorem pieces_intercalate (sep : Char) {texts : List (List Char)} (hne : texts ≠ []) :
    pieces sep ([sep].intercalate texts) = texts.flatMap (pieces sep) := by
  induction texts with
  | nil => exact absurd rfl hne
  | cons text rest ih =>
    cases rest with
    | nil => simp [List.intercalate]
    | cons next rest =>
      have hjoin : [sep].intercalate (text :: next :: rest) =
          text ++ sep :: [sep].intercalate (next :: rest) := by
        simp [List.intercalate, List.intersperse]
      rw [hjoin, pieces_append_sep, ih (List.cons_ne_nil next rest)]
      rfl

theorem split_intercalate {texts : List String} (hne : texts ≠ []) :
    split '/' ("/".intercalate texts) = texts.flatMap (split '/') := by
  rw [split, String.toList_intercalate, show "/".toList = ['/'] from rfl,
    pieces_intercalate '/' (by simpa using hne), List.flatMap_map, List.map_flatMap]
  rfl

theorem flatMap_split_of_not_mem {texts : List String} (h : ∀ s ∈ texts, '/' ∉ s.toList) :
    texts.flatMap (split '/') = texts := by
  induction texts with
  | nil => rfl
  | cons text rest ih =>
    obtain ⟨htext, hrest⟩ := List.forall_mem_cons.1 h
    rw [List.flatMap_cons, split_of_not_mem htext, ih hrest]
    rfl

theorem split_intercalate_of_not_mem {texts : List String} (hne : texts ≠ [])
    (h : ∀ s ∈ texts, '/' ∉ s.toList) : split '/' ("/".intercalate texts) = texts := by
  rw [split_intercalate hne, flatMap_split_of_not_mem h]

theorem joinWith_singleton (sep : Char) (texts : List (List Char)) :
    joinWith [sep] texts = [sep].intercalate texts := by
  induction texts with
  | nil => rfl
  | cons text rest ih =>
    cases rest with
    | nil => simp [joinWith, List.intercalate]
    | cons next rest =>
      rw [joinWith, ih]
      simp [List.intercalate, List.intersperse]

/-- What is joined at a separator is what was cut there. -/
theorem intercalate_split (s : String) : "/".intercalate (split '/' s) = s := by
  apply String.toList_injective
  have hmap : (split '/' s).map String.toList = pieces '/' s.toList := by
    rw [split, List.map_map]
    exact (List.map_congr_left fun p _ => String.toList_ofList).trans (List.map_id _)
  rw [String.toList_intercalate, hmap, show "/".toList = ['/'] from rfl, ← joinWith_singleton,
    joinWith_pieces]

theorem intercalate_prefix (sep : String) (xs ys : List String) :
    (sep.intercalate xs).toList <+: (sep.intercalate (xs ++ ys)).toList := by
  rw [String.toList_intercalate, String.toList_intercalate, List.map_append]
  generalize xs.map String.toList = fronts
  generalize ys.map String.toList = backs
  induction fronts with
  | nil => exact List.nil_prefix
  | cons front rest ih =>
    cases rest with
    | nil =>
      cases backs with
      | nil => exact List.prefix_rfl
      | cons back backs => simp [List.intercalate, List.intersperse]
    | cons next rest =>
      have hcons : ∀ tail : List (List Char), sep.toList.intercalate (front :: next :: tail) =
          front ++ (sep.toList ++ sep.toList.intercalate (next :: tail)) := by
        intro tail
        simp [List.intercalate, List.intersperse]
      rw [List.cons_append, List.cons_append, hcons, hcons]
      exact (List.prefix_append_right_inj _).2 ((List.prefix_append_right_inj _).2 ih)

end Stencil.Text
