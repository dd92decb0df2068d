import Stencil.Proofs.Text.Mark
import Stencil.Render.Segment

/-!
# What the segments of a text are

`Segmentation segs cs` says when a list of segments is a way to read the text `cs`, without saying
how it is found: literals and placeholders take turns, a literal holds no opening marker and lends
no brace to the marker that follows it, and a placeholder ends where its closing marker first
occurs. A text that is left open ends in a tail, which has an opening marker without a closing one.

> **every text has exactly one segmentation** (`segmentation_iff`), and `segments` finds it.

The two markers overlap, since `{{` is the front of `{{{`. It is settled by the text alone which
one stands somewhere: a marker is narrow only where no third brace follows (`Opens`).
-/

set_option autoImplicit false

namespace Stencil.Render

open Text (FirstAtEnd)

/-! ## 1. Literals and markers -/

/-- No opening marker stands in the text. -/
def Plain (cs : List Char) : Prop :=
  ¬ openMark false <:+: cs

/-- A literal in front of an opening marker: the marker is the first one, and begins behind it. -/
def PlainBeforeMark (cs : List Char) : Prop :=
  Plain cs ∧ cs.getLast? ≠ some '{'

/-- An opening marker of this width stands in front of the text: a narrow one is not followed by a
third brace. -/
def Opens (wide : Bool) (after : List Char) : Prop :=
  wide = false → after.head? ≠ some '{'

/-- The expression of a placeholder of this width. -/
structure Closes (wide : Bool) (expr : List Char) : Prop where
  opens : Opens wide expr
  first : FirstAtEnd (closeMark wide) expr

/-- An opening marker and a text in which the closing marker of its width does not stand. -/
inductive Unclosed : List Char → Prop
  | mk {wide : Bool} {after : List Char} (hopens : Opens wide after)
      (hclose : ¬ closeMark wide <:+: after) : Unclosed (openMark wide ++ after)

theorem openMark_ne_nil (wide : Bool) : openMark wide ≠ [] := by
  cases wide <;> simp [openMark]

theorem closeMark_ne_nil (wide : Bool) : closeMark wide ≠ [] := by
  cases wide <;> simp [closeMark]

theorem eq_of_concat_eq {xs ys : List Char} {x y : Char} (h : xs ++ [x] = ys ++ [y]) : xs = ys :=
  (List.append_inj' h rfl).1

/-- A brace in front of an opening marker would make it begin earlier; nothing else would. -/
theorem firstAtEnd_openMark_iff {cs : List Char} :
    FirstAtEnd (openMark false) cs ↔ PlainBeforeMark cs := by
  constructor
  · intro h
    refine ⟨fun ⟨before, after, heq⟩ => ?_, fun hlast => ?_⟩
    · have hnil := h before (after ++ openMark false) (by rw [← heq]; simp)
      exact absurd (List.append_eq_nil_iff.1 hnil).2 (openMark_ne_nil false)
    · obtain ⟨front, rfl⟩ := List.getLast?_eq_some_iff.1 hlast
      exact absurd (h front ['{'] (by simp [openMark])) (by simp)
  · rintro ⟨hplain, hlast⟩ before after heq
    -- what follows the occurrence is nothing, one brace, or holds the whole marker
    rcases List.eq_nil_or_concat after with rfl | ⟨after, c, rfl⟩
    · rfl
    have hshort : cs ++ ['{'] = before ++ ['{', '{'] ++ after := by
      refine eq_of_concat_eq (x := '{') (y := c) ?_
      simpa [openMark] using heq
    rcases List.eq_nil_or_concat after with rfl | ⟨after, d, rfl⟩
    · have hlit : cs = before ++ ['{'] := by
        refine eq_of_concat_eq (x := '{') (y := '{') ?_
        simpa using hshort
      exact absurd (by rw [hlit]; simp) hlast
    · have hlit : cs = before ++ ['{', '{'] ++ after := by
        refine eq_of_concat_eq (x := '{') (y := d) ?_
        simpa using hshort
      exact absurd ⟨before, after, hlit.symm⟩ hplain

/-- The width of a marker is read off what follows its first two braces. -/
theorem widthOf_of_opens {wide : Bool} {after : List Char} (h : Opens wide after) :
    ∃ braces, openMark wide ++ after = '{' :: '{' :: braces ∧ widthOf braces = (wide, after) := by
  cases wide with
  | true => exact ⟨'{' :: after, rfl, rfl⟩
  | false =>
    refine ⟨after, rfl, ?_⟩
    unfold widthOf
    split
    · exact absurd rfl (h rfl)
    · rfl

theorem opens_widthOf (braces : List Char) : Opens (widthOf braces).1 (widthOf braces).2 := by
  unfold widthOf
  split
  · simp [Opens]
  · rename_i hno
    intro _ hhead
    cases braces with
    | nil => exact absurd hhead (by simp)
    | cons c rest =>
      simp only [List.head?_cons, Option.some.injEq] at hhead
      exact hno rest (by rw [hhead])

/-- What follows an expression is no matter to the marker in front of it. -/
theorem opens_append {wide : Bool} {expr : List Char} (rest : List Char) :
    Opens wide (expr ++ closeMark wide ++ rest) ↔ Opens wide expr := by
  cases wide with
  | true => simp [Opens]
  | false => cases expr <;> simp [Opens, closeMark]

/-- The segments are a way to read the text. -/
inductive Segmentation : List Segment → List Char → Prop
  | literal {cs : List Char} (h : Plain cs) : Segmentation [.literal cs] cs
  | tail {lit cs : List Char} (hlit : PlainBeforeMark lit) (h : Unclosed cs) :
      Segmentation [.literal lit, .tail cs] (lit ++ cs)
  | placeholder {lit expr cs : List Char} {wide : Bool} {segs : List Segment}
      (hlit : PlainBeforeMark lit) (hexpr : Closes wide expr) (h : Segmentation segs cs) :
      Segmentation (.literal lit :: .placeholder wide expr :: segs)
        (lit ++ (openMark wide ++ expr ++ closeMark wide) ++ cs)

theorem Segmentation.flatMap_chars {segs : List Segment} {cs : List Char}
    (h : Segmentation segs cs) : segs.flatMap Segment.chars = cs := by
  induction h with
  | literal h => simp [Segment.chars]
  | tail hlit h => simp [Segment.chars]
  | placeholder hlit hexpr h ih => simp [Segment.chars, ih]

/-! ## 3. The way that is found -/

theorem segments_of_plain {cs : List Char} (h : Plain cs) : segments cs = [.literal cs] := by
  have hnone : Text.breakOn ['{', '{'] cs = none :=
    (Text.breakOn_eq_none_iff (openMark_ne_nil false)).2 h
  rw [segments]
  split
  · rfl
  · rename_i hsome
    exact absurd (hnone.symm.trans hsome) (by simp)

/-- The first opening marker of a text is found where it stands. -/
theorem breakOn_openMark {lit after : List Char} {wide : Bool} (hlit : PlainBeforeMark lit)
    (h : Opens wide after) :
    ∃ braces, Text.breakOn ['{', '{'] (lit ++ (openMark wide ++ after)) = some (lit, braces) ∧
      widthOf braces = (wide, after) := by
  obtain ⟨braces, heq, hwidth⟩ := widthOf_of_opens h
  refine ⟨braces, ?_, hwidth⟩
  rw [heq, show lit ++ '{' :: '{' :: braces = lit ++ openMark false ++ braces by simp [openMark]]
  exact Text.breakOn_of_firstAtEnd (openMark_ne_nil false) (firstAtEnd_openMark_iff.2 hlit) braces

/-- The segments of a text that has an opening marker. -/
theorem segments_of_breakOn {cs before after : List Char}
    (hbreak : Text.breakOn ['{', '{'] cs = some (before, after)) :
    segments cs =
      match Text.breakOn (closeMark (widthOf after).1) (widthOf after).2 with
      | none => [.literal before, .tail ('{' :: '{' :: after)]
      | some (expr, rest) =>
        .literal before :: .placeholder (widthOf after).1 expr :: segments rest := by
  rw [segments]
  split
  · rename_i h
    exact absurd (hbreak.symm.trans h) (by simp)
  · rename_i before' after' h
    obtain ⟨rfl, rfl⟩ := Prod.mk.inj (Option.some.inj (hbreak.symm.trans h))
    split
    · rename_i hclose
      rw [hclose]
    · rename_i hclose
      rw [hclose]

theorem segments_of_unclosed {lit cs : List Char} (hlit : PlainBeforeMark lit) (h : Unclosed cs) :
    segments (lit ++ cs) = [.literal lit, .tail cs] := by
  obtain @⟨wide, after, hopens, hclose⟩ := h
  obtain ⟨braces, hbreak, hwidth⟩ := breakOn_openMark hlit hopens
  have hnone : Text.breakOn (closeMark (widthOf braces).1) (widthOf braces).2 = none := by
    rw [hwidth]
    exact (Text.breakOn_eq_none_iff (closeMark_ne_nil wide)).2 hclose
  have htail : '{' :: '{' :: braces = openMark wide ++ after := by
    rw [← openMark_widthOf, hwidth]
  rw [segments_of_breakOn hbreak, hnone, htail]

theorem segments_of_closes {lit expr : List Char} {wide : Bool} (hlit : PlainBeforeMark lit)
    (h : Closes wide expr) (cs : List Char) :
    segments (lit ++ (openMark wide ++ expr ++ closeMark wide) ++ cs) =
      .literal lit :: .placeholder wide expr :: segments cs := by
  obtain ⟨braces, hbreak, hwidth⟩ := breakOn_openMark hlit ((opens_append cs).2 h.opens)
  have hsome : Text.breakOn (closeMark (widthOf braces).1) (widthOf braces).2 =
      some (expr, cs) := by
    rw [hwidth]
    exact Text.breakOn_of_firstAtEnd (closeMark_ne_nil wide) h.first cs
  have htext : lit ++ (openMark wide ++ expr ++ closeMark wide) ++ cs =
      lit ++ (openMark wide ++ (expr ++ closeMark wide ++ cs)) := by simp
  rw [htext, segments_of_breakOn hbreak, hsome, hwidth]

theorem segmentation_segments (cs : List Char) : Segmentation (segments cs) cs := by
  fun_induction segments cs with
  | case1 cs h =>
    exact .literal ((Text.breakOn_eq_none_iff (openMark_ne_nil false)).1 h)
  | case2 cs before after h hclose =>
    have hlit := firstAtEnd_openMark_iff.1 (Text.firstAtEnd_of_breakOn h)
    have htail : Unclosed ('{' :: '{' :: after) := by
      rw [← openMark_widthOf]
      exact .mk (opens_widthOf after)
        ((Text.breakOn_eq_none_iff (closeMark_ne_nil _)).1 hclose)
    rw [Text.eq_of_breakOn h]
    simpa using Segmentation.tail hlit htail
  | case3 cs before after h expr rest hclose ih =>
    have hlit := firstAtEnd_openMark_iff.1 (Text.firstAtEnd_of_breakOn h)
    have hsplit := Text.eq_of_breakOn hclose
    have hexpr : Closes (widthOf after).1 expr := by
      refine ⟨?_, Text.firstAtEnd_of_breakOn hclose⟩
      rw [← opens_append rest, ← hsplit]
      exact opens_widthOf after
    have htext : cs = before ++ (openMark (widthOf after).1 ++ expr ++
        closeMark (widthOf after).1) ++ rest := by
      have hafter := openMark_widthOf after
      rw [hsplit] at hafter
      rw [Text.eq_of_breakOn h]
      simp only [List.append_assoc, List.cons_append, List.nil_append] at hafter ⊢
      rw [hafter]
    rw [htext]
    exact .placeholder hlit hexpr ih

/-- The segments that are found are the only way to read a text. -/
theorem segmentation_iff {segs : List Segment} {cs : List Char} :
    Segmentation segs cs ↔ segs = segments cs := by
  constructor
  · intro h
    induction h with
    | literal h => exact (segments_of_plain h).symm
    | tail hlit h => exact (segments_of_unclosed hlit h).symm
    | placeholder hlit hexpr h ih => rw [segments_of_closes hlit hexpr, ih]
  · rintro rfl
    exact segmentation_segments cs

end Stencil.Render
