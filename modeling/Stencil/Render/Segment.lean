import Stencil.Text

/-!
# Segments of a template text

A template text is literal text with placeholders in it, `{{ key }}` or `{{{ key }}}`. An opening
marker is `{{{` if three braces stand there and `{{` otherwise; the placeholder ends at the first
closing marker of the same width. An opening marker without one makes the rest of the text
literal: that is the *tail*.

`segments` cuts a text up, and `Segment.chars` gives each segment its text back, so that the
segments put together are the text (`flatMap_chars_segments`).
-/

set_option autoImplicit false

namespace Stencil.Render

/-- A part of a template text. -/
inductive Segment where
  | literal (cs : List Char)
  | placeholder (wide : Bool) (expr : List Char)
  | tail (cs : List Char)
  deriving DecidableEq

/-- The opening and the closing marker of a width. -/
def openMark (wide : Bool) : List Char :=
  if wide then ['{', '{', '{'] else ['{', '{']

def closeMark (wide : Bool) : List Char :=
  if wide then ['}', '}', '}'] else ['}', '}']

/-- The text of a segment. -/
def Segment.chars : Segment → List Char
  | .literal cs => cs
  | .placeholder wide expr => openMark wide ++ expr ++ closeMark wide
  | .tail cs => cs

/-- The width of a marker whose first two braces have been read, and the text after the marker. -/
def widthOf : List Char → Bool × List Char
  | '{' :: rest => (true, rest)
  | rest => (false, rest)

theorem openMark_widthOf (after : List Char) :
    openMark (widthOf after).1 ++ (widthOf after).2 = '{' :: '{' :: after := by
  unfold widthOf
  split <;> simp [openMark]

theorem length_widthOf (after : List Char) : (widthOf after).2.length ≤ after.length := by
  unfold widthOf
  split <;> simp

set_option linter.unusedVariables false in
/-- The segments of a text. -/
def segments (cs : List Char) : List Segment :=
  match h : Text.breakOn ['{', '{'] cs with
  | none => [.literal cs]
  | some (before, after) =>
    match hb : Text.breakOn (closeMark (widthOf after).1) (widthOf after).2 with
    | none => [.literal before, .tail ('{' :: '{' :: after)]
    | some (expr, rest) =>
      .literal before :: .placeholder (widthOf after).1 expr :: segments rest
termination_by cs.length
decreasing_by
  have h1 := Text.length_of_breakOn h
  have h2 := Text.length_of_breakOn hb
  have h3 := length_widthOf after
  simp only [List.length_cons, List.length_nil] at h1
  omega

/-- An opening marker occurs in the text. -/
def hasPlaceholders (cs : List Char) : Bool :=
  Text.contains ['{', '{'] cs

/-- The segments of a text, put together, are the text. -/
theorem flatMap_chars_segments (cs : List Char) : (segments cs).flatMap Segment.chars = cs := by
  fun_induction segments cs with
  | case1 cs h => simp [Segment.chars]
  | case2 cs before after h hb => simp [Segment.chars, Text.eq_of_breakOn h]
  | case3 cs before after h expr rest hb ih =>
    have hafter := openMark_widthOf after
    rw [Text.eq_of_breakOn hb] at hafter
    simp only [List.flatMap_cons, Segment.chars, ih]
    simp only [List.append_assoc] at hafter ⊢
    rw [hafter, Text.eq_of_breakOn h]
    simp

end Stencil.Render
