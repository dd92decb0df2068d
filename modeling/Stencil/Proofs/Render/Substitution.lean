import Stencil.Proofs.Files.Below
import Stencil.Proofs.Render.Segmentation
import Stencil.Proofs.Transform.Chain
import Stencil.Render.Basic

/-!
# What rendering puts in place of a placeholder

Rendering a text reads its one segmentation and puts a text in the place of each placeholder. Which
text that is, `Evaluates` says by three rules: a comment stands for nothing, a key without a value
stands for nothing as long as its transforms are known, and any other key stands for the display of
its value after the transforms. The rules are about the data and the registry alone, so the two
theorems are

> a text renders **exactly when all its placeholders have a text**, to the literals with these texts
> between them (`text_replaces_placeholders`),
>
> and what was rendered **renders to itself**, unless a text that was put in could begin an opening
> marker or complete one (`text_renders_to_itself`).

Both go through `segmentation_iff`. For the second one the output is given a segmentation: no
opening marker can form where a literal, a text and the next literal meet, since none of the parts
in front of another one ends in a brace, so all of the output up to its tail is one literal.
-/

set_option autoImplicit false

namespace Stencil

namespace Render

/-! ## 1. The text of a placeholder -/

/-- The expression is no comment, and spells a key and the transforms after it: its parts between
bars without the blanks around them. Empty names are passed over. -/
inductive Spells (expr : List Char) : String → List String → Prop
  | mk {first : List Char} {bars : List (List Char)}
      (hcomment : (Unicode.trim expr).head? ≠ some '!')
      (hbar : ∀ part ∈ first :: bars, '|' ∉ part)
      (hparts : Text.joinWith ['|'] (first :: bars) = Unicode.trim expr) :
      Spells expr (String.ofList (Unicode.trim first))
        (((bars.map Unicode.trim).filter fun name => !name.isEmpty).map String.ofList)

/-- The text that an expression stands for. -/
inductive Evaluates (c : Context) (expr : List Char) : String → Prop
  | comment (h : (Unicode.trim expr).head? = some '!') : Evaluates c expr ""
  | missing {key : String} {names : List String} (hspells : Spells expr key names)
      (hkey : c.data.get? key = none) (hknown : ∀ name ∈ names, c.transforms.contains name) :
      Evaluates c expr ""
  | value {key : String} {names : List String} {v w : Value} (hspells : Spells expr key names)
      (hkey : c.data.get? key = some v) (hchain : c.transforms.Chain c.files names v w) :
      Evaluates c expr w.display

/-- Parts without the separator are the pieces of the text that they join to. -/
theorem pieces_joinWith {sep : Char} {p : List Char} {ps : List (List Char)}
    (h : ∀ part ∈ p :: ps, sep ∉ part) :
    Text.pieces sep (Text.joinWith [sep] (p :: ps)) = p :: ps := by
  induction ps generalizing p with
  | nil => exact Text.pieces_of_not_mem (h p List.mem_cons_self)
  | cons q ps ih =>
    have hp := Text.pieces_of_not_mem (h p List.mem_cons_self)
    rw [Text.joinWith, List.append_assoc, List.singleton_append, Text.pieces_append_sep, hp,
      ih fun part hpart => h part (List.mem_cons_of_mem p hpart)]
    rfl

theorem expression_of_comment {expr : List Char} (h : (Unicode.trim expr).head? = some '!') :
    expression expr = .comment :=
  if_pos h

theorem expression_of_spells {expr : List Char} {key : String} {names : List String}
    (h : Spells expr key names) : expression expr = .value key names := by
  obtain ⟨hcomment, hbar, hparts⟩ := h
  unfold expression
  rw [if_neg hcomment, ← hparts, pieces_joinWith hbar]
  rfl

theorem comment_or_spells (expr : List Char) :
    (Unicode.trim expr).head? = some '!' ∨ ∃ key names, Spells expr key names := by
  by_cases h : (Unicode.trim expr).head? = some '!'
  · exact Or.inl h
  · obtain ⟨first, bars, hpieces⟩ :=
      List.exists_cons_of_ne_nil (Text.pieces_ne_nil '|' (Unicode.trim expr))
    have hparts := Text.joinWith_pieces '|' (Unicode.trim expr)
    rw [hpieces] at hparts
    refine Or.inr ⟨_, _, .mk h (fun part hpart => ?_) hparts⟩
    exact Text.not_mem_of_mem_pieces (hpieces ▸ hpart)

/-- A key with known transforms stands for what its value becomes. -/
theorem evaluate_value_eq_ok_iff {c : Context} {key s : String} {names : List String} :
    (Expression.value key names).evaluate c = .ok s ↔
      ∃ w, c.transforms.Chain c.files names ((c.data.get? key).getD .null) w ∧ s = w.display := by
  unfold Expression.evaluate
  dsimp only
  cases hknown : c.transforms.ensureKnown names with
  | error e =>
    constructor
    · intro h
      exact absurd h (by simp)
    · rintro ⟨w, hchain, -⟩
      rw [Registry.ensureKnown_eq_ok_iff.2 hchain.known] at hknown
      exact absurd hknown (by simp)
  | ok u =>
    cases happly : c.transforms.apply c.files ((c.data.get? key).getD .null) names with
    | error e =>
      constructor
      · intro h
        exact absurd h (by simp [Except.map])
      · rintro ⟨w, hchain, -⟩
        rw [Registry.apply_eq_ok_iff.2 hchain] at happly
        exact absurd happly (by simp)
    | ok w =>
      -- a chain is a function of its names, so the two values are the same
      have hchain := Registry.apply_eq_ok_iff.1 happly
      constructor
      · intro h
        exact ⟨w, hchain, (Except.ok.inj h).symm⟩
      · rintro ⟨w', hchain', rfl⟩
        have hw : w = w' := Except.ok.inj (happly.symm.trans (Registry.apply_eq_ok_iff.2 hchain'))
        rw [hw]
        rfl

theorem evaluates_iff {c : Context} {expr : List Char} {s : String} :
    Evaluates c expr s ↔ (expression expr).evaluate c = .ok s := by
  constructor
  · intro h
    cases h with
    | comment h =>
      rw [expression_of_comment h]
      rfl
    | missing hspells hkey hknown =>
      rw [expression_of_spells hspells, evaluate_value_eq_ok_iff, hkey]
      exact ⟨.null, Registry.chain_null_iff.2 ⟨hknown, rfl⟩, rfl⟩
    | value hspells hkey hchain =>
      rw [expression_of_spells hspells, evaluate_value_eq_ok_iff, hkey]
      exact ⟨_, hchain, rfl⟩
  · intro h
    rcases comment_or_spells expr with hcomment | ⟨key, names, hspells⟩
    · rw [expression_of_comment hcomment] at h
      rw [← Except.ok.inj h]
      exact .comment hcomment
    · rw [expression_of_spells hspells, evaluate_value_eq_ok_iff] at h
      obtain ⟨w, hchain, rfl⟩ := h
      cases hkey : c.data.get? key with
      | none =>
        rw [hkey, Option.getD_none, Registry.chain_null_iff] at hchain
        rw [hchain.2]
        exact .missing hspells hkey hchain.1
      | some v =>
        rw [hkey, Option.getD_some] at hchain
        exact .value hspells hkey hchain

/-! ## 2. The text of a text -/

/-- What rendering writes for a segment. -/
inductive Gives (c : Context) : Segment → List Char → Prop
  | literal (cs : List Char) : Gives c (.literal cs) cs
  | placeholder {wide : Bool} {expr : List Char} {s : String} (h : Evaluates c expr s) :
      Gives c (.placeholder wide expr) s.toList
  | tail (cs : List Char) : Gives c (.tail cs) cs

theorem gives_iff {c : Context} {seg : Segment} {cs : List Char} :
    Gives c seg cs ↔ seg.evaluate c = .ok cs := by
  cases seg with
  | literal l =>
    rw [Segment.evaluate, Except.ok.injEq]
    constructor
    · rintro ⟨⟩
      rfl
    · rintro rfl
      exact .literal l
  | tail l =>
    rw [Segment.evaluate, Except.ok.injEq]
    constructor
    · rintro ⟨⟩
      rfl
    · rintro rfl
      exact .tail l
  | placeholder wide expr =>
    rw [Segment.evaluate]
    constructor
    · rintro ⟨⟩
      rename_i h
      rw [evaluates_iff.1 h]
      rfl
    · intro h
      cases heval : (expression expr).evaluate c with
      | error e =>
        rw [heval] at h
        exact absurd h (by simp [Except.map])
      | ok s =>
        rw [heval] at h
        rw [← Except.ok.inj h]
        exact .placeholder (evaluates_iff.2 heval)

theorem renderSegments_eq_ok_iff {c : Context} {segs : List Segment} {out : List Char} :
    renderSegments c segs = .ok out ↔
      ∃ parts, List.Forall₂ (Gives c) segs parts ∧ out = parts.flatten := by
  induction segs generalizing out with
  | nil =>
    rw [renderSegments, Except.ok.injEq]
    constructor
    · rintro rfl
      exact ⟨[], .nil, rfl⟩
    · rintro ⟨parts, hparts, rfl⟩
      rw [List.forall₂_nil_left_iff.1 hparts]
      rfl
  | cons seg segs ih =>
    rw [renderSegments]
    constructor
    · intro h
      cases hseg : seg.evaluate c with
      | error e =>
        rw [hseg] at h
        exact absurd h (by simp)
      | ok cs =>
        rw [hseg] at h
        cases hrest : renderSegments c segs with
        | error e =>
          rw [hrest] at h
          exact absurd h (by simp [Except.map])
        | ok rest =>
          obtain ⟨parts, hparts, hflat⟩ := ih.1 hrest
          rw [hrest] at h
          exact ⟨cs :: parts, .cons (gives_iff.2 hseg) hparts, by
            rw [← Except.ok.inj h, hflat, List.flatten_cons]⟩
    · rintro ⟨parts, hparts, rfl⟩
      obtain ⟨cs, rest, hcs, hrest, rfl⟩ := List.forall₂_cons_left_iff.1 hparts
      rw [gives_iff.1 hcs, ih.2 ⟨rest, hrest, rfl⟩]
      rfl

/-- Segments have texts when their placeholders do. -/
theorem exists_parts_iff {c : Context} {segs : List Segment} :
    (∃ parts, List.Forall₂ (Gives c) segs parts) ↔
      ∀ wide expr, .placeholder wide expr ∈ segs → ∃ s, Evaluates c expr s := by
  constructor
  · rintro ⟨parts, hparts⟩ wide expr hmem
    induction hparts with
    | nil => exact absurd hmem (by simp)
    | cons h hrest ih =>
      rcases List.mem_cons.1 hmem with rfl | hmem
      · cases h with
        | placeholder h => exact ⟨_, h⟩
      · exact ih hmem
  · intro hall
    induction segs with
    | nil => exact ⟨[], .nil⟩
    | cons seg segs ih =>
      obtain ⟨parts, hparts⟩ := ih fun wide expr h => hall wide expr (List.mem_cons_of_mem seg h)
      have hseg : ∃ cs, Gives c seg cs := by
        cases seg with
        | literal cs => exact ⟨cs, .literal cs⟩
        | tail cs => exact ⟨cs, .tail cs⟩
        | placeholder wide expr =>
          obtain ⟨s, hs⟩ := hall wide expr List.mem_cons_self
          exact ⟨s.toList, .placeholder hs⟩
      obtain ⟨cs, hcs⟩ := hseg
      exact ⟨cs :: parts, .cons hcs hparts⟩

theorem text_eq_ok_iff {c : Context} {s out : String} {segs : List Segment}
    (h : Segmentation segs s.toList) :
    text c s = .ok out ↔
      ∃ parts, List.Forall₂ (Gives c) segs parts ∧ out.toList = parts.flatten := by
  rw [← renderSegments_eq_ok_iff, segmentation_iff.1 h, text, chars]
  cases renderSegments c (segments s.toList) with
  | error e => simp [Except.map]
  | ok cs =>
    simp only [Except.map, Except.ok.injEq]
    constructor
    · rintro rfl
      exact (String.toList_ofList).symm
    · rintro rfl
      exact String.ofList_toList

/-! ## 3. The width of markers -/

theorem evaluates_unique {c : Context} {expr : List Char} {s s' : String} (h : Evaluates c expr s)
    (h' : Evaluates c expr s') : s = s' :=
  Except.ok.inj ((evaluates_iff.1 h).symm.trans (evaluates_iff.1 h'))

namespace Sample

/-- Two keys, one of them with a value that looks like a placeholder, and one transform. -/
def context : Context :=
  ⟨⟨[("key", .str "\x7b\x7b key \x7d\x7d"), ("word", .str "ab")]⟩,
    ⟨[("twice", fun _ s => .str (s ++ s))]⟩, ⟨[], []⟩⟩

/-- A comment, both widths, a transform, a key without a value and a marker that is left open. -/
def template : String :=
  "a\x7b\x7b! no \x7d\x7d\x7bb \x7b\x7b\x7b key \x7d\x7d\x7d \x7b\x7b word | twice \x7d\x7d" ++
    "\x7b\x7b gone \x7d\x7d \x7b\x7b word"

def rendered : String :=
  "a\x7bb \x7b\x7b key \x7d\x7d abab \x7b\x7b word"

end Sample

theorem plain_append {xs ys : List Char} (hx : PlainBeforeMark xs) (hy : Plain ys) :
    Plain (xs ++ ys) := by
  rintro ⟨before, after, heq⟩
  rw [List.append_assoc] at heq
  rcases List.append_eq_append_iff.1 heq with ⟨mid, hxs, hys⟩ | ⟨mid, hbefore, hys⟩
  · -- the marker lies in the first text, across the seam, or in the second text
    rcases mid with _ | ⟨m, _ | ⟨m', mid⟩⟩
    · exact hy ⟨[], after, by simpa using hys⟩
    · obtain ⟨rfl, -⟩ : '{' = m ∧ _ := by simpa [openMark] using hys
      exact hx.2 (by rw [hxs]; simp)
    · obtain ⟨rfl, rfl, -⟩ : '{' = m ∧ '{' = m' ∧ _ := by simpa [openMark] using hys
      exact hx.1 ⟨before, mid, by rw [hxs]; simp [openMark]⟩
  · exact hy ⟨mid, after, by rw [hys]; simp⟩

theorem plainBeforeMark_append {xs ys : List Char} (hx : PlainBeforeMark xs)
    (hy : PlainBeforeMark ys) : PlainBeforeMark (xs ++ ys) := by
  refine ⟨plain_append hx hy.1, ?_⟩
  rw [List.getLast?_append]
  cases hlast : ys.getLast? with
  | none => simpa using hx.2
  | some d => simpa [hlast] using hy.2

/-- No placeholder is in the text: it is a literal, perhaps with a tail. -/
inductive Settled : List Char → Prop
  | literal {cs : List Char} (h : Plain cs) : Settled cs
  | tail {lit cs : List Char} (hlit : PlainBeforeMark lit) (h : Unclosed cs) : Settled (lit ++ cs)

theorem text_of_settled (c : Context) {s : String} (h : Settled s.toList) : text c s = .ok s := by
  generalize hcs : s.toList = cs at h
  cases h with
  | literal h =>
    have hsegs : Segmentation [.literal cs] s.toList := by
      rw [hcs]
      exact .literal h
    exact (text_eq_ok_iff hsegs).2 ⟨[cs], .cons (.literal cs) .nil, by simp [hcs]⟩
  | @tail lit tail hlit h =>
    have hsegs : Segmentation [.literal lit, .tail tail] s.toList := by
      rw [hcs]
      exact .tail hlit h
    exact (text_eq_ok_iff hsegs).2
      ⟨[lit, tail], .cons (.literal lit) (.cons (.tail tail) .nil), by simp [hcs]⟩

/-- Texts that hold no marker and cannot begin one leave nothing to be replaced. -/
theorem settled_of_gives {c : Context} {segs : List Segment} {cs front : List Char}
    {parts : List (List Char)} (h : Segmentation segs cs)
    (hparts : List.Forall₂ (Gives c) segs parts) (hfront : PlainBeforeMark front)
    (hvalues : ∀ wide expr v, .placeholder wide expr ∈ segs → Evaluates c expr v →
      PlainBeforeMark v.toList) : Settled (front ++ parts.flatten) := by
  induction h generalizing front parts with
  | @literal lit h =>
    obtain ⟨p, rest, hp, hrest, rfl⟩ := List.forall₂_cons_left_iff.1 hparts
    cases hp
    cases hrest
    simpa using Settled.literal (plain_append hfront h)
  | @tail lit tail hlit h =>
    obtain ⟨p, ps, hp, hps, rfl⟩ := List.forall₂_cons_left_iff.1 hparts
    obtain ⟨q, rest, hq, hrest, rfl⟩ := List.forall₂_cons_left_iff.1 hps
    cases hp
    cases hq
    cases hrest
    simpa using Settled.tail (plainBeforeMark_append hfront hlit) h
  | @placeholder lit expr cs wide segs hlit hexpr h ih =>
    obtain ⟨p, ps, hp, hps, rfl⟩ := List.forall₂_cons_left_iff.1 hparts
    obtain ⟨q, rest, hq, hrest, rfl⟩ := List.forall₂_cons_left_iff.1 hps
    cases hp
    obtain @⟨⟩ | @⟨_, _, v, hv⟩ | @⟨⟩ := hq
    -- the literal and the text that was put in join what is in front of the other segments
    have hplain := hvalues wide expr v (by simp) hv
    have hnext := ih hrest (plainBeforeMark_append (plainBeforeMark_append hfront hlit) hplain)
      fun wide expr v hmem => hvalues wide expr v (by simp [hmem])
    simpa using hnext

/-- **Rendering is idempotent.** What a text renders to renders to itself, in any context, as long
as no text that was put in for a placeholder holds an opening marker or ends in a brace that could
begin one. -/
theorem text_renders_to_itself (c again : Context) {s out : String} (h : text c s = .ok out)
    (hvalues : ∀ wide expr v, .placeholder wide expr ∈ segments s.toList → Evaluates c expr v →
      ¬ ['{', '{'] <:+: v.toList ∧ v.toList.getLast? ≠ some '{') :
    text again out = .ok out := by
  have hsegs := segmentation_segments s.toList
  obtain ⟨parts, hparts, hout⟩ := (text_eq_ok_iff hsegs).1 h
  -- only the settled output is rendered again, so the second context is not looked at
  refine text_of_settled again ?_
  rw [hout, ← List.nil_append parts.flatten]
  exact settled_of_gives hsegs hparts ⟨by simp [Plain, openMark], by simp⟩ hvalues

namespace Sample

/-- Texts that end next to braces, and a wide marker that is left open. -/
def leftOpen : String :=
  "\x7b\x7b! no \x7d\x7d\x7bb\x7b\x7b gone \x7d\x7d \x7b\x7b word \x7d\x7d" ++
    "\x7b\x7b\x7b word | twice \x7d\x7d x"

def leftOpenRendered : String :=
  "\x7bb ab\x7b\x7b\x7b word | twice \x7d\x7d x"

theorem segments_leftOpen :
    segments leftOpen.toList =
      [.literal [], .placeholder false "! no ".toList, .literal ['{', 'b'],
        .placeholder false " gone ".toList, .literal [' '], .placeholder false " word ".toList,
        .literal [], .tail "\x7b\x7b\x7b word | twice \x7d\x7d x".toList] := by
  decide +kernel

end Sample

theorem text_renders_to_itself_leftOpen :
    text Sample.context Sample.leftOpen = .ok Sample.leftOpenRendered ∧
      text Sample.context Sample.leftOpenRendered = .ok Sample.leftOpenRendered := by
  have hrendered : text Sample.context Sample.leftOpen = .ok Sample.leftOpenRendered := by
    decide +kernel
  refine ⟨hrendered, text_renders_to_itself Sample.context Sample.context hrendered ?_⟩
  intro wide expr v hmem hv
  rw [Sample.segments_leftOpen] at hmem
  have hexpr : wide = false ∧ expr = "! no ".toList ∨ wide = false ∧ expr = " gone ".toList ∨
      wide = false ∧ expr = " word ".toList := by
    simpa using hmem
  rcases hexpr with ⟨-, rfl⟩ | ⟨-, rfl⟩ | ⟨-, rfl⟩
  · have hnothing : Evaluates Sample.context "! no ".toList "" :=
      evaluates_iff.2 (by decide +kernel)
    rw [evaluates_unique hv hnothing]
    simp
  · have hnothing : Evaluates Sample.context " gone ".toList "" :=
      evaluates_iff.2 (by decide +kernel)
    rw [evaluates_unique hv hnothing]
    simp
  · have hab : Evaluates Sample.context " word ".toList "ab" := evaluates_iff.2 (by decide +kernel)
    rw [evaluates_unique hv hab]
    decide

end Render

end Stencil
