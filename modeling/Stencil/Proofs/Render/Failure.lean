import Stencil.Proofs.Render.Substitution

/-!
# When rendering fails

A text fails to render for one reason only: one of its placeholders names a transform that nobody has
registered. The names are written in the text, so the failure can be read off the text and the registry
(`FirstUnknown`), and what the keys lead to has no part in it:

> a text fails **exactly with the first name that is not registered**, the leftmost placeholder first
> and from left to right within it, whatever the data and the files (`rendering_fails_alike`).

What could hide a failure or make one up is each a case of the proof. A comment names nothing
(`Spells`). A key without a value, a null and an empty list do not keep the names from being checked,
and once they are checked no value can make the chain fail (`Registry.apply_error_iff`). A tail has no
placeholder. A path is rendered component by component and fails as its components would in one text
(`components_error_iff`).
-/

set_option autoImplicit false

namespace Stencil.Render

/-! ## 1. Names in placeholders -/

/-- A placeholder of the segments names a transform. A comment names none. -/
def Writes (segs : List Segment) (name : String) : Prop :=
  ∃ wide expr key names, .placeholder wide expr ∈ segs ∧ Spells expr key names ∧ name ∈ names

/-- All transforms that the segment names are registered. -/
def Segment.Known (r : Registry) (seg : Segment) : Prop :=
  ∀ wide expr key names, seg = .placeholder wide expr → Spells expr key names →
    ∀ name ∈ names, r.contains name = true

/-- The name is the first one in the segments that is not registered. -/
inductive FirstUnknown (r : Registry) : List Segment → String → Prop
  | here {wide : Bool} {expr : List Char} {segs : List Segment} {key name : String}
      {known rest : List String} (hspells : Spells expr key (known ++ name :: rest))
      (hknown : ∀ n ∈ known, r.contains n = true) (hname : r.contains name = false) :
      FirstUnknown r (.placeholder wide expr :: segs) name
  | later {seg : Segment} {segs : List Segment} {name : String} (hseg : seg.Known r)
      (h : FirstUnknown r segs name) : FirstUnknown r (seg :: segs) name

theorem FirstUnknown.writes {r : Registry} {segs : List Segment} {name : String}
    (h : FirstUnknown r segs name) : Writes segs name ∧ r.contains name = false := by
  induction h with
  | here hspells hknown hname =>
    exact ⟨⟨_, _, _, _, List.mem_cons_self, hspells, by simp⟩, hname⟩
  | later hseg h ih =>
    obtain ⟨⟨wide, expr, key, names, hmem, hspells, hname⟩, hunknown⟩ := ih
    exact ⟨⟨wide, expr, key, names, List.mem_cons_of_mem _ hmem, hspells, hname⟩, hunknown⟩

variable {c : Context} {e : Fault} {segs : List Segment}

/-! ## 2. One placeholder -/

theorem map_eq_error_iff {α β : Type} {x : Except Fault α} {f : α → β} :
    x.map f = .error e ↔ x = .error e := by
  cases x with
  | error e' => simp [Except.map]
  | ok a => simp [Except.map]

/-- A key with transforms fails as the check of their names does, whatever its value is. -/
theorem evaluate_value_error_iff {key : String} {names : List String} :
    (Expression.value key names).evaluate c = .error e ↔
      c.transforms.ensureKnown names = .error e := by
  unfold Expression.evaluate
  dsimp only
  cases hcheck : c.transforms.ensureKnown names with
  | error e' => simp
  | ok u =>
    dsimp only
    rw [map_eq_error_iff]
    cases happly : c.transforms.apply c.files ((c.data.get? key).getD .null) names with
    | error e' =>
      rw [Registry.apply_error_iff.1 happly] at hcheck
      exact absurd hcheck (by simp)
    | ok v => simp

theorem Segment.evaluate_error_iff {seg : Segment} : seg.evaluate c = .error e ↔
    ∃ wide expr key names, seg = .placeholder wide expr ∧ Spells expr key names ∧
      c.transforms.ensureKnown names = .error e := by
  cases seg with
  | literal cs => simp [Segment.evaluate]
  | tail cs => simp [Segment.evaluate]
  | placeholder wide expr =>
    rw [Segment.evaluate, map_eq_error_iff]
    constructor
    · intro h
      rcases comment_or_spells expr with hcomment | ⟨key, names, hspells⟩
      · rw [expression_of_comment hcomment] at h
        exact absurd h (by simp [Expression.evaluate])
      · rw [expression_of_spells hspells, evaluate_value_error_iff] at h
        exact ⟨wide, expr, key, names, rfl, hspells, h⟩
    · rintro ⟨wide', expr', key, names, heq, hspells, h⟩
      obtain ⟨rfl, rfl⟩ := Segment.placeholder.inj heq
      rw [expression_of_spells hspells, evaluate_value_error_iff]
      exact h

/-- A placeholder fails with the first of its names that is not registered. -/
theorem evaluate_of_unknown {expr : List Char} {key name : String} {known rest : List String}
    (hspells : Spells expr key (known ++ name :: rest))
    (hknown : ∀ n ∈ known, c.transforms.contains n = true)
    (hname : c.transforms.contains name = false) (wide : Bool) :
    (Segment.placeholder wide expr).evaluate c = .error (.unknownTransform name) := by
  refine Segment.evaluate_error_iff.2 ⟨wide, expr, key, _, rfl, hspells, ?_⟩
  exact Registry.ensureKnown_eq_error_iff.2 ⟨known, name, rest, rfl, hknown, hname, rfl⟩

theorem Segment.known_iff {seg : Segment} :
    seg.Known c.transforms ↔ ∃ cs, seg.evaluate c = .ok cs := by
  constructor
  · intro h
    cases heval : seg.evaluate c with
    | ok cs => exact ⟨cs, rfl⟩
    | error e =>
      obtain ⟨wide, expr, key, names, rfl, hspells, hcheck⟩ := Segment.evaluate_error_iff.1 heval
      rw [Registry.ensureKnown_eq_ok_iff.2 (h wide expr key names rfl hspells)] at hcheck
      exact absurd hcheck (by simp)
  · rintro ⟨cs, heval⟩ wide expr key names rfl hspells
    rw [← Registry.ensureKnown_eq_ok_iff]
    cases hcheck : c.transforms.ensureKnown names with
    | ok u => rfl
    | error e =>
      rw [Segment.evaluate_error_iff.2 ⟨wide, expr, key, names, rfl, hspells, hcheck⟩] at heval
      exact absurd heval (by simp)

/-! ## 3. Segments in a row -/

/-- Segments fail with the first name that is not registered. -/
theorem renderSegments_error_iff : renderSegments c segs = .error e ↔
    ∃ name, FirstUnknown c.transforms segs name ∧ e = .unknownTransform name := by
  induction segs with
  | nil =>
    rw [renderSegments]
    refine ⟨fun h => absurd h (by simp), ?_⟩
    rintro ⟨name, ⟨⟩, -⟩
  | cons seg segs ih =>
    rw [renderSegments]
    cases heval : seg.evaluate c with
    | error e' =>
      obtain ⟨wide, expr, key, names, rfl, hspells, hcheck⟩ := Segment.evaluate_error_iff.1 heval
      constructor
      · intro h
        obtain rfl : e' = e := Except.error.inj h
        obtain ⟨known, name, rest, rfl, hknown, hname, rfl⟩ :=
          Registry.ensureKnown_eq_error_iff.1 hcheck
        exact ⟨name, .here hspells hknown hname, rfl⟩
      · rintro ⟨name, hfirst, rfl⟩
        cases hfirst with
        | here hspells' hknown hname =>
          exact heval.symm.trans (evaluate_of_unknown hspells' hknown hname wide)
        | later hseg h =>
          obtain ⟨cs, hok⟩ := Segment.known_iff.1 hseg
          rw [heval] at hok
          exact absurd hok (by simp)
    | ok cs =>
      dsimp only
      rw [map_eq_error_iff, ih]
      constructor
      · rintro ⟨name, h, rfl⟩
        exact ⟨name, .later (Segment.known_iff.2 ⟨cs, heval⟩) h, rfl⟩
      · rintro ⟨name, hfirst, rfl⟩
        cases hfirst with
        | here hspells hknown hname =>
          rw [evaluate_of_unknown hspells hknown hname] at heval
          exact absurd heval (by simp)
        | later hseg h => exact ⟨name, h, rfl⟩

theorem renderSegments_append (c : Context) (xs ys : List Segment) :
    renderSegments c (xs ++ ys) =
      (renderSegments c xs).bind fun out => (renderSegments c ys).map (out ++ ·) := by
  induction xs with
  | nil =>
    rw [List.nil_append, renderSegments]
    show renderSegments c ys = (renderSegments c ys).map ([] ++ ·)
    cases renderSegments c ys <;> rfl
  | cons seg xs ih =>
    rw [List.cons_append, renderSegments, renderSegments, ih]
    cases seg.evaluate c with
    | error e => rfl
    | ok cs =>
      cases renderSegments c xs with
      | error e => rfl
      | ok out =>
        cases renderSegments c ys with
        | error e => rfl
        | ok more => simp [Except.map, Except.bind]

/-- Some name is not registered when there is a first one. -/
theorem exists_firstUnknown_iff {r : Registry} :
    (∃ name, FirstUnknown r segs name) ↔ ∃ name, Writes segs name ∧ r.contains name = false := by
  constructor
  · rintro ⟨name, h⟩
    exact ⟨name, h.writes⟩
  · rintro ⟨name, ⟨wide, expr, key, names, hmem, hspells, hname⟩, hunknown⟩
    -- a rendering that does not fail would have every segment known
    let c : Context := ⟨⟨[]⟩, r, ⟨[], []⟩⟩
    cases hrun : renderSegments c segs with
    | error e =>
      obtain ⟨first, hfirst, -⟩ := renderSegments_error_iff.1 hrun
      exact ⟨first, hfirst⟩
    | ok out =>
      obtain ⟨parts, hparts, -⟩ := renderSegments_eq_ok_iff.1 hrun
      obtain ⟨s, hs⟩ := exists_parts_iff.1 ⟨parts, hparts⟩ wide expr hmem
      have hknown : (Segment.placeholder wide expr).Known r :=
        Segment.known_iff.2 ⟨_, gives_iff.1 (.placeholder (c := c) hs)⟩
      rw [hknown wide expr key names rfl hspells name hname] at hunknown
      exact absurd hunknown (by simp)

/-! ## 4. Texts and paths -/

theorem text_error_iff_chars {s : String} :
    text c s = .error e ↔ renderSegments c (segments s.toList) = .error e := by
  rw [text, map_eq_error_iff, chars]

theorem text_error_iff {s : String} (h : Segmentation segs s.toList) : text c s = .error e ↔
    ∃ name, FirstUnknown c.transforms segs name ∧ e = .unknownTransform name := by
  rw [text_error_iff_chars, ← segmentation_iff.1 h, renderSegments_error_iff]

/-- Components fail as their texts would, one behind the other. -/
theorem components_error_iff {p : Path} {parts : List Path.Component} :
    components c p parts = .error e ↔
      renderSegments c (parts.flatMap fun part => segments part.text.toList) = .error e := by
  induction parts generalizing p with
  | nil => simp [components, renderSegments]
  | cons part rest ih =>
    rw [components, List.flatMap_cons, renderSegments_append, text, chars]
    cases renderSegments c (segments part.text.toList) with
    | error e' => simp [Except.map, Except.bind]
    | ok out => exact ih.trans map_eq_error_iff.symm

theorem flatten_segmentations {parts : List Path.Component} {rows : List (List Segment)}
    (h : List.Forall₂ (fun part segs => Segmentation segs part.text.toList) parts rows) :
    rows.flatten = parts.flatMap fun part => segments part.text.toList := by
  induction h with
  | nil => rfl
  | cons hsegs hrest ih => rw [List.flatten_cons, List.flatMap_cons, ih, segmentation_iff.1 hsegs]

theorem path_error_iff {p : Path} {rows : List (List Segment)}
    (h : List.Forall₂ (fun part segs => Segmentation segs part.text.toList) p.components rows) :
    path c p = .error e ↔
      ∃ name, FirstUnknown c.transforms rows.flatten name ∧ e = .unknownTransform name := by
  rw [path, components_error_iff, ← flatten_segmentations h, renderSegments_error_iff]

/-- **Whether rendering fails does not hang on the data.** A text fails when a placeholder of it, and no
comment, names a transform that is not registered, and the fault is the first such name, the leftmost
placeholder first. That is so with any data and files: a text that fails with some fails with all, and
with the same fault. A path does what its components do, one after the other. -/
theorem rendering_fails_alike (r : Registry) :
    (∀ s : String, ∃! segs, Segmentation segs s.toList) ∧
    (∀ s segs, Segmentation segs s.toList →
      (∀ data files, (∃ e, text ⟨data, r, files⟩ s = .error e) ↔
        ∃ name, Writes segs name ∧ r.contains name = false) ∧
      ∀ data files e, text ⟨data, r, files⟩ s = .error e ↔
        ∃ name, FirstUnknown r segs name ∧ e = .unknownTransform name) ∧
    (∀ s data data' files files' e,
      text ⟨data, r, files⟩ s = .error e ↔ text ⟨data', r, files'⟩ s = .error e) ∧
    (∀ (p : Path) rows,
      List.Forall₂ (fun part segs => Segmentation segs part.text.toList) p.components rows →
      (∀ data files, (∃ e, path ⟨data, r, files⟩ p = .error e) ↔
        ∃ name, Writes rows.flatten name ∧ r.contains name = false) ∧
      ∀ data files e, path ⟨data, r, files⟩ p = .error e ↔
        ∃ name, FirstUnknown r rows.flatten name ∧ e = .unknownTransform name) ∧
    ∀ p data data' files files' e,
      path ⟨data, r, files⟩ p = .error e ↔ path ⟨data', r, files'⟩ p = .error e := by
  refine ⟨fun s => ⟨segments s.toList, segmentation_segments _, fun segs h => segmentation_iff.1 h⟩,
    fun s segs h => ⟨fun data files => ?_, fun data files e => text_error_iff h⟩,
    fun s data data' files files' e => ?_,
    fun p rows h => ⟨fun data files => ?_, fun data files e => path_error_iff h⟩,
    fun p data data' files files' e => ?_⟩
  · rw [← exists_firstUnknown_iff]
    simp only [text_error_iff h]
    exact ⟨fun ⟨_, name, hfirst, _⟩ => ⟨name, hfirst⟩, fun ⟨name, hfirst⟩ => ⟨_, name, hfirst, rfl⟩⟩
  · rw [text_error_iff_chars, text_error_iff_chars, renderSegments_error_iff,
      renderSegments_error_iff]
  · rw [← exists_firstUnknown_iff]
    simp only [path_error_iff h]
    exact ⟨fun ⟨_, name, hfirst, _⟩ => ⟨name, hfirst⟩, fun ⟨name, hfirst⟩ => ⟨_, name, hfirst, rfl⟩⟩
  · rw [path, path, components_error_iff, components_error_iff, renderSegments_error_iff,
      renderSegments_error_iff]

namespace Sample

/-- A comment with a name, a registered transform, two that are not, and one in a tail. -/
def misnamed : String :=
  "\x7b\x7b! a | first \x7d\x7d \x7b\x7b word | twice | second | third \x7d\x7d" ++
    "\x7b\x7b a | fourth \x7d\x7d \x7b\x7b a | fifth"

end Sample

/-- The key of the failing placeholder has a text, no value, null or an empty list. -/
theorem rendering_fails_alike_misnamed :
    text Sample.context Sample.misnamed = .error (.unknownTransform "second") ∧
    (∃ segs name, Segmentation segs Sample.misnamed.toList ∧
      FirstUnknown Sample.context.transforms segs name ∧ name = "second") ∧
    ∀ data ∈ [⟨[]⟩, ⟨[("word", .null)]⟩, ⟨[("word", .list [])]⟩],
      text ⟨data, Sample.context.transforms, ⟨[], []⟩⟩ Sample.misnamed =
        .error (.unknownTransform "second") := by
  obtain ⟨hone, htext, halike, -⟩ := rendering_fails_alike Sample.context.transforms
  have hfail : text Sample.context Sample.misnamed = .error (.unknownTransform "second") := by
    decide +kernel
  obtain ⟨segs, hsegs, -⟩ := hone Sample.misnamed
  obtain ⟨name, hfirst, hname⟩ := ((htext _ segs hsegs).2 Sample.context.data _ _).1 hfail
  exact ⟨hfail, ⟨segs, name, hsegs, hfirst, (Fault.unknownTransform.inj hname).symm⟩,
    fun data _ => (halike _ _ _ _ _ _).1 hfail⟩

end Stencil.Render
