import Stencil.Proofs.Prompt.Collect
import Stencil.Proofs.Prompt.Read
import Stencil.Proofs.Render.Failure

/-!
# Runs of a checked pipeline

Reading a pipeline checks the names of all its transforms, and collecting its answers applies them
later, to values that nobody has seen by then. Is the check enough? It is: a chain of registered names
ends well on every value (`PromptSpec.Known.apply_ok`). What is left that can make a prompt fail is said
by `Trips`: the operator gives no answer, or the text of a default names a transform within a
placeholder. Such names are not part of the check, and they come to light only when the default is
rendered, before anything is asked.

A run is a run of the prompts before the failing one, so this says of a whole run why it fails:
`checked_pipeline_trips_over_defaults_only`.
-/

set_option autoImplicit false

namespace Stencil

/-- The transforms of a checked prompt end well on every value. -/
theorem PromptSpec.Known.apply_ok {transforms : Registry} {spec : PromptSpec}
    (h : spec.Known transforms) (files : FileTree) (v : Value) :
    (∃ u, transforms.apply files v spec.transform = .ok u) ∧
      ∃ u, transforms.apply files v spec.transformDefault = .ok u := by
  have hends : ∀ names : List String, (∀ name ∈ names, transforms.contains name) →
      ∃ u, transforms.apply files v names = .ok u := by
    intro names hnames
    obtain ⟨f, hf⟩ := Registry.exists_elementwise files hnames
    exact ⟨f v, hf.2 v⟩
  exact ⟨hends _ fun name hname => h name (List.mem_append_left _ hname),
    hends _ fun name hname => h name (List.mem_append_right _ hname)⟩

namespace Pipeline

open Render (Segment Segmentation FirstUnknown)

/-! ## 1. One prompt -/

/-- Why a checked prompt fails, and the world that it leaves. -/
inductive Trips (transforms : Registry) (operator : Operator) (spec : PromptSpec) (d : Store)
    (w : World) : Fault → World → Prop
  /-- The default is a text with a placeholder that names a transform that is not registered. -/
  | misnamed {s : String} {segs : List Segment} {name : String}
      (hdefault : spec.default = some (.str s)) (hsegs : Segmentation segs s.toList)
      (hfirst : FirstUnknown transforms segs name) :
      Trips transforms operator spec d w (.unknownTransform name) w
  /-- The operator was asked and gave an error for an answer. -/
  | refused {default : Option Value} {e : Fault} {w' : World}
      (hdefault : resolveDefault ⟨d, transforms, w.files⟩ spec = .ok default)
      (hask : World.ask operator (question spec default) w = (.error e, w')) :
      Trips transforms operator spec d w e w'

section

variable {transforms : Registry} {operator : Operator} {spec : PromptSpec} {d d' : Store}
  {w w' : World} {e : Fault}

/-- The default of a checked prompt fails only as a text that does not render. -/
theorem resolveDefault_error_iff {files : FileTree} (hknown : spec.Known transforms) :
    resolveDefault ⟨d, transforms, files⟩ spec = .error e ↔
      ∃ s, spec.default = some (.str s) ∧ Render.text ⟨d, transforms, files⟩ s = .error e := by
  have hchain : ∀ v, (transforms.apply files v spec.transformDefault).map some ≠ .error e := by
    intro v
    obtain ⟨u, hu⟩ := (hknown.apply_ok files v).2
    rw [hu]
    simp [Except.map]
  unfold resolveDefault
  cases spec.default with
  | none => simp
  | some default =>
    cases default with
    | str s =>
      cases htext : Render.text ⟨d, transforms, files⟩ s with
      | error e' => simp [Except.map, htext]
      | ok out =>
        refine ⟨fun h => ?_, ?_⟩
        · simp only [Except.map, htext] at h
          exact absurd h (hchain (.str out))
        · rintro ⟨s', hs, htext'⟩
          obtain rfl : s = s' := by simpa using hs
          exact absurd (htext.symm.trans htext') (by simp)
    | null | bool b | int n | float x | list items | map fields => simp [hchain]

/-- Where the default of a checked prompt fails, that is the one way to trip. -/
theorem trips_iff_of_default_error {e₁ : Fault} (hknown : spec.Known transforms)
    (hdefault : resolveDefault ⟨d, transforms, w.files⟩ spec = .error e₁) :
    Trips transforms operator spec d w e w' ↔ e = e₁ ∧ w' = w := by
  obtain ⟨s, hs, htext⟩ := (resolveDefault_error_iff hknown).1 hdefault
  constructor
  · intro htrips
    cases htrips with
    | @misnamed s' segs name hs' hsegs hfirst =>
      obtain rfl : s = s' := by simpa using hs.symm.trans hs'
      have htext' : Render.text ⟨d, transforms, w.files⟩ s = .error (.unknownTransform name) :=
        (Render.text_error_iff hsegs).2 ⟨name, hfirst, rfl⟩
      exact ⟨Except.error.inj (htext'.symm.trans htext), rfl⟩
    | refused hdefault' hask =>
      rw [hdefault] at hdefault'
      exact absurd hdefault' (by simp)
  · rintro ⟨rfl, rfl⟩
    have hsegs := Render.segmentation_segments s.toList
    obtain ⟨name, hfirst, rfl⟩ := (Render.text_error_iff hsegs).1 htext
    exact .misnamed hs hsegs hfirst

/-- Where its default is settled, it trips when the operator gives an error for an answer. -/
theorem trips_iff_of_default_ok {default : Option Value} (hknown : spec.Known transforms)
    (hdefault : resolveDefault ⟨d, transforms, w.files⟩ spec = .ok default) :
    Trips transforms operator spec d w e w' ↔
      World.ask operator (question spec default) w = (.error e, w') := by
  refine ⟨fun htrips => ?_, .refused hdefault⟩
  cases htrips with
  | @misnamed s segs name hs hsegs hfirst =>
    have htext : Render.text ⟨d, transforms, w.files⟩ s = .error (.unknownTransform name) :=
      (Render.text_error_iff hsegs).2 ⟨name, hfirst, rfl⟩
    rw [(resolveDefault_error_iff hknown).2 ⟨s, hs, htext⟩] at hdefault
    exact absurd hdefault (by simp)
  | refused hdefault' hask =>
    rw [hdefault, Except.ok.injEq] at hdefault'
    rw [hdefault']
    exact hask

/-- A checked prompt fails only as `Trips` says, and then the data is as it was. -/
theorem answer_error_iff (hknown : spec.Known transforms) :
    answer transforms operator spec (d, w) = (.error e, (d', w')) ↔
      d' = d ∧ Trips transforms operator spec d w e w' := by
  cases hdefault : resolveDefault ⟨d, transforms, w.files⟩ spec with
  | error e₁ =>
    rw [answer_of_default_error hdefault, trips_iff_of_default_error hknown hdefault]
    simp only [Prod.mk.injEq, Except.error.injEq]
    exact ⟨fun ⟨he, hd, hw⟩ => ⟨hd.symm, he.symm, hw.symm⟩,
      fun ⟨hd, he, hw⟩ => ⟨he.symm, hd.symm, hw.symm⟩⟩
  | ok default =>
    rw [answer_of_default_ok hdefault, trips_iff_of_default_ok hknown hdefault]
    rcases World.ask operator (question spec default) w with ⟨e₁ | given, w₁⟩
    · simp only [Prod.mk.injEq, Except.error.injEq]
      exact ⟨fun ⟨he, hd, hw⟩ => ⟨hd.symm, he, hw⟩, fun ⟨hd, he, hw⟩ => ⟨he, hd.symm, hw⟩⟩
    · -- the answer is there, and no value can make the chain of a checked prompt fail
      obtain ⟨u, hu⟩ := (hknown.apply_ok w.files given).1
      simp [hu]

/-! ## 2. A run -/

/-- A run of checked prompts fails exactly when it comes to a prompt without a value that fails. -/
theorem collect_error_iff {p : Pipeline} (hknown : ∀ spec ∈ p.specs, spec.Known transforms) :
    p.collect transforms operator (d, w) = (.error e, (d', w')) ↔
      ∃ before spec after w₀, p.specs = before ++ spec :: after ∧
        collect ⟨before⟩ transforms operator (d, w) = (.ok (), (d', w₀)) ∧
        d'.has spec.name = false ∧ Trips transforms operator spec d' w₀ e w' := by
  constructor
  · intro h
    obtain ⟨before, spec, after, ⟨d₀, w₀⟩, hsplit, hbefore, hfail⟩ := Step.each_error h
    have hspec : spec.Known transforms := hknown spec (by simp [hsplit])
    obtain ⟨hhas, hfail⟩ := askOne_eq_error_iff.1 hfail
    obtain ⟨rfl, htrips⟩ := (answer_error_iff hspec).1 hfail
    exact ⟨before, spec, after, w₀, hsplit, hbefore, hhas, htrips⟩
  · rintro ⟨before, spec, after, w₀, hsplit, hbefore, hhas, htrips⟩
    have hspec : spec.Known transforms := hknown spec (by simp [hsplit])
    have hfail : askOne transforms operator spec (d', w₀) = (.error e, (d', w')) :=
      askOne_eq_error_iff.2 ⟨hhas, (answer_error_iff hspec).2 ⟨rfl, htrips⟩⟩
    unfold collect at hbefore ⊢
    rw [hsplit, Step.each_append, Step.bind_of_ok hbefore, Step.each_cons, Step.bind_of_error hfail]

end

/-! ## 3. The theorem -/

/-- **A checked pipeline does not trip over its transforms.** Once the entries were read, the chains of
every prompt end well on every value, and a run with the same transforms fails exactly when it comes to
a prompt whose key has no value and which the operator gives no answer to, or whose default is a text
with an unregistered name in a placeholder; the fault is that of the operator, or tells that name. -/
theorem checked_pipeline_trips_over_defaults_only {transforms : Registry} {entries : List Value}
    {p : Pipeline} {w₀ w₁ : World} (hread : read transforms entries w₀ = (.ok p, w₁)) :
    (∀ spec ∈ p.specs, ∀ files v,
      (∃ u, transforms.apply files v spec.transform = .ok u) ∧
        ∃ u, transforms.apply files v spec.transformDefault = .ok u) ∧
    (∀ operator d w e d' w', p.collect transforms operator (d, w) = (.error e, (d', w')) ↔
      ∃ before spec after w₂, p.specs = before ++ spec :: after ∧
        collect ⟨before⟩ transforms operator (d, w) = (.ok (), (d', w₂)) ∧
        d'.has spec.name = false ∧ Trips transforms operator spec d' w₂ e w') ∧
    ∀ operator d w e s, p.collect transforms operator (d, w) = (.error e, s) →
      (∃ asked laidOut q, (operator asked laidOut q).1 = .error e) ∨
        ∃ spec ∈ p.specs, ∃ text segs name, spec.default = some (.str text) ∧
          Segmentation segs text.toList ∧ Render.Writes segs name ∧
          transforms.contains name = false ∧ e = .unknownTransform name := by
  obtain ⟨-, hknown⟩ := read_eq_ok hread
  refine ⟨fun spec hspec files v => (hknown spec hspec).apply_ok files v,
    fun operator d w e d' w' => collect_error_iff hknown, fun operator d w e s h => ?_⟩
  obtain ⟨d', w'⟩ := s
  obtain ⟨before, spec, after, w₂, hsplit, -, -, htrips⟩ := (collect_error_iff hknown).1 h
  cases htrips with
  | misnamed hdefault hsegs hfirst =>
    obtain ⟨hwrites, hunknown⟩ := hfirst.writes
    exact Or.inr ⟨spec, by simp [hsplit], _, _, _, hdefault, hsegs, hwrites, hunknown, rfl⟩
  | refused hdefault hask => exact Or.inl ⟨_, _, _, congrArg Prod.fst hask⟩

namespace Sample

/-- Two entries with registered transforms. The default of the second one names another transform. -/
def entries : List Value :=
  [.map [("name", .str "first"), ("message", .str "First"), ("type", .str "input"),
    ("default", .list [.str " a ", .null]), ("transform", .str "trim")],
   .map [("name", .str "second"), ("message", .str "Second"), ("type", .str "input"),
    ("default", .str "\x7b\x7b first | shout \x7d\x7d"),
    ("transform", .list [.str "lowercase", .str "words"])]]

/-- The prompts that the entries spell. -/
def checked : Pipeline :=
  ⟨[⟨"first", "First", "input", .input, some (.list [.str " a ", .null]), ["trim"], [], []⟩,
    ⟨"second", "Second", "input", .input, some (.str "\x7b\x7b first | shout \x7d\x7d"),
      ["lowercase", "words"], [], []⟩]⟩

theorem read_entries : read .builtins entries world = (.ok checked, world) := by
  refine read_of_known ?_ ?_ ?_ world
  · rfl
  · decide
  · unfold PromptSpec.Known
    decide

end Sample

/-- The first prompt, with a null in its answer, goes well, and the second one is not asked. -/
theorem checked_pipeline_trips_over_defaults_only_sample :
    read .builtins Sample.entries Sample.world = (.ok Sample.checked, Sample.world) ∧
    (∃ u, Registry.builtins.apply ⟨[], []⟩ (.list [.str " a ", .null]) ["trim"] = .ok u) ∧
    ∃ d w w', Sample.checked.collect .builtins .defaults (⟨[]⟩, Sample.world) =
        (.error (.unknownTransform "shout"), (d, w')) ∧
      w'.asked.map (·.name) = ["first"] ∧
      ∃ spec, Trips .builtins .defaults spec d w (.unknownTransform "shout") w' := by
  obtain ⟨hchains, hfails, -⟩ := checked_pipeline_trips_over_defaults_only Sample.read_entries
  have hfail : (Sample.checked.collect .builtins .defaults (⟨[]⟩, Sample.world)).1 =
      .error (.unknownTransform "shout") := by decide +kernel
  have hasked : (Sample.checked.collect .builtins .defaults (⟨[]⟩, Sample.world)).2.2.asked.map
      (·.name) = ["first"] := by decide +kernel
  have hrun := Step.eq_error_of_fst hfail
  obtain ⟨-, spec, -, w, -, -, -, htrips⟩ := (hfails _ _ _ _ _ _).1 hrun
  exact ⟨Sample.read_entries, (hchains _ List.mem_cons_self _ _).1, _, w, _, hrun, hasked, spec,
    htrips⟩

end Pipeline

end Stencil
