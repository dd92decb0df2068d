import Stencil.Prompt.Pipeline
import Stencil.Proofs.Transform.Chain
import Stencil.Proofs.Step

/-!
# Reading a pipeline

To read an entry is to check it, and all that happens to the world is that an unknown type is pointed
out (`readEntry_eq`). So the prompts of a pipeline are those that its entries spell, in their order,
and all their transforms are registered (`read_eq_ok`); and entries that spell prompts of known types
with registered transforms are read in every world without a word (`read_of_known`).
-/

set_option autoImplicit false

namespace Stencil

/-- The transforms of the prompt are registered. -/
def PromptSpec.Known (transforms : Registry) (spec : PromptSpec) : Prop :=
  ∀ name ∈ spec.transform ++ spec.transformDefault, transforms.contains name = true

/-- The world with more lines shown. -/
def World.showing (w : World) (lines : List Message) : World :=
  { w with shown := w.shown ++ lines }

@[simp] theorem World.showing_nil (w : World) : w.showing [] = w := by
  rw [showing, List.append_nil]

theorem World.showing_showing (w : World) (xs ys : List Message) :
    (w.showing xs).showing ys = w.showing (xs ++ ys) := by
  simp only [showing, List.append_assoc]

/-- The prompt that an entry spells, if its transforms are registered. -/
def PromptSpec.check (transforms : Registry) (entry : Value) : Except Fault PromptSpec := do
  let spec ← ofValue entry
  transforms.ensureKnown (spec.transform ++ spec.transformDefault)
  return spec

theorem PromptSpec.check_of_ofValue {transforms : Registry} {entry : Value} {spec : PromptSpec}
    (h : ofValue entry = .ok spec) : check transforms entry =
      (transforms.ensureKnown (spec.transform ++ spec.transformDefault)).map fun _ => spec := by
  unfold check
  rw [h]
  show (transforms.ensureKnown (spec.transform ++ spec.transformDefault) >>= fun _ => _) = _
  cases transforms.ensureKnown (spec.transform ++ spec.transformDefault) with
  | error e => rfl
  | ok u => rfl

/-- An entry passes when it spells a prompt and the transforms of the prompt are registered. -/
theorem PromptSpec.check_eq_ok_iff {transforms : Registry} {entry : Value} {spec : PromptSpec} :
    check transforms entry = .ok spec ↔ ofValue entry = .ok spec ∧ spec.Known transforms := by
  cases hread : ofValue entry with
  | error e =>
    unfold check
    rw [hread]
    simp [bind, Except.bind]
  | ok read =>
    rw [check_of_ofValue hread, Except.ok.injEq]
    cases hchain : transforms.ensureKnown (read.transform ++ read.transformDefault) with
    | error e =>
      refine ⟨fun h => absurd h (by simp [Except.map]), ?_⟩
      rintro ⟨rfl, h⟩
      rw [Registry.ensureKnown_eq_ok_iff.2 h] at hchain
      exact absurd hchain (by simp)
    | ok u =>
      refine ⟨fun h => ?_, fun h => congrArg _ h.1⟩
      obtain rfl : read = spec := Except.ok.inj h
      exact ⟨rfl, Registry.ensureKnown_eq_ok_iff.1 hchain⟩

/-- What is pointed out about an entry. -/
def PromptSpec.warnings (entry : Value) : List Message :=
  match ofValue entry with
  | .ok spec => if spec.isFallback then [⟨.warning, Pipeline.fallbackWarning spec⟩] else []
  | .error _ => []

namespace Pipeline

variable {transforms : Registry} {entry : Value} {entries : List Value} {spec : PromptSpec}
  {specs : List PromptSpec} {p : Pipeline} {w w' : World}

/-- Reading an entry is checking it, and pointing out an unknown type. That is pointed out also when
a transform is not registered, and not when the fields are wrong. -/
theorem readEntry_eq (transforms : Registry) (entry : Value) (w : World) :
    readEntry transforms entry w =
      (PromptSpec.check transforms entry, w.showing (PromptSpec.warnings entry)) := by
  cases hspec : PromptSpec.ofValue entry with
  | error e =>
    have hread : (Step.ofExcept (PromptSpec.ofValue entry) : Act PromptSpec) w = (.error e, w) :=
      congrArg (·, w) hspec
    unfold readEntry PromptSpec.check PromptSpec.warnings
    rw [Step.bind_of_error hread, hspec, World.showing_nil]
    rfl
  | ok spec =>
    have hread : (Step.ofExcept (PromptSpec.ofValue entry) : Act PromptSpec) w = (.ok spec, w) :=
      congrArg (·, w) hspec
    have hcheck : PromptSpec.check transforms entry = (do
        transforms.ensureKnown spec.transform
        transforms.ensureKnown spec.transformDefault
        return spec) := by
      unfold PromptSpec.check
      rw [hspec]
      show (transforms.ensureKnown (spec.transform ++ spec.transformDefault) >>= fun _ => _) = _
      rw [Registry.ensureKnown_append, bind_assoc]
    have hchecked : ∀ w₁, (do
        Step.ofExcept (transforms.ensureKnown spec.transform)
        Step.ofExcept (transforms.ensureKnown spec.transformDefault)
        return spec : Act PromptSpec) w₁ = (PromptSpec.check transforms entry, w₁) := by
      intro w₁
      rw [hcheck]
      cases transforms.ensureKnown spec.transform with
      | error e => rfl
      | ok u =>
        cases transforms.ensureKnown spec.transformDefault with
        | error e => rfl
        | ok u => rfl
    unfold readEntry PromptSpec.warnings
    rw [Step.bind_of_ok hread, hspec]
    by_cases hkind : spec.isFallback = true
    · simp only [if_pos hkind]
      exact hchecked _
    · simp only [if_neg hkind, World.showing_nil]
      exact hchecked w

theorem readEntry_eq_ok (h : readEntry transforms entry w = (.ok spec, w')) :
    PromptSpec.ofValue entry = .ok spec ∧ spec.Known transforms := by
  rw [readEntry_eq] at h
  exact PromptSpec.check_eq_ok_iff.1 (congrArg Prod.fst h)

theorem readEntry_of_known (hspec : PromptSpec.ofValue entry = .ok spec)
    (hkind : spec.isFallback = false) (hknown : spec.Known transforms) (w : World) :
    readEntry transforms entry w = (.ok spec, w) := by
  have hwarnings : PromptSpec.warnings entry = [] := by
    unfold PromptSpec.warnings
    simp only [hspec, hkind, Bool.false_eq_true, if_false]
  rw [readEntry_eq, PromptSpec.check_eq_ok_iff.2 ⟨hspec, hknown⟩, hwarnings, World.showing_nil]

/-- The prompts of a pipeline are those that its entries spell. -/
theorem read_eq_ok (h : read transforms entries w = (.ok p, w')) :
    entries.map PromptSpec.ofValue = p.specs.map .ok ∧ ∀ spec ∈ p.specs, spec.Known transforms := by
  obtain ⟨specs, w₁, hspecs, hp⟩ := Step.bind_eq_ok h
  obtain rfl : Pipeline.mk specs = p := Except.ok.inj (congrArg Prod.fst hp)
  clear hp h
  induction entries generalizing specs w with
  | nil =>
    obtain rfl : [] = specs := Except.ok.inj (congrArg Prod.fst hspecs)
    exact ⟨rfl, fun _ h => absurd h List.not_mem_nil⟩
  | cons entry rest ih =>
    rw [Step.collect_cons] at hspecs
    obtain ⟨spec, w₂, hentry, hspecs⟩ := Step.bind_eq_ok hspecs
    obtain ⟨after, w₃, hrest, hspecs⟩ := Step.bind_eq_ok hspecs
    obtain ⟨hcons, rfl⟩ : spec :: after = specs ∧ w₃ = w₁ := by
      simpa [Step.pure_apply] using hspecs
    obtain ⟨hspec, hknown⟩ := readEntry_eq_ok hentry
    obtain ⟨hall, hallKnown⟩ := ih after hrest
    rw [← hcons]
    exact ⟨by rw [List.map_cons, hspec, hall]; rfl, List.forall_mem_cons.2 ⟨hknown, hallKnown⟩⟩

/-- Entries of registered transforms and known types are read in every world. -/
theorem read_of_known (hspecs : entries.map PromptSpec.ofValue = specs.map .ok)
    (hkind : ∀ spec ∈ specs, spec.isFallback = false)
    (hknown : ∀ spec ∈ specs, spec.Known transforms) (w : World) :
    read transforms entries w = (.ok ⟨specs⟩, w) := by
  have hcollect : Step.collect (readEntry transforms) entries w = (.ok specs, w) := by
    induction entries generalizing specs with
    | nil =>
      obtain rfl : specs = [] := List.map_eq_nil_iff.1 hspecs.symm
      rfl
    | cons entry rest ih =>
      cases specs with
      | nil => exact absurd hspecs (by simp)
      | cons spec after =>
        rw [List.map_cons, List.map_cons, List.cons.injEq] at hspecs
        obtain ⟨hspecKind, hafterKind⟩ := List.forall_mem_cons.1 hkind
        obtain ⟨hspecKnown, hafterKnown⟩ := List.forall_mem_cons.1 hknown
        rw [Step.collect_cons,
          Step.bind_of_ok (readEntry_of_known hspecs.1 hspecKind hspecKnown w),
          Step.bind_of_ok (ih hspecs.2 hafterKind hafterKnown)]
        rfl
  exact Step.bind_of_ok hcollect

end Pipeline

end Stencil
