import Stencil.Proofs.Step
import Stencil.Prompt.Pipeline

/-!
# Prompts that fill data from nothing

A dialogue starts with data that hold nothing, and what it comes to are the data that its prompts have
filled (`Pipeline.fill`). What the prompts keep of the world, and what they fail with, is what the
dialogue keeps and fails with.
-/

set_option autoImplicit false

namespace Stencil.Pipeline

/-- The data that prompts fill from nothing, beside the world. -/
def fill (m : Pipeline.Filling Unit) : Act Store := fun w =>
  match m (.empty, w) with
  | (.ok (), data, w) => (.ok data, w)
  | (.error e, _, w) => (.error e, w)

variable {m : Filling Unit} {w w' : World}

theorem fill_of_ok {data : Store} (h : m (.empty, w) = (.ok (), (data, w'))) :
    fill m w = (.ok data, w') := by
  rw [fill, h]

theorem fill_of_error {data : Store} {e : Fault} (h : m (.empty, w) = (.error e, (data, w'))) :
    fill m w = (.error e, w') := by
  rw [fill, h]

theorem fill_eq_ok {data : Store} (h : fill m w = (.ok data, w')) :
    m (.empty, w) = (.ok (), (data, w')) := by
  rcases hm : m (.empty, w) with ⟨e | ⟨⟩, filled, w₁⟩
  · rw [fill_of_error hm] at h
    exact absurd (Prod.mk.inj h).1 (by simp)
  · rw [fill_of_ok hm] at h
    obtain ⟨hdata, rfl⟩ := Prod.mk.inj h
    rw [Except.ok.inj hdata]

theorem keeps_fill {γ : Type} {part : World → γ}
    (h : Step.Keeps (fun s : Store × World => part s.2) m) : Step.Keeps part (fill m) := by
  intro w
  have hkept := h (.empty, w)
  rcases hm : m (.empty, w) with ⟨e | ⟨⟩, data, w₁⟩
  · rw [hm] at hkept
    rw [fill_of_error hm]
    exact hkept
  · rw [hm] at hkept
    rw [fill_of_ok hm]
    exact hkept

theorem raises_fill {allowed : Fault → Prop} (h : Step.Raises allowed m) :
    Step.Raises allowed (fill m) := by
  intro w e w' hfail
  rcases hm : m (.empty, w) with ⟨e₁ | ⟨⟩, data, w₁⟩
  · rw [fill_of_error hm] at hfail
    rw [← Except.error.inj (Prod.mk.inj hfail).1]
    exact h _ _ _ hm
  · rw [fill_of_ok hm] at hfail
    exact absurd (Prod.mk.inj hfail).1 (by simp)

end Stencil.Pipeline
