import Stencil.Proofs.Prompt.Fill
import Stencil.Template.Authoring

/-!
# Laws of the authoring dialogue

Authoring a template is a row of confirmations, lines and prompts. A law that these obey, and that
sequences take from their parts, is one that the dialogue obeys (`Authoring.Upholds`): that the files
stay as they are, say, or that no fault is one of a specification.
-/

set_option autoImplicit false

namespace Stencil.Authoring

/-- The questions about one prompt, and those that its kind asks for. -/
theorem askField_eq (pipeline : Pipeline) (transforms : Registry) (operator : Operator) :
    askField pipeline transforms operator =
      Pipeline.fill (pipeline.collect transforms operator) >>= askMore operator := by
  funext w
  unfold askField
  rcases hm : pipeline.collect transforms operator (.empty, w) with ⟨e | ⟨⟩, data, w'⟩
  · rw [Step.bind_of_error (Pipeline.fill_of_error hm)]
  · rw [Step.bind_of_ok (Pipeline.fill_of_ok hm)]

/-- What is asked in the dialogue obeys the law, and so do sequences of what obeys it. -/
structure Upholds (law : ∀ {α : Type}, Act α → Prop) (transforms : Registry) (operator : Operator) :
    Prop where
  closed : Step.Closed law
  confirm : ∀ message default, law (World.confirm operator message default)
  askLine : ∀ message, law (World.askLine operator message)
  read : law (Pipeline.read transforms fieldPrompts)
  fill : ∀ pipeline : Pipeline, law (Pipeline.fill (pipeline.collect transforms operator))
  /-- A dialogue that goes on for too long is broken off. -/
  abort : law (Step.fail .userAbort : Act (List Value))

namespace Upholds

variable {law : ∀ {α : Type}, Act α → Prop} {transforms : Registry} {operator : Operator}

theorem askDefault (h : Upholds law transforms operator) (kind : PromptKind) (field : Store) :
    law (askDefault operator kind field) := by
  unfold Authoring.askDefault
  split
  · refine h.closed.bind (h.confirm _ _) fun wanted _ _ _ => ?_
    split
    · exact h.closed.bind (h.askLine _) fun _ _ _ _ => h.closed.pure _
    · exact h.closed.pure _
  · exact h.closed.pure _

theorem askOptions (h : Upholds law transforms operator) (kind : PromptKind) (field : Store) :
    law (askOptions operator kind field) := by
  unfold Authoring.askOptions
  split
  · exact h.closed.bind (h.askLine _) fun _ _ _ _ => h.closed.pure _
  · exact h.closed.pure _

theorem askField (h : Upholds law transforms operator) (pipeline : Pipeline) :
    law (askField pipeline transforms operator) := by
  rw [askField_eq]
  refine h.closed.bind (h.fill pipeline) fun field _ _ _ => ?_
  refine h.closed.bind (h.askDefault _ field) fun filled _ _ _ => ?_
  exact h.closed.bind (h.askOptions _ filled) fun _ _ _ _ => h.closed.pure _

theorem askFields (h : Upholds law transforms operator) (pipeline : Pipeline) (rounds : Nat) :
    law (askFields pipeline transforms operator rounds) := by
  induction rounds with
  | zero => exact h.abort
  | succ rounds ih =>
    refine h.closed.bind (h.askField pipeline) fun field _ _ _ => ?_
    refine h.closed.bind (h.confirm _ _) fun more _ _ _ => ?_
    split
    · exact h.closed.bind ih fun _ _ _ _ => h.closed.pure _
    · exact h.closed.pure _

theorem askPrompts (h : Upholds law transforms operator) (rounds : Nat) :
    law (askPrompts transforms operator rounds) := by
  refine h.closed.bind (h.confirm _ _) fun wanted _ _ _ => ?_
  split
  · exact h.closed.bind h.read fun pipeline _ _ _ => h.askFields pipeline rounds
  · exact h.closed.pure _

theorem askDirectives (h : Upholds law transforms operator) : law (askDirectives operator) := by
  refine h.closed.bind (h.confirm _ _) fun wanted _ _ _ => ?_
  split
  · exact h.closed.pure _
  · exact h.closed.pure _

end Upholds

end Stencil.Authoring
