import Stencil.Proofs.Step
import Stencil.Template.Find

/-!
# What looking for a template touches

A template that is not where its namespace says is looked for in the others, and those that are found
are offered to the operator one by one. Lines are shown and one question is asked, as often as there
are offers; the session gets a namespace if it has none. Nothing else is touched, however the search
ends (`sought_locate`).
-/

set_option autoImplicit false

namespace Stencil

/-- Looking for a template elsewhere shows lines and asks for agreement, again and again. -/
structure World.Offered (w w' : World) : Prop where
  files : w'.files = w.files
  written : w'.written = w.written
  gitCalls : w'.gitCalls = w.gitCalls
  asked : ∃ n, w'.asked =
    w.asked ++ List.replicate n (.confirm "Are you sure you want to use this template?" false)

theorem World.Offered.refl (w : World) : w.Offered w :=
  ⟨rfl, rfl, rfl, 0, by rw [List.replicate_zero, List.append_nil]⟩

theorem World.Offered.trans {w₁ w₂ w₃ : World} (h : w₁.Offered w₂) (h' : w₂.Offered w₃) :
    w₁.Offered w₃ := by
  obtain ⟨n, hn⟩ := h.asked
  obtain ⟨m, hm⟩ := h'.asked
  refine ⟨h'.files.trans h.files, h'.written.trans h.written, h'.gitCalls.trans h.gitCalls, n + m, ?_⟩
  rw [hm, hn, List.append_assoc, List.replicate_append_replicate]

theorem offered_tell (kind : MessageKind) (text : String) :
    Step.Leads World.Offered (World.tell kind text) :=
  fun w => ⟨rfl, rfl, rfl, 0, by rw [List.replicate_zero, List.append_nil]; rfl⟩

theorem offered_confirm (operator : Operator) :
    Step.Leads World.Offered
      (World.confirm operator "Are you sure you want to use this template?" false) := by
  refine Step.Leads.bind World.Offered.trans (fun w => ?_) fun v => fun w => .refl w
  exact ⟨rfl, rfl, rfl, 1, rfl⟩

theorem offered_offer (operator : Operator) (wanted : ActiveTemplate)
    (candidates : List ActiveTemplate) :
    Step.Leads World.Offered (offer operator wanted candidates) := by
  induction candidates with
  | nil => exact fun w => .refl w
  | cons candidate rest ih =>
    refine Step.Leads.bind World.Offered.trans (offered_tell _ _) fun _ => ?_
    refine Step.Leads.bind World.Offered.trans (offered_confirm _) fun agreed => ?_
    split
    · exact fun w => .refl w
    · exact ih

theorem offered_searchElsewhere (services : Services) (wanted : ActiveTemplate) :
    Step.Leads World.Offered (searchElsewhere services wanted) := by
  refine Step.Leads.bind World.Offered.trans (offered_tell _ _) fun _ => ?_
  refine Step.Leads.bind World.Offered.trans (offered_tell _ _) fun _ => ?_
  refine Step.Leads.bind World.Offered.trans (fun w => .refl w) fun files => ?_
  exact offered_offer _ _ _

/-- What looking for a template can touch: the world by offers, and the namespace of the session. -/
structure Run.Sought (r r' : Run) : Prop where
  world : r.world.Offered r'.world
  session : { r'.session with space := r.session.space } = r.session

theorem Run.Sought.refl (r : Run) : r.Sought r :=
  ⟨.refl _, rfl⟩

theorem Run.Sought.trans {r₁ r₂ r₃ : Run} (h : r₁.Sought r₂) (h' : r₂.Sought r₃) : r₁.Sought r₃ := by
  refine ⟨h.world.trans h'.world, ?_⟩
  rw [← h.session, ← h'.session]

theorem sought_locate (services : Services) (ref : TemplateRef) :
    Step.Leads Run.Sought (locate services ref) := by
  refine Step.Leads.bind Run.Sought.trans (fun r => .refl r) fun space => ?_
  refine Step.Leads.bind Run.Sought.trans (fun r => ⟨.refl _, rfl⟩) fun _ => ?_
  refine Step.Leads.bind Run.Sought.trans (fun r => .refl r) fun there => ?_
  split
  · exact fun r => .refl r
  · exact fun r => ⟨offered_searchElsewhere services _ r.world, rfl⟩

/-- Finding a template can only settle the namespace of the session. -/
theorem keeps_locate {γ : Type} {part : Session → γ}
    (hpart : ∀ s space, part { s with space := space } = part s) (services : Services)
    (ref : TemplateRef) : Step.Keeps (fun r : Run => part r.session) (locate services ref) := by
  intro r
  have hsession := congrArg part (sought_locate services ref r).session
  rw [hpart] at hsession
  exact hsession

end Stencil
