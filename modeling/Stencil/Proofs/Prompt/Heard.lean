import Stencil.Config.File
import Stencil.Proofs.Step

/-!
# What an operator was asked and answered

A world keeps the questions that were asked, but not the answers. They can be had again all the same:
an operator decides by the questions before and the laid-out answers that are left, so it can be asked
the questions of a run once more (`World.heard`). A run is followed the other way round, answer by
answer, with `Heard`; both agree (`Heard.heard_eq`).
-/

set_option autoImplicit false

namespace Stencil

/-- What an operator decides by: the questions so far, and the laid-out answers that are left. -/
abbrev Exchange := List Question × Answers

/-- The answers that an operator gives to questions one after another. -/
def Operator.replies (operator : Operator) : Exchange → List Question → List (Question × Value)
  | _, [] => []
  | x, q :: rest =>
    match operator x.1 x.2 q with
    | (.ok v, left) => (q, v) :: operator.replies (x.1 ++ [q], left) rest
    | (.error _, left) => operator.replies (x.1 ++ [q], left) rest

/-- The operator is asked questions one after another, gives these answers, and none is refused. -/
inductive Heard (operator : Operator) : Exchange → List (Question × Value) → Exchange → Prop where
  | nil (x : Exchange) : Heard operator x [] x
  | cons {x y : Exchange} {q : Question} {v : Value} {left : Answers}
      {heard : List (Question × Value)} (hq : operator x.1 x.2 q = (.ok v, left))
      (hrest : Heard operator (x.1 ++ [q], left) heard y) : Heard operator x ((q, v) :: heard) y

namespace World

/-- Where the exchange with the operator stands. -/
def exchange (w : World) : Exchange :=
  (w.asked, w.answers)

/-- The questions that were asked between two worlds, with their answers. -/
def heard (operator : Operator) (w w' : World) : List (Question × Value) :=
  operator.replies w.exchange (w'.asked.drop w.asked.length)

end World

namespace Heard

variable {operator : Operator} {x y z : Exchange} {xs ys : List (Question × Value)}

theorem trans (h : Heard operator x xs y) (h' : Heard operator y ys z) :
    Heard operator x (xs ++ ys) z := by
  induction h with
  | nil x => exact h'
  | cons hq hrest ih => exact .cons hq (ih h')

theorem asked_eq (h : Heard operator x xs y) : y.1 = x.1 ++ xs.map Prod.fst := by
  induction h with
  | nil x => exact (List.append_nil x.1).symm
  | cons hq hrest ih =>
    rw [ih, List.append_assoc]
    rfl

theorem replies_eq (h : Heard operator x xs y) : operator.replies x (xs.map Prod.fst) = xs := by
  induction h with
  | nil x => rfl
  | cons hq hrest ih =>
    rw [List.map_cons, Operator.replies, hq]
    exact congrArg _ ih

theorem heard_eq {w w' : World} (h : Heard operator w.exchange xs w'.exchange) :
    w.heard operator w' = xs := by
  have hasked : w'.asked = w.asked ++ xs.map Prod.fst := h.asked_eq
  rw [World.heard, hasked, List.drop_left]
  exact h.replies_eq

theorem of_keeps {α : Type} {m : Act α} {a : α} {w w' : World}
    (hkeeps : Step.Keeps World.exchange m) (h : m w = (.ok a, w')) :
    Heard operator w.exchange [] w'.exchange := by
  have hsame := hkeeps w
  rw [h] at hsame
  rw [hsame]
  exact .nil _

end Heard

namespace World

variable {operator : Operator} {w w' : World}

theorem heard_of_ask {q : Question} {v : Value} (h : ask operator q w = (.ok v, w')) :
    Heard operator w.exchange [(q, v)] w'.exchange := by
  obtain ⟨hv, rfl⟩ := Prod.mk.inj h
  exact .cons (Prod.ext hv rfl) (.nil _)

theorem heard_of_confirm {message : String} {default said : Bool}
    (h : confirm operator message default w = (.ok said, w')) :
    ∃ v, v.isTruthy = said ∧
      Heard operator w.exchange [(.confirm message default, v)] w'.exchange := by
  obtain ⟨v, w₁, hask, h⟩ := Step.bind_eq_ok h
  obtain ⟨hsaid, rfl⟩ := Prod.mk.inj h
  exact ⟨v, Except.ok.inj hsaid, heard_of_ask hask⟩

theorem heard_of_askLine {message line : String}
    (h : askLine operator message w = (.ok line, w')) :
    ∃ v, v.display = line ∧ Heard operator w.exchange [(.line message, v)] w'.exchange := by
  obtain ⟨v, w₁, hask, h⟩ := Step.bind_eq_ok h
  obtain ⟨hline, rfl⟩ := Prod.mk.inj h
  exact ⟨v, Except.ok.inj hline, heard_of_ask hask⟩

end World

/-- Saving a configuration asks nothing. -/
theorem ConfigFile.unasked_save (c : ConfigFile) : Step.Keeps World.exchange c.save :=
  Step.Keeps.bind (fun _ => rfl) fun _ _ => rfl

end Stencil
