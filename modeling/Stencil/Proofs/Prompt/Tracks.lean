import Stencil.Proofs.Prompt.Heard
import Stencil.Prompt.Pipeline

/-!
# Two operators side by side

What a step comes to depends on its operator only through the answers to the questions that it asks.
`Step.Tracks` says so of a step with one operator and the same step with another: everything that the
first step asks goes to its own operator, and as far as the other one would have answered the same, the
second step does the same.

The other operator need not agree on questions that were not asked. So the questions are read off the
run of the first step, and the run of the second one is never looked at.
-/

set_option autoImplicit false

namespace Stencil

/-! ## 1. Operators on questions one after another -/

namespace Operator

variable {operator other : Operator} {x : Exchange} {qs rest : List Question}

/-- Where the exchange stands after a question. -/
def next (operator : Operator) (x : Exchange) (q : Question) : Exchange :=
  (x.1 ++ [q], (operator x.1 x.2 q).2)

/-- Where the exchange stands after questions one after another. -/
def after (operator : Operator) : Exchange → List Question → Exchange
  | x, [] => x
  | x, q :: rest => operator.after (operator.next x q) rest

/-- Another operator would have answered the same, and left the same answers. -/
def AgreesOn (operator other : Operator) : Exchange → List Question → Prop
  | _, [] => True
  | x, q :: rest =>
    operator x.1 x.2 q = other x.1 x.2 q ∧ operator.AgreesOn other (operator.next x q) rest

theorem after_append : operator.after x (qs ++ rest) = operator.after (operator.after x qs) rest := by
  induction qs generalizing x with
  | nil => rfl
  | cons q qs ih => exact ih

theorem agreesOn_append :
    operator.AgreesOn other x (qs ++ rest) ↔
      operator.AgreesOn other x qs ∧ operator.AgreesOn other (operator.after x qs) rest := by
  induction qs generalizing x with
  | nil => exact (true_and _).to_iff.symm
  | cons q qs ih => exact (and_congr_right fun _ => ih).trans and_assoc.symm

/-- Taking every default leaves the laid-out answers as they are. -/
theorem answers_after_defaults : (defaults.after x qs).2 = x.2 := by
  induction qs generalizing x with
  | nil => rfl
  | cons q qs ih => exact ih

/-- An operator who has no answers left to follow takes every default. -/
theorem scripted_agreesOn_defaults {history : List Question} :
    scripted.AgreesOn defaults (history, []) qs := by
  induction qs generalizing history with
  | nil => exact True.intro
  | cons q qs ih => exact ⟨rfl, ih⟩

end Operator

/-! ## 2. Steps -/

namespace Step

variable {σ τ ε δ α β : Type} {exchange : σ → Exchange} {operator other : Operator}

/-- The first step puts all its questions to `operator`. It does what the second step does, as far as
`other` would have answered these questions the same. -/
def Tracks (exchange : σ → Exchange) (operator other : Operator) (m m' : Step σ ε α) : Prop :=
  ∀ s, ∃ asked, exchange (m s).2 = operator.after (exchange s) asked ∧
    (operator.AgreesOn other (exchange s) asked → m s = m' s)

/-- A step that asks nothing. -/
theorem Tracks.of_keeps {m : Step σ ε α} (h : Keeps exchange m) :
    Tracks exchange operator other m m :=
  fun s => ⟨[], h s, fun _ => rfl⟩

theorem tracks_pure (a : α) :
    Tracks exchange operator other (pure a : Step σ ε α) (pure a) :=
  .of_keeps (keeps_pure a)

theorem tracks_fail (e : ε) : Tracks exchange operator other (fail e : Step σ ε α) (fail e) :=
  .of_keeps (keeps_fail e)

theorem Tracks.bind {m m' : Step σ ε α} {f f' : α → Step σ ε β}
    (hm : Tracks exchange operator other m m')
    (hf : ∀ a, Tracks exchange operator other (f a) (f' a)) :
    Tracks exchange operator other (m >>= f) (m' >>= f') := by
  intro s
  obtain ⟨first, hfirst, hsame⟩ := hm s
  rcases bind_cases m f s with ⟨e, s₁, hfail, hb⟩ | ⟨a, s₁, hok, hb⟩
  · rw [hfail] at hfirst
    refine ⟨first, by rw [hb]; exact hfirst, fun hagree => ?_⟩
    rw [hb, bind_of_error ((hsame hagree).symm.trans hfail)]
  · obtain ⟨second, hsecond, hsame'⟩ := hf a s₁
    rw [hok] at hfirst
    rw [hfirst] at hsecond hsame'
    refine ⟨first ++ second, ?_, fun hagree => ?_⟩
    · rw [hb, hsecond, Operator.after_append]
    · obtain ⟨hagree₁, hagree₂⟩ := Operator.agreesOn_append.1 hagree
      rw [hb, bind_of_ok ((hsame hagree₁).symm.trans hok), hsame' hagree₂]

/-- Steps that a step which asks nothing comes before. -/
theorem tracks_after {m : Step σ ε α} {f f' : α → Step σ ε β} (hm : Keeps exchange m)
    (hf : ∀ a, Tracks exchange operator other (f a) (f' a)) :
    Tracks exchange operator other (m >>= f) (m >>= f') :=
  (Tracks.of_keeps hm).bind hf

theorem tracks_ite {c : Prop} [Decidable c] {m m' n n' : Step σ ε α}
    (hm : Tracks exchange operator other m m') (hn : Tracks exchange operator other n n') :
    Tracks exchange operator other (if c then m else n) (if c then m' else n') := by
  split
  · exact hm
  · exact hn

/-- Steps that other steps may come before. -/
theorem tracks_first {c : Prop} [Decidable c] {m m' : Step σ ε β} {n n' : Step σ ε α}
    (hm : Tracks exchange operator other m m') (hn : Tracks exchange operator other n n') :
    Tracks exchange operator other (if c then m >>= fun _ => n else n)
      (if c then m' >>= fun _ => n' else n') :=
  tracks_ite (hm.bind fun _ => hn) hn

theorem tracks_each {f f' : α → Step σ ε Unit} {xs : List α}
    (h : ∀ a ∈ xs, Tracks exchange operator other (f a) (f' a)) :
    Tracks exchange operator other (each f xs) (each f' xs) := by
  induction xs with
  | nil => exact tracks_pure ()
  | cons a rest ih =>
    exact (h a List.mem_cons_self).bind fun _ => ih fun b hb => h b (List.mem_cons_of_mem a hb)

theorem Tracks.outcome {m m' : Step σ ε α} (h : Tracks exchange operator other m m') :
    Tracks exchange operator other (Step.outcome m : Step σ δ (Except ε α)) (Step.outcome m') := by
  intro s
  obtain ⟨asked, hasked, hsame⟩ := h s
  refine ⟨asked, hasked, fun hagree => ?_⟩
  unfold Step.outcome
  rw [hsame hagree]

/-- Steps on a part of the state that the exchange is read off. -/
theorem Tracks.on {whole : τ → Exchange} {part : τ → σ} {put : σ → τ → τ} {m m' : Step σ ε α}
    (h : Tracks exchange operator other m m') (hpart : ∀ t, exchange (part t) = whole t)
    (hput : ∀ s t, whole (put s t) = exchange s) :
    Tracks whole operator other (m.on part put) (m'.on part put) := by
  intro t
  obtain ⟨asked, hasked, hsame⟩ := h (part t)
  rw [hpart] at hasked hsame
  refine ⟨asked, (hput _ t).trans hasked, fun hagree => ?_⟩
  unfold Step.on
  rw [hsame hagree]

end Step

/-! ## 3. Questions -/

namespace World

variable (operator other : Operator)

/-- The exchange of a world that other data stands beside. -/
def exchangeBeside {α : Type} (s : α × World) : Exchange :=
  s.2.exchange

theorem tracks_ask (q : Question) :
    Step.Tracks exchange operator other (ask operator q) (ask other q) := by
  intro w
  refine ⟨[q], rfl, fun hagree => ?_⟩
  have hsame : operator w.asked w.answers q = other w.asked w.answers q := hagree.1
  unfold ask
  rw [hsame]

theorem tracks_confirm (message : String) (default : Bool) :
    Step.Tracks exchange operator other (confirm operator message default)
      (confirm other message default) :=
  (tracks_ask operator other _).bind fun _ => Step.tracks_pure _

theorem tracks_askLine (message : String) :
    Step.Tracks exchange operator other (askLine operator message) (askLine other message) :=
  (tracks_ask operator other _).bind fun _ => Step.tracks_pure _

end World

namespace Pipeline

variable (operator other : Operator)

/-- A step on the world beside the data. -/
theorem tracks_onWorld {α : Type} {m m' : Act α}
    (h : Step.Tracks World.exchange operator other m m') :
    Step.Tracks World.exchangeBeside operator other (onWorld m) (onWorld m') :=
  h.on (fun _ => rfl) fun _ _ => rfl

theorem tracks_askOne (transforms : Registry) (spec : PromptSpec) :
    Step.Tracks World.exchangeBeside operator other (askOne transforms operator spec)
      (askOne transforms other spec) := by
  refine Step.tracks_after Step.keeps_get fun s => ?_
  refine Step.tracks_ite (Step.tracks_pure ()) ?_
  refine Step.tracks_after Step.keeps_get fun s => ?_
  refine Step.tracks_after (Step.keeps_ofExcept _) fun default => ?_
  refine (tracks_onWorld operator other (World.tracks_ask operator other _)).bind fun answer => ?_
  refine Step.tracks_after (Step.keeps_ofExcept _) fun value => ?_
  exact .of_keeps (Step.keeps_modify fun _ => rfl)

/-- Prompts are asked as the operator answers them. -/
theorem tracks_collect (pipeline : Pipeline) (transforms : Registry) :
    Step.Tracks World.exchangeBeside operator other (pipeline.collect transforms operator)
      (pipeline.collect transforms other) :=
  Step.tracks_each fun spec _ => tracks_askOne operator other transforms spec

end Pipeline

end Stencil
