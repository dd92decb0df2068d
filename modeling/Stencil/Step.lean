/-!
# Steps

A step works on a state and may fail. What it did to the state before it failed stays done: the
state comes back together with the result in both cases. So a law about a failing step is a law
about the state it leaves, and nothing has to be said about undoing.

A step on a part of a state becomes a step on the whole with `Step.on`, given how to read the part
and how to put it back.
-/

set_option autoImplicit false

namespace Stencil

/-- A computation on a state `σ` that ends with an error `ε` or a result `α`. -/
def Step (σ ε α : Type) : Type :=
  σ → Except ε α × σ

namespace Step

variable {σ τ ε δ α β : Type}

/-- The result and the state that a step ends with. -/
def run (m : Step σ ε α) (s : σ) : Except ε α × σ :=
  m s

/-- Ends at once with a result. -/
def succeed (a : α) : Step σ ε α :=
  fun s => (.ok a, s)

/-- Ends at once with an error. -/
def fail (e : ε) : Step σ ε α :=
  fun s => (.error e, s)

/-- One step after another, as long as none fails. -/
def andThen (m : Step σ ε α) (f : α → Step σ ε β) : Step σ ε β :=
  fun s =>
    match m s with
    | (.ok a, s) => f a s
    | (.error e, s) => (.error e, s)

instance : Monad (Step σ ε) where
  pure := succeed
  bind := andThen

/-- The state. -/
def get : Step σ ε σ :=
  fun s => (.ok s, s)

/-- A reading of the state. -/
def asks (f : σ → α) : Step σ ε α :=
  fun s => (.ok (f s), s)

/-- Changes the state. -/
def modify (f : σ → σ) : Step σ ε Unit :=
  fun s => (.ok (), f s)

/-- A result that is already known to be one or the other. -/
def ofExcept (r : Except ε α) : Step σ ε α :=
  fun s => (r, s)

/-- The value, or an error in its absence. -/
def ofOption (e : ε) (o : Option α) : Step σ ε α :=
  fun s => ((match o with | some a => .ok a | none => .error e), s)

/-- Runs a step and gives its outcome, error or result, as a result. -/
def outcome (m : Step σ ε α) : Step σ δ (Except ε α) :=
  fun s => (.ok (m s).1, (m s).2)

/-- A change that tells whether it came to an end, with the error for when it did not. -/
def attempt (e : ε) (f : σ → Bool × σ) : Step σ ε Unit :=
  fun s =>
    match f s with
    | (true, s) => (.ok (), s)
    | (false, s) => (.error e, s)

/-- A step on a part of the state. -/
def on (part : τ → σ) (put : σ → τ → τ) (m : Step σ ε α) : Step τ ε α :=
  fun t => ((m (part t)).1, put (m (part t)).2 t)

/-- A step for every element, in order. -/
def each (f : α → Step σ ε Unit) : List α → Step σ ε Unit
  | [] => succeed ()
  | a :: rest => andThen (f a) fun _ => each f rest

/-- The results of a step for every element, in order. -/
def collect (f : α → Step σ ε β) : List α → Step σ ε (List β)
  | [] => succeed []
  | a :: rest => andThen (f a) fun b => andThen (collect f rest) fun bs => succeed (b :: bs)

/-! ## Sequences taken apart -/

theorem pure_apply (a : α) (s : σ) : (pure a : Step σ ε α) s = (.ok a, s) := rfl

theorem bind_of_ok {m : Step σ ε α} {f : α → Step σ ε β} {s s₁ : σ} {a : α}
    (h : m s = (.ok a, s₁)) : (m >>= f) s = f a s₁ := by
  show andThen m f s = f a s₁
  rw [andThen, h]

theorem bind_of_error {m : Step σ ε α} {f : α → Step σ ε β} {s s₁ : σ} {e : ε}
    (h : m s = (.error e, s₁)) : (m >>= f) s = (.error e, s₁) := by
  show andThen m f s = (.error e, s₁)
  rw [andThen, h]

/-- A sequence ends with the error of its first step, or as its second step does. -/
theorem bind_cases (m : Step σ ε α) (f : α → Step σ ε β) (s : σ) :
    (∃ e s₁, m s = (.error e, s₁) ∧ (m >>= f) s = (.error e, s₁)) ∨
      ∃ a s₁, m s = (.ok a, s₁) ∧ (m >>= f) s = f a s₁ := by
  rcases hm : m s with ⟨_ | _, s₁⟩
  · exact Or.inl ⟨_, s₁, rfl, bind_of_error hm⟩
  · exact Or.inr ⟨_, s₁, rfl, bind_of_ok hm⟩

theorem bind_eq_ok {m : Step σ ε α} {f : α → Step σ ε β} {s s' : σ} {b : β}
    (h : (m >>= f) s = (.ok b, s')) : ∃ a s₁, m s = (.ok a, s₁) ∧ f a s₁ = (.ok b, s') := by
  rcases bind_cases m f s with ⟨e, s₁, -, he⟩ | ⟨a, s₁, hm, hf⟩
  · rw [he] at h
    exact absurd h (by simp)
  · exact ⟨a, s₁, hm, hf ▸ h⟩

end Step

end Stencil
