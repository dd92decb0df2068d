import Stencil.Step

/-!
# What a step keeps

Most steps touch a small part of their state, and most laws about a run say that some part of the
state is as it was. `Step.Keeps part m` says so of one step, **however it ends**: an error does not
undo anything, so nothing may be touched before it either. The combinators carry it from parts to
wholes; a law about a long step is then a list of its parts. A step that touches the part may still leave
it alone whenever it fails (`Step.Harmless`): what touches it comes last, or fails in a way that is
excused.

Two steps that always do the same are equal, and a row of steps splits wherever its list does. What is
shown of a loop for several such laws is shown once, for any law that sequences take from their parts
(`Step.Closed`).
-/

set_option autoImplicit false

namespace Stencil.Step

variable {σ τ ε δ α β γ : Type}

/-! ## 1. Sequences -/

theorem bind_pure (m : Step σ ε α) : (m >>= fun a => pure a) = m := by
  funext s
  rcases bind_cases m (fun a => pure a) s with ⟨e, s₁, hm, hb⟩ | ⟨a, s₁, hm, hb⟩
  · rw [hb, hm]
  · rw [hb, hm, pure_apply]

/-- Sequences are equal on a state when their second steps are, wherever the first one leads. -/
theorem bind_congr_of_ok {m : Step σ ε α} {f g : α → Step σ ε β} {s : σ}
    (h : ∀ a s₁, m s = (.ok a, s₁) → f a s₁ = g a s₁) : (m >>= f) s = (m >>= g) s := by
  rcases bind_cases m f s with ⟨e, s₁, hm, hb⟩ | ⟨a, s₁, hm, hb⟩
  · rw [hb, bind_of_error hm]
  · rw [hb, bind_of_ok hm, h a s₁ hm]

theorem bind_congr_left {m n : Step σ ε α} {s : σ} (h : m s = n s) (f : α → Step σ ε β) :
    (m >>= f) s = (n >>= f) s := by
  show andThen m f s = andThen n f s
  rw [andThen, andThen, h]

/-- What holds after the first step of a sequence holds after the sequence, if the second step sees
to it. -/
theorem after_bind {P : σ → Prop} {m : Step σ ε α} {f : α → Step σ ε β} {s : σ} (hm : P (m s).2)
    (h : ∀ a s₁, m s = (.ok a, s₁) → P s₁ → P (f a s₁).2) : P ((m >>= f) s).2 := by
  rcases bind_cases m f s with ⟨e, s₁, hfail, hb⟩ | ⟨a, s₁, hok, hb⟩
  · rw [hfail] at hm
    rw [hb]
    exact hm
  · rw [hok] at hm
    rw [hb]
    exact h a s₁ hok hm

/-- After a step that only looks at the state, what holds of the state holds still, if the rest of
the sequence sees to it. -/
theorem after_reading {P : σ → Prop} {m : Step σ ε α} {f : α → Step σ ε β} {s : σ} {r : Except ε α}
    (hm : m s = (r, s)) (hs : P s) (h : ∀ a, r = .ok a → P (f a s).2) : P ((m >>= f) s).2 := by
  refine after_bind (by rw [hm]; exact hs) fun a s₁ hok _ => ?_
  obtain ⟨rfl, rfl⟩ := Prod.mk.inj (hm.symm.trans hok)
  exact h a rfl

theorem pure_eq_ok {a b : α} {s s' : σ} (h : (pure a : Step σ ε α) s = (.ok b, s')) :
    a = b ∧ s = s' :=
  ⟨Except.ok.inj (Prod.mk.inj h).1, (Prod.mk.inj h).2⟩

/-- What a step that ended well came to. -/
theorem eq_ok_of_toOption {r : Except ε α × σ} {a : α} (h : r.1.toOption = some a) :
    r = (.ok a, r.2) := by
  obtain ⟨_ | b, s⟩ := r
  · exact absurd h (by simp [Except.toOption])
  · rw [Except.toOption, Option.some.injEq] at h
    rw [h]

/-- A sequence that fails has failed in its first step or in its second. -/
theorem bind_eq_error {m : Step σ ε α} {f : α → Step σ ε β} {s s' : σ} {e : ε}
    (h : (m >>= f) s = (.error e, s')) :
    m s = (.error e, s') ∨ ∃ a s₁, m s = (.ok a, s₁) ∧ f a s₁ = (.error e, s') := by
  rcases bind_cases m f s with ⟨e', s₁, hm, hb⟩ | ⟨a, s₁, hm, hb⟩
  · rw [hb] at h
    obtain ⟨hfault, rfl⟩ := Prod.mk.inj h
    rw [← Except.error.inj hfault]
    exact Or.inl hm
  · exact Or.inr ⟨a, s₁, hm, hb ▸ h⟩

/-- What a step that failed came to. -/
theorem eq_error_of_fst {r : Except ε α × σ} {e : ε} (h : r.1 = .error e) : r = (.error e, r.2) :=
  Prod.ext h rfl

/-- What is made of a result leaves the state. -/
theorem snd_bind_pure (m : Step σ ε α) (f : α → β) (s : σ) :
    ((m >>= fun a => pure (f a)) s).2 = (m s).2 := by
  rcases bind_cases m (fun a => pure (f a)) s with ⟨e, s₁, hm, hb⟩ | ⟨a, s₁, hm, hb⟩
  · rw [hb, hm]
  · rw [hb, hm, pure_apply]

theorem bind_assoc (m : Step σ ε α) (f : α → Step σ ε β) (g : β → Step σ ε γ) :
    (m >>= f) >>= g = m >>= fun a => f a >>= g := by
  funext s
  rcases bind_cases m f s with ⟨e, s₁, hm, hb⟩ | ⟨a, s₁, hm, hb⟩
  · rw [bind_of_error hb, bind_of_error hm]
  · rw [bind_of_ok hm]
    show andThen (m >>= f) g s = andThen (f a) g s₁
    rw [andThen, andThen, hb]

/-- A change is made whether or not it came to its end. -/
theorem snd_attempt (e : ε) (f : σ → Bool × σ) (s : σ) : (attempt e f s).2 = (f s).2 := by
  unfold attempt
  rcases f s with ⟨_ | _, t⟩
  · rfl
  · rfl

theorem each_cons (f : α → Step σ ε Unit) (a : α) (rest : List α) :
    each f (a :: rest) = f a >>= fun _ => each f rest := rfl

theorem collect_cons (f : α → Step σ ε β) (a : α) (rest : List α) :
    collect f (a :: rest) = f a >>= fun b => collect f rest >>= fun bs => pure (b :: bs) := rfl

/-- Steps for the elements of two lists, one list after the other. -/
theorem each_append (f : α → Step σ ε Unit) (xs ys : List α) :
    each f (xs ++ ys) = each f xs >>= fun _ => each f ys := by
  induction xs with
  | nil => rfl
  | cons a rest ih =>
    rw [List.cons_append, each_cons, each_cons, ih, bind_assoc]

/-- A row of steps that fails is a row that ends well and a step that fails. -/
theorem each_error {f : α → Step σ ε Unit} {xs : List α} {s s' : σ} {e : ε}
    (h : each f xs s = (.error e, s')) :
    ∃ before a after s₀, xs = before ++ a :: after ∧ each f before s = (.ok (), s₀) ∧
      f a s₀ = (.error e, s') := by
  induction xs generalizing s with
  | nil => exact absurd h (by simp [each, succeed])
  | cons a rest ih =>
    rw [each_cons] at h
    rcases bind_cases (f a) (fun _ => each f rest) s with ⟨e', s₁, ha, hb⟩ | ⟨u, s₁, ha, hb⟩
    · rw [hb] at h
      exact ⟨[], a, rest, s, rfl, rfl, ha.trans h⟩
    · rw [hb] at h
      obtain ⟨before, b, after, s₀, hsplit, hbefore, hfail⟩ := ih h
      refine ⟨a :: before, b, after, s₀, by rw [hsplit]; rfl, ?_, hfail⟩
      rw [each_cons, bind_of_ok ha]
      exact hbefore

/-- What holds at the start of a row of steps and is kept by each step that is reached holds at the
end of the row. -/
theorem each_induction {P : σ → Prop} {f : α → Step σ ε Unit} {xs : List α} {s : σ} (hs : P s)
    (h : ∀ k a s₁, xs[k]? = some a → each f (xs.take k) s = (.ok (), s₁) → P s₁ → P (f a s₁).2) :
    P (each f xs s).2 := by
  induction xs generalizing s with
  | nil => exact hs
  | cons a rest ih =>
    rw [each_cons]
    refine after_bind (h 0 a s rfl rfl hs) fun u s₁ ha hP₁ => ?_
    -- a row of `k` steps behind the first one is a row of `k + 1`
    refine ih hP₁ fun k b s₂ hk hbefore hP => h (k + 1) b s₂ hk ?_ hP
    rw [List.take_succ_cons, each_cons, bind_of_ok ha]
    exact hbefore

/-! ## 2. Parts of the state that a step keeps -/

/-- The step leaves a part of the state as it is, however it ends. -/
def Keeps (part : σ → γ) (m : Step σ ε α) : Prop :=
  ∀ s, part (m s).2 = part s

section

variable {part : σ → γ}

theorem keeps_pure (a : α) : Keeps part (pure a : Step σ ε α) := fun _ => rfl

theorem keeps_fail (e : ε) : Keeps part (fail e : Step σ ε α) := fun _ => rfl

theorem keeps_get : Keeps part (get : Step σ ε σ) := fun _ => rfl

theorem keeps_ofExcept (r : Except ε α) : Keeps part (ofExcept r : Step σ ε α) := fun _ => rfl

theorem keeps_modify {f : σ → σ} (h : ∀ s, part (f s) = part s) :
    Keeps part (modify f : Step σ ε Unit) := h

theorem Keeps.bind {m : Step σ ε α} {f : α → Step σ ε β} (hm : Keeps part m)
    (hf : ∀ a, Keeps part (f a)) : Keeps part (m >>= f) := by
  intro s
  exact after_bind (hm s) fun a s₁ _ hs => (hf a s₁).trans hs

/-- A part that the second step keeps is as the first step left it. -/
theorem part_bind (part : σ → γ) {m : Step σ ε α} {f : α → Step σ ε β}
    (hf : ∀ a, Keeps part (f a)) (s : σ) :
    part ((m >>= f) s).2 = part (m s).2 :=
  after_bind (P := fun s' => part s' = part (m s).2) rfl fun a s₁ _ hs => (hf a s₁).trans hs

theorem keeps_ite {c : Prop} [Decidable c] {m n : Step σ ε α} (hm : Keeps part m)
    (hn : Keeps part n) : Keeps part (if c then m else n) := by
  split
  · exact hm
  · exact hn

/-- A part that two steps keep is kept by the second one, whether or not the first comes before. -/
theorem keeps_first {c : Prop} [Decidable c] {m : Step σ ε β} {n : Step σ ε α}
    (hm : Keeps part m) (hn : Keeps part n) :
    Keeps part (if c then m >>= fun _ => n else n) :=
  keeps_ite (hm.bind fun _ => hn) hn

theorem keeps_each {f : α → Step σ ε Unit} {xs : List α} (h : ∀ a ∈ xs, Keeps part (f a)) :
    Keeps part (each f xs) := by
  induction xs with
  | nil => exact keeps_pure ()
  | cons a rest ih =>
    exact (h a List.mem_cons_self).bind fun _ => ih fun b hb => h b (List.mem_cons_of_mem a hb)

theorem keeps_collect {f : α → Step σ ε β} {xs : List α} (h : ∀ a, Keeps part (f a)) :
    Keeps part (collect f xs) := by
  induction xs with
  | nil => exact keeps_pure []
  | cons a rest ih => exact (h a).bind fun b => ih.bind fun bs => keeps_pure (b :: bs)

end

/-- A step on one part keeps another. -/
theorem keeps_on {part : τ → γ} {get : τ → σ} {put : σ → τ → τ} (m : Step σ ε α)
    (h : ∀ s t, part (put s t) = part t) : Keeps part (m.on get put) :=
  fun t => h _ t

/-! ## 3. Where a step can take its state -/

/-- The states before and after the step are related, however it ends. -/
def Leads (rel : σ → σ → Prop) (m : Step σ ε α) : Prop :=
  ∀ s, rel s (m s).2

section

variable {rel : σ → σ → Prop}

theorem Leads.bind {m : Step σ ε α} {f : α → Step σ ε β}
    (htrans : ∀ {s s₁ s₂}, rel s s₁ → rel s₁ s₂ → rel s s₂) (hm : Leads rel m)
    (hf : ∀ a, Leads rel (f a)) : Leads rel (m >>= f) := by
  intro s
  exact after_bind (hm s) fun a s₁ _ hs => htrans hs (hf a s₁)

/-- What a step relates of a part, a sequence relates that keeps the part up to that step. -/
theorem Leads.of_keeps_bind {part : σ → γ} {rel : γ → γ → Prop} {m : Step σ ε α}
    {f : α → Step σ ε β} (hrefl : ∀ x, rel x x) (hm : Keeps part m)
    (hf : ∀ a, Leads (fun s s' => rel (part s) (part s')) (f a)) :
    Leads (fun s s' => rel (part s) (part s')) (m >>= f) := by
  intro s
  have hfirst : rel (part s) (part (m s).2) := by
    rw [hm s]
    exact hrefl _
  refine after_bind (P := fun s' => rel (part s) (part s')) hfirst fun a s₁ hok _ => ?_
  have hsame := hm s
  rw [hok] at hsame
  rw [← hsame]
  exact hf a s₁

theorem leads_first {part : σ → γ} {rel : γ → γ → Prop} {c : Prop} [Decidable c] {m : Step σ ε β}
    {n : Step σ ε α} (hrefl : ∀ x, rel x x) (hm : Keeps part m)
    (hn : Leads (fun s s' => rel (part s) (part s')) n) :
    Leads (fun s s' => rel (part s) (part s')) (if c then m >>= fun _ => n else n) := by
  split
  · exact .of_keeps_bind hrefl hm fun _ => hn
  · exact hn

/-- What comes after a step and keeps the part relates it as the step does. -/
theorem Leads.bind_keeps {part : σ → γ} {rel : γ → γ → Prop} {m : Step σ ε α}
    {f : α → Step σ ε β} (hm : Leads (fun s s' => rel (part s) (part s')) m)
    (hf : ∀ a, Keeps part (f a)) : Leads (fun s s' => rel (part s) (part s')) (m >>= f) := by
  intro s
  show rel (part s) (part ((m >>= f) s).2)
  rw [part_bind part hf]
  exact hm s

theorem leads_each (hrefl : ∀ s, rel s s) (htrans : ∀ {s s₁ s₂}, rel s s₁ → rel s₁ s₂ → rel s s₂)
    {f : α → Step σ ε Unit} {xs : List α} (h : ∀ a ∈ xs, Leads rel (f a)) :
    Leads rel (each f xs) := by
  induction xs with
  | nil => exact hrefl
  | cons a rest ih =>
    refine Leads.bind htrans (h a List.mem_cons_self) fun _ => ?_
    exact ih fun b hb => h b (List.mem_cons_of_mem a hb)

end

/-! ## 4. What a step can fail with -/

/-- Whatever the step fails with is allowed. -/
def Raises (allowed : ε → Prop) (m : Step σ ε α) : Prop :=
  ∀ s e s', m s = (.error e, s') → allowed e

section

variable {allowed : ε → Prop}

theorem raises_pure (a : α) : Raises allowed (pure a : Step σ ε α) :=
  fun _ _ _ h => absurd (Prod.mk.inj h).1 (by simp)

theorem raises_modify (f : σ → σ) : Raises allowed (modify f : Step σ ε Unit) :=
  fun _ _ _ h => absurd (Prod.mk.inj h).1 (by simp)

theorem raises_asks (f : σ → α) : Raises allowed (asks f : Step σ ε α) :=
  fun _ _ _ h => absurd (Prod.mk.inj h).1 (by simp)

theorem raises_get : Raises allowed (get : Step σ ε σ) :=
  fun _ _ _ h => absurd (Prod.mk.inj h).1 (by simp)

theorem raises_ofExcept {r : Except ε α} (h : ∀ e, r = .error e → allowed e) :
    Raises allowed (ofExcept r : Step σ ε α) :=
  fun _ e _ hfail => h e (Prod.mk.inj hfail).1

theorem raises_fail {e : ε} (h : allowed e) : Raises allowed (fail e : Step σ ε α) := by
  intro s e' s' hfail
  rw [← Except.error.inj (Prod.mk.inj hfail).1]
  exact h

theorem raises_attempt {e : ε} (h : allowed e) (f : σ → Bool × σ) :
    Raises allowed (attempt e f) := by
  intro s e' s' hattempt
  unfold attempt at hattempt
  split at hattempt
  · exact absurd (Prod.mk.inj hattempt).1 (by simp)
  · rw [← Except.error.inj (Prod.mk.inj hattempt).1]
    exact h

theorem Raises.bind {m : Step σ ε α} {f : α → Step σ ε β} (hm : Raises allowed m)
    (hf : ∀ a, Raises allowed (f a)) : Raises allowed (m >>= f) := by
  intro s e s' h
  rcases bind_eq_error h with hfail | ⟨a, s₁, -, hfail⟩
  · exact hm s e s' hfail
  · exact hf a s₁ e s' hfail

theorem raises_ite {c : Prop} [Decidable c] {m n : Step σ ε α} (hm : Raises allowed m)
    (hn : Raises allowed n) : Raises allowed (if c then m else n) := by
  split
  · exact hm
  · exact hn

/-- A step that another one may come before fails as one of the two does. -/
theorem raises_first {c : Prop} [Decidable c] {m : Step σ ε β} {n : Step σ ε α}
    (hm : Raises allowed m) (hn : Raises allowed n) :
    Raises allowed (if c then m >>= fun _ => n else n) :=
  raises_ite (hm.bind fun _ => hn) hn

theorem raises_each {f : α → Step σ ε Unit} {xs : List α} (h : ∀ a ∈ xs, Raises allowed (f a)) :
    Raises allowed (each f xs) := by
  intro s e s' hfail
  obtain ⟨before, a, after, s₀, rfl, -, ha⟩ := each_error hfail
  exact h a (List.mem_append_right _ List.mem_cons_self) s₀ e s' ha

theorem raises_collect {f : α → Step σ ε β} {xs : List α} (h : ∀ a ∈ xs, Raises allowed (f a)) :
    Raises allowed (collect f xs) := by
  induction xs with
  | nil => exact raises_pure []
  | cons a rest ih =>
    refine (h a List.mem_cons_self).bind fun b => ?_
    exact (ih fun c hc => h c (List.mem_cons_of_mem a hc)).bind fun bs => raises_pure (b :: bs)

theorem raises_ofOption {e : ε} (h : allowed e) (o : Option α) :
    Raises allowed (ofOption e o : Step σ ε α) := by
  intro s e' s' hfail
  cases o with
  | some a => exact absurd (Prod.mk.inj hfail).1 (by simp)
  | none =>
    rw [← Except.error.inj (Prod.mk.inj hfail).1]
    exact h

/-- What goes on with the outcome of a step may fail with what the step failed with. -/
theorem Raises.outcome_bind {m : Step σ ε α} {f : Except ε α → Step σ ε β}
    (hm : Raises allowed m)
    (hf : ∀ x, (∀ e, x = .error e → allowed e) → Raises allowed (f x)) :
    Raises allowed (outcome m >>= f) := by
  intro s e s' h
  refine hf (m s).1 (fun e' he' => ?_) (m s).2 e s' h
  exact hm s e' (m s).2 (eq_error_of_fst he')

theorem Raises.on {m : Step σ ε α} (hm : Raises allowed m) (part : τ → σ) (put : σ → τ → τ) :
    Raises allowed (m.on part put) :=
  fun t e _ h => hm (part t) e (m (part t)).2 (eq_error_of_fst (Prod.mk.inj h).1)

end

/-! ## 5. Failures that leave no trace -/

/-- Whenever the step fails, and not in a way that is excused, a part of the state is as it was. -/
def Harmless (part : σ → γ) (excused : ε → Prop) (m : Step σ ε α) : Prop :=
  ∀ s e s', m s = (.error e, s') → ¬ excused e → part s' = part s

section

variable {part : σ → γ} {excused : ε → Prop}

theorem Keeps.harmless {m : Step σ ε α} (h : Keeps part m) (excused : ε → Prop) :
    Harmless part excused m := by
  intro s e s' hfail _
  have hpart := h s
  rw [hfail] at hpart
  exact hpart

theorem Raises.harmless {m : Step σ ε α} (h : Raises excused m) (part : σ → γ) :
    Harmless part excused m :=
  fun s e s' hfail hother => absurd (h s e s' hfail) hother

/-- What comes before a harmless step must not touch the part, since it is not undone. -/
theorem Harmless.bind {m : Step σ ε α} {f : α → Step σ ε β} (hm : Keeps part m)
    (hf : ∀ a, Harmless part excused (f a)) : Harmless part excused (m >>= f) := by
  intro s e s' h hother
  rcases bind_eq_error h with hfail | ⟨a, s₁, hok, hfail⟩
  · exact hm.harmless excused s e s' hfail hother
  · have hfirst := hm s
    rw [hok] at hfirst
    exact (hf a s₁ e s' hfail hother).trans hfirst

/-- What comes after a harmless step must not fail. -/
theorem Harmless.andThen {m : Step σ ε α} {f : α → Step σ ε β} (hm : Harmless part excused m)
    (hf : ∀ a, Raises (fun _ => False) (f a)) : Harmless part excused (m >>= f) := by
  intro s e s' h hother
  rcases bind_eq_error h with hfail | ⟨a, s₁, -, hfail⟩
  · exact hm s e s' hfail hother
  · exact (hf a s₁ e s' hfail).elim

/-- A step in front of which the whole may be refused. -/
theorem harmless_first {c : Prop} [Decidable c] {m : Step σ ε β} {n : Step σ ε α}
    (hm : Keeps part m) (hn : Harmless part excused n) :
    Harmless part excused (if c then m >>= fun _ => n else n) := by
  split
  · exact Harmless.bind hm fun _ => hn
  · exact hn

end

/-! ## 6. Laws of parts and wholes -/

/-- A law that a sequence has when its parts have it. The second part is only asked about results that
the first one can have. -/
structure Closed (law : ∀ {α : Type}, Step σ ε α → Prop) : Prop where
  pure : ∀ {α : Type} (a : α), law (pure a : Step σ ε α)
  asks : ∀ {α : Type} (f : σ → α), law (asks f : Step σ ε α)
  bind : ∀ {α β : Type} {m : Step σ ε α} {f : α → Step σ ε β}, law m →
    (∀ a s s₁, m s = (.ok a, s₁) → law (f a)) → law (m >>= f)

theorem closed_keeps (part : σ → γ) : Closed fun {α} (m : Step σ ε α) => Keeps part m where
  pure := keeps_pure
  asks _ _ := rfl
  bind hm hf s := after_bind (hm s) fun a s₁ hok hs => (hf a s s₁ hok s₁).trans hs

theorem closed_raises (allowed : ε → Prop) :
    Closed fun {α} (m : Step σ ε α) => Raises allowed m where
  pure := raises_pure
  asks := raises_asks
  bind hm hf s e s' h := by
    rcases bind_eq_error h with hfail | ⟨a, s₁, hok, hfail⟩
    · exact hm s e s' hfail
    · exact hf a s s₁ hok s₁ e s' hfail

end Stencil.Step
