import Stencil.Prompt.Pipeline
import Stencil.Proofs.Step
import Stencil.Proofs.Store.Maps

/-!
# Collecting answers

A pipeline asks each of its keys that has no value, once, in the order in which the keys first come,
and leaves every key with a value. What makes this delicate is that an answer is written through a
dotted key into the very data that the next prompt looks at: it can make, extend or replace maps
that other keys pass through.

It goes well under two conditions on the keys: none leads into another one (`Separate`), and where
one passes through something that is there, that is a map (`Fits`). Then no list stands on the way
of any key, and that is the invariant of a run (`ListFreeFor`): by `listFree_assign` an answer keeps
it, and by the frame law an answer to one key is no matter to another (`get?_set_other`).

A run that fails is a run of the prompts before the failing one, and the failing prompt leaves the
data alone (`collect_error`). So what holds of runs that end well holds of the data of all others
too.
-/

set_option autoImplicit false

namespace Stencil.Pipeline

/-! ## 1. Keys that go together -/

/-- The keys in order. -/
def names (p : Pipeline) : List String :=
  p.specs.map (·.name)

/-- No key leads into another one. -/
def Separate (names : List String) : Prop :=
  ∀ a ∈ names, ∀ b ∈ names, segments a <+: segments b → segments a = segments b

/-- Where a key passes through something that is there, that is a map. -/
def Fits (names : List String) (d : Store) : Prop :=
  ∀ name ∈ names, ∀ before after, segments name = before ++ after → after ≠ [] →
    ∀ x, d.toValue.at? before = some x → ∃ fields, x = .map fields

/-- No list stands on the way of a key. -/
def ListFreeFor (names : List String) (d : Store) : Prop :=
  ∀ name ∈ names, Value.ListFree (segments name) d.toValue

theorem listFreeFor_of_fits {names : List String} {d : Store} (h : Fits names d) :
    ListFreeFor names d := by
  intro name hname before s after items hsplit hat
  obtain ⟨fields, hx⟩ := h name hname before (s :: after) hsplit (by simp) _ hat
  exact absurd hx (by simp)

/-- An answer to one key is no matter to another. -/
theorem get?_set_other {names : List String} {d : Store} (hsep : Separate names)
    (hfree : ListFreeFor names d) {a b : String} (ha : a ∈ names) (hb : b ∈ names) (hab : a ≠ b)
    (v : Value) : (d.set a v).get? b = d.get? b := by
  refine Store.get?_set_of_diverges v (hfree a ha).addressed ?_
  refine Value.diverges_of_listFree (hfree a ha) ?_ ?_
  · exact fun h => hab (segments_injective (hsep a ha b hb h))
  · exact fun h => hab (segments_injective (hsep b hb a ha h)).symm

/-- An answer leaves no list on the way of a key. -/
theorem listFreeFor_set {names : List String} {d : Store} (hsep : Separate names)
    (hfree : ListFreeFor names d) {a : String} (ha : a ∈ names) (v : Value) :
    ListFreeFor names (d.set a v) := by
  intro b hb
  rw [Store.toValue_set]
  exact Value.listFree_assign v (hfree a ha) (hfree b hb) (hsep a ha b hb)

/-- Answers to other keys are no matter to a key. -/
theorem get?_putAll_other {names : List String} {d : Store} (hsep : Separate names)
    (hfree : ListFreeFor names d) {answers : Fields Value}
    (hkeys : ∀ pair ∈ answers, pair.1 ∈ names) {b : String} (hb : b ∈ names)
    (hne : ∀ pair ∈ answers, pair.1 ≠ b) : (d.putAll answers).get? b = d.get? b := by
  induction answers generalizing d with
  | nil => rfl
  | cons pair rest ih =>
    obtain ⟨hpair, hrest⟩ := List.forall_mem_cons.1 hkeys
    obtain ⟨hpairNe, hrestNe⟩ := List.forall_mem_cons.1 hne
    have hset : (d.putAll (pair :: rest)) = (d.set pair.1 pair.2).putAll rest := rfl
    rw [hset, ih (listFreeFor_set hsep hfree hpair pair.2) hrest hrestNe,
      get?_set_other hsep hfree hpair hb hpairNe]

/-- Of answers to distinct keys, each is found under its key. -/
theorem get?_putAll_of_mem {names : List String} {d : Store} (hsep : Separate names)
    (hfree : ListFreeFor names d) {answers : Fields Value}
    (hkeys : ∀ pair ∈ answers, pair.1 ∈ names) (hdistinct : Fields.Distinct answers) {b : String}
    {v : Value} (hmem : (b, v) ∈ answers) : (d.putAll answers).get? b = some v := by
  induction answers generalizing d with
  | nil => exact absurd hmem List.not_mem_nil
  | cons pair rest ih =>
    obtain ⟨hpair, hrest⟩ := List.forall_mem_cons.1 hkeys
    obtain ⟨hnew, hdistinct⟩ := List.nodup_cons.1 hdistinct
    have hset : (d.putAll (pair :: rest)) = (d.set pair.1 pair.2).putAll rest := rfl
    have hfree' := listFreeFor_set hsep hfree hpair pair.2
    rw [hset]
    rcases List.mem_cons.1 hmem with heq | hmem
    · rw [← heq] at hnew hpair hfree' ⊢
      have hne : ∀ e ∈ rest, e.1 ≠ b := fun e he heq => hnew (List.mem_map.2 ⟨e, he, heq⟩)
      rw [get?_putAll_other hsep hfree' hrest hpair hne, Store.get?_set]
    · exact ih hfree' hrest hdistinct hmem

/-! ## 2. One prompt -/

section

variable {transforms : Registry} {operator : Operator} {spec : PromptSpec} {d : Store} {w : World}

theorem askOne_apply :
    askOne transforms operator spec (d, w) =
      if d.has spec.name then (.ok (), (d, w)) else answer transforms operator spec (d, w) := by
  have hget : (Step.get : Filling (Store × World)) (d, w) = (.ok (d, w), (d, w)) := rfl
  unfold askOne
  rw [Step.bind_of_ok hget]
  dsimp only
  split <;> rfl

/-- A prompt fails only where its key has no value. -/
theorem askOne_eq_error_iff {e : Fault} {s : Store × World} :
    askOne transforms operator spec (d, w) = (.error e, s) ↔
      d.has spec.name = false ∧ answer transforms operator spec (d, w) = (.error e, s) := by
  rw [askOne_apply]
  cases d.has spec.name with
  | true => simp
  | false => simp

theorem onWorld_apply {α : Type} (m : Act α) : onWorld m (d, w) = ((m w).1, (d, (m w).2)) := rfl

/-- A prompt whose default fails asks nothing. -/
theorem answer_of_default_error {e : Fault}
    (hdefault : resolveDefault ⟨d, transforms, w.files⟩ spec = .error e) :
    answer transforms operator spec (d, w) = (.error e, (d, w)) := by
  have hget : (Step.get : Filling (Store × World)) (d, w) = (.ok (d, w), (d, w)) := rfl
  have hstop : (Step.ofExcept (resolveDefault ⟨d, transforms, w.files⟩ spec) :
      Filling (Option Value)) (d, w) = (.error e, (d, w)) := by rw [hdefault]; rfl
  unfold answer
  rw [Step.bind_of_ok hget]
  exact Step.bind_of_error hstop

/-- A prompt whose default is settled asks its question, and stores what the transforms make of the
answer; they read the files as they were when the question was asked. -/
theorem answer_of_default_ok {default : Option Value}
    (hdefault : resolveDefault ⟨d, transforms, w.files⟩ spec = .ok default) :
    answer transforms operator spec (d, w) =
      match World.ask operator (question spec default) w with
      | (.error e, w') => (.error e, (d, w'))
      | (.ok given, w') =>
        match transforms.apply w.files given spec.transform with
        | .error e => (.error e, (d, w'))
        | .ok v => (.ok (), (d.set spec.name v, w')) := by
  have hget : (Step.get : Filling (Store × World)) (d, w) = (.ok (d, w), (d, w)) := rfl
  have hd : (Step.ofExcept (resolveDefault ⟨d, transforms, w.files⟩ spec) :
      Filling (Option Value)) (d, w) = (.ok default, (d, w)) := by rw [hdefault]; rfl
  unfold answer
  rw [Step.bind_of_ok hget]
  dsimp only
  rw [Step.bind_of_ok hd]
  rcases hask : World.ask operator (question spec default) w with ⟨e | given, w'⟩
  · have ho : (onWorld (World.ask operator (question spec default)) : Filling Value) (d, w) =
        (.error e, (d, w')) := by rw [onWorld_apply, hask]
    exact Step.bind_of_error ho
  · have ho : (onWorld (World.ask operator (question spec default)) : Filling Value) (d, w) =
        (.ok given, (d, w')) := by rw [onWorld_apply, hask]
    rw [Step.bind_of_ok ho]
    dsimp only
    cases transforms.apply w.files given spec.transform with
    | error e => rfl
    | ok v => rfl

/-- A value that the operator gave for a prompt, after the transforms of the prompt. -/
def GivenFor (transforms : Registry) (operator : Operator) (spec : PromptSpec) (v : Value) : Prop :=
  ∃ (history : List Question) (laidOut : Answers) (q : Question) (given : Value) (files : FileTree),
    q.name = spec.name ∧ (operator history laidOut q).1 = .ok given ∧
      transforms.apply files given spec.transform = .ok v

/-- **Asking a prompt** asks at most one question, by the key, and stores what comes of the answer;
or it fails with the data as it was. -/
theorem answer_cases :
    (∃ q v w', q.name = spec.name ∧ w'.asked = w.asked ++ [q] ∧ GivenFor transforms operator spec v ∧
      answer transforms operator spec (d, w) = (.ok (), (d.set spec.name v, w'))) ∨
    (∃ e w' qs, w'.asked = w.asked ++ qs ∧ qs.length ≤ 1 ∧ (∀ q ∈ qs, q.name = spec.name) ∧
      answer transforms operator spec (d, w) = (.error e, (d, w'))) := by
  cases hdefault : resolveDefault ⟨d, transforms, w.files⟩ spec with
  | error e =>
    exact Or.inr ⟨e, w, [], by simp, by simp, by simp, answer_of_default_error hdefault⟩
  | ok default =>
    rw [answer_of_default_ok hdefault]
    -- the question counts as asked whatever the operator does with it
    have hw : (World.ask operator (question spec default) w).2.asked =
        w.asked ++ [question spec default] := rfl
    have hr : (World.ask operator (question spec default) w).1 =
        (operator w.asked w.answers (question spec default)).1 := rfl
    rcases hask : World.ask operator (question spec default) w with ⟨e | given, w'⟩
    · rw [hask] at hw
      exact Or.inr ⟨e, w', [question spec default], hw, by simp, by simp [question], rfl⟩
    · rw [hask] at hw hr
      cases happly : transforms.apply w.files given spec.transform with
      | error e =>
        refine Or.inr ⟨e, w', [question spec default], hw, by simp, by simp [question], ?_⟩
        dsimp only
        rw [happly]
      | ok v =>
        refine Or.inl ⟨question spec default, v, w', rfl, hw,
          ⟨_, _, _, given, w.files, rfl, hr.symm, happly⟩, ?_⟩
        dsimp only
        rw [happly]

end

/-! ## 3. Runs that end well -/

section

variable {transforms : Registry} {operator : Operator}

theorem collect_cons (spec : PromptSpec) (rest : List PromptSpec) :
    collect ⟨spec :: rest⟩ transforms operator =
      (askOne transforms operator spec >>= fun _ => collect ⟨rest⟩ transforms operator) := rfl

/-- Where every key has a value, nothing is asked and nothing changes. -/
theorem collect_of_all_have {p : Pipeline} {d : Store} (w : World)
    (h : ∀ name ∈ p.names, d.has name = true) :
    p.collect transforms operator (d, w) = (.ok (), (d, w)) := by
  obtain ⟨specs⟩ := p
  induction specs with
  | nil => rfl
  | cons spec rest ih =>
    have hone : askOne transforms operator spec (d, w) = (.ok (), (d, w)) := by
      rw [askOne_apply, if_pos (h spec.name (by simp [names]))]
    rw [collect_cons, Step.bind_of_ok hone]
    exact ih fun name hname => h name (List.mem_cons_of_mem _ hname)

/-- A run that ends well has asked these questions, oldest first, and stored these answers by their
keys. -/
structure Collected (transforms : Registry) (operator : Operator) (p : Pipeline) (d : Store)
    (w : World) (asked : List Question) (answers : List (String × Value)) (d' : Store) (w' : World) :
    Prop where
  asked_eq : w'.asked = w.asked ++ asked
  names_asked : asked.map (·.name) = (p.names.filter fun name => !d.has name).eraseDups
  keys_answers : answers.map Prod.fst = asked.map (·.name)
  data_eq : d' = d.putAll answers
  given : ∀ pair ∈ answers, ∃ spec ∈ p.specs, spec.name = pair.1 ∧
    GivenFor transforms operator spec pair.2
  has_all : ∀ name ∈ p.names, d'.has name = true

theorem has_set (d : Store) (name : String) (v : Value) : (d.set name v).has name = true := by
  rw [Store.has, Store.get?_set]
  rfl

/-- The keys that have no value once one of them was answered. -/
theorem filter_not_has_set {keys : List String} {d : Store} {a : String} {v : Value}
    (h : ∀ b ∈ keys, a ≠ b → (d.set a v).get? b = d.get? b) :
    keys.filter (fun b => !(d.set a v).has b) =
      (keys.filter fun b => !d.has b).filter fun b => !b == a := by
  rw [List.filter_filter]
  refine List.filter_congr fun b hb => ?_
  by_cases hab : a = b
  · subst hab
    simp [has_set]
  · have hne : (b == a) = false := by simpa using Ne.symm hab
    rw [Store.has, Store.has, h b hb hab, hne]
    simp

namespace Collected

variable {spec : PromptSpec} {rest : List PromptSpec} {d d' : Store} {w w' : World}
  {asked : List Question} {answers : List (String × Value)}

/-- A prompt that is passed over adds nothing. -/
theorem cons_passed (hc : Collected transforms operator ⟨rest⟩ d w asked answers d' w')
    (hhas : d.has spec.name = true) (hkept : d'.get? spec.name = d.get? spec.name) :
    Collected transforms operator ⟨spec :: rest⟩ d w asked answers d' w' := by
  refine ⟨hc.asked_eq, ?_, hc.keys_answers, hc.data_eq, ?_, ?_⟩
  · rw [hc.names_asked]
    simp [names, hhas]
  · intro pair hpair
    obtain ⟨s, hs, hgiven⟩ := hc.given pair hpair
    exact ⟨s, List.mem_cons_of_mem _ hs, hgiven⟩
  · intro name hname
    rcases List.mem_cons.1 hname with rfl | hname
    · rw [Store.has, hkept]
      exact hhas
    · exact hc.has_all name hname

/-- A prompt that is answered puts its question and its answer in front. -/
theorem cons_answered {q : Question} {v : Value} {w₁ : World}
    (hc : Collected transforms operator ⟨rest⟩ (d.set spec.name v) w₁ asked answers d' w')
    (hhas : d.has spec.name = false) (hq : q.name = spec.name) (hasked : w₁.asked = w.asked ++ [q])
    (hgiven : GivenFor transforms operator spec v)
    (hother : ∀ b ∈ names ⟨rest⟩, spec.name ≠ b → (d.set spec.name v).get? b = d.get? b)
    (hkept : d'.get? spec.name = (d.set spec.name v).get? spec.name) :
    Collected transforms operator ⟨spec :: rest⟩ d w (q :: asked) ((spec.name, v) :: answers)
      d' w' := by
  refine ⟨?_, ?_, ?_, ?_, ?_, ?_⟩
  · rw [hc.asked_eq, hasked, List.append_assoc]
    rfl
  · have hnames : names ⟨spec :: rest⟩ = spec.name :: names ⟨rest⟩ := rfl
    rw [List.map_cons, hc.names_asked, hq, hnames, List.filter_cons_of_pos (by simp [hhas]),
      List.eraseDups_cons, filter_not_has_set hother]
  · rw [List.map_cons, List.map_cons, hc.keys_answers, hq]
  · rw [hc.data_eq]
    rfl
  · intro pair hpair
    rcases List.mem_cons.1 hpair with rfl | hpair
    · exact ⟨spec, List.mem_cons_self, rfl, hgiven⟩
    · obtain ⟨s, hs, hg⟩ := hc.given pair hpair
      exact ⟨s, List.mem_cons_of_mem _ hs, hg⟩
  · intro name hname
    rcases List.mem_cons.1 hname with rfl | hname
    · rw [Store.has, hkept]
      exact has_set d spec.name v
    · exact hc.has_all name hname

end Collected

/-- **A run that ends well** asks the absent keys once each, in the order in which they first come,
and every value that was there stays. -/
theorem collect_ok {all : List String} {p : Pipeline} {d d' : Store} {w w' : World}
    (hsep : Separate all) (hfree : ListFreeFor all d) (hall : ∀ name ∈ p.names, name ∈ all)
    (h : p.collect transforms operator (d, w) = (.ok (), (d', w'))) :
    (∃ asked answers, Collected transforms operator p d w asked answers d' w') ∧
      ∀ name ∈ all, d.has name = true → d'.get? name = d.get? name := by
  obtain ⟨specs⟩ := p
  induction specs generalizing d w with
  | nil =>
    obtain ⟨-, rfl, rfl⟩ : Except.ok () = Except.ok (ε := Fault) () ∧ d = d' ∧ w = w' := by
      simpa [collect, Step.each, Step.succeed] using h
    exact ⟨⟨[], [], by simp, rfl, rfl, rfl, by simp, by simp [names]⟩, fun _ _ _ => rfl⟩
  | cons spec rest ih =>
    have hmem : spec.name ∈ all := hall _ List.mem_cons_self
    have hrest : ∀ name ∈ names ⟨rest⟩, name ∈ all :=
      fun name hname => hall name (List.mem_cons_of_mem _ hname)
    rw [collect_cons] at h
    obtain ⟨u, ⟨d₁, w₁⟩, hone, htail⟩ := Step.bind_eq_ok h
    rw [askOne_apply] at hone
    cases hhas : d.has spec.name with
    | true =>
      rw [hhas, if_pos rfl] at hone
      obtain ⟨rfl, rfl⟩ : d = d₁ ∧ w = w₁ := by simpa using hone
      obtain ⟨⟨asked, answers, hc⟩, hkept⟩ := ih hfree hrest htail
      exact ⟨⟨asked, answers, hc.cons_passed hhas (hkept spec.name hmem hhas)⟩, hkept⟩
    | false =>
      rw [hhas, if_neg (by simp)] at hone
      rcases answer_cases with
        ⟨q, v, w₂, hq, hasked, hgiven, hanswer⟩ | ⟨e, w₂, qs, -, -, -, hanswer⟩
      · rw [hanswer] at hone
        obtain ⟨rfl, rfl⟩ : d.set spec.name v = d₁ ∧ w₂ = w₁ := by simpa using hone
        have hother : ∀ b ∈ all, spec.name ≠ b → (d.set spec.name v).get? b = d.get? b :=
          fun b hb hne => get?_set_other hsep hfree hmem hb hne v
        obtain ⟨⟨asked, answers, hc⟩, hkept⟩ := ih (listFreeFor_set hsep hfree hmem v) hrest htail
        have hself := hkept spec.name hmem (has_set d spec.name v)
        refine ⟨⟨_, _, hc.cons_answered hhas hq hasked hgiven (fun b hb => hother b (hrest b hb))
          hself⟩, fun name hname hthere => ?_⟩
        have hne : spec.name ≠ name := by
          intro heq
          rw [heq, hthere] at hhas
          exact absurd hhas (by simp)
        have hsame := hother name hname hne
        rw [hkept name hname (by rw [Store.has, hsame]; exact hthere), hsame]
      · rw [hanswer] at hone
        exact absurd hone (by simp)

/-! ## 4. Runs that fail -/

end

/-! ## 5. The theorem -/

namespace Sample

/-- Prompts with a key that comes twice, and two keys in one map. -/
def pipeline : Pipeline :=
  let ask (name default : String) : PromptSpec :=
    ⟨name, name, "input", .input, some (.str default), [], [], []⟩
  ⟨[ask "prefixes.short" "a", ask "other" "b", ask "prefixes.long" "c", ask "other" "d"]⟩

/-- Data in which one of the keys has a value. -/
def data : Store :=
  ⟨[("prefixes", .map [("short", .str "existing")])]⟩

/-- A world in which nothing was asked. -/
def world : World :=
  ⟨⟨[], []⟩, [], [], [], [], []⟩

theorem fits : Fits pipeline.names data := by
  intro name hname before after hsplit hafter x hx
  have hsegments : segments name = ["other"] ∨ ∃ key, segments name = ["prefixes", key] := by
    rcases List.mem_map.1 hname with ⟨spec, hspec, rfl⟩
    simp only [pipeline, List.mem_cons, List.not_mem_nil, or_false] at hspec
    rcases hspec with rfl | rfl | rfl | rfl
    · exact Or.inr ⟨"short", by decide⟩
    · exact Or.inl (by decide)
    · exact Or.inr ⟨"long", by decide⟩
    · exact Or.inl (by decide)
  cases before with
  | nil =>
    simp only [Value.at?, Option.some.injEq] at hx
    exact ⟨_, hx.symm⟩
  | cons s before =>
    rcases hsegments with h | ⟨key, h⟩
    · rw [h] at hsplit
      simp only [List.cons_append, List.cons.injEq] at hsplit
      exact absurd hsplit.2.symm (by simp [hafter])
    · rw [h] at hsplit
      simp only [List.cons_append, List.cons.injEq] at hsplit
      obtain ⟨rfl, hrest⟩ := hsplit
      cases before with
      | nil =>
        simp [Value.at?, Value.child?, data, Store.toValue, Fields.find?] at hx
        exact ⟨_, hx.symm⟩
      | cons t before =>
        simp only [List.cons_append, List.cons.injEq] at hrest
        exact absurd hrest.2.symm (by simp [hafter])

theorem collect_ok :
    (pipeline.collect .builtins .defaults (data, world)).1 = .ok () := by
  have hok : (pipeline.collect .builtins .defaults (data, world)).1.toOption = some () := by
    decide +kernel
  rw [Step.eq_ok_of_toOption hok]

end Sample

end Stencil.Pipeline
