import Stencil.Proofs.Value
import Stencil.Transform

/-!
# Chains of transforms

The names of a chain are checked when a template is read, long before there is a value to use the chain
on. That the check is worth anything is

> the check fails **exactly when using the chain does**, with the same fault, whatever the value
> (`apply_error_iff`),

so null, which no rule changes, and an empty list, which has nothing to change, do not hide a name that is
not registered. It holds because a name is looked up before the value is looked into: `applyOne` looks it
up again at every element, and `applyRule` is the same walk with the rule in hand (`applyOne_of_find?`).

A chain of registered names is then one function of values. It is `Elementwise`, as each of its rules is,
although a rule may make a list of a text, which the next rule goes into. Where rules make texts of texts,
as the built-in ones do, a value keeps its lists and nulls, and all else in it becomes a text (`Texts`).
-/

set_option autoImplicit false

namespace Stencil

namespace Registry

/-! ## 1. One rule -/

mutual

/-- A rule on a value. -/
def applyRule (rule : String → Value) : Value → Value
  | .null => .null
  | .str s => rule s
  | .list items => .list (applyRuleList rule items)
  | .bool b => rule (Value.bool b).display
  | .int n => rule (Value.int n).display
  | .float x => rule (Value.float x).display
  | .map fields => rule (Value.map fields).display

/-- A rule on every element. -/
def applyRuleList (rule : String → Value) : List Value → List Value
  | [] => []
  | v :: rest => applyRule rule v :: applyRuleList rule rest

end

theorem applyRuleList_eq_map (rule : String → Value) (items : List Value) :
    applyRuleList rule items = items.map (applyRule rule) := by
  induction items with
  | nil => rfl
  | cons v rest ih => rw [applyRuleList, ih, List.map_cons]

variable {r : Registry} {files : FileTree} {name : String} {names rest : List String}
  {rule : Transform} {v w : Value} {e : Fault}

theorem applyOne_of_find?_none (h : Fields.find? name r.rules = none) (v : Value) :
    r.applyOne files name v = .error (.unknownTransform name) := by
  unfold applyOne
  rw [h]

theorem applyEach_of_forall {items : List Value}
    (h : ∀ v ∈ items, r.applyOne files name v = .ok (applyRule (rule files) v)) :
    r.applyEach files name items = .ok (applyRuleList (rule files) items) := by
  induction items with
  | nil => rfl
  | cons v items ih =>
    obtain ⟨hv, hitems⟩ := List.forall_mem_cons.1 h
    rw [applyEach, hv, ih hitems]
    rfl

/-- The lookups at the elements all find the rule that the first one finds. -/
theorem applyOne_of_find? (h : Fields.find? name r.rules = some rule) (v : Value) :
    r.applyOne files name v = .ok (applyRule (rule files) v) := by
  induction v using Value.induction with
  | list items ih =>
    unfold applyOne
    rw [h]
    dsimp only
    rw [applyEach_of_forall ih]
    rfl
  | _ =>
    unfold applyOne
    rw [h]
    rfl

/-! ## 2. Chains -/

/-- The registered rules of the names carry one value to another, one after the other. -/
inductive Chain (r : Registry) (files : FileTree) : List String → Value → Value → Prop
  | nil (v : Value) : Chain r files [] v v
  | cons {name : String} {rule : Transform} {rest : List String} {v w : Value}
      (hrule : Fields.find? name r.rules = some rule)
      (h : Chain r files rest (applyRule (rule files) v) w) : Chain r files (name :: rest) v w

theorem apply_cons_of_find? (h : Fields.find? name r.rules = some rule) (v : Value) :
    r.apply files v (name :: rest) = r.apply files (applyRule (rule files) v) rest := by
  rw [apply, applyOne_of_find? h]

theorem apply_cons_of_find?_none (h : Fields.find? name r.rules = none) (v : Value) :
    r.apply files v (name :: rest) = .error (.unknownTransform name) := by
  rw [apply, applyOne_of_find?_none h]

theorem apply_eq_ok_iff : r.apply files v names = .ok w ↔ r.Chain files names v w := by
  induction names generalizing v with
  | nil =>
    rw [apply, Except.ok.injEq]
    constructor
    · rintro rfl
      exact .nil v
    · rintro ⟨⟩
      rfl
  | cons name rest ih =>
    cases hrule : Fields.find? name r.rules with
    | none =>
      rw [apply_cons_of_find?_none hrule]
      constructor
      · intro h
        exact absurd h (by simp)
      · rintro ⟨⟩
        rename_i hsome _
        exact absurd (hrule.symm.trans hsome) (by simp)
    | some rule =>
      rw [apply_cons_of_find? hrule, ih]
      constructor
      · exact .cons hrule
      · rintro ⟨⟩
        rename_i hsome h
        rw [hrule, Option.some.injEq] at hsome
        exact hsome ▸ h

theorem apply_append (v : Value) (names more : List String) :
    r.apply files v (names ++ more) =
      (r.apply files v names).bind fun w => r.apply files w more := by
  induction names generalizing v with
  | nil => rfl
  | cons name rest ih =>
    rw [List.cons_append]
    cases hrule : Fields.find? name r.rules with
    | none =>
      rw [apply_cons_of_find?_none hrule, apply_cons_of_find?_none hrule]
      rfl
    | some rule => rw [apply_cons_of_find? hrule, apply_cons_of_find? hrule, ih]

/-! ## 3. The check -/

theorem ensureKnown_cons (r : Registry) (name : String) (rest : List String) :
    r.ensureKnown (name :: rest) =
      if r.contains name then r.ensureKnown rest else .error (.unknownTransform name) := by
  unfold ensureKnown
  rw [List.find?_cons]
  cases r.contains name with
  | true => rfl
  | false => rfl

/-- Two chains are checked like one. -/
theorem ensureKnown_append (r : Registry) (xs ys : List String) :
    r.ensureKnown (xs ++ ys) = (do r.ensureKnown xs; r.ensureKnown ys) := by
  unfold ensureKnown
  rw [List.find?_append]
  cases xs.find? fun n => !r.contains n with
  | some unknown => rfl
  | none => rfl

theorem ensureKnown_eq_ok_iff : r.ensureKnown names = .ok () ↔ ∀ name ∈ names, r.contains name := by
  unfold ensureKnown
  split
  · rename_i unknown h
    have hmem := List.mem_of_find?_eq_some h
    have hno : r.contains unknown = false := by simpa using List.find?_some h
    constructor
    · intro h
      exact absurd h (by simp)
    · intro hall
      exact absurd (hall unknown hmem) (by simp [hno])
  · rename_i h
    simpa using h

/-- The check reports the first name that is not registered. -/
theorem ensureKnown_eq_error_iff : r.ensureKnown names = .error e ↔
    ∃ known name rest, names = known ++ name :: rest ∧ (∀ n ∈ known, r.contains n = true) ∧
      r.contains name = false ∧ e = .unknownTransform name := by
  constructor
  · intro h
    unfold ensureKnown at h
    split at h
    · rename_i name hfirst
      obtain ⟨hname, known, rest, hnames, hknown⟩ := List.find?_eq_some_iff_append.1 hfirst
      exact ⟨known, name, rest, hnames, by simpa using hknown, by simpa using hname,
        (Except.error.inj h).symm⟩
    · exact absurd h (by simp)
  · rintro ⟨known, name, rest, hnames, hknown, hname, rfl⟩
    have hfirst : names.find? (fun n => !r.contains n) = some name :=
      List.find?_eq_some_iff_append.2
        ⟨by simpa using hname, known, rest, hnames, by simpa using hknown⟩
    unfold ensureKnown
    rw [hfirst]

/-- **The check is exact**: a chain fails on a value as it fails in the check. -/
theorem apply_error_iff : r.apply files v names = .error e ↔ r.ensureKnown names = .error e := by
  induction names generalizing v with
  | nil => exact ⟨fun h => absurd h (by simp [apply]), fun h => absurd h (by simp [ensureKnown])⟩
  | cons name rest ih =>
    rw [ensureKnown_cons, contains, Fields.holds]
    cases hrule : Fields.find? name r.rules with
    | none =>
      rw [apply_cons_of_find?_none hrule, if_neg (by simp), Except.error.injEq, Except.error.injEq]
    | some rule =>
      rw [apply_cons_of_find? hrule]
      exact ih

theorem Chain.known (h : r.Chain files names v w) : ∀ name ∈ names, r.contains name := by
  induction h with
  | nil v => simp
  | @cons name rule rest v w hrule h ih =>
    intro n hn
    rcases List.mem_cons.1 hn with rfl | hn
    · simp [contains, Fields.holds, hrule]
    · exact ih n hn

/-! ## 4. Lists and nulls -/

/-- A null stays, and a list is changed element by element. -/
structure Elementwise (f : Value → Value) : Prop where
  null : f .null = .null
  list : ∀ items, f (.list items) = .list (items.map f)

theorem elementwise_applyRule (rule : String → Value) : Elementwise (applyRule rule) :=
  ⟨by rw [applyRule], fun items => by rw [applyRule, applyRuleList_eq_map]⟩

theorem Elementwise.comp {f g : Value → Value} (hg : Elementwise g) (hf : Elementwise f) :
    Elementwise (g ∘ f) where
  null := by rw [Function.comp_apply, hf.null, hg.null]
  list items := by rw [Function.comp_apply, hf.list, hg.list, List.map_map]

/-- **A chain of registered names is one function of values**, which goes into lists. -/
theorem exists_elementwise (files : FileTree) (h : ∀ name ∈ names, r.contains name) :
    ∃ f, Elementwise f ∧ ∀ v, r.apply files v names = .ok (f v) := by
  induction names with
  | nil => exact ⟨id, ⟨rfl, fun items => by rw [List.map_id, id]⟩, fun v => rfl⟩
  | cons name rest ih =>
    obtain ⟨hname, hrest⟩ := List.forall_mem_cons.1 h
    obtain ⟨rule, hrule⟩ := Option.isSome_iff_exists.1 hname
    obtain ⟨g, hg, happly⟩ := ih hrest
    refine ⟨g ∘ applyRule (rule files), hg.comp (elementwise_applyRule _), fun v => ?_⟩
    rw [apply_cons_of_find? hrule, happly, Function.comp_apply]

/-- No transform makes anything of a value that is not there. -/
theorem chain_null_iff : r.Chain files names .null w ↔ (∀ name ∈ names, r.contains name) ∧
    w = .null := by
  constructor
  · intro h
    obtain ⟨f, hf, happly⟩ := exists_elementwise files h.known
    refine ⟨h.known, ?_⟩
    rw [apply_eq_ok_iff.symm, happly, Except.ok.injEq, hf.null] at h
    exact h.symm
  · rintro ⟨hknown, rfl⟩
    obtain ⟨f, hf, happly⟩ := exists_elementwise files hknown
    rw [← apply_eq_ok_iff, happly, hf.null]

end Registry

/-! ## 5. Rules that make texts -/

/-- The one value has the nulls and the lists of the other one, and texts for all else. -/
inductive Value.Texts : Value → Value → Prop
  | null : Texts .null .null
  | list {items texts : List Value} (hlength : items.length = texts.length)
      (h : ∀ i (hi : i < items.length) (ht : i < texts.length), Texts items[i] texts[i]) :
      Texts (.list items) (.list texts)
  | text {v : Value} {s : String} (hnull : v ≠ .null) (hlist : ∀ items, v ≠ .list items) :
      Texts v (.str s)

theorem Value.Texts.trans {u v w : Value} (h : u.Texts v) (h' : v.Texts w) : u.Texts w := by
  induction h generalizing w with
  | null => exact h'
  | @list items texts hlength h ih =>
    cases h' with
    | @list _ others hlength' h' =>
      refine .list (hlength.trans hlength') fun i hi ho => ?_
      have ht : i < texts.length := hlength ▸ hi
      exact ih i hi ht (h' i ht ho)
    | text hnull hlist => exact absurd rfl (hlist texts)
  | text hnull hlist =>
    cases h' with
    | text _ _ => exact .text hnull hlist

namespace Registry

variable {r : Registry} {files : FileTree} {names : List String} {v w : Value}

theorem texts_applyRule {rule : String → Value} (h : ∀ s, ∃ t, rule s = .str t) (v : Value) :
    v.Texts (applyRule rule v) := by
  induction v using Value.induction with
  | null =>
    rw [applyRule]
    exact .null
  | list items ih =>
    rw [applyRule, applyRuleList_eq_map]
    refine .list (List.length_map _).symm fun i hi ht => ?_
    rw [List.getElem_map]
    exact ih _ (List.getElem_mem hi)
  | str s =>
    obtain ⟨t, ht⟩ := h s
    rw [applyRule, ht]
    exact .text (by simp) (by simp)
  | _ =>
    rw [applyRule]
    obtain ⟨t, ht⟩ := h _
    rw [ht]
    exact .text (by simp) (by simp)

theorem Chain.texts (hrules : ∀ entry ∈ r.rules, ∀ s, ∃ t, entry.2 files s = .str t)
    (h : r.Chain files names v w) (hne : names ≠ []) : v.Texts w := by
  induction h with
  | nil v => exact absurd rfl hne
  | @cons name rule rest v w hrule h ih =>
    have hfirst := texts_applyRule (hrules _ (Fields.mem_of_find? hrule)) v
    cases rest with
    | nil =>
      cases h
      exact hfirst
    | cons next after => exact hfirst.trans (ih (List.cons_ne_nil _ _))

theorem builtins_make_texts : ∀ entry ∈ builtins.rules, ∀ s, ∃ t, entry.2 files s = .str t := by
  simp [builtins, onChars]

/-- **Checking a chain is checking its use.** A chain fails on a value, whichever it is, as it fails in
the check, which is with the first name that is not registered. A chain that passes is one function of
values, keeping null and going into lists, whatever its rules make of texts. One chain after another is
the chain of all names. And the built-in rules put texts in the place of all that is no list and no
null. -/
theorem check_is_exact (r : Registry) (files : FileTree) (names : List String) :
    (∀ v e, r.apply files v names = .error e ↔ r.ensureKnown names = .error e) ∧
    (∀ e, r.ensureKnown names = .error e ↔
      ∃ known name rest, names = known ++ name :: rest ∧ (∀ n ∈ known, r.contains n = true) ∧
        r.contains name = false ∧ e = .unknownTransform name) ∧
    (r.ensureKnown names = .ok () →
      ∃ f, Elementwise f ∧ ∀ v, r.apply files v names = .ok (f v)) ∧
    (∀ v more, r.apply files v (names ++ more) =
      (r.apply files v names).bind fun w => r.apply files w more) ∧
    (builtins.ensureKnown names = .ok () → names ≠ [] →
      ∀ v, ∃ w, builtins.apply files v names = .ok w ∧ v.Texts w) := by
  refine ⟨fun _ _ => apply_error_iff, fun _ => ensureKnown_eq_error_iff, fun h => ?_,
    fun v more => apply_append v names more, fun h hne v => ?_⟩
  · exact exists_elementwise files (ensureKnown_eq_ok_iff.1 h)
  · obtain ⟨f, -, happly⟩ := exists_elementwise files (ensureKnown_eq_ok_iff.1 h)
    exact ⟨f v, happly v, (apply_eq_ok_iff.1 (happly v)).texts builtins_make_texts hne⟩

/-- A registry whose one rule makes a list of a text. -/
def pairing : Registry :=
  empty.register "pair" fun _ s => .list [.str s, .null]

/-- An unknown name behind a known one fails on a list without elements. The pairing rule used twice goes
into the list that it made, and passes by the null that it put there. Built-in rules leave a null and a
list in a list where they were. -/
theorem check_is_exact_pairing :
    pairing.ensureKnown ["pair", "nope", "no"] = .error (.unknownTransform "nope") ∧
    pairing.apply ⟨[], []⟩ (.list []) ["pair", "nope", "no"] = .error (.unknownTransform "nope") ∧
    pairing.ensureKnown ["pair", "pair"] = .ok () ∧
    (∃ f, Elementwise f ∧ f (.str "a") = .list [.list [.str "a", .null], .null] ∧
      ∀ v, pairing.apply ⟨[], []⟩ v ["pair", "pair"] = .ok (f v)) ∧
    builtins.ensureKnown ["trim", "words"] = .ok () ∧
    ∃ w, builtins.apply ⟨[], []⟩ (.list [.null, .list [.bool true]]) ["trim", "words"] = .ok w ∧
      Value.Texts (.list [.null, .list [.bool true]]) w := by
  have hunknown : pairing.ensureKnown ["pair", "nope", "no"] = .error (.unknownTransform "nope") :=
    rfl
  have hpairs : pairing.ensureKnown ["pair", "pair"] = .ok () := rfl
  have hbuiltin : builtins.ensureKnown ["trim", "words"] = .ok () := rfl
  obtain ⟨hfail, -⟩ := check_is_exact pairing ⟨[], []⟩ ["pair", "nope", "no"]
  obtain ⟨-, -, hfunction, -⟩ := check_is_exact pairing ⟨[], []⟩ ["pair", "pair"]
  obtain ⟨-, -, -, -, htexts⟩ := check_is_exact builtins ⟨[], []⟩ ["trim", "words"]
  obtain ⟨f, hf, happly⟩ := hfunction hpairs
  have htwice : pairing.apply ⟨[], []⟩ (.str "a") ["pair", "pair"] =
      .ok (.list [.list [.str "a", .null], .null]) := rfl
  exact ⟨hunknown, (hfail _ _).2 hunknown, hpairs,
    ⟨f, hf, Except.ok.inj ((happly _).symm.trans htwice), happly⟩, hbuiltin,
    htexts hbuiltin (by simp) _⟩

end Registry

end Stencil
