import Stencil.Proofs.Config.RoundTrip
import Stencil.Proofs.Prompt.Collect
import Stencil.Proofs.Prompt.Heard
import Stencil.Proofs.Prompt.Read
import Stencil.Proofs.Store.Entries
import Stencil.Proofs.Template.Questions

/-!
# What an author is asked and what is written down of it

The author of a template is led through its prompts. Each begins with the same three questions; its
type decides what is asked after them (`Further`). What was said about a prompt is an entry of the
configuration (`Described`), and a dialogue is a row of such descriptions with other questions in
between (`Recorded`). So a dialogue that ends well has left a file whose sections can be told from the
questions and answers alone (`createWithin_eq_ok`).

The number of rounds bounds a dialogue from outside: one that has come to its end is the same with any
larger number (`createWithin_of_le`).
-/

set_option autoImplicit false

namespace Stencil.Authoring

variable {transforms : Registry} {operator : Operator} {w w' : World}

/-! ## 1. The questions about a prompt -/

/-- The questions about a prompt as they are read. -/
def questions : List PromptSpec :=
  fieldPrompts.filterMap fun entry => (PromptSpec.ofValue entry).toOption

theorem read_fieldPrompts (transforms : Registry) (w : World) :
    Pipeline.read transforms fieldPrompts w = (.ok ⟨questions⟩, w) := by
  have hspecs : fieldPrompts.map PromptSpec.ofValue = questions.map .ok := rfl
  have hkind : questions.all (fun spec => !spec.isFallback) = true := rfl
  have hplain : questions.all (fun spec => (spec.transform ++ spec.transformDefault).isEmpty) =
      true := rfl
  refine Pipeline.read_of_known hspecs (fun spec hspec => ?_) (fun spec hspec name hname => ?_) w
  · simpa using List.all_eq_true.1 hkind spec hspec
  · rw [List.isEmpty_iff.1 (List.all_eq_true.1 hplain spec hspec)] at hname
    exact absurd hname List.not_mem_nil

/-- A question without transforms stores the answer that it is given. -/
theorem askOne_eq_ok {spec : PromptSpec} {d d' : Store} (hnew : d.has spec.name = false)
    (hplain : spec.transform = [])
    (h : Pipeline.askOne transforms operator spec (d, w) = (.ok (), (d', w'))) :
    ∃ q v, q.name = spec.name ∧ d' = d.set spec.name v ∧
      Heard operator w.exchange [(q, v)] w'.exchange := by
  rw [Pipeline.askOne_apply, hnew, if_neg (by simp)] at h
  cases hdefault : Pipeline.resolveDefault ⟨d, transforms, w.files⟩ spec with
  | error e =>
    rw [Pipeline.answer_of_default_error hdefault] at h
    exact absurd h (by simp)
  | ok default =>
    rw [Pipeline.answer_of_default_ok hdefault, hplain] at h
    rcases hask : World.ask operator (Pipeline.question spec default) w with ⟨e | v, w₁⟩
    · rw [hask] at h
      exact absurd h (by simp)
    · rw [hask] at h
      obtain ⟨-, hend⟩ := Prod.mk.inj h
      obtain ⟨rfl, rfl⟩ := Prod.mk.inj hend
      exact ⟨Pipeline.question spec default, v, rfl, rfl, World.heard_of_ask hask⟩

theorem collect_questions {d : Store}
    (h : Pipeline.collect ⟨questions⟩ transforms operator (.empty, w) = (.ok (), (d, w'))) :
    ∃ q₁ q₂ q₃ message name type, q₁.name = "message" ∧ q₂.name = "name" ∧ q₃.name = "type" ∧
      d = ⟨[("message", message), ("name", name), ("type", type)]⟩ ∧
      Heard operator w.exchange [(q₁, message), (q₂, name), (q₃, type)] w'.exchange := by
  have hsegments : segments "message" = ["message"] ∧ segments "name" = ["name"] ∧
      segments "type" = ["type"] := by decide
  obtain ⟨⟨⟩, ⟨d₁, w₁⟩, hmessage, h⟩ := Step.bind_eq_ok h
  obtain ⟨q₁, message, hq₁, rfl, hheard₁⟩ := askOne_eq_ok rfl rfl hmessage
  rw [Store.set_key hsegments.1] at h
  obtain ⟨⟨⟩, ⟨d₂, w₂⟩, hname, h⟩ := Step.bind_eq_ok h
  obtain ⟨q₂, name, hq₂, rfl, hheard₂⟩ := askOne_eq_ok rfl rfl hname
  rw [Store.set_key hsegments.2.1] at h
  obtain ⟨⟨⟩, ⟨d₃, w₃⟩, htype, h⟩ := Step.bind_eq_ok h
  obtain ⟨q₃, type, hq₃, rfl, hheard₃⟩ := askOne_eq_ok rfl rfl htype
  rw [Store.set_key hsegments.2.2] at h
  obtain ⟨-, hend⟩ := Prod.mk.inj h
  obtain ⟨rfl, rfl⟩ := Prod.mk.inj hend
  exact ⟨q₁, q₂, q₃, message, name, type, hq₁, hq₂, hq₃, rfl, hheard₁.trans (hheard₂.trans hheard₃)⟩

/-! ## 2. What is written down of the answers -/

def kindMeant (type : Value) : PromptKind :=
  (type.asStr?.bind PromptKind.ofName?).getD .input

/-- What is said about a prompt once its type is known, and the entries for it. -/
inductive Further (type : Value) : List (Question × Value) → Fields Value → Prop where
  | nothing (hkind : (kindMeant type).needsOptions = false) : Further type [] []
  | refused {v : Value} (hkind : kindMeant type = .input) :
      Further type [(.confirm "Set a default value?" false, v)] []
  | default {v text : Value} (hkind : kindMeant type = .input) :
      Further type [(.confirm "Set a default value?" false, v), (.line "Default value", text)]
        [("default", .str text.display)]
  | options {list : Value} (hkind : (kindMeant type).needsOptions = true) :
      Further type [(.line optionsQuestion, list)]
        [("options", .map (OptionList.read list.display))]

/-- What is said about a prompt, and the entry for it. -/
inductive Described : List (Question × Value) → Value → Prop where
  | intro {q₁ q₂ q₃ : Question} {message name type : Value} {heard : List (Question × Value)}
      {more : Fields Value} (h₁ : q₁.name = "message") (h₂ : q₂.name = "name")
      (h₃ : q₃.name = "type") (hmore : Further type heard more) :
      Described ((q₁, message) :: (q₂, name) :: (q₃, type) :: heard)
        (.map (("message", message) :: ("name", name) :: ("type", type) :: more))

/-- What is said in a dialogue, and the entries for the prompts that it describes. Other questions come
before the prompts, between them and after them. -/
inductive Recorded : List (Question × Value) → List Value → Prop where
  | done : Recorded [] []
  | aside {q : Question} {v : Value} {heard : List (Question × Value)} {fields : List Value}
      (hq : q.name ∉ ["message", "name", "type"]) (hrest : Recorded heard fields) :
      Recorded ((q, v) :: heard) fields
  | prompt {said heard : List (Question × Value)} {field : Value} {fields : List Value}
      (hfield : Described said field) (hrest : Recorded heard fields) :
      Recorded (said ++ heard) (field :: fields)

theorem Recorded.append {xs ys : List (Question × Value)} {as bs : List Value}
    (h : Recorded xs as) (h' : Recorded ys bs) : Recorded (xs ++ ys) (as ++ bs) := by
  induction h with
  | done => exact h'
  | aside hq hrest ih => exact .aside hq ih
  | prompt hfield hrest ih =>
    rw [List.append_assoc]
    exact .prompt hfield ih

theorem kindOf_eq (message name type : Value) :
    kindOf ⟨[("message", message), ("name", name), ("type", type)]⟩ = kindMeant type := by
  have hget : Store.get? ⟨[("message", message), ("name", name), ("type", type)]⟩ "type" =
      some type := rfl
  rw [kindOf, Store.getStr?, hget]
  rfl

/-- A default is asked for when the operator wants one. -/
theorem askDefault_input_eq_ok {field filled : Store}
    (h : askDefault operator .input field w = (.ok filled, w')) :
    ∃ v, (filled = field ∧
        Heard operator w.exchange [(.confirm "Set a default value?" false, v)] w'.exchange) ∨
      ∃ text : Value, filled = field.set "default" (.str text.display) ∧
        Heard operator w.exchange
          [(.confirm "Set a default value?" false, v), (.line "Default value", text)]
          w'.exchange := by
  rw [askDefault, if_pos rfl] at h
  obtain ⟨wanted, w₁, hconfirm, h⟩ := Step.bind_eq_ok h
  obtain ⟨v, -, hheard⟩ := World.heard_of_confirm hconfirm
  cases wanted with
  | false =>
    rw [if_neg (by simp)] at h
    obtain ⟨rfl, rfl⟩ := Step.pure_eq_ok h
    exact ⟨v, Or.inl ⟨rfl, hheard⟩⟩
  | true =>
    rw [if_pos rfl] at h
    obtain ⟨text, w₂, hline, h⟩ := Step.bind_eq_ok h
    obtain ⟨rfl, rfl⟩ := Step.pure_eq_ok h
    obtain ⟨answer, rfl, hheard'⟩ := World.heard_of_askLine hline
    exact ⟨v, Or.inr ⟨answer, rfl, hheard.trans hheard'⟩⟩

theorem askOptions_eq_ok {kind : PromptKind} (hkind : kind.needsOptions = true)
    {field complete : Store} (h : askOptions operator kind field w = (.ok complete, w')) :
    ∃ list : Value, complete = field.set "options" (.map (OptionList.read list.display)) ∧
      Heard operator w.exchange [(.line optionsQuestion, list)] w'.exchange := by
  rw [askOptions, if_pos hkind] at h
  obtain ⟨line, w₁, hline, h⟩ := Step.bind_eq_ok h
  obtain ⟨rfl, rfl⟩ := Step.pure_eq_ok h
  obtain ⟨answer, rfl, hheard⟩ := World.heard_of_askLine hline
  exact ⟨answer, rfl, hheard⟩

theorem askMore_eq_ok {message name type field : Value}
    (h : askMore operator ⟨[("message", message), ("name", name), ("type", type)]⟩ w =
      (.ok field, w')) :
    ∃ heard more, Further type heard more ∧ Heard operator w.exchange heard w'.exchange ∧
      field = .map (("message", message) :: ("name", name) :: ("type", type) :: more) := by
  have hsegments : segments "default" = ["default"] ∧ segments "options" = ["options"] := by decide
  unfold askMore at h
  rw [kindOf_eq] at h
  obtain ⟨filled, w₁, hdefault, h⟩ := Step.bind_eq_ok h
  obtain ⟨complete, w₂, hoptions, h⟩ := Step.bind_eq_ok h
  obtain ⟨rfl, rfl⟩ := Step.pure_eq_ok h
  by_cases hinput : kindMeant type = .input
  · -- plain input has no options
    rw [askOptions, hinput, if_neg (by decide)] at hoptions
    obtain ⟨rfl, rfl⟩ := Step.pure_eq_ok hoptions
    rw [hinput] at hdefault
    obtain ⟨v, ⟨rfl, hheard⟩ | ⟨text, rfl, hheard⟩⟩ := askDefault_input_eq_ok hdefault
    · exact ⟨_, [], .refused hinput, hheard, rfl⟩
    · rw [Store.set_key hsegments.1]
      exact ⟨_, _, .default hinput, hheard, rfl⟩
  · rw [askDefault, if_neg hinput] at hdefault
    obtain ⟨rfl, rfl⟩ := Step.pure_eq_ok hdefault
    cases hkind : (kindMeant type).needsOptions with
    | false =>
      rw [askOptions, hkind, if_neg (by simp)] at hoptions
      obtain ⟨rfl, rfl⟩ := Step.pure_eq_ok hoptions
      exact ⟨[], [], .nothing hkind, .nil _, rfl⟩
    | true =>
      obtain ⟨list, rfl, hheard⟩ := askOptions_eq_ok hkind hoptions
      rw [Store.set_key hsegments.2]
      exact ⟨_, _, .options hkind, hheard, rfl⟩

theorem askField_eq_ok {field : Value}
    (h : askField ⟨questions⟩ transforms operator w = (.ok field, w')) :
    ∃ heard, Described heard field ∧ Heard operator w.exchange heard w'.exchange := by
  rw [askField_eq] at h
  obtain ⟨described, w₁, hfilled, h⟩ := Step.bind_eq_ok h
  obtain ⟨q₁, q₂, q₃, message, name, type, h₁, h₂, h₃, rfl, hheard⟩ :=
    collect_questions (Pipeline.fill_eq_ok hfilled)
  obtain ⟨heard, more, hfurther, hheard', rfl⟩ := askMore_eq_ok h
  exact ⟨_, .intro h₁ h₂ h₃ hfurther, hheard.trans hheard'⟩

theorem askFields_eq_ok {rounds : Nat} {fields : List Value}
    (h : askFields ⟨questions⟩ transforms operator rounds w = (.ok fields, w')) :
    ∃ heard, Recorded heard fields ∧ Heard operator w.exchange heard w'.exchange := by
  induction rounds generalizing w fields with
  | zero => exact absurd (Prod.mk.inj h).1 (by simp)
  | succ rounds ih =>
    obtain ⟨field, w₁, hfield, h⟩ := Step.bind_eq_ok h
    obtain ⟨more, w₂, hmore, h⟩ := Step.bind_eq_ok h
    obtain ⟨said, hdescribed, hheard⟩ := askField_eq_ok hfield
    obtain ⟨v, -, hasked⟩ := World.heard_of_confirm hmore
    have hnext : (Question.confirm "Add another prompt?" false).name ∉
        ["message", "name", "type"] := by decide
    cases more with
    | false =>
      rw [if_neg (by simp)] at h
      obtain ⟨rfl, rfl⟩ := Step.pure_eq_ok h
      exact ⟨_, .prompt hdescribed (.aside hnext .done), hheard.trans hasked⟩
    | true =>
      rw [if_pos rfl] at h
      obtain ⟨rest, w₃, hrest, h⟩ := Step.bind_eq_ok h
      obtain ⟨rfl, rfl⟩ := Step.pure_eq_ok h
      obtain ⟨heard, hrecorded, hheard'⟩ := ih hrest
      exact ⟨_, .prompt hdescribed (.aside hnext hrecorded), hheard.trans (hasked.trans hheard')⟩

theorem askPrompts_eq_ok {rounds : Nat} {prompts : List Value}
    (h : askPrompts transforms operator rounds w = (.ok prompts, w')) :
    ∃ heard, Recorded heard prompts ∧ Heard operator w.exchange heard w'.exchange := by
  obtain ⟨wanted, w₁, hwanted, h⟩ := Step.bind_eq_ok h
  obtain ⟨v, -, hasked⟩ := World.heard_of_confirm hwanted
  have hfirst : (Question.confirm "Would you like to request data from the user?" false).name ∉
      ["message", "name", "type"] := by decide
  cases wanted with
  | false =>
    rw [if_neg (by simp)] at h
    obtain ⟨rfl, rfl⟩ := Step.pure_eq_ok h
    exact ⟨_, .aside hfirst .done, hasked⟩
  | true =>
    rw [if_pos rfl] at h
    obtain ⟨pipeline, w₂, hread, h⟩ := Step.bind_eq_ok h
    rw [read_fieldPrompts] at hread
    obtain ⟨rfl, rfl⟩ := Step.pure_eq_ok hread
    obtain ⟨heard, hrecorded, hheard⟩ := askFields_eq_ok h
    exact ⟨_, .aside hfirst hrecorded, hasked.trans hheard⟩

def copyQuestion : Question :=
  .confirm "Copy all template files into the project?" true

theorem askDirectives_eq_ok {directives : List Value}
    (h : askDirectives operator w = (.ok directives, w')) :
    ∃ copied, directives = (if copied.isTruthy then [copyAll] else []) ∧
      Heard operator w.exchange [(copyQuestion, copied)] w'.exchange := by
  obtain ⟨wanted, w₁, hwanted, h⟩ := Step.bind_eq_ok h
  obtain ⟨copied, rfl, hheard⟩ := World.heard_of_confirm hwanted
  refine ⟨copied, ?_⟩
  cases hcopied : copied.isTruthy with
  | false =>
    rw [hcopied, if_neg (by simp)] at h
    obtain ⟨hdirectives, rfl⟩ := Prod.mk.inj h
    exact ⟨(Except.ok.inj hdirectives).symm, hheard⟩
  | true =>
    rw [hcopied, if_pos rfl] at h
    obtain ⟨hdirectives, rfl⟩ := Prod.mk.inj h
    exact ⟨(Except.ok.inj hdirectives).symm, hheard⟩

/-- A dialogue that ends well leaves its sections in the file of the directory. -/
theorem createWithin_eq_ok {rounds : Nat} {dir : Path} {force : Bool} {config : ConfigFile}
    (h : createWithin rounds transforms operator dir force w = (.ok config, w')) :
    ∃ prompts copied, Recorded (w.heard operator w') prompts ∧
      (copyQuestion, copied) ∈ w.heard operator w' ∧
      config = { ConfigFile.template dir with
        data := sections prompts (if copied.isTruthy then [copyAll] else []) } ∧
      w'.files.read? config.path = some (ConfigFile.fileText config.data).toUTF8 := by
  have hcopy : copyQuestion.name ∉ ["message", "name", "type"] := by decide
  unfold createWithin at h
  obtain ⟨there, w₁, hthere, h⟩ := Step.bind_eq_ok h
  obtain ⟨-, rfl⟩ := Prod.mk.inj hthere
  split at h
  · obtain ⟨_, _, hfail, -⟩ := Step.bind_eq_ok h
    exact absurd (Prod.mk.inj hfail).1 (by simp)
  · obtain ⟨prompts, w₁, hprompts, h⟩ := Step.bind_eq_ok h
    obtain ⟨heard, hrecorded, hheard⟩ := askPrompts_eq_ok hprompts
    obtain ⟨directives, w₂, hdirectives, h⟩ := Step.bind_eq_ok h
    obtain ⟨copied, rfl, hasked⟩ := askDirectives_eq_ok hdirectives
    obtain ⟨_, w₃, hsave, h⟩ := Step.bind_eq_ok h
    obtain ⟨_, w₄, htell, h⟩ := Step.bind_eq_ok h
    obtain ⟨-, rfl⟩ := Prod.mk.inj htell
    obtain ⟨rfl, rfl⟩ := Step.pure_eq_ok h
    -- nothing more is asked once the directives are known
    have hsaved : Heard operator w₂.exchange [] w₃.exchange :=
      .of_keeps (ConfigFile.unasked_save _) hsave
    have hwhole := (hheard.trans (hasked.trans hsaved)).heard_eq
    refine ⟨prompts, copied, ?_, ?_, rfl, (ConfigFile.save_leaves hsave).2⟩
    · have hrow := hrecorded.append (.aside (v := copied) hcopy .done)
      rw [List.append_nil] at hrow
      exact hwhole ▸ hrow
    · refine hwhole ▸ List.mem_append_right _ ?_
      exact List.mem_cons_self

/-! ## 3. The number of rounds -/

section

variable {m n : Nat}

theorem askFields_of_le {pipeline : Pipeline} {fields : List Value} (hle : m ≤ n)
    (h : askFields pipeline transforms operator m w = (.ok fields, w')) :
    askFields pipeline transforms operator n w = (.ok fields, w') := by
  induction m generalizing n w w' fields with
  | zero => exact absurd (Prod.mk.inj h).1 (by simp)
  | succ m ih =>
    obtain ⟨n, rfl⟩ : ∃ k, n = k + 1 := ⟨n - 1, by omega⟩
    obtain ⟨field, w₁, hfield, h⟩ := Step.bind_eq_ok h
    obtain ⟨more, w₂, hmore, h⟩ := Step.bind_eq_ok h
    rw [askFields, Step.bind_of_ok hfield, Step.bind_of_ok hmore]
    cases more with
    | false => exact h
    | true =>
      obtain ⟨rest, w₃, hrest, h⟩ := Step.bind_eq_ok h
      have hlonger := ih (Nat.le_of_succ_le_succ hle) hrest
      exact (Step.bind_of_ok hlonger).trans h

theorem askPrompts_of_le {prompts : List Value} (hle : m ≤ n)
    (h : askPrompts transforms operator m w = (.ok prompts, w')) :
    askPrompts transforms operator n w = (.ok prompts, w') := by
  obtain ⟨wanted, w₁, hwanted, h⟩ := Step.bind_eq_ok h
  rw [askPrompts, Step.bind_of_ok hwanted]
  cases wanted with
  | false => exact h
  | true =>
    obtain ⟨pipeline, w₂, hread, h⟩ := Step.bind_eq_ok h
    exact (Step.bind_of_ok hread).trans (askFields_of_le hle h)

/-- A dialogue that has come to its end is not changed by a larger number of rounds. -/
theorem createWithin_of_le {dir : Path} {force : Bool} {config : ConfigFile} (hle : m ≤ n)
    (h : createWithin m transforms operator dir force w = (.ok config, w')) :
    createWithin n transforms operator dir force w = (.ok config, w') := by
  unfold createWithin at h ⊢
  obtain ⟨there, w₁, hthere, h⟩ := Step.bind_eq_ok h
  rw [Step.bind_of_ok hthere]
  split at h
  · obtain ⟨_, _, hfail, -⟩ := Step.bind_eq_ok h
    exact absurd (Prod.mk.inj hfail).1 (by simp)
  · rename_i hfree
    obtain ⟨prompts, w₂, hprompts, h⟩ := Step.bind_eq_ok h
    rw [if_neg hfree]
    exact (Step.bind_of_ok (askPrompts_of_le hle hprompts)).trans h

end

end Stencil.Authoring
