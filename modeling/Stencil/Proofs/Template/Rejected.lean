import Stencil.Proofs.Session.Files
import Stencil.Proofs.Template.Make

/-!
# A rejected template is inert

The configuration of a template is checked as a whole before the template does anything. When
something is wrong with it, at whatever place, the making fails, and

> **nothing has happened** but that the given values are in the data, that the template was looked
> for, and that unknown types were pointed out in front of the entry that is wrong.

Entries are read in order, prompts before directives, and the fault is that of the first entry that
is wrong (`FirstWrong`). So a theorem about all templates needs three facts only: what the reading of
one prompt does to the world (`Pipeline.readEntry_eq`), where a row of readings stops
(`Pipeline.read_of_firstWrong`), and what looking for a template can touch (`sought_locate`).
-/

set_option autoImplicit false

namespace Stencil

/-! ## 1. The first that is wrong -/

/-- `entry` is the first of the entries that a check refuses, and `before` are those ahead of it. -/
structure FirstWrong {α β : Type} (check : α → Except Fault β) (entries before : List α) (entry : α)
    (e : Fault) : Prop where
  split : ∃ after, entries = before ++ entry :: after
  passed : ∀ other ∈ before, ∃ b, check other = .ok b
  wrong : check entry = .error e

section

variable {α β : Type} {check : α → Except Fault β} {entries before : List α} {a entry : α}
  {e : Fault}

theorem FirstWrong.cons (h : FirstWrong check entries before entry e) {b : β}
    (hb : check a = .ok b) : FirstWrong check (a :: entries) (a :: before) entry e := by
  obtain ⟨after, hsplit⟩ := h.split
  refine ⟨⟨after, by rw [hsplit]; rfl⟩, ?_, h.wrong⟩
  exact List.forall_mem_cons.2 ⟨⟨b, hb⟩, h.passed⟩

/-- Either all entries pass, or there is a first that is wrong. -/
theorem passed_or_firstWrong (check : α → Except Fault β) (entries : List α) :
    (∀ a ∈ entries, ∃ b, check a = .ok b) ∨
      ∃ before entry e, FirstWrong check entries before entry e := by
  induction entries with
  | nil => exact Or.inl fun _ h => absurd h List.not_mem_nil
  | cons a rest ih =>
    cases ha : check a with
    | error e =>
      exact Or.inr ⟨[], a, e, ⟨rest, rfl⟩, fun _ h => absurd h List.not_mem_nil, ha⟩
    | ok b =>
      obtain hpassed | ⟨before, entry, e, hfirst⟩ := ih
      · exact Or.inl (List.forall_mem_cons.2 ⟨⟨b, ha⟩, hpassed⟩)
      · exact Or.inr ⟨a :: before, entry, e, hfirst.cons ha⟩

theorem exists_firstWrong (ha : a ∈ entries) (hwrong : check a = .error e) :
    ∃ before entry e, FirstWrong check entries before entry e := by
  obtain hpassed | hfirst := passed_or_firstWrong check entries
  · obtain ⟨b, hb⟩ := hpassed a ha
    rw [hwrong] at hb
    exact absurd hb (by simp)
  · exact hfirst

variable {readAll : List α → Except Fault (List β)}

/-- A reader of lists that goes entry by entry stops at the first that is wrong. -/
theorem FirstWrong.readAll_eq
    (hcons : ∀ a rest, readAll (a :: rest) = (check a).bind fun b => (readAll rest).map (b :: ·))
    (h : FirstWrong check entries before entry e) : readAll entries = .error e := by
  obtain ⟨⟨after, rfl⟩, hpassed, hwrong⟩ := h
  induction before with
  | nil =>
    rw [List.nil_append, hcons, hwrong]
    rfl
  | cons a rest ih =>
    obtain ⟨⟨b, hb⟩, hrest⟩ := List.forall_mem_cons.1 hpassed
    rw [List.cons_append, hcons, hb, Except.bind, ih hrest]
    rfl

/-- What such a reader gives are the results of the entries. -/
theorem map_of_readAll_eq_ok (hnil : readAll [] = .ok [])
    (hcons : ∀ a rest, readAll (a :: rest) = (check a).bind fun b => (readAll rest).map (b :: ·))
    {bs : List β} (h : readAll entries = .ok bs) : entries.map check = bs.map .ok := by
  induction entries generalizing bs with
  | nil =>
    obtain rfl : [] = bs := Except.ok.inj (hnil.symm.trans h)
    rfl
  | cons a rest ih =>
    rw [hcons] at h
    cases ha : check a with
    | error e =>
      rw [ha] at h
      exact absurd h (by simp [Except.bind])
    | ok b =>
      cases hrest : readAll rest with
      | error e =>
        rw [ha, hrest] at h
        exact absurd h (by simp [Except.bind, Except.map])
      | ok cs =>
        rw [ha, hrest] at h
        obtain rfl : b :: cs = bs := Except.ok.inj h
        rw [List.map_cons, ha, ih hrest]
        rfl

/-- Such a reader reads a list whose entries all pass. -/
theorem readAll_of_passed (hnil : readAll [] = .ok [])
    (hcons : ∀ a rest, readAll (a :: rest) = (check a).bind fun b => (readAll rest).map (b :: ·))
    (h : ∀ a ∈ entries, ∃ b, check a = .ok b) : ∃ bs, readAll entries = .ok bs := by
  induction entries with
  | nil => exact ⟨[], hnil⟩
  | cons a rest ih =>
    obtain ⟨⟨b, hb⟩, hrest⟩ := List.forall_mem_cons.1 h
    obtain ⟨bs, hbs⟩ := ih hrest
    refine ⟨b :: bs, ?_⟩
    rw [hcons, hb, hbs]
    rfl

end

/-! ## 2. Prompts -/

namespace Pipeline

variable {transforms : Registry} {entries before : List Value} {entry : Value} {e : Fault}

/-- Entries that all pass are read, and every unknown type is pointed out. -/
theorem collect_of_passed (h : ∀ v ∈ entries, ∃ spec, PromptSpec.check transforms v = .ok spec)
    (w : World) : ∃ specs, Step.collect (readEntry transforms) entries w =
      (.ok specs, w.showing (entries.flatMap PromptSpec.warnings)) := by
  induction entries generalizing w with
  | nil => exact ⟨[], by rw [List.flatMap_nil, World.showing_nil]; rfl⟩
  | cons v rest ih =>
    obtain ⟨⟨spec, hspec⟩, hrest⟩ := List.forall_mem_cons.1 h
    obtain ⟨specs, hspecs⟩ := ih hrest (w.showing (PromptSpec.warnings v))
    refine ⟨spec :: specs, ?_⟩
    have hentry := readEntry_eq transforms v w
    rw [hspec] at hentry
    rw [Step.collect_cons, Step.bind_of_ok hentry, Step.bind_of_ok hspecs, World.showing_showing,
      ← List.flatMap_cons]
    rfl

theorem read_of_passed (h : ∀ v ∈ entries, ∃ spec, PromptSpec.check transforms v = .ok spec)
    (w : World) : ∃ p, read transforms entries w =
      (.ok p, w.showing (entries.flatMap PromptSpec.warnings)) := by
  obtain ⟨specs, hspecs⟩ := collect_of_passed h w
  exact ⟨⟨specs⟩, Step.bind_of_ok hspecs⟩

/-- Reading stops at the first entry that is wrong. What its type has to be pointed out for is
pointed out still. -/
theorem read_of_firstWrong (h : FirstWrong (PromptSpec.check transforms) entries before entry e)
    (w : World) : read transforms entries w =
      (.error e, w.showing ((before ++ [entry]).flatMap PromptSpec.warnings)) := by
  obtain ⟨⟨after, rfl⟩, hpassed, hwrong⟩ := h
  refine Step.bind_of_error ?_
  induction before generalizing w with
  | nil =>
    have hentry := readEntry_eq transforms entry w
    rw [hwrong] at hentry
    rw [List.nil_append, Step.collect_cons, Step.bind_of_error hentry, List.nil_append,
      List.flatMap_singleton]
  | cons v rest ih =>
    obtain ⟨⟨spec, hspec⟩, hrest⟩ := List.forall_mem_cons.1 hpassed
    have hentry := readEntry_eq transforms v w
    rw [hspec] at hentry
    rw [List.cons_append, Step.collect_cons, Step.bind_of_ok hentry,
      Step.bind_of_error (ih _ hrest), World.showing_showing, List.cons_append, List.flatMap_cons]

end Pipeline

/-! ## 3. Directives -/

namespace Directive

/-- What an entry of `directives` does, by its own fields. -/
def checkOwn (spec : Value) : Except Fault DirectiveKind :=
  match filledField? spec "directive" with
  | none => .error (.missingField .directive spec.json "directive")
  | some name => readKind spec name

/-- The entries of the conditions that guard an entry of `directives`. -/
def guards (spec : Value) : List Value :=
  match spec.field? "condition" with
  | none => []
  | some .null => []
  | some (.list items) => items
  | some single => [single]

variable {spec : Value} {before : List Value} {guard : Value} {e : Fault}

theorem ofValue_of_checkOwn_error (h : checkOwn spec = .error e) : ofValue spec = .error e := by
  unfold checkOwn at h
  unfold ofValue
  cases hname : filledField? spec "directive" with
  | none =>
    simp only [hname] at h ⊢
    rw [Except.error.inj h]
  | some name =>
    simp only [hname] at h ⊢
    rw [h]

theorem ofValue_of_checkOwn_ok {kind : DirectiveKind} (h : checkOwn spec = .ok kind) :
    ofValue spec = (readCondition spec).map fun condition => ⟨kind, condition⟩ := by
  unfold checkOwn at h
  unfold ofValue
  cases hname : filledField? spec "directive" with
  | none =>
    simp only [hname] at h
    exact absurd h (by simp)
  | some name =>
    simp only [hname] at h ⊢
    rw [h]

/-- The conditions of an entry are read one by one, whether there is a list of them or one alone. -/
theorem readCondition_eq (spec : Value) :
    ∃ f, readCondition spec = (Condition.listOfValues (guards spec)).map f := by
  have halone : ∀ single, Condition.listOfValues [single] = (Condition.ofValue single).map ([·]) := by
    intro single
    simp only [Condition.listOfValues]
    cases Condition.ofValue single with
    | error e => rfl
    | ok c => rfl
  unfold readCondition guards
  cases spec.field? "condition" with
  | none => exact ⟨fun _ => none, rfl⟩
  | some condition =>
    cases condition with
    | null => exact ⟨fun _ => none, rfl⟩
    | list items => exact ⟨some, rfl⟩
    | _ => exact ⟨some, by simp only [Condition.groupOfValue, halone]⟩

theorem listOfValues_cons (v : Value) (rest : List Value) :
    listOfValues (v :: rest) = (ofValue v).bind fun d => (listOfValues rest).map (d :: ·) := by
  rw [listOfValues]
  cases ofValue v with
  | error e => rfl
  | ok d => rfl

theorem conditions_cons (v : Value) (rest : List Value) :
    Condition.listOfValues (v :: rest) =
      (Condition.ofValue v).bind fun c => (Condition.listOfValues rest).map (c :: ·) := by
  rw [Condition.listOfValues]
  cases Condition.ofValue v with
  | error e => rfl
  | ok c => rfl

/-- An entry is wrong by its own fields, or else by the first of its conditions that is wrong. -/
theorem ofValue_eq_error_iff : ofValue spec = .error e ↔
    checkOwn spec = .error e ∨ (∃ kind, checkOwn spec = .ok kind) ∧
      ∃ before guard, FirstWrong Condition.ofValue (guards spec) before guard e := by
  obtain ⟨f, hcondition⟩ := readCondition_eq spec
  cases hown : checkOwn spec with
  | error e' =>
    rw [ofValue_of_checkOwn_error hown]
    constructor
    · exact fun h => Or.inl (by rw [Except.error.inj h])
    · rintro (h | ⟨⟨kind, hkind⟩, -⟩)
      · rw [Except.error.inj h]
      · exact absurd hkind (by simp)
  | ok kind =>
    rw [ofValue_of_checkOwn_ok hown, hcondition]
    obtain hpassed | ⟨before', guard', e', hfirst⟩ :=
      passed_or_firstWrong Condition.ofValue (guards spec)
    · have hnil : Condition.listOfValues [] = .ok [] := rfl
      obtain ⟨conditions, hlist⟩ := readAll_of_passed hnil conditions_cons hpassed
      rw [hlist]
      constructor
      · exact fun h => absurd h (by simp [Except.map])
      · rintro (h | ⟨-, before, guard, ⟨after, hsplit⟩, -, hwrong⟩)
        · exact absurd h (by simp)
        · obtain ⟨c, hc⟩ := hpassed guard (by rw [hsplit]; simp)
          exact absurd (hwrong.symm.trans hc) (by simp)
    · rw [hfirst.readAll_eq conditions_cons]
      constructor
      · intro h
        obtain rfl : e' = e := by simpa [Except.map] using h
        exact Or.inr ⟨⟨kind, rfl⟩, before', guard', hfirst⟩
      · rintro (h | ⟨-, before, guard, hfirst'⟩)
        · exact absurd h (by simp)
        · have hlist := hfirst.readAll_eq conditions_cons
          rw [hfirst'.readAll_eq conditions_cons] at hlist
          rw [Except.error.inj hlist]
          rfl

end Directive

/-! ## 4. Configurations -/

/-- What is wrong with the configuration of a template, by the fault it is refused with and the lines
that are shown before. -/
inductive LoadedTemplate.Rejects (transforms : Registry) (files : FileTree) (dir : Path) :
    Fault → List Message → Prop
  /-- There is no configuration, or an empty one. -/
  | missing (h : (ConfigFile.template dir).isPresent files = false) :
    Rejects transforms files dir (.templateConfigMissing (ConfigFile.template dir).path) []
  /-- It cannot be read as a map. -/
  | malformed {e : Fault} (hpresent : (ConfigFile.template dir).isPresent files = true)
    (h : (ConfigFile.template dir).load files = .error e) : Rejects transforms files dir e []
  /-- One of its sections does not have the right shape. -/
  | misshapen {data : Store} {e : Fault}
    (hpresent : (ConfigFile.template dir).isPresent files = true)
    (hload : (ConfigFile.template dir).load files = .ok data)
    (h : TemplateConfig.ofStore data (ConfigFile.template dir).path = .error e) :
    Rejects transforms files dir e []
  /-- A prompt is wrong. -/
  | prompt {sections : TemplateConfig} {before : List Value} {entry : Value} {e : Fault}
    (hconfig : config files dir = .ok sections)
    (h : FirstWrong (PromptSpec.check transforms) sections.prompts before entry e) :
    Rejects transforms files dir e ((before ++ [entry]).flatMap PromptSpec.warnings)
  /-- All prompts are right, and a directive is wrong by its own fields. -/
  | directive {sections : TemplateConfig} {before : List Value} {entry : Value} {e : Fault}
    (hconfig : config files dir = .ok sections)
    (hprompts : ∀ v ∈ sections.prompts, ∃ spec, PromptSpec.check transforms v = .ok spec)
    (h : FirstWrong Directive.ofValue sections.directives before entry e)
    (hown : Directive.checkOwn entry = .error e) :
    Rejects transforms files dir e (sections.prompts.flatMap PromptSpec.warnings)
  /-- All prompts are right, and a directive is wrong by one of its conditions. -/
  | condition {sections : TemplateConfig} {before : List Value} {entry : Value} {e : Fault}
    {passed : List Value} {guard : Value}
    (hconfig : config files dir = .ok sections)
    (hprompts : ∀ v ∈ sections.prompts, ∃ spec, PromptSpec.check transforms v = .ok spec)
    (h : FirstWrong Directive.ofValue sections.directives before entry e)
    (hguard : FirstWrong Condition.ofValue (Directive.guards entry) passed guard e) :
    Rejects transforms files dir e (sections.prompts.flatMap PromptSpec.warnings)

/-- Something is wrong with the configuration of a template, somewhere. -/
inductive LoadedTemplate.Flawed (transforms : Registry) (files : FileTree) (dir : Path) : Prop
  | missing (h : (ConfigFile.template dir).isPresent files = false)
  | malformed {e : Fault} (h : (ConfigFile.template dir).load files = .error e)
  | misshapen {data : Store} {e : Fault} (hload : (ConfigFile.template dir).load files = .ok data)
    (h : TemplateConfig.ofStore data (ConfigFile.template dir).path = .error e)
  | prompt {sections : TemplateConfig} {entry : Value} {e : Fault}
    (hconfig : config files dir = .ok sections) (hentry : entry ∈ sections.prompts)
    (h : PromptSpec.check transforms entry = .error e)
  | directive {sections : TemplateConfig} {entry : Value} {e : Fault}
    (hconfig : config files dir = .ok sections) (hentry : entry ∈ sections.directives)
    (h : Directive.checkOwn entry = .error e)
  | condition {sections : TemplateConfig} {entry guard : Value} {e : Fault}
    (hconfig : config files dir = .ok sections) (hentry : entry ∈ sections.directives)
    (hguard : guard ∈ Directive.guards entry) (h : Condition.ofValue guard = .error e)

namespace LoadedTemplate

variable {transforms : Registry} {files : FileTree} {dir : Path} {e : Fault} {lines : List Message}

theorem config_of_present (hpresent : (ConfigFile.template dir).isPresent files = true) :
    config files dir =
      match (ConfigFile.template dir).load files with
      | .error e => .error e
      | .ok data => TemplateConfig.ofStore data (ConfigFile.template dir).path := by
  unfold config
  exact (if_neg (by simp [hpresent])).trans rfl

theorem config_of_not_present (h : (ConfigFile.template dir).isPresent files = false) :
    config files dir = .error (.templateConfigMissing (ConfigFile.template dir).path) := by
  unfold config
  simp only [h, Bool.not_false, if_true]

/-- A directive that is wrong by itself or by a condition is wrong. -/
theorem exists_directive_error {entry : Value} (h : (∃ e, Directive.checkOwn entry = .error e) ∨
    ∃ guard ∈ Directive.guards entry, ∃ e, Condition.ofValue guard = .error e) :
    ∃ e, Directive.ofValue entry = .error e := by
  cases hown : Directive.checkOwn entry with
  | error e => exact ⟨e, Directive.ofValue_eq_error_iff.2 (Or.inl hown)⟩
  | ok kind =>
    rcases h with ⟨e, he⟩ | ⟨guard, hguard, e, he⟩
    · exact absurd (hown.symm.trans he) (by simp)
    · obtain ⟨before, first, e', hfirst⟩ := exists_firstWrong hguard he
      exact ⟨e', Directive.ofValue_eq_error_iff.2 (Or.inr ⟨⟨kind, hown⟩, before, first, hfirst⟩)⟩

/-- Of the sections of a configuration in which an entry is wrong, a first one is. -/
theorem rejects_of_sections {sections : TemplateConfig} (hconfig : config files dir = .ok sections)
    (h : (∃ v ∈ sections.prompts, ∃ e, PromptSpec.check transforms v = .error e) ∨
      ∃ v ∈ sections.directives, ∃ e, Directive.ofValue v = .error e) :
    ∃ e lines, Rejects transforms files dir e lines := by
  obtain hprompts | ⟨before, entry, e, hfirst⟩ :=
    passed_or_firstWrong (PromptSpec.check transforms) sections.prompts
  · rcases h with ⟨v, hv, e, he⟩ | ⟨v, hv, e, he⟩
    · obtain ⟨spec, hspec⟩ := hprompts v hv
      exact absurd (hspec.symm.trans he) (by simp)
    · obtain ⟨before, entry, e', hfirst⟩ := exists_firstWrong hv he
      rcases Directive.ofValue_eq_error_iff.1 hfirst.wrong with hown | ⟨-, passed, guard, hguard⟩
      · exact ⟨e', _, .directive hconfig hprompts hfirst hown⟩
      · exact ⟨e', _, .condition hconfig hprompts hfirst hguard⟩
  · exact ⟨e, _, .prompt hconfig hfirst⟩

theorem Flawed.rejects (h : Flawed transforms files dir) :
    ∃ e lines, Rejects transforms files dir e lines := by
  cases hpresent : (ConfigFile.template dir).isPresent files with
  | false => exact ⟨_, _, .missing hpresent⟩
  | true =>
    cases h with
    | missing h => exact absurd (hpresent.symm.trans h) (by simp)
    | malformed h => exact ⟨_, _, .malformed hpresent h⟩
    | misshapen hload h => exact ⟨_, _, .misshapen hpresent hload h⟩
    | prompt hconfig hentry h =>
      exact rejects_of_sections hconfig (Or.inl ⟨_, hentry, _, h⟩)
    | directive hconfig hentry h =>
      exact rejects_of_sections hconfig (Or.inr ⟨_, hentry, exists_directive_error (Or.inl ⟨_, h⟩)⟩)
    | condition hconfig hentry hguard h =>
      exact rejects_of_sections hconfig
        (Or.inr ⟨_, hentry, exists_directive_error (Or.inr ⟨_, hguard, _, h⟩)⟩)

variable {services : Services} {template : ActiveTemplate} {w : World}

theorem load_of_config_error (h : config w.files template.dir = .error e) :
    load services template w = (.error e, w) := by
  have hfiles : (Step.asks World.files : Act FileTree) w = (.ok w.files, w) := rfl
  unfold load
  rw [Step.bind_of_ok hfiles]
  exact Step.bind_of_error (congrArg (·, w) h)

theorem load_of_config {sections : TemplateConfig}
    (h : config w.files template.dir = .ok sections) :
    load services template w = (do
      let prompts ← Pipeline.read services.transforms sections.prompts
      let directives ← Step.ofExcept (Directive.listOfValues sections.directives)
      return ⟨template, prompts, directives, sections.messages⟩ : Act LoadedTemplate) w := by
  have hfiles : (Step.asks World.files : Act FileTree) w = (.ok w.files, w) := rfl
  unfold load
  rw [Step.bind_of_ok hfiles]
  exact Step.bind_of_ok (congrArg (·, w) h)

theorem load_of_directive_wrong {sections : TemplateConfig} {before : List Value} {entry : Value}
    (hconfig : config w.files template.dir = .ok sections)
    (hprompts : ∀ v ∈ sections.prompts, ∃ spec,
      PromptSpec.check services.transforms v = .ok spec)
    (hfirst : FirstWrong Directive.ofValue sections.directives before entry e) :
    load services template w =
      (.error e, w.showing (sections.prompts.flatMap PromptSpec.warnings)) := by
  obtain ⟨p, hp⟩ := Pipeline.read_of_passed hprompts w
  rw [load_of_config hconfig, Step.bind_of_ok hp]
  exact Step.bind_of_error (congrArg (·, _) (hfirst.readAll_eq Directive.listOfValues_cons))

/-- A template that is refused fails to load, and all that happens is that the lines are shown. -/
theorem load_of_rejects (h : Rejects services.transforms w.files template.dir e lines) :
    load services template w = (.error e, w.showing lines) := by
  cases h with
  | missing h =>
    rw [World.showing_nil]
    exact load_of_config_error (config_of_not_present h)
  | malformed hpresent h =>
    rw [World.showing_nil]
    exact load_of_config_error (by rw [config_of_present hpresent, h])
  | misshapen hpresent hload h =>
    rw [World.showing_nil]
    exact load_of_config_error (by rw [config_of_present hpresent, hload]; exact h)
  | prompt hconfig h =>
    rw [load_of_config hconfig]
    exact Step.bind_of_error (Pipeline.read_of_firstWrong h w)
  | directive hconfig hprompts h hown => exact load_of_directive_wrong hconfig hprompts h
  | condition hconfig hprompts h hguard => exact load_of_directive_wrong hconfig hprompts h

end LoadedTemplate

/-! ## 5. Making -/

/-- **A rejected template is inert.** Wherever something is wrong with the configuration of a template
that was found, the making fails with the fault that `Rejects` names, and only the lines it names
are shown for the configuration. No file has changed, nothing was called or spawned, nothing was asked
but whether to use a template of another namespace; and of the session, only the given values have
gone to its data. -/
theorem make_of_flawed {services : Services} {template : String} {options : MakeOptions}
    {r r₁ : Run} {ref : TemplateRef} {located : ActiveTemplate}
    (href : TemplateRef.read template = .ok ref)
    (hlocate : locate services ref { r with session := Make.storeAll options.data r.session } =
      (.ok located, r₁))
    (hflawed : LoadedTemplate.Flawed services.transforms r.world.files located.dir) :
    ∃ e lines r',
      make services template options r = (.error e, r') ∧
      LoadedTemplate.Rejects services.transforms r.world.files located.dir e lines ∧
      r'.world = r₁.world.showing lines ∧
      r.world.Offered r'.world ∧
      r'.session.template = r.session.template ∧
      r'.session.overwrite = r.session.overwrite ∧
      r'.session.projectRoot = r.session.projectRoot ∧
      r'.session.messages = r.session.messages ∧
      r'.session.data =
        r.session.data.putAll (options.data.map fun (key, value) => (key, .str value)) := by
  obtain ⟨e, lines, hrejects⟩ := hflawed.rejects
  have hsought := sought_locate services ref
    { r with session := Make.storeAll options.data r.session }
  rw [hlocate] at hsought
  obtain ⟨hworld, hsession⟩ := hsought
  have hload : LoadedTemplate.load services located r₁.world =
      (.error e, r₁.world.showing lines) := by
    refine LoadedTemplate.load_of_rejects ?_
    rw [hworld.files]
    exact hrejects
  have hprepare : Make.prepare services template options r =
      (.error e, { r₁ with world := r₁.world.showing lines }) := by
    have hstore : Job.change (Make.storeAll options.data) r =
        (.ok (), { r with session := Make.storeAll options.data r.session }) := rfl
    have hread : ∀ s : Run, (Step.ofExcept (TemplateRef.read template) : Job TemplateRef) s =
        (.ok ref, s) := fun s => congrArg (·, s) href
    unfold Make.prepare
    rw [Step.bind_of_ok hstore, Step.bind_of_ok (hread _), Step.bind_of_ok hlocate, Job.outside,
      Step.on, hload]
  refine ⟨e, lines, _, make_of_prepare_error hprepare, hrejects, rfl, ?_, ?_⟩
  · exact hworld.trans ⟨rfl, rfl, rfl, 0, by rw [List.replicate_zero, List.append_nil]; rfl⟩
  · exact ⟨(congrArg Session.template hsession :), (congrArg Session.overwrite hsession :),
      (congrArg Session.projectRoot hsession :), (congrArg Session.messages hsession :),
      (congrArg Session.data hsession :)⟩

namespace LoadedTemplate.Sample

def services : Services :=
  ⟨⟨⟨"home"⟩, ⟨"t"⟩, none⟩, .builtins, .defaults, none, fun _ _ files => ⟨.code 0, [], files⟩,
    fun _ _ _ => none, none⟩

/-- A template of an unknown prompt type, whose only directive has a second condition that is none. -/
def configText : String :=
  "\x7b\"prompts\":[\x7b\"name\":\"a\",\"type\":\"b\"\x7d]," ++
    "\"directives\":[\x7b\"directive\":\"run\",\"command\":\"c\",\"condition\":[" ++
    "\x7b\"condition\":\"exists\",\"key\":\"d\"\x7d,\x7b\"condition\":\"soon\"\x7d]\x7d]\x7d"

def run : Run :=
  let files : FileTree := ⟨[(["t"], .dir), (["t", "default"], .dir), (["t", "default", "o"], .dir),
    (["t", "default", "o", "config.json"], .file configText.toUTF8)], []⟩
  ⟨Session.fresh ⟨"work"⟩, ⟨files, [], [], [], [], []⟩⟩

def options : MakeOptions :=
  ⟨true, [("k", "v")]⟩

def located : Except Fault ActiveTemplate × Run :=
  locate services ⟨none, "o"⟩ { run with session := Make.storeAll options.data run.session }

/-- The sections of the configuration. -/
def sections? : Option TemplateConfig :=
  (config run.world.files ⟨"t/default/o"⟩).toOption

/-- Where the template is, and where in its configuration something is wrong. -/
theorem values : located.1.toOption = some ⟨"default", "o", ⟨"t/default/o"⟩⟩ ∧
    ∃ entry ∈ (sections?.map (·.directives)).getD [], ∃ guard ∈ Directive.guards entry,
      (Condition.ofValue guard).toOption.isNone = true := by
  decide +kernel

theorem flawed : Flawed services.transforms run.world.files ⟨"t/default/o"⟩ := by
  obtain ⟨-, entry, hentry, guard, hguard, hnone⟩ := values
  cases hconfig : config run.world.files ⟨"t/default/o"⟩ with
  | error e =>
    rw [sections?, hconfig] at hentry
    exact absurd hentry List.not_mem_nil
  | ok sections =>
    rw [sections?, hconfig] at hentry
    cases hcondition : Condition.ofValue guard with
    | error e => exact .condition hconfig hentry hguard hcondition
    | ok c =>
      rw [hcondition] at hnone
      exact absurd hnone (by simp [Except.toOption])

end LoadedTemplate.Sample

open LoadedTemplate.Sample in
/-- A condition that is none, behind a right one, keeps the whole template from being made. -/
theorem make_of_flawed_condition :
    ∃ e lines r', make services "o" options run = (.error e, r') ∧
      LoadedTemplate.Rejects services.transforms run.world.files ⟨"t/default/o"⟩ e lines ∧
      run.world.Offered r'.world ∧ r'.session.overwrite = false ∧
      r'.session.data = run.session.data.putAll [("k", .str "v")] := by
  have href : TemplateRef.read "o" = .ok ⟨none, "o"⟩ := by rfl
  obtain ⟨e, lines, r', hmake, hrejects, -, hoffered, -, hoverwrite, -, -, hdata⟩ :=
    make_of_flawed href (Step.eq_ok_of_toOption values.1) flawed
  exact ⟨e, lines, r', hmake, hrejects, hoffered, hoverwrite, hdata⟩

end Stencil
