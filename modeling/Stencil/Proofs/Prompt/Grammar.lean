import Mathlib.Data.List.DropRight
import Stencil.Prompt.Spec
import Stencil.Proofs.Value

/-!
# The grammar of prompt entries

What an entry of `prompts` spells, said of its fields and not of the steps of reading: `Outcome` has one
case for each way in which reading ends, and the first that applies is the outcome.

* The fields are checked for their types one by one, in the order in which they come. Which field is
  wrong first only shows in the reason of the fault, so the fields of an entry can be told by their names
  alone (`Holds`), and those without a meaning left out.
* What the entry says as a whole (`Spells`) depends on the fields that were taken in.

An entry in the form of a list is one that gives its seven fields in the order of their declaration.
-/

set_option autoImplicit false

namespace Stencil

theorem Unicode.trim_eq_nil_iff {cs : List Char} :
    trim cs = [] ↔ ∀ c ∈ cs, isBlank c = true := by
  unfold trim Text.trim
  rw [List.reverse_eq_nil_iff, List.dropWhile_eq_nil_iff]
  constructor
  · intro h
    have hrest : (cs.dropWhile isBlank).dropWhile isBlank = [] :=
      List.dropWhile_eq_nil_iff.2 fun c hc => h c (List.mem_reverse.2 hc)
    rwa [List.dropWhile_idempotent, List.dropWhile_eq_nil_iff] at hrest
  · intro h c hc
    exact h c ((List.dropWhile_sublist _).mem (List.mem_reverse.1 hc))

namespace PromptFields

/-! ## 1. Values of fields -/

/-- A text, or null in its place. -/
def IsText (v : Value) : Prop :=
  v = .null ∨ ∃ s, v = .str s

/-- A text, or a list of texts. -/
def IsChain (v : Value) : Prop :=
  (∃ s, v = .str s) ∨ ∃ names : List String, v = .list (names.map .str)

/-- The chain of names that a field spells: none if it is missing or the empty text. -/
inductive SpellsChain : Option Value → List String → Prop
  | missing : SpellsChain none []
  | empty : SpellsChain (some (.str "")) []
  | one {s : String} (h : s ≠ "") : SpellsChain (some (.str s)) [s]
  | many (names : List String) : SpellsChain (some (.list (names.map .str))) names

theorem textField_of_isText {v : Value} (h : IsText v) : textField v = .ok v.asStr? := by
  rcases h with rfl | ⟨s, rfl⟩
  · rfl
  · rfl

theorem textField_eq_error {v : Value} (h : ¬ IsText v) : ∃ reason, textField v = .error reason := by
  cases v with
  | null => exact absurd (Or.inl rfl) h
  | str s => exact absurd (Or.inr ⟨s, rfl⟩) h
  | bool b => exact ⟨_, rfl⟩
  | int n => exact ⟨_, rfl⟩
  | float x => exact ⟨_, rfl⟩
  | list items => exact ⟨_, rfl⟩
  | map fields => exact ⟨_, rfl⟩

theorem stringItems?_eq_some_iff {items : List Value} {names : List String} :
    stringItems? items = some names ↔ items = names.map .str := by
  induction items generalizing names with
  | nil =>
    rw [stringItems?, Option.some.injEq, eq_comm (a := ([] : List Value)), List.map_eq_nil_iff]
    exact eq_comm
  | cons v rest ih =>
    cases v with
    | str s =>
      rw [stringItems?, Option.map_eq_some_iff]
      constructor
      · rintro ⟨after, hafter, rfl⟩
        rw [ih.1 hafter, List.map_cons]
      · intro h
        cases names with
        | nil => exact absurd h (by simp)
        | cons name names =>
          obtain ⟨hs, hrest⟩ := List.cons.inj h
          exact ⟨names, ih.2 hrest, by rw [Value.str.inj hs]⟩
    | _ =>
      refine iff_of_false (by simp [stringItems?]) ?_
      cases names with
      | nil => simp
      | cons name names => simp

theorem chainField_eq_ok_iff {v : Value} {names : List String} :
    chainField v = .ok names ↔ SpellsChain (some v) names := by
  constructor
  · intro h
    cases v with
    | str s =>
      obtain rfl := Except.ok.inj h
      split
      · rename_i hs
        rw [hs]
        exact .empty
      · rename_i hs
        exact .one hs
    | list items =>
      rw [chainField] at h
      split at h
      · rename_i read hread
        obtain rfl := Except.ok.inj h
        rw [stringItems?_eq_some_iff.1 hread]
        exact .many read
      · exact absurd h (by simp)
    | _ => exact absurd h (by simp [chainField])
  · intro h
    cases h with
    | empty => rfl
    | one hs => exact congrArg Except.ok (if_neg hs)
    | many => rw [chainField, stringItems?_eq_some_iff.2 rfl]

theorem SpellsChain.unique {v : Option Value} {names names' : List String} (h : SpellsChain v names)
    (h' : SpellsChain v names') : names = names' := by
  cases v with
  | none =>
    cases h
    cases h'
    rfl
  | some v =>
    have hread := chainField_eq_ok_iff.2 h
    rw [chainField_eq_ok_iff.2 h'] at hread
    exact (Except.ok.inj hread).symm

theorem isChain_of_spells {v : Value} {names : List String} (h : SpellsChain (some v) names) :
    IsChain v := by
  cases h with
  | empty => exact Or.inl ⟨"", rfl⟩
  | @one s hs => exact Or.inl ⟨s, rfl⟩
  | many => exact Or.inr ⟨names, rfl⟩

theorem chainField_of_isChain {v : Value} (h : IsChain v) : ∃ names, chainField v = .ok names := by
  rcases h with ⟨s, rfl⟩ | ⟨names, rfl⟩
  · exact ⟨_, rfl⟩
  · rw [chainField, stringItems?_eq_some_iff.2 rfl]
    exact ⟨names, rfl⟩

theorem chainField_eq_error {v : Value} (h : ¬ IsChain v) :
    ∃ reason, chainField v = .error reason := by
  cases hread : chainField v with
  | error reason => exact ⟨reason, rfl⟩
  | ok names => exact absurd (isChain_of_spells (chainField_eq_ok_iff.1 hread)) h

/-! ## 2. Taking in the fields -/

/-- The text of a field; none if it is missing, null or no text. -/
def textAt (key : String) (entry : Fields Value) : Option String :=
  (Fields.find? key entry).bind Value.asStr?

/-- The value has the type of the field; a field without a meaning may have any. -/
structure Fits (key : String) (v : Value) : Prop where
  text : key ∈ ["name", "message", "type"] → IsText v
  chain : key ∈ ["transform", "transform_default"] → IsChain v

/-- The fields of an entry are those that were taken in. -/
structure Holds (entry : Fields Value) (fields : PromptFields) : Prop where
  name : fields.name = textAt "name" entry
  message : fields.message = textAt "message" entry
  typeName : fields.typeName = textAt "type" entry
  default : fields.default = (Fields.find? "default" entry).bind presentField
  transform : SpellsChain (Fields.find? "transform" entry) fields.transform
  transformDefault : SpellsChain (Fields.find? "transform_default" entry) fields.transformDefault
  options : fields.options = (Fields.find? "options" entry).bind presentField

theorem holds_nil : Holds [] {} :=
  ⟨rfl, rfl, rfl, rfl, .missing, .missing, rfl⟩

variable {fields : PromptFields} {key : String} {v : Value} {entry : Fields Value}

theorem fits_of_unknown (h : key ∉ promptFieldNames) (v : Value) : Fits key v := by
  simp only [promptFieldNames, List.mem_cons, List.not_mem_nil, or_false, not_or] at h
  exact ⟨fun hkey => absurd hkey (by simp [h]), fun hkey => absurd hkey (by simp [h])⟩

theorem take_eq_error (fields : PromptFields) (h : ¬ Fits key v) : ∃ reason, fields.take key v = .error reason := by
  by_cases htext : key ∈ ["name", "message", "type"] ∧ ¬ IsText v
  · obtain ⟨hkey, hv⟩ := htext
    obtain ⟨reason, hreason⟩ := textField_eq_error hv
    refine ⟨reason, ?_⟩
    simp only [List.mem_cons, List.not_mem_nil, or_false] at hkey
    rcases hkey with rfl | rfl | rfl
    all_goals simp [PromptFields.take, hreason, Except.map]
  · by_cases hchain : key ∈ ["transform", "transform_default"] ∧ ¬ IsChain v
    · obtain ⟨hkey, hv⟩ := hchain
      obtain ⟨reason, hreason⟩ := chainField_eq_error hv
      refine ⟨reason, ?_⟩
      simp only [List.mem_cons, List.not_mem_nil, or_false] at hkey
      rcases hkey with rfl | rfl
      all_goals simp [PromptFields.take, hreason, Except.map]
    · exact absurd ⟨by simpa using htext, by simpa using hchain⟩ h

/-- A field without a meaning is passed over. -/
theorem take_of_unknown (h : key ∉ promptFieldNames) (fields : PromptFields) (v : Value) :
    fields.take key v = .ok fields := by
  simp only [promptFieldNames, List.mem_cons, List.not_mem_nil, or_false, not_or] at h
  obtain ⟨hname, hmessage, htype, hdefault, htransform, htransformDefault, hoptions⟩ := h
  simp only [PromptFields.take, hname, hmessage, htype, hdefault, htransform, htransformDefault,
    hoptions, if_false]

/-- A step: a field that fits is taken in beside those that are. -/
theorem Holds.take {before : Fields Value} (h : Holds before fields)
    (hnew : key ∉ Fields.keys before) (hfits : Fits key v) :
    ∃ fields', fields.take key v = .ok fields' ∧ Holds (before ++ [(key, v)]) fields' := by
  obtain ⟨hname, hmessage, htype, hdefault, htransform, htransformDefault, hoptions⟩ := h
  have hfind := Fields.find?_concat hnew v
  have htext : key ∈ ["name", "message", "type"] → textField v = .ok v.asStr? :=
    fun hkey => textField_of_isText (hfits.text hkey)
  have hchain : key ∈ ["transform", "transform_default"] →
      ∃ names, chainField v = .ok names ∧ SpellsChain (some v) names := by
    intro hkey
    obtain ⟨names, hnames⟩ := chainField_of_isChain (hfits.chain hkey)
    exact ⟨names, hnames, chainField_eq_ok_iff.1 hnames⟩
  by_cases hkey : key ∈ promptFieldNames
  · -- the field that is named gets the value, and the other six are as they were
    simp only [promptFieldNames, List.mem_cons, List.not_mem_nil, or_false] at hkey
    rcases hkey with rfl | rfl | rfl | rfl | rfl | rfl | rfl
    · refine ⟨{ fields with name := v.asStr? }, by simp [PromptFields.take, htext, Except.map], ?_⟩
      constructor <;> simp [textAt, *]
    · refine ⟨{ fields with message := v.asStr? }, by simp [PromptFields.take, htext, Except.map], ?_⟩
      constructor <;> simp [textAt, *]
    · refine ⟨{ fields with typeName := v.asStr? }, by simp [PromptFields.take, htext, Except.map], ?_⟩
      constructor <;> simp [textAt, *]
    · refine ⟨{ fields with default := presentField v }, by simp [PromptFields.take], ?_⟩
      constructor <;> simp [textAt, *]
    · obtain ⟨names, hnames, hspells⟩ := hchain (by simp)
      refine ⟨{ fields with transform := names }, by simp [PromptFields.take, hnames, Except.map], ?_⟩
      constructor <;> simp [textAt, *]
    · obtain ⟨names, hnames, hspells⟩ := hchain (by simp)
      refine ⟨{ fields with transformDefault := names },
        by simp [PromptFields.take, hnames, Except.map], ?_⟩
      constructor <;> simp [textAt, *]
    · refine ⟨{ fields with options := presentField v }, by simp [PromptFields.take], ?_⟩
      constructor <;> simp [textAt, *]
  · refine ⟨fields, take_of_unknown hkey fields v, ?_⟩
    simp only [promptFieldNames, List.mem_cons, List.not_mem_nil, or_false, not_or] at hkey
    constructor <;> simp [textAt, *]

theorem takeAll_cons_of_ok {taken : PromptFields} {rest : Fields Value}
    (h : fields.take key v = .ok taken) :
    fields.takeAll ((key, v) :: rest) = taken.takeAll rest := by
  rw [PromptFields.takeAll, h]

/-- The run: fields with different names that fit are all taken in. -/
theorem Holds.takeAll {before after : Fields Value} (h : Holds before fields)
    (hdistinct : Fields.Distinct (before ++ after)) (hfits : ∀ e ∈ after, Fits e.1 e.2) :
    ∃ taken, fields.takeAll after = .ok taken ∧ Holds (before ++ after) taken := by
  induction after generalizing before fields with
  | nil => exact ⟨fields, rfl, by rwa [List.append_nil]⟩
  | cons e after ih =>
    obtain ⟨key, v⟩ := e
    obtain ⟨hfit, hfits⟩ := List.forall_mem_cons.1 hfits
    have hnew : key ∉ Fields.keys before := hdistinct.not_mem_of_append List.mem_cons_self
    obtain ⟨taken, htake, htaken⟩ := h.take hnew hfit
    rw [takeAll_cons_of_ok htake, ← List.singleton_append, ← List.append_assoc]
    exact ih htaken (by rwa [List.append_assoc]) hfits

/-- One field that does not fit is enough, whatever comes before it. -/
theorem takeAll_eq_error (fields : PromptFields) {entry : Fields Value}
    (h : ∃ e ∈ entry, ¬ Fits e.1 e.2) :
    ∃ reason, fields.takeAll entry = .error reason := by
  induction entry generalizing fields with
  | nil =>
    obtain ⟨e, he, -⟩ := h
    exact absurd he List.not_mem_nil
  | cons first rest ih =>
    obtain ⟨key, v⟩ := first
    cases htake : fields.take key v with
    | error reason =>
      refine ⟨reason, ?_⟩
      rw [PromptFields.takeAll, htake]
    | ok taken =>
      rw [takeAll_cons_of_ok htake]
      refine ih taken ?_
      obtain ⟨e, he, hfit⟩ := h
      rcases List.mem_cons.1 he with rfl | he
      · obtain ⟨reason, hreason⟩ := take_eq_error fields hfit
        rw [hreason] at htake
        exact absurd htake (by simp)
      · exact ⟨e, he, hfit⟩

/-- What is taken in does not depend on fields without a meaning. -/
theorem takeAll_filter (fields : PromptFields) (entry : Fields Value) :
    fields.takeAll (entry.filter fun e => e.1 ∈ promptFieldNames) = fields.takeAll entry := by
  induction entry generalizing fields with
  | nil => rfl
  | cons e rest ih =>
    obtain ⟨key, v⟩ := e
    by_cases hkey : key ∈ promptFieldNames
    · rw [List.filter_cons_of_pos (by simpa using hkey)]
      cases htake : fields.take key v with
      | error reason => rw [PromptFields.takeAll, PromptFields.takeAll, htake]
      | ok taken => rw [takeAll_cons_of_ok htake, takeAll_cons_of_ok htake, ih]
    · rw [List.filter_cons_of_neg (by simpa using hkey), takeAll_cons_of_ok (take_of_unknown hkey fields v),
        ih]

/-- What was taken in is told by the seven fields. -/
theorem Holds.congr {other : Fields Value} (h : Holds other fields)
    (hsame : ∀ key ∈ promptFieldNames, Fields.find? key other = Fields.find? key entry) :
    Holds entry fields where
  name := by rw [h.name, textAt, textAt, hsame "name" (by simp [promptFieldNames])]
  message := by rw [h.message, textAt, textAt, hsame "message" (by simp [promptFieldNames])]
  typeName := by rw [h.typeName, textAt, textAt, hsame "type" (by simp [promptFieldNames])]
  default := by rw [h.default, hsame "default" (by simp [promptFieldNames])]
  transform := hsame "transform" (by simp [promptFieldNames]) ▸ h.transform
  transformDefault := hsame "transform_default" (by simp [promptFieldNames]) ▸ h.transformDefault
  options := by rw [h.options, hsame "options" (by simp [promptFieldNames])]

/-- The choices among the fields that were taken in. -/
def choices (fields : PromptFields) (name : String) : Except Fault (List Choice) :=
  match fields.options with
  | none => .ok []
  | some options => choicesOf name options

/-- The prompt that is made of the fields that were taken in. -/
def spec (fields : PromptFields) (name typeName : String) (choices : List Choice) :
    PromptSpec where
  name := name
  message := fields.message.getD name
  typeName := typeName
  kind := (PromptKind.ofName? typeName).getD .input
  default := fields.default
  transform := fields.transform
  transformDefault := fields.transformDefault
  options := choices

end PromptFields

namespace PromptSpec

open PromptFields

/-! ## 3. What an entry spells -/

/-- The choices that a field offers, one for each element of a list or entry of a map. -/
inductive Offers : Option Value → List Choice → Prop
  | missing : Offers none []
  | null : Offers (some .null) []
  | list (items : List Value) :
    Offers (some (.list items)) (items.map fun item => ⟨item.display, item.display⟩)
  | map (fields : Fields Value) :
    Offers (some (.map fields)) (fields.map fun e => ⟨e.1, e.2.display⟩)

/-- Each field of the entry has its type. -/
def WellTyped (entry : Fields Value) : Prop :=
  ∀ key v, Fields.find? key entry = some v → Fits key v

/-- The entry has a name, and some of it is to be seen. -/
def Named (entry : Fields Value) (name : String) : Prop :=
  textAt "name" entry = some name ∧ ∃ c ∈ name.toList, Unicode.isBlank c = false

/-- The types that are known. -/
def kindNames : Fields PromptKind :=
  [("input", .input), ("multiline", .multiline), ("password", .password), ("confirm", .confirm),
    ("boolean", .confirm), ("enum", .enum), ("radio", .radio), ("checkboxes", .checkboxes)]

/-- The type that is written, or meant where none is. -/
def typeAt (entry : Fields Value) : String :=
  match textAt "type" entry with
  | none => "input"
  | some type => if type = "" then "input" else type

/-- The kind of the type; a type that is not known is plain input. -/
def kindAt (entry : Fields Value) : PromptKind :=
  (Fields.find? (typeAt entry) kindNames).getD .input

/-- The prompt that an entry spells, given its name and its choices. -/
structure Spells (entry : Fields Value) (name : String) (choices : List Choice) (spec : PromptSpec) :
    Prop where
  name : spec.name = name
  message : spec.message = (textAt "message" entry).getD spec.name
  typeName : spec.typeName = typeAt entry
  kind : spec.kind = kindAt entry
  fallback : spec.isFallback = true ↔ typeAt entry ∉ Fields.keys kindNames
  default : ∀ v, spec.default = some v ↔ Fields.find? "default" entry = some v ∧ v ≠ .null
  transform : SpellsChain (Fields.find? "transform" entry) spec.transform
  transformDefault : SpellsChain (Fields.find? "transform_default" entry) spec.transformDefault
  options : spec.options = choices

/-- How reading an entry ends. Of several faults the one that stands first here is told. -/
inductive Outcome (entry : Fields Value) : Except Fault PromptSpec → Prop
  | mistyped (h : ¬ WellTyped entry) (reason : String) :
    Outcome entry (.error (.invalidSpec .prompt reason))
  | nameless (htyped : WellTyped entry) (h : ¬ ∃ name, Named entry name) :
    Outcome entry (.error (.missingField .prompt ((textAt "message" entry).getD "") "name"))
  | misoffered {name : String} (htyped : WellTyped entry) (hname : Named entry name)
    (h : ¬ ∃ choices, Offers (Fields.find? "options" entry) choices) (reason : String) :
    Outcome entry (.error (.invalidSpec .prompt reason))
  | choiceless {name : String} (htyped : WellTyped entry) (hname : Named entry name)
    (hoffers : Offers (Fields.find? "options" entry) []) (h : (kindAt entry).needsOptions = true) :
    Outcome entry (.error (.missingField .prompt name "options"))
  | spelled {name : String} {choices : List Choice} {spec : PromptSpec} (htyped : WellTyped entry)
    (hname : Named entry name) (hoffers : Offers (Fields.find? "options" entry) choices)
    (h : (kindAt entry).needsOptions = true → choices ≠ []) (hspells : Spells entry name choices spec) :
    Outcome entry (.ok spec)

theorem properName?_eq_some_iff {name : Option String} {n : String} :
    properName? name = some n ↔ name = some n ∧ ∃ c ∈ n.toList, Unicode.isBlank c = false := by
  rw [properName?, Option.filter_eq_some_iff, Bool.not_eq_true', List.isEmpty_eq_false_iff, ne_eq,
    Unicode.trim_eq_nil_iff]
  simp

theorem ofName?_eq (name : String) : PromptKind.ofName? name = Fields.find? name kindNames := by
  simp only [PromptKind.ofName?, kindNames, Fields.find?, eq_comm (b := name)]
  by_cases hconfirm : name = "confirm"
  · simp [hconfirm]
  · simp [hconfirm]

/-! ## 4. How reading ends -/

variable {entry : Fields Value} {fields : PromptFields}

theorem typeName_of_holds (h : Holds entry fields) :
    (fields.typeName.filter (· != "")).getD "input" = typeAt entry := by
  rw [h.typeName, typeAt]
  cases textAt "type" entry with
  | none => rfl
  | some type =>
    by_cases htype : type = ""
    · rw [htype]
      rfl
    · rw [Option.filter_some_pos (by simpa using htype)]
      exact (if_neg htype).symm

/-- The choices that are read are those that are offered. -/
theorem choices_of_holds (h : Holds entry fields) (name : String) :
    (∃ choices, fields.choices name = .ok choices ∧
      Offers (Fields.find? "options" entry) choices) ∨
    (∃ reason, fields.choices name = .error (.invalidSpec .prompt reason) ∧
      ¬ ∃ choices, Offers (Fields.find? "options" entry) choices) := by
  rw [PromptFields.choices, h.options]
  cases Fields.find? "options" entry with
  | none => exact Or.inl ⟨[], rfl, .missing⟩
  | some v =>
    have hnone : ∀ {v : Value}, v.isScalar = true → v ≠ .null →
        ¬ ∃ choices, Offers (some v) choices := by
      rintro v hscalar hnull ⟨choices, hoffers⟩
      cases hoffers with
      | null => exact hnull rfl
      | list => exact absurd hscalar (by simp [Value.isScalar])
      | map => exact absurd hscalar (by simp [Value.isScalar])
    cases v with
    | null => exact Or.inl ⟨[], rfl, .null⟩
    | list items => exact Or.inl ⟨_, rfl, .list items⟩
    | map fields => exact Or.inl ⟨_, rfl, .map fields⟩
    | _ => exact Or.inr ⟨_, rfl, hnone rfl (by simp)⟩

theorem spells_of_holds (h : Holds entry fields) (name : String) (choices : List Choice) :
    Spells entry name choices (fields.spec name (typeAt entry) choices) where
  name := rfl
  message := by rw [PromptFields.spec, h.message]
  typeName := rfl
  kind := by rw [PromptFields.spec, kindAt, ofName?_eq]
  fallback := by
    have hfallback : (fields.spec name (typeAt entry) choices).isFallback =
        (Fields.find? (typeAt entry) kindNames).isNone := congrArg Option.isNone (ofName?_eq _)
    rw [hfallback, Option.isNone_iff_eq_none]
    constructor
    · intro hnone hmem
      obtain ⟨kind, hkind⟩ := Fields.exists_find?_of_mem hmem
      rw [hnone] at hkind
      exact absurd hkind (by simp)
    · exact Fields.find?_of_not_mem
  default v := by
    have hdefault : (fields.spec name (typeAt entry) choices).default =
        (Fields.find? "default" entry).bind presentField := h.default
    rw [hdefault]
    cases Fields.find? "default" entry with
    | none => simp
    | some w =>
      cases w with
      | null => simp [presentField, eq_comm]
      | _ =>
        simp only [Option.bind_some, presentField, Option.some.injEq]
        refine ⟨?_, And.left⟩
        rintro rfl
        exact ⟨rfl, by simp⟩
  transform := h.transform
  transformDefault := h.transformDefault
  options := rfl

/-- Reading, once there is a name. -/
theorem ofValue_of_name {v : Value} {name : String} (h : Holds entry fields)
    (hread : PromptFields.ofValue v = .ok fields) (hname : properName? fields.name = some name) :
    PromptSpec.ofValue v = (fields.choices name).bind fun choices =>
      if (kindAt entry).needsOptions && choices.isEmpty then
        .error (.missingField .prompt name "options")
      else .ok (fields.spec name (typeAt entry) choices) := by
  have hkind : kindAt entry = (PromptKind.ofName? (typeAt entry)).getD .input := by
    rw [kindAt, ofName?_eq]
  unfold PromptSpec.ofValue
  rw [hread, hkind, ← typeName_of_holds h]
  dsimp only
  rw [hname]
  unfold PromptFields.choices
  cases fields.options with
  | none => rfl
  | some options =>
    dsimp only
    cases choicesOf name options with
    | error e => rfl
    | ok choices => rfl

/-- Once the fields are taken in, reading ends as the entry as a whole has it. -/
theorem outcome_of_holds {v : Value} (htyped : WellTyped entry) (h : Holds entry fields)
    (hread : PromptFields.ofValue v = .ok fields) : Outcome entry (PromptSpec.ofValue v) := by
  cases hname : properName? fields.name with
  | none =>
    have hnameless : ¬ ∃ name, Named entry name := by
      rintro ⟨name, hnamed⟩
      rw [h.name, properName?_eq_some_iff.2 hnamed] at hname
      exact absurd hname (by simp)
    have hfault : PromptSpec.ofValue v =
        .error (.missingField .prompt ((textAt "message" entry).getD "") "name") := by
      unfold PromptSpec.ofValue
      rw [hread]
      dsimp only
      rw [hname, h.message]
    rw [hfault]
    exact .nameless htyped hnameless
  | some name =>
    have hnamed : Named entry name := properName?_eq_some_iff.1 (h.name ▸ hname)
    rw [ofValue_of_name h hread hname]
    rcases choices_of_holds h name with ⟨choices, hchoices, hoffers⟩ | ⟨reason, hchoices, hoffers⟩
    · rw [hchoices, Except.bind]
      by_cases hneeds : ((kindAt entry).needsOptions && choices.isEmpty) = true
      · rw [if_pos hneeds]
        obtain ⟨hneeds, hempty⟩ := Bool.and_eq_true_iff.1 hneeds
        rw [List.isEmpty_iff.1 hempty] at hoffers
        exact .choiceless htyped hnamed hoffers hneeds
      · rw [if_neg hneeds]
        refine .spelled htyped hnamed hoffers ?_ (spells_of_holds h name choices)
        rintro hkind rfl
        exact hneeds (by rw [hkind]; rfl)
    · rw [hchoices]
      exact .misoffered htyped hnamed hoffers reason

/-- Reading ends as the entry has it, in whatever form and order its fields are written. -/
theorem outcome_of_fields {v : Value} {other : Fields Value}
    (hread : PromptFields.ofValue v = PromptFields.takeAll {} other)
    (hdistinct : Fields.Distinct other)
    (hsame : ∀ key ∈ promptFieldNames, Fields.find? key other = Fields.find? key entry) :
    Outcome entry (PromptSpec.ofValue v) := by
  by_cases htyped : WellTyped entry
  · have hfits : ∀ e ∈ other, Fits e.1 e.2 := by
      intro e he
      by_cases hkey : e.1 ∈ promptFieldNames
      · exact htyped e.1 e.2 ((hsame e.1 hkey).symm.trans (Fields.find?_of_mem hdistinct he))
      · exact fits_of_unknown hkey e.2
    obtain ⟨taken, htaken, hholds⟩ := holds_nil.takeAll hdistinct hfits
    exact outcome_of_holds htyped (hholds.congr hsame) (hread.trans htaken)
  · have hwrong : ∃ e ∈ other, ¬ Fits e.1 e.2 := by
      by_contra hall
      refine htyped fun key v hv => ?_
      by_contra hfit
      by_cases hkey : key ∈ promptFieldNames
      · exact hall ⟨(key, v), Fields.mem_of_find? ((hsame key hkey).trans hv), hfit⟩
      · exact hfit (fits_of_unknown hkey v)
    obtain ⟨reason, hreason⟩ := takeAll_eq_error {} hwrong
    have hfault : PromptSpec.ofValue v = .error (.invalidSpec .prompt reason) := by
      unfold PromptSpec.ofValue
      rw [hread, hreason]
    rw [hfault]
    exact .mistyped htyped reason

/-! ## 5. One outcome -/

/-- The same outcome, up to the reason why an entry is invalid. -/
def SameOutcome (x y : Except Fault PromptSpec) : Prop :=
  x = y ∨ ∃ r s, x = .error (.invalidSpec .prompt r) ∧ y = .error (.invalidSpec .prompt s)

theorem Named.unique {name name' : String} (h : Named entry name) (h' : Named entry name') :
    name = name' :=
  Option.some.inj (h.1.symm.trans h'.1)

theorem Offers.unique {v : Option Value} {choices choices' : List Choice} (h : Offers v choices)
    (h' : Offers v choices') : choices = choices' := by
  cases h with
  | missing => cases h'; rfl
  | null => cases h'; rfl
  | list => cases h'; rfl
  | map => cases h'; rfl

theorem Spells.unique {name : String} {choices : List Choice} {spec spec' : PromptSpec}
    (h : Spells entry name choices spec) (h' : Spells entry name choices spec') : spec = spec' := by
  have hdefault : spec.default = spec'.default :=
    Option.ext fun v => (h.default v).trans (h'.default v).symm
  have hmessage : spec.message = spec'.message := by rw [h.message, h'.message, h.name, h'.name]
  cases spec
  cases spec'
  rw [PromptSpec.mk.injEq]
  exact ⟨h.name.trans h'.name.symm, hmessage, h.typeName.trans h'.typeName.symm,
    h.kind.trans h'.kind.symm, hdefault, h.transform.unique h'.transform,
    h.transformDefault.unique h'.transformDefault, h.options.trans h'.options.symm⟩

/-- An entry has one outcome: each case leaves out the others. -/
theorem Outcome.unique {x y : Except Fault PromptSpec} (h : Outcome entry x) (h' : Outcome entry y) :
    SameOutcome x y := by
  cases h with
  | mistyped hwrong reason =>
    cases h' with
    | mistyped _ reason' => exact Or.inr ⟨reason, reason', rfl, rfl⟩
    | nameless htyped | misoffered htyped | choiceless htyped | spelled htyped =>
      exact absurd htyped hwrong
  | nameless htyped hno =>
    cases h' with
    | mistyped hwrong => exact absurd htyped hwrong
    | nameless => exact Or.inl rfl
    | misoffered _ hname | choiceless _ hname | spelled _ hname => exact absurd ⟨_, hname⟩ hno
  | misoffered htyped hname hnone reason =>
    cases h' with
    | mistyped hwrong => exact absurd htyped hwrong
    | nameless _ hno => exact absurd ⟨_, hname⟩ hno
    | misoffered _ _ _ reason' => exact Or.inr ⟨reason, reason', rfl, rfl⟩
    | choiceless _ _ hoffers | spelled _ _ hoffers => exact absurd ⟨_, hoffers⟩ hnone
  | choiceless htyped hname hoffers hneeds =>
    cases h' with
    | mistyped hwrong => exact absurd htyped hwrong
    | nameless _ hno => exact absurd ⟨_, hname⟩ hno
    | misoffered _ _ hnone => exact absurd ⟨_, hoffers⟩ hnone
    | choiceless _ hname' =>
      obtain rfl := hname.unique hname'
      exact Or.inl rfl
    | spelled _ _ hoffers' hsome => exact absurd (hoffers'.unique hoffers) (hsome hneeds)
  | spelled htyped hname hoffers hsome hspells =>
    cases h' with
    | mistyped hwrong => exact absurd htyped hwrong
    | nameless _ hno => exact absurd ⟨_, hname⟩ hno
    | misoffered _ _ hnone => exact absurd ⟨_, hoffers⟩ hnone
    | choiceless _ _ hoffers' hneeds => exact absurd (hoffers.unique hoffers') (hsome hneeds)
    | spelled _ hname' hoffers' _ hspells' =>
      obtain rfl := hname.unique hname'
      obtain rfl := hoffers.unique hoffers'
      exact Or.inl (congrArg Except.ok (hspells.unique hspells'))

/-! ## 6. Objects and lists -/

theorem ofValue_congr {v v' : Value} (h : PromptFields.ofValue v = PromptFields.ofValue v') :
    PromptSpec.ofValue v = PromptSpec.ofValue v' := by
  unfold PromptSpec.ofValue
  rw [h]

theorem find?_zip {names : List String} {items : List Value}
    (h : names.map (Fields.find? · entry) = items.map some) :
    ∀ key ∈ names, Fields.find? key (names.zip items) = Fields.find? key entry := by
  induction names generalizing items with
  | nil => exact fun _ hkey => absurd hkey List.not_mem_nil
  | cons name names ih =>
    cases items with
    | nil => exact absurd h (by simp)
    | cons item items =>
      obtain ⟨hitem, hitems⟩ := List.cons.inj h
      intro key hkey
      rw [List.zip_cons_cons, Fields.find?]
      by_cases hname : name = key
      · rw [if_pos hname, ← hitem, hname]
      · rw [if_neg hname]
        exact ih hitems key ((List.mem_cons.1 hkey).resolve_left (Ne.symm hname))

/-- A list of seven fields is read as the object that gives them in the order of their declaration. -/
theorem fields_of_list {items : List Value} (h : items.length = promptFieldNames.length) :
    PromptFields.ofValue (.list items) = PromptFields.takeAll {} (promptFieldNames.zip items) := by
  have hseven : items.length = 7 := h
  rw [PromptFields.ofValue]
  cases PromptFields.takeAll {} (promptFieldNames.zip items) with
  | error reason => rfl
  | ok fields =>
    dsimp only
    rw [hseven]
    rfl

/-- What reading an entry comes to: one of the cases of `Outcome`, and no other. Fields without a meaning
do not matter, and a list of the seven fields says what an object says that gives all of them. -/
theorem ofValue_outcome (hdistinct : Fields.Distinct entry) :
    Outcome entry (PromptSpec.ofValue (.map entry)) ∧
      (∀ x, Outcome entry x → SameOutcome x (PromptSpec.ofValue (.map entry))) ∧
      PromptSpec.ofValue (.map (entry.filter fun e => e.1 ∈ promptFieldNames)) =
        PromptSpec.ofValue (.map entry) ∧
      ∀ items, promptFieldNames.map (Fields.find? · entry) = items.map some →
        SameOutcome (PromptSpec.ofValue (.list items)) (PromptSpec.ofValue (.map entry)) := by
  have hmap : Outcome entry (PromptSpec.ofValue (.map entry)) :=
    outcome_of_fields rfl hdistinct fun _ _ => rfl
  refine ⟨hmap, fun x hx => hx.unique hmap, ofValue_congr (takeAll_filter {} entry), ?_⟩
  intro items hitems
  have hlength : items.length = promptFieldNames.length := by
    simpa using (congrArg List.length hitems).symm
  have hzip : Fields.Distinct (promptFieldNames.zip items) := by
    rw [Fields.Distinct, Fields.keys, List.map_fst_zip (by omega)]
    decide
  have hlist : Outcome entry (PromptSpec.ofValue (.list items)) :=
    outcome_of_fields (fields_of_list hlength) hzip (find?_zip hitems)
  exact hlist.unique hmap

/-- An object that gives its fields in another order, and one that means nothing, and a list of them. -/
theorem ofValue_outcome_license :
    (∃ spec, ofValue (.map [("type", .str "radio"), ("colour", .str "red"), ("name", .str "license"),
        ("message", .null), ("default", .null), ("transform_default", .list []), ("transform", .str ""),
        ("options", .list [.str "MIT"])]) = .ok spec ∧ spec.options = [⟨"MIT", "MIT"⟩]) ∧
      SameOutcome
        (ofValue (.list [.str "license", .null, .str "radio", .null, .str "", .list [],
          .list [.str "MIT"]]))
        (ofValue (.map [("type", .str "radio"), ("colour", .str "red"), ("name", .str "license"),
          ("message", .null), ("default", .null), ("transform_default", .list []),
          ("transform", .str ""), ("options", .list [.str "MIT"])])) := by
  refine ⟨⟨_, rfl, rfl⟩, (ofValue_outcome ?_).2.2.2 _ ?_⟩
  · decide
  · rfl

end PromptSpec

end Stencil
