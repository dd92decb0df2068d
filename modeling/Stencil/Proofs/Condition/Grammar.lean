import Stencil.Condition
import Stencil.Proofs.Value

/-!
# The grammar of conditions

Which entries spell a condition, said of their fields (`Condition.Spelled`). Three kinds of field come up in
conditions and directives alike: one that must be filled with a text, one that is simply there, and one that
chooses among a few names.

The last kind has two readings. A choice is a name, or nothing at all: no field, null or an empty text
(`Fields.Chooses`). Reading, however, also passes over whatever is no text, as if the field were missing
(`Fields.ChoosesLoosely`). So the grammar has the reading of a choice for a parameter: conditions are read by
the loose one (`Condition.ofValue_ok_iff`), and the strict one leaves out the entries in which a choice is
mistyped (`Condition.spelled_iff`).
-/

set_option autoImplicit false

namespace Stencil

section Results

variable {ε α β : Type} {x : Except ε α}

theorem exists_map_eq_ok_iff {f : α → β} : (∃ b, x.map f = .ok b) ↔ ∃ a, x = .ok a := by
  cases x with
  | error e => simp [Except.map]
  | ok a => simp [Except.map]

theorem exists_bind_eq_ok_iff {f : α → Except ε β} :
    (∃ b, (x >>= f) = .ok b) ↔ ∃ a, x = .ok a ∧ ∃ b, f a = .ok b := by
  cases x with
  | error e => simp [bind, Except.bind]
  | ok a => simp [bind, Except.bind]

end Results

/-! ## 1. Fields -/

namespace Fields

/-- A text that is not empty. -/
def Filled (v : Option Value) : Prop :=
  ∃ s, v = some (.str s) ∧ s ≠ ""

/-- One of some names, or no choice. -/
inductive Chooses (names : List String) : Option Value → Prop
  | missing : Chooses names none
  | null : Chooses names (some .null)
  | empty : Chooses names (some (.str ""))
  | one {name : String} (h : name ∈ names) : Chooses names (some (.str name))

/-- Neither null nor a text stands where a name belongs. -/
inductive Mistyped : Option Value → Prop
  | intro {v : Value} (hnull : v ≠ .null) (htext : v.asStr? = none) : Mistyped (some v)

/-- One of some names, or nothing that could be one. -/
def ChoosesLoosely (names : List String) (v : Option Value) : Prop :=
  Chooses names v ∨ Mistyped v

variable {names : List String} {v : Option Value}

theorem Chooses.not_mistyped (h : Chooses names v) : ¬ Mistyped v := by
  rintro ⟨hnull, htext⟩
  cases h with
  | null => exact hnull rfl
  | empty => exact absurd htext (by simp [Value.asStr?])
  | one => exact absurd htext (by simp [Value.asStr?])

theorem chooses_iff : Chooses names v ↔ ChoosesLoosely names v ∧ ¬ Mistyped v :=
  ⟨fun h => ⟨Or.inl h, h.not_mistyped⟩, fun h => h.1.resolve_right h.2⟩

/-- Only a text that is not empty is looked at. -/
theorem choosesLoosely_iff :
    ChoosesLoosely names v ↔ ∀ s, v = some (.str s) → s ≠ "" → s ∈ names := by
  constructor
  · rintro (h | ⟨hnull, htext⟩) s hs hne
    · cases h with
      | missing => exact absurd hs (by simp)
      | null => exact absurd hs (by simp)
      | empty =>
        cases hs
        exact absurd rfl hne
      | one h =>
        cases hs
        exact h
    · cases hs
      exact absurd htext (by simp [Value.asStr?])
  · intro h
    cases v with
    | none => exact Or.inl .missing
    | some v =>
      cases v with
      | null => exact Or.inl .null
      | str s =>
        by_cases hs : s = ""
        · exact Or.inl (hs ▸ .empty)
        · exact Or.inl (.one (h s rfl hs))
      | _ => exact Or.inr ⟨by simp, rfl⟩

end Fields

open Fields (Filled Chooses Mistyped ChoosesLoosely chooses_iff choosesLoosely_iff)

variable {entry : Fields Value} {field s : String}

theorem filledField?_eq_some_iff : filledField? (.map entry) field = some s ↔
    Fields.find? field entry = some (.str s) ∧ s ≠ "" := by
  have htext : ∀ v : Option Value, v.bind Value.asStr? = some s ↔ v = some (.str s) := by
    intro v
    cases v with
    | none => simp
    | some v => cases v <;> simp [Value.asStr?]
  rw [filledField?, Option.filter_eq_some_iff, htext, bne_iff_ne]
  rfl

theorem requiredText_ok_iff (kind : SpecKind) (subject : String) :
    (∃ s, requiredText (.map entry) kind subject field = .ok s) ↔
      Filled (Fields.find? field entry) := by
  unfold requiredText
  cases hfield : filledField? (.map entry) field with
  | none =>
    refine iff_of_false (by simp) ?_
    rintro ⟨s, hs⟩
    rw [filledField?_eq_some_iff.2 hs] at hfield
    exact absurd hfield (by simp)
  | some s => exact iff_of_true ⟨s, rfl⟩ ⟨s, filledField?_eq_some_iff.1 hfield⟩

/-- A choice that is read is none, or its name counts. -/
theorem choosesLoosely_cases (names : List String) (entry : Fields Value) (field : String) :
    filledField? (.map entry) field = none ∧ ChoosesLoosely names (Fields.find? field entry) ∨
      ∃ name, filledField? (.map entry) field = some name ∧
        (ChoosesLoosely names (Fields.find? field entry) ↔ name ∈ names) := by
  rw [choosesLoosely_iff]
  cases hfield : filledField? (.map entry) field with
  | none =>
    refine Or.inl ⟨rfl, fun s hs hne => ?_⟩
    rw [filledField?_eq_some_iff.2 ⟨hs, hne⟩] at hfield
    exact absurd hfield (by simp)
  | some name =>
    obtain ⟨hname, hne⟩ := filledField?_eq_some_iff.1 hfield
    refine Or.inr ⟨name, rfl, fun h => h name hname hne, fun h s hs _ => ?_⟩
    rw [hname, Option.some.injEq, Value.str.injEq] at hs
    exact hs ▸ h

/-- The names of the directories that a relative path can start from. -/
def RelativeTo.names : List String :=
  ["workingDir", "projectRoot", "templateDir"]

theorem RelativeTo.exists_ofName?_iff {name : String} :
    (∃ r, RelativeTo.ofName? name = some r) ↔ name ∈ RelativeTo.names := by
  unfold RelativeTo.ofName? RelativeTo.names
  by_cases hworking : name = "workingDir"
  · simp [hworking]
  · by_cases hproject : name = "projectRoot"
    · simp [hproject]
    · by_cases htemplate : name = "templateDir"
      · simp [htemplate]
      · simp [hworking, hproject, htemplate]

theorem relativeToField_ok_iff (kind : SpecKind) : (∃ r, relativeToField (.map entry) kind = .ok r) ↔
    ChoosesLoosely RelativeTo.names (Fields.find? "relativeTo" entry) := by
  unfold relativeToField
  rcases choosesLoosely_cases RelativeTo.names entry "relativeTo" with ⟨hnone, h⟩ | ⟨name, hname, h⟩
  · rw [hnone]
    exact iff_of_true ⟨_, rfl⟩ h
  · rw [hname, h, ← RelativeTo.exists_ofName?_iff]
    dsimp only
    cases RelativeTo.ofName? name with
    | none => simp
    | some r => simp

/-! ## 2. Conditions -/

namespace Condition

/-- The entry spells a condition, by a reading of its choices. -/
inductive Spelled (choice : List String → Option Value → Prop) (entry : Fields Value) : Prop
  | key {type : String} (hmember : type ∈ ["exists", "notExists"])
    (htype : Fields.find? "condition" entry = some (.str type))
    (hkey : Filled (Fields.find? "key" entry))
  | file {type : String} (hmember : type ∈ ["filePresent", "fileNotPresent"])
    (htype : Fields.find? "condition" entry = some (.str type))
    (hfile : Filled (Fields.find? "file" entry))
    (hbase : choice RelativeTo.names (Fields.find? "relativeTo" entry))
  | value {type : String} (hmember : type ∈ ["equals", "notEquals"])
    (htype : Fields.find? "condition" entry = some (.str type))
    (hvalue : ∃ v, Fields.find? "value" entry = some v)
    (hkey : Filled (Fields.find? "key" entry))

/-- The entry asks for a file, and where the file lies is no name. -/
inductive MistypedBase (entry : Fields Value) : Prop
  | intro {type : String} (hmember : type ∈ ["filePresent", "fileNotPresent"])
    (htype : Fields.find? "condition" entry = some (.str type))
    (hbase : Mistyped (Fields.find? "relativeTo" entry))

variable {name : String}

theorem readExists_ok_iff :
    (∃ c, readExists (.map entry) name = .ok c) ↔ Filled (Fields.find? "key" entry) := by
  rw [readExists, exists_map_eq_ok_iff, requiredText_ok_iff]

theorem readFilePresent_ok_iff : (∃ c, readFilePresent (.map entry) name = .ok c) ↔
    Filled (Fields.find? "file" entry) ∧
      ChoosesLoosely RelativeTo.names (Fields.find? "relativeTo" entry) := by
  rw [← requiredText_ok_iff .condition name,
    ← relativeToField_ok_iff .condition, readFilePresent]
  cases requiredText (.map entry) .condition name "file" with
  | error e => simp
  | ok file => simp [exists_map_eq_ok_iff]

theorem readEquals_ok_iff : (∃ c, readEquals (.map entry) name = .ok c) ↔
    (∃ v, Fields.find? "value" entry = some v) ∧ Filled (Fields.find? "key" entry) := by
  rw [← requiredText_ok_iff .condition name, readEquals, Value.field?]
  cases Fields.find? "value" entry with
  | none => simp
  | some v => simp [exists_map_eq_ok_iff]

/-- A type of conditions, its negation, and how the fields of both are read. -/
inductive Reader : String → String → (Value → String → Except Fault Condition) → Prop
  | key : Reader "exists" "notExists" readExists
  | file : Reader "filePresent" "fileNotPresent" readFilePresent
  | value : Reader "equals" "notEquals" readEquals

variable {positive negative type : String} {read : Value → String → Except Fault Condition}

theorem ofValue_of_type (htype : Fields.find? "condition" entry = some (.str type)) (hne : type ≠ "") :
    ofValue (.map entry) =
      if type = "exists" then readExists (.map entry) type
      else if type = "notExists" then (readExists (.map entry) type).map .not
      else if type = "filePresent" then readFilePresent (.map entry) type
      else if type = "fileNotPresent" then (readFilePresent (.map entry) type).map .not
      else if type = "equals" then readEquals (.map entry) type
      else if type = "notEquals" then (readEquals (.map entry) type).map .not
      else .error (.unknownCondition type) := by
  rw [ofValue, filledField?_eq_some_iff.2 ⟨htype, hne⟩]

theorem Reader.ofValue_positive (h : Reader positive negative read)
    (htype : Fields.find? "condition" entry = some (.str positive)) :
    ofValue (.map entry) = read (.map entry) positive := by
  cases h with
  | key => exact ofValue_of_type htype (by simp)
  | file => exact ofValue_of_type htype (by simp)
  | value => exact ofValue_of_type htype (by simp)

theorem Reader.ofValue_negative (h : Reader positive negative read)
    (htype : Fields.find? "condition" entry = some (.str negative)) :
    ofValue (.map entry) = (read (.map entry) negative).map .not := by
  cases h with
  | key => exact ofValue_of_type htype (by simp)
  | file => exact ofValue_of_type htype (by simp)
  | value => exact ofValue_of_type htype (by simp)

theorem Reader.ofValue_ok_iff (h : Reader positive negative read) (hmember : type ∈ [positive, negative])
    (htype : Fields.find? "condition" entry = some (.str type)) :
    (∃ c, ofValue (.map entry) = .ok c) ↔ ∃ c, read (.map entry) type = .ok c := by
  rw [List.mem_pair] at hmember
  rcases hmember with rfl | rfl
  · rw [h.ofValue_positive htype]
  · rw [h.ofValue_negative htype, exists_map_eq_ok_iff]

/-- An entry that is read as a condition is of one of the types. -/
theorem exists_reader {c : Condition} (h : ofValue (.map entry) = .ok c) :
    ∃ positive negative read type, Reader positive negative read ∧ type ∈ [positive, negative] ∧
      Fields.find? "condition" entry = some (.str type) := by
  cases hfilled : filledField? (.map entry) "condition" with
  | none =>
    rw [ofValue, hfilled] at h
    exact absurd h (by simp)
  | some type =>
    obtain ⟨htype, hne⟩ := filledField?_eq_some_iff.1 hfilled
    by_cases hexists : type ∈ ["exists", "notExists"]
    · exact ⟨_, _, _, type, .key, hexists, htype⟩
    · by_cases hfile : type ∈ ["filePresent", "fileNotPresent"]
      · exact ⟨_, _, _, type, .file, hfile, htype⟩
      · by_cases hequals : type ∈ ["equals", "notEquals"]
        · exact ⟨_, _, _, type, .value, hequals, htype⟩
        · simp only [List.mem_pair, not_or] at hexists hfile hequals
          rw [ofValue_of_type htype hne] at h
          simp only [hexists, hfile, hequals, if_false] at h
          exact absurd h (by simp)

/-- Which entries are read as conditions. -/
theorem ofValue_ok_iff :
    (∃ c, ofValue (.map entry) = .ok c) ↔ Spelled ChoosesLoosely entry := by
  constructor
  · rintro ⟨c, hc⟩
    obtain ⟨positive, negative, read, type, hreader, hmember, htype⟩ := exists_reader hc
    have hread := (hreader.ofValue_ok_iff hmember htype).1 ⟨c, hc⟩
    cases hreader with
    | key => exact .key hmember htype (readExists_ok_iff.1 hread)
    | file =>
      obtain ⟨hfile, hbase⟩ := readFilePresent_ok_iff.1 hread
      exact .file hmember htype hfile hbase
    | value =>
      obtain ⟨hvalue, hkey⟩ := readEquals_ok_iff.1 hread
      exact .value hmember htype hvalue hkey
  · intro h
    cases h with
    | key hmember htype hkey =>
      exact (Reader.key.ofValue_ok_iff hmember htype).2 (readExists_ok_iff.2 hkey)
    | file hmember htype hfile hbase =>
      exact (Reader.file.ofValue_ok_iff hmember htype).2 (readFilePresent_ok_iff.2 ⟨hfile, hbase⟩)
    | value hmember htype hvalue hkey =>
      exact (Reader.value.ofValue_ok_iff hmember htype).2 (readEquals_ok_iff.2 ⟨hvalue, hkey⟩)

/-- What is no object is no condition. -/
theorem exists_map_of_ofValue {v : Value} {c : Condition} (h : ofValue v = .ok c) :
    ∃ entry, v = .map entry := by
  cases v with
  | map entry => exact ⟨entry, rfl⟩
  | _ => exact absurd h (by simp [ofValue, filledField?, Value.field?])

/-- An entry is of one type. -/
theorem not_mistypedBase {types : List String} (hmember : type ∈ types)
    (htype : Fields.find? "condition" entry = some (.str type))
    (happart : ∀ type ∈ types, type ∉ ["filePresent", "fileNotPresent"]) : ¬ MistypedBase entry := by
  rintro ⟨hmember', htype', -⟩
  rw [htype, Option.some.injEq, Value.str.injEq] at htype'
  exact happart type hmember (htype' ▸ hmember')

/-- The strict reading of choices leaves out the entries in which one is mistyped. -/
theorem spelled_iff : Spelled Chooses entry ↔ Spelled ChoosesLoosely entry ∧ ¬ MistypedBase entry := by
  constructor
  · intro h
    cases h with
    | key hmember htype hkey =>
      exact ⟨.key hmember htype hkey, not_mistypedBase hmember htype (by decide)⟩
    | file hmember htype hfile hbase =>
      obtain ⟨hloose, hnot⟩ := chooses_iff.1 hbase
      refine ⟨.file hmember htype hfile hloose, ?_⟩
      rintro ⟨-, -, hwrong⟩
      exact hnot hwrong
    | value hmember htype hvalue hkey =>
      exact ⟨.value hmember htype hvalue hkey, not_mistypedBase hmember htype (by decide)⟩
  · rintro ⟨h, hnot⟩
    cases h with
    | key hmember htype hkey => exact .key hmember htype hkey
    | file hmember htype hfile hbase =>
      exact .file hmember htype hfile
        (chooses_iff.2 ⟨hbase, fun hwrong => hnot ⟨hmember, htype, hwrong⟩⟩)
    | value hmember htype hvalue hkey => exact .value hmember htype hvalue hkey

/-! ## 3. Lists of conditions -/

/-- Conditions are read one by one. -/
theorem listOfValues_eq_ok_iff {items : List Value} {conditions : List Condition} :
    listOfValues items = .ok conditions ↔
      List.Forall₂ (fun v c => ofValue v = .ok c) items conditions := by
  induction items generalizing conditions with
  | nil => cases conditions <;> simp [listOfValues]
  | cons v rest ih =>
    rw [listOfValues]
    cases hv : ofValue v with
    | error e => cases conditions <;> simp [hv]
    | ok c =>
      cases hrest : listOfValues rest with
      | error e => cases conditions <;> simp [hv, ← ih, hrest, Except.map]
      | ok cs => cases conditions <;> simp [hv, ← ih, hrest, Except.map]

/-- A list of conditions is read if each of them is. -/
theorem exists_listOfValues_iff {items : List Value} :
    (∃ conditions, listOfValues items = .ok conditions) ↔ ∀ v ∈ items, ∃ c, ofValue v = .ok c := by
  simp only [listOfValues_eq_ok_iff]
  induction items with
  | nil => simp
  | cons v rest ih => simp [List.forall₂_cons_left_iff, ← ih]

end Condition

end Stencil
