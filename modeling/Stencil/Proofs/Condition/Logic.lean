import Stencil.Proofs.Condition.Grammar
import Stencil.Proofs.Session.Sample
import Stencil.Session.Guard

/-!
# The logic of conditions

Three types of conditions come with a negation. Renaming the type of an entry to its negation changes nothing
but the answer: the two entries are read or refused alike, and where they are read the one holds in a run if
the other does not, and both fail there for the same reason (`Condition.Opposed`).

A list of conditions is their conjunction as long as each can be decided. Then neither order nor repetition
matters, for it holds if all members are met (`Condition.Met`). Where some cannot be decided the order counts:
the first of them is come to if all before it hold, and not otherwise.
-/

set_option autoImplicit false

namespace Stencil

/-- Faults of one kind; those of missing fields are about one field, and need not name one subject. -/
inductive Fault.Alike : Fault → Fault → Prop
  | same (e : Fault) : Alike e e
  | missing (kind : SpecKind) (subject subject' field : String) :
    Alike (.missingField kind subject field) (.missingField kind subject' field)

/-- The same result, or faults that are alike. -/
inductive Fault.AlikeResults {α : Type} : Except Fault α → Except Fault α → Prop
  | ok (a : α) : AlikeResults (.ok a) (.ok a)
  | error {e e' : Fault} (h : e.Alike e') : AlikeResults (.error e) (.error e')

theorem Fault.AlikeResults.map {α β : Type} {x y : Except Fault α} (h : AlikeResults x y) (f : α → β) :
    AlikeResults (x.map f) (y.map f) := by
  cases h with
  | ok a => exact .ok (f a)
  | error h => exact .error h

theorem Fault.AlikeResults.bind {α β : Type} {x y : Except Fault α} (h : AlikeResults x y)
    (f : α → Except Fault β) : AlikeResults (x.bind f) (y.bind f) := by
  cases h with
  | ok a =>
    show AlikeResults (f a) (f a)
    cases f a with
    | error e => exact .error (.same e)
    | ok b => exact .ok b
  | error h => exact .error h

namespace Condition

open Fault (AlikeResults)

/-! ## 1. Entries with the type renamed -/

/-- The types of conditions that have a negation, with its name. -/
def negations : Fields String :=
  [("exists", "notExists"), ("filePresent", "fileNotPresent"), ("equals", "notEquals")]

/-- The entry with another type. -/
def renamed (type : String) (entry : Fields Value) : Fields Value :=
  Fields.put "condition" (.str type) entry

variable {positive negative : String} {read : Value → String → Except Fault Condition}

theorem exists_reader_of_mem (h : (positive, negative) ∈ negations) :
    ∃ read, Reader positive negative read := by
  simp only [negations, List.mem_cons, Prod.mk.injEq, List.not_mem_nil, or_false] at h
  rcases h with ⟨rfl, rfl⟩ | ⟨rfl, rfl⟩ | ⟨rfl, rfl⟩
  · exact ⟨_, .key⟩
  · exact ⟨_, .file⟩
  · exact ⟨_, .value⟩

theorem Reader.mem_negations (h : Reader positive negative read) :
    (positive, negative) ∈ negations := by
  cases h with
  | key => simp [negations]
  | file => simp [negations]
  | value => simp [negations]

variable (entry : Fields Value) (type type' : String)

theorem find?_renamed_other {field : String} (h : field ≠ "condition") :
    Fields.find? field (renamed type entry) = Fields.find? field entry :=
  Fields.find?_put_other (Ne.symm h) _ entry

theorem filledField?_renamed {field : String} (h : field ≠ "condition") :
    filledField? (.map (renamed type entry)) field = filledField? (.map entry) field := by
  have hfield : (Value.map (renamed type entry)).field? field = (Value.map entry).field? field :=
    find?_renamed_other entry type h
  unfold filledField?
  rw [hfield]

theorem requiredText_renamed {field : String} (h : field ≠ "condition") (kind : SpecKind) :
    AlikeResults (requiredText (.map entry) kind type field)
      (requiredText (.map (renamed type' entry)) kind type' field) := by
  unfold requiredText
  rw [filledField?_renamed entry type' h]
  cases filledField? (.map entry) field with
  | none => exact .error (.missing kind type type' field)
  | some s => exact .ok s

theorem readFilePresent_eq (spec : Value) (name : String) : readFilePresent spec name =
    (requiredText spec .condition name "file").bind fun file =>
      (relativeToField spec .condition).map (.filePresent file) := by
  unfold readFilePresent
  cases requiredText spec .condition name "file" with
  | error e => rfl
  | ok file => rfl

/-- The type of an entry does not matter to how its other fields are read. -/
theorem Reader.alike (h : Reader positive negative read) :
    AlikeResults (read (.map entry) type) (read (.map (renamed type' entry)) type') := by
  cases h with
  | key => exact (requiredText_renamed entry type type' (by simp) .condition).map _
  | file =>
    have hbase : relativeToField (.map (renamed type' entry)) .condition =
        relativeToField (.map entry) .condition := by
      unfold relativeToField
      rw [filledField?_renamed entry type' (by simp)]
    rw [readFilePresent_eq, readFilePresent_eq, hbase]
    exact (requiredText_renamed entry type type' (by simp) .condition).bind _
  | value =>
    have hvalue : (Value.map (renamed type' entry)).field? "value" = (Value.map entry).field? "value" :=
      find?_renamed_other entry type' (by simp)
    unfold readEquals
    rw [hvalue]
    cases (Value.map entry).field? "value" with
    | none => exact .error (.missing .condition type type' "value")
    | some v => exact (requiredText_renamed entry type type' (by simp) .condition).map _

theorem find?_renamed : Fields.find? "condition" (renamed type entry) = some (.str type) :=
  Fields.find?_put_same _ _ entry

/-! ## 2. Negation -/

section

variable (services : Services) (r : Run)

/-- Two entries are refused alike, or of what they are read as the one holds in a run if the other does not,
and neither can be decided if one cannot. -/
inductive Opposed : Except Fault Condition → Except Fault Condition → Prop
  | refused {e e' : Fault} (h : e.Alike e') : Opposed (.error e) (.error e')
  | undecided {c c' : Condition} {e : Fault} (h : c.holds services r = .error e)
    (h' : c'.holds services r = .error e) : Opposed (.ok c) (.ok c')
  | decided {c c' : Condition} {b : Bool} (h : c.holds services r = .ok b)
    (h' : c'.holds services r = .ok (!b)) : Opposed (.ok c) (.ok c')

theorem opposed_not (c : Condition) : Opposed services r (.ok c) (.ok (.not c)) := by
  have hnot : (Condition.not c).holds services r = (c.holds services r).map (!·) := rfl
  cases hc : c.holds services r with
  | error e =>
    rw [hc] at hnot
    exact .undecided hc hnot
  | ok b =>
    rw [hc] at hnot
    exact .decided hc hnot

/-- Entries of a type and its negation are opposed. -/
theorem opposed_renamed (hpair : (positive, negative) ∈ negations)
    (htype : Fields.find? "condition" entry = some (.str positive)) :
    Opposed services r (ofValue (.map entry)) (ofValue (.map (renamed negative entry))) := by
  obtain ⟨read, hreader⟩ := exists_reader_of_mem hpair
  rw [hreader.ofValue_positive htype, hreader.ofValue_negative (find?_renamed entry negative)]
  generalize read (.map entry) positive = x, read (.map (renamed negative entry)) negative = y,
    hreader.alike entry positive negative = halike
  cases halike with
  | ok c => exact opposed_not services r c
  | error h => exact .refused h

/-! ## 3. Lists -/

/-- An entry that is not negated holds, or the positive form of a negated one does not. -/
inductive Met : Value → Prop
  | plain {positive negative : String} {entry : Fields Value} {c : Condition}
    (hpair : (positive, negative) ∈ negations)
    (htype : Fields.find? "condition" entry = some (.str positive))
    (hread : ofValue (.map entry) = .ok c) (h : c.holds services r = .ok true) : Met (.map entry)
  | negated {positive negative : String} {entry : Fields Value} {c : Condition}
    (hpair : (positive, negative) ∈ negations)
    (htype : Fields.find? "condition" entry = some (.str negative))
    (hread : ofValue (.map (renamed positive entry)) = .ok c)
    (h : c.holds services r = .ok false) : Met (.map entry)

/-- A condition of a negated type is read as the negation of what its positive form is read as. -/
theorem ofValue_negated {c : Condition} (hpair : (positive, negative) ∈ negations)
    (htype : Fields.find? "condition" entry = some (.str negative)) :
    ofValue (.map entry) = .ok c ↔
      ∃ inner, ofValue (.map (renamed positive entry)) = .ok inner ∧ c = .not inner := by
  obtain ⟨read, hreader⟩ := exists_reader_of_mem hpair
  rw [hreader.ofValue_negative htype, hreader.ofValue_positive (find?_renamed entry positive)]
  generalize read (.map entry) negative = x, read (.map (renamed positive entry)) positive = y,
    hreader.alike entry negative positive = halike
  cases halike with
  | ok inner => simp [Except.map, eq_comm]
  | error h => simp [Except.map]

theorem met_iff {v : Value} {c : Condition} (hread : ofValue v = .ok c) :
    Met services r v ↔ c.holds services r = .ok true := by
  constructor
  · rintro (⟨-, -, hread', h⟩ | ⟨hpair, htype, hread', h⟩)
    · rw [hread, Except.ok.injEq] at hread'
      rwa [hread']
    · obtain ⟨inner, hinner, rfl⟩ := (ofValue_negated _ hpair htype).1 hread
      rw [hinner, Except.ok.injEq] at hread'
      rw [holds, hread', h]
      rfl
  · intro h
    obtain ⟨entry, rfl⟩ := exists_map_of_ofValue hread
    obtain ⟨positive, negative, read, type, hreader, hmember, htype⟩ := exists_reader hread
    rcases List.mem_pair.1 hmember with rfl | rfl
    · exact .plain hreader.mem_negations htype hread h
    · obtain ⟨inner, hinner, rfl⟩ := (ofValue_negated _ hreader.mem_negations htype).1 hread
      refine .negated hreader.mem_negations htype hinner ?_
      rw [holds] at h
      cases hb : inner.holds services r with
      | error e => exact absurd h (by simp [hb, Except.map])
      | ok b => simpa [hb, Except.map] using h

/-- The condition can be decided. -/
def Decided (c : Condition) : Prop :=
  ∃ b, c.holds services r = .ok b

variable {services : Services} {r : Run}

/-- The run over a list whose members can be decided: all are looked at, or the first that fails ends it. -/
theorem allHold_of_decided {conditions : List Condition}
    (h : ∀ c ∈ conditions, c.Decided services r) : ∃ b, allHold services r conditions = .ok b ∧
      (b = true ↔ ∀ c ∈ conditions, c.holds services r = .ok true) := by
  induction conditions with
  | nil => exact ⟨true, rfl, by simp⟩
  | cons c rest ih =>
    obtain ⟨⟨b, hb⟩, hrest⟩ := List.forall_mem_cons.1 h
    unfold allHold
    rw [hb]
    cases b with
    | false => exact ⟨false, rfl, by simp [hb]⟩
    | true =>
      obtain ⟨all, hall, hiff⟩ := ih hrest
      exact ⟨all, hall, by simp [hb, hiff]⟩

/-- The first condition that cannot be decided is come to if all before it hold. -/
theorem allHold_of_undecided {before : List Condition} {c : Condition} {e : Fault}
    (hbefore : ∀ c ∈ before, c.Decided services r) (hc : c.holds services r = .error e)
    (after : List Condition) :
    (∀ c ∈ before, c.holds services r = .ok true) ∧
        allHold services r (before ++ c :: after) = .error e ∨
      (¬ ∀ c ∈ before, c.holds services r = .ok true) ∧
        allHold services r (before ++ c :: after) = .ok false := by
  induction before with
  | nil =>
    refine Or.inl ⟨by simp, ?_⟩
    rw [List.nil_append, allHold, hc]
  | cons first before ih =>
    obtain ⟨⟨b, hb⟩, hbefore⟩ := List.forall_mem_cons.1 hbefore
    rw [List.cons_append, allHold, hb]
    cases b with
    | false => exact Or.inr ⟨by simp [hb], rfl⟩
    | true => simpa [hb] using ih hbefore

theorem mem_of_listOfValues {items : List Value} {conditions : List Condition}
    (h : listOfValues items = .ok conditions) {c : Condition} :
    c ∈ conditions ↔ ∃ v ∈ items, ofValue v = .ok c := by
  have hread := listOfValues_eq_ok_iff.1 h
  clear h
  induction hread with
  | nil => simp
  | @cons v first items conditions hv _ ih => simp [ih, hv, eq_comm]

end

/-- **Conditions obey the laws of logic.** A condition and its negation are opposed. A list whose members can
be decided in a run is their conjunction there, in whatever order and however often they come, and the empty
list holds. If a member cannot be decided, the list fails if all members before the first such one hold, with
the fault of that one, and it is decided otherwise. -/
theorem obeys_boolean_logic (services : Services) (r : Run) :
    (∀ positive negative entry, (positive, negative) ∈ negations →
      Fields.find? "condition" entry = some (.str positive) →
      Opposed services r (ofValue (.map entry)) (ofValue (.map (renamed negative entry)))) ∧
    (∀ items conditions, groupOfValue (.list items) = .ok conditions →
      (∀ c ∈ conditions, c.Decided services r) →
      (∃ b, allHold services r conditions = .ok b ∧ (b = true ↔ ∀ v ∈ items, Met services r v)) ∧
      ∀ items', (∀ v, v ∈ items' ↔ v ∈ items) → ∃ conditions',
        groupOfValue (.list items') = .ok conditions' ∧
          allHold services r conditions' = allHold services r conditions) ∧
    (groupOfValue (.list []) = .ok [] ∧ allHold services r [] = .ok true) ∧
    ∀ before c after e, (∀ c' ∈ before, c'.Decided services r) → c.holds services r = .error e →
      ((∃ e', allHold services r (before ++ c :: after) = .error e') ↔
        ∀ c' ∈ before, c'.holds services r = .ok true) ∧
      ∀ e', allHold services r (before ++ c :: after) = .error e' → e' = e := by
  refine ⟨fun positive negative entry => opposed_renamed entry services r, ?_, ⟨rfl, rfl⟩, ?_⟩
  · intro items conditions hread hdecided
    rw [groupOfValue] at hread
    obtain ⟨b, hall, hiff⟩ := allHold_of_decided hdecided
    have hmet : (∀ v ∈ items, Met services r v) ↔
        ∀ c ∈ conditions, c.holds services r = .ok true := by
      constructor
      · intro h c hc
        obtain ⟨v, hv, hvc⟩ := (mem_of_listOfValues hread).1 hc
        exact (met_iff services r hvc).1 (h v hv)
      · intro h v hv
        obtain ⟨c, hvc⟩ := exists_listOfValues_iff.1 ⟨conditions, hread⟩ v hv
        exact (met_iff services r hvc).2 (h c ((mem_of_listOfValues hread).2 ⟨v, hv, hvc⟩))
    refine ⟨⟨b, hall, hiff.trans hmet.symm⟩, fun items' hsame => ?_⟩
    obtain ⟨conditions', hread'⟩ := exists_listOfValues_iff.2 fun v hv =>
      exists_listOfValues_iff.1 ⟨conditions, hread⟩ v ((hsame v).1 hv)
    have hmem : ∀ c, c ∈ conditions' ↔ c ∈ conditions := by
      intro c
      rw [mem_of_listOfValues hread, mem_of_listOfValues hread']
      simp only [hsame]
    have hdecided' : ∀ c ∈ conditions', c.Decided services r := fun c hc => hdecided c ((hmem c).1 hc)
    obtain ⟨b', hall', hiff'⟩ := allHold_of_decided hdecided'
    have hb : b' = b := by
      rw [Bool.eq_iff_iff, hiff, hiff']
      simp only [hmem]
    exact ⟨conditions', hread', by rw [hall, hall', hb]⟩
  · intro before c after e hbefore hc
    rcases allHold_of_undecided hbefore hc after with ⟨htrue, h⟩ | ⟨hfalse, h⟩
    · rw [h]
      refine ⟨iff_of_true ⟨e, rfl⟩ htrue, fun e' he' => ?_⟩
      exact (Except.error.inj he').symm
    · rw [h]
      exact ⟨iff_of_false (by simp) hfalse, fun e' he' => absurd he' (by simp)⟩

namespace Sample

open Make.Sample (bare)

/-- A run in the directory `work`, without an active template. -/
def run : Run :=
  ⟨.fresh ⟨"work"⟩, ⟨⟨[], []⟩, [], [], [], [], []⟩⟩

/-- Asks for a file of the template, which no run without one can tell. -/
def shipped : Fields Value :=
  [("condition", .str "filePresent"), ("file", .str "a.txt"), ("relativeTo", .str "templateDir")]

def published : Fields Value :=
  [("condition", .str "exists"), ("key", .str "project_root")]

def elsewhere : Fields Value :=
  [("value", .str "home"), ("condition", .str "notEquals"), ("key", .str "working_dir")]

/-- Neither a file of the template nor its absence can be told; two other conditions hold in any order; and
behind them, but not behind the negation of one, the file is asked for. -/
theorem obeys_boolean_logic_sample :
    Opposed bare run (ofValue (.map shipped)) (ofValue (.map (renamed "fileNotPresent" shipped))) ∧
    ((∃ b, allHold bare run [.exists "project_root", .not (.equals "working_dir" (.str "home"))] = .ok b ∧
      (b = true ↔ ∀ v ∈ [.map published, .map elsewhere], Met bare run v)) ∧
    ∃ conditions',
      groupOfValue (.list [.map elsewhere, .map published, .map elsewhere]) = .ok conditions' ∧
      allHold bare run conditions' =
        allHold bare run [.exists "project_root", .not (.equals "working_dir" (.str "home"))]) ∧
    ((∃ e', allHold bare run [.exists "project_root", .filePresent "a.txt" .templateDir] = .error e') ↔
      ∀ c' ∈ [Condition.exists "project_root"], c'.holds bare run = .ok true) := by
  obtain ⟨hnegation, hgroup, -, hundecided⟩ := obeys_boolean_logic bare run
  refine ⟨hnegation "filePresent" "fileNotPresent" _ (by simp [negations]) rfl, ?_, ?_⟩
  · obtain ⟨hmet, hsame⟩ := hgroup [.map published, .map elsewhere] _ rfl (by
      refine List.forall_mem_cons.2 ⟨⟨true, rfl⟩, List.forall_mem_singleton.2 ⟨true, rfl⟩⟩)
    exact ⟨hmet, hsame _ (by simp [or_comm])⟩
  · exact (hundecided [.exists "project_root"] (.filePresent "a.txt" .templateDir) [] .noActiveTemplate
      (List.forall_mem_singleton.2 ⟨true, rfl⟩) rfl).1

end Sample

end Condition

end Stencil
