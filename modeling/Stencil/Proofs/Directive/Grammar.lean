import Stencil.Directive.Spec
import Stencil.Proofs.Condition.Grammar

/-!
# The grammar of directives

Which entries of `directives` are read, said of all the fields that the type of a directive and the types of
its conditions define: `Directive.Spelled`, by a reading of the fields that choose among names.

Entries are read by the loose reading: a number or a list in such a field counts as no choice
(`Directive.ofValue_ok_iff`). So a directive whose `relativeTo` is mistyped is one for the working directory
(`Directive.mistyped_choice_is_passed_over`), while `overwrite` and `exclude` have to be of their types.
Entries in which no choice is mistyped are read exactly when they are well formed
(`Directive.read_iff_wellFormed`).
-/

set_option autoImplicit false

namespace Stencil

namespace Fields

/-- Yes or no, or nothing at all. -/
inductive Switches : Option Value → Prop
  | missing : Switches none
  | null : Switches (some .null)
  | bool (b : Bool) : Switches (some (.bool b))

/-- A text or a list of texts, or nothing at all. -/
inductive Lists : Option Value → Prop
  | missing : Lists none
  | null : Lists (some .null)
  | one (s : String) : Lists (some (.str s))
  | many (texts : List String) : Lists (some (.list (texts.map .str)))

end Fields

open Fields (Filled Chooses Mistyped ChoosesLoosely Switches Lists chooses_iff)

variable {entry : Fields Value}

/-- The names of what a copy directive copies. -/
def CopyAction.names : List String :=
  ["copyDir", "copyFile"]

theorem CopyAction.exists_ofName?_iff {name : String} :
    (∃ action, CopyAction.ofName? name = some action) ↔ name ∈ CopyAction.names := by
  unfold CopyAction.ofName? CopyAction.names
  by_cases hdir : name = "copyDir"
  · simp [hdir]
  · by_cases hfile : name = "copyFile"
    · simp [hfile]
    · simp [hdir, hfile]

namespace Directive

/-! ## 1. Fields of directives -/

theorem actionField_ok_iff : (∃ action, actionField (.map entry) = .ok action) ↔
    ChoosesLoosely CopyAction.names (Fields.find? "action" entry) := by
  unfold actionField
  rcases choosesLoosely_cases CopyAction.names entry "action" with ⟨hnone, h⟩ | ⟨name, hname, h⟩
  · rw [hnone]
    exact iff_of_true ⟨_, rfl⟩ h
  · rw [hname, h, ← CopyAction.exists_ofName?_iff]
    dsimp only
    cases CopyAction.ofName? name with
    | none => simp
    | some action => simp

theorem overwriteField_ok_iff : (∃ overwrite, overwriteField (.map entry) = .ok overwrite) ↔
    Switches (Fields.find? "overwrite" entry) := by
  rw [overwriteField, Value.field?]
  cases Fields.find? "overwrite" entry with
  | none => exact iff_of_true ⟨_, rfl⟩ .missing
  | some v =>
    cases v with
    | null => exact iff_of_true ⟨_, rfl⟩ .null
    | bool b => exact iff_of_true ⟨_, rfl⟩ (.bool b)
    | _ => exact iff_of_false (by simp) (by rintro ⟨⟩)

theorem patterns_ok_iff {items : List Value} :
    (∃ globs, patterns items = .ok globs) ↔ ∃ texts : List String, items = texts.map .str := by
  induction items with
  | nil => exact iff_of_true ⟨[], rfl⟩ ⟨[], rfl⟩
  | cons v rest ih =>
    cases v with
    | str s =>
      rw [patterns, exists_map_eq_ok_iff, ih]
      constructor
      · rintro ⟨texts, rfl⟩
        exact ⟨s :: texts, rfl⟩
      · rintro ⟨texts, h⟩
        obtain ⟨_, after, -, -, hafter⟩ := List.map_eq_cons_iff.1 h.symm
        exact ⟨after, hafter.symm⟩
    | _ =>
      refine iff_of_false (by simp [patterns]) ?_
      rintro ⟨texts, h⟩
      obtain ⟨s, _, -, hs, -⟩ := List.map_eq_cons_iff.1 h.symm
      exact absurd hs (by simp)

theorem excludeField_ok_iff : (∃ globs, excludeField (.map entry) = .ok globs) ↔
    Lists (Fields.find? "exclude" entry) := by
  rw [excludeField, Value.field?]
  cases Fields.find? "exclude" entry with
  | none => exact iff_of_true ⟨_, rfl⟩ .missing
  | some v =>
    cases v with
    | null => exact iff_of_true ⟨_, rfl⟩ .null
    | str s => exact iff_of_true ⟨_, rfl⟩ (.one s)
    | list items =>
      dsimp only
      rw [patterns_ok_iff]
      constructor
      · rintro ⟨texts, rfl⟩
        exact .many texts
      · rintro ⟨⟩
        exact ⟨_, rfl⟩
    | _ => exact iff_of_false (by simp) (by rintro ⟨⟩)

/-! ## 2. Guards -/

/-- One condition or a list of them, or nothing at all. -/
inductive Guarded (choice : List String → Option Value → Prop) : Option Value → Prop
  | missing : Guarded choice none
  | null : Guarded choice (some .null)
  | one {guard : Fields Value} (h : Condition.Spelled choice guard) :
    Guarded choice (some (.map guard))
  | many {items : List Value}
    (h : ∀ v ∈ items, ∃ guard, v = .map guard ∧ Condition.Spelled choice guard) :
    Guarded choice (some (.list items))

/-- A condition among the guards says where a file lies, and not by a name. -/
inductive MistypedGuard : Option Value → Prop
  | one {guard : Fields Value} (h : Condition.MistypedBase guard) : MistypedGuard (some (.map guard))
  | many {items : List Value} {guard : Fields Value} (hmember : .map guard ∈ items)
    (h : Condition.MistypedBase guard) : MistypedGuard (some (.list items))

theorem exists_ofValue_iff {v : Value} : (∃ c, Condition.ofValue v = .ok c) ↔
    ∃ guard, v = .map guard ∧ Condition.Spelled ChoosesLoosely guard := by
  constructor
  · rintro ⟨c, hc⟩
    obtain ⟨guard, rfl⟩ := Condition.exists_map_of_ofValue hc
    exact ⟨guard, rfl, Condition.ofValue_ok_iff.1 ⟨c, hc⟩⟩
  · rintro ⟨guard, rfl, h⟩
    exact Condition.ofValue_ok_iff.2 h

theorem readCondition_ok_iff : (∃ condition, readCondition (.map entry) = .ok condition) ↔
    Guarded ChoosesLoosely (Fields.find? "condition" entry) := by
  rw [readCondition, Value.field?]
  cases Fields.find? "condition" entry with
  | none => exact iff_of_true ⟨_, rfl⟩ .missing
  | some v =>
    cases v with
    | null => exact iff_of_true ⟨_, rfl⟩ .null
    | list items =>
      dsimp only
      rw [exists_map_eq_ok_iff, Condition.groupOfValue, Condition.exists_listOfValues_iff]
      simp only [exists_ofValue_iff]
      refine ⟨.many, fun h => ?_⟩
      cases h with
      | many h => exact h
    | map guard =>
      dsimp only
      rw [exists_map_eq_ok_iff, Condition.groupOfValue, exists_map_eq_ok_iff, Condition.ofValue_ok_iff]
      · refine ⟨.one, fun h => ?_⟩
        cases h with
        | one h => exact h
      · simp
    | _ =>
      refine iff_of_false ?_ (by rintro ⟨⟩)
      dsimp only
      rw [exists_map_eq_ok_iff, Condition.groupOfValue, exists_map_eq_ok_iff]
      · rintro ⟨c, hc⟩
        exact absurd (Condition.exists_map_of_ofValue hc) (by simp)
      · simp

theorem guarded_iff {v : Option Value} :
    Guarded Chooses v ↔ Guarded ChoosesLoosely v ∧ ¬ MistypedGuard v := by
  constructor
  · intro h
    cases h with
    | missing => exact ⟨.missing, by rintro ⟨⟩⟩
    | null => exact ⟨.null, by rintro ⟨⟩⟩
    | one h =>
      obtain ⟨hloose, hnot⟩ := Condition.spelled_iff.1 h
      refine ⟨.one hloose, fun hwrong => ?_⟩
      cases hwrong with
      | one hwrong => exact hnot hwrong
    | many h =>
      refine ⟨.many fun v hv => ?_, fun hwrong => ?_⟩
      · obtain ⟨guard, rfl, hguard⟩ := h v hv
        exact ⟨guard, rfl, (Condition.spelled_iff.1 hguard).1⟩
      · cases hwrong with
        | many hmember hwrong =>
          obtain ⟨guard, hmap, hguard⟩ := h _ hmember
          rw [Value.map.inj hmap] at hwrong
          exact (Condition.spelled_iff.1 hguard).2 hwrong
  · rintro ⟨h, hnot⟩
    cases h with
    | missing => exact .missing
    | null => exact .null
    | one h => exact .one (Condition.spelled_iff.2 ⟨h, fun hwrong => hnot (.one hwrong)⟩)
    | many h =>
      refine .many fun v hv => ?_
      obtain ⟨guard, rfl, hguard⟩ := h v hv
      exact ⟨guard, rfl, Condition.spelled_iff.2 ⟨hguard, fun hwrong => hnot (.many hv hwrong)⟩⟩

/-! ## 3. Directives -/

/-- The fields of an entry that its type defines are well formed, by a reading of choices. -/
inductive Spelled (choice : List String → Option Value → Prop) (entry : Fields Value) : Prop
  | copy (htype : Fields.find? "directive" entry = some (.str "copy"))
    (hsource : Filled (Fields.find? "from" entry)) (htarget : Filled (Fields.find? "to" entry))
    (haction : choice CopyAction.names (Fields.find? "action" entry))
    (hoverwrite : Switches (Fields.find? "overwrite" entry))
    (hexclude : Lists (Fields.find? "exclude" entry))
    (hbase : choice RelativeTo.names (Fields.find? "relativeTo" entry))
    (hguard : Guarded choice (Fields.find? "condition" entry))
  | run {type : String} (hmember : type ∈ ["run", "runCommand"])
    (htype : Fields.find? "directive" entry = some (.str type))
    (hcommand : Filled (Fields.find? "command" entry))
    (hbase : choice RelativeTo.names (Fields.find? "relativeTo" entry))
    (hguard : Guarded choice (Fields.find? "condition" entry))
  | execute (htype : Fields.find? "directive" entry = some (.str "execute"))
    (hfile : Filled (Fields.find? "file" entry))
    (hguard : Guarded choice (Fields.find? "condition" entry))

/-- A directive, and all that belongs to it is well formed. -/
def WellFormed (v : Value) : Prop :=
  ∃ entry, v = .map entry ∧ Spelled Chooses entry

/-- A directive with a field that is to choose among names and holds something else. -/
inductive MistypedChoice (entry : Fields Value) : Prop
  | action (htype : Fields.find? "directive" entry = some (.str "copy"))
    (h : Mistyped (Fields.find? "action" entry))
  | base {type : String} (hmember : type ∈ ["copy", "run", "runCommand"])
    (htype : Fields.find? "directive" entry = some (.str type))
    (h : Mistyped (Fields.find? "relativeTo" entry))
  | guard (h : MistypedGuard (Fields.find? "condition" entry))

theorem readCopy_ok_iff : (∃ d, readCopy (.map entry) = .ok d) ↔
    Filled (Fields.find? "from" entry) ∧ Filled (Fields.find? "to" entry) ∧
      ChoosesLoosely CopyAction.names (Fields.find? "action" entry) ∧
      Switches (Fields.find? "overwrite" entry) ∧ Lists (Fields.find? "exclude" entry) ∧
      ChoosesLoosely RelativeTo.names (Fields.find? "relativeTo" entry) := by
  rw [← requiredText_ok_iff .directive "copy",
    ← requiredText_ok_iff .directive "copy", ← actionField_ok_iff,
    ← overwriteField_ok_iff, ← excludeField_ok_iff, ← relativeToField_ok_iff .directive]
  simp [readCopy, exists_bind_eq_ok_iff, pure, Except.pure]

theorem readRun_ok_iff : (∃ d, readRun (.map entry) = .ok d) ↔
    Filled (Fields.find? "command" entry) ∧
      ChoosesLoosely RelativeTo.names (Fields.find? "relativeTo" entry) := by
  rw [← requiredText_ok_iff .directive "run",
    ← relativeToField_ok_iff .directive]
  simp [readRun, exists_bind_eq_ok_iff, pure, Except.pure]

theorem readExecute_ok_iff : (∃ d, readExecute (.map entry) = .ok d) ↔
    Filled (Fields.find? "file" entry) := by
  rw [← requiredText_ok_iff .directive "execute"]
  simp [readExecute, exists_bind_eq_ok_iff, pure, Except.pure]

theorem ofValue_ok_iff_of_type {type : String}
    (htype : Fields.find? "directive" entry = some (.str type)) (hne : type ≠ "") :
    (∃ d, ofValue (.map entry) = .ok d) ↔ (∃ kind, readKind (.map entry) type = .ok kind) ∧
      Guarded ChoosesLoosely (Fields.find? "condition" entry) := by
  rw [ofValue, filledField?_eq_some_iff.2 ⟨htype, hne⟩, ← readCondition_ok_iff]
  dsimp only
  cases readKind (.map entry) type with
  | error e => simp
  | ok kind => simp [exists_map_eq_ok_iff]

/-- Which entries are read as directives. -/
theorem ofValue_ok_iff :
    (∃ d, ofValue (.map entry) = .ok d) ↔ Spelled ChoosesLoosely entry := by
  constructor
  · intro h
    cases hfilled : filledField? (.map entry) "directive" with
    | none =>
      rw [ofValue, hfilled] at h
      exact absurd h (by simp)
    | some type =>
      obtain ⟨htype, hne⟩ := filledField?_eq_some_iff.1 hfilled
      obtain ⟨hkind, hguard⟩ := (ofValue_ok_iff_of_type htype hne).1 h
      unfold readKind at hkind
      split at hkind
      · rename_i hcopy
        obtain ⟨hsource, htarget, haction, hoverwrite, hexclude, hbase⟩ :=
          readCopy_ok_iff.1 (exists_map_eq_ok_iff.1 hkind)
        exact .copy (hcopy ▸ htype) hsource htarget haction hoverwrite hexclude hbase hguard
      · split at hkind
        · rename_i hrun
          obtain ⟨hcommand, hbase⟩ := readRun_ok_iff.1 (exists_map_eq_ok_iff.1 hkind)
          exact .run (List.mem_pair.2 hrun) htype hcommand hbase hguard
        · split at hkind
          · rename_i hexecute
            exact .execute (hexecute ▸ htype) (readExecute_ok_iff.1 (exists_map_eq_ok_iff.1 hkind)) hguard
          · exact absurd hkind (by simp)
  · intro h
    cases h with
    | copy htype hsource htarget haction hoverwrite hexclude hbase hguard =>
      refine (ofValue_ok_iff_of_type htype (by simp)).2 ⟨exists_map_eq_ok_iff.2 ?_, hguard⟩
      exact readCopy_ok_iff.2 ⟨hsource, htarget, haction, hoverwrite, hexclude, hbase⟩
    | run hmember htype hcommand hbase hguard =>
      have hread := readRun_ok_iff.2 ⟨hcommand, hbase⟩
      rw [List.mem_pair] at hmember
      rcases hmember with rfl | rfl
      · exact (ofValue_ok_iff_of_type htype (by simp)).2 ⟨exists_map_eq_ok_iff.2 hread, hguard⟩
      · exact (ofValue_ok_iff_of_type htype (by simp)).2 ⟨exists_map_eq_ok_iff.2 hread, hguard⟩
    | execute htype hfile hguard =>
      refine (ofValue_ok_iff_of_type htype (by simp)).2 ⟨exists_map_eq_ok_iff.2 ?_, hguard⟩
      exact readExecute_ok_iff.2 hfile

/-! ## 4. Mistyped choices -/

/-- The strict reading of choices leaves out the entries in which one is mistyped. -/
theorem spelled_iff : Spelled Chooses entry ↔ Spelled ChoosesLoosely entry ∧ ¬ MistypedChoice entry := by
  constructor
  · intro h
    cases h with
    | copy htype hsource htarget haction hoverwrite hexclude hbase hguard =>
      obtain ⟨haction, hnaction⟩ := chooses_iff.1 haction
      obtain ⟨hbase, hnbase⟩ := chooses_iff.1 hbase
      obtain ⟨hguard, hnguard⟩ := guarded_iff.1 hguard
      refine ⟨.copy htype hsource htarget haction hoverwrite hexclude hbase hguard, ?_⟩
      rintro (⟨-, hwrong⟩ | ⟨-, -, hwrong⟩ | hwrong)
      · exact hnaction hwrong
      · exact hnbase hwrong
      · exact hnguard hwrong
    | run hmember htype hcommand hbase hguard =>
      obtain ⟨hbase, hnbase⟩ := chooses_iff.1 hbase
      obtain ⟨hguard, hnguard⟩ := guarded_iff.1 hguard
      refine ⟨.run hmember htype hcommand hbase hguard, ?_⟩
      rintro (⟨htype', -⟩ | ⟨-, -, hwrong⟩ | hwrong)
      · rw [htype, Option.some.injEq, Value.str.injEq] at htype'
        rw [htype'] at hmember
        exact absurd hmember (by decide)
      · exact hnbase hwrong
      · exact hnguard hwrong
    | execute htype hfile hguard =>
      obtain ⟨hguard, hnguard⟩ := guarded_iff.1 hguard
      refine ⟨.execute htype hfile hguard, ?_⟩
      rintro (⟨htype', -⟩ | ⟨hmember, htype', -⟩ | hwrong)
      · rw [htype] at htype'
        exact absurd htype' (by simp)
      · rw [htype, Option.some.injEq, Value.str.injEq] at htype'
        rw [← htype'] at hmember
        exact absurd hmember (by decide)
      · exact hnguard hwrong
  · rintro ⟨h, hnot⟩
    cases h with
    | copy htype hsource htarget haction hoverwrite hexclude hbase hguard =>
      refine .copy htype hsource htarget ?_ hoverwrite hexclude ?_ ?_
      · exact chooses_iff.2 ⟨haction, fun hwrong => hnot (.action htype hwrong)⟩
      · exact chooses_iff.2 ⟨hbase, fun hwrong => hnot (.base (by simp) htype hwrong)⟩
      · exact guarded_iff.2 ⟨hguard, fun hwrong => hnot (.guard hwrong)⟩
    | run hmember htype hcommand hbase hguard =>
      refine .run hmember htype hcommand ?_ ?_
      · exact chooses_iff.2
          ⟨hbase, fun hwrong => hnot (.base (List.mem_cons_of_mem _ hmember) htype hwrong)⟩
      · exact guarded_iff.2 ⟨hguard, fun hwrong => hnot (.guard hwrong)⟩
    | execute htype hfile hguard =>
      exact .execute htype hfile (guarded_iff.2 ⟨hguard, fun hwrong => hnot (.guard hwrong)⟩)

/-- What is no object is no directive. -/
theorem exists_map_of_ofValue {v : Value} {d : Directive} (h : ofValue v = .ok d) :
    ∃ entry, v = .map entry := by
  cases v with
  | map entry => exact ⟨entry, rfl⟩
  | _ => exact absurd h (by simp [ofValue, filledField?, Value.field?])

/-- **A directive is read exactly if all its fields are well formed, but for those that choose among names:
there, what is no text counts as no choice.** So of the entries that are read, the ones that are not well
formed are those with a mistyped choice. -/
theorem read_iff_wellFormed (v : Value) :
    ((∃ d, ofValue v = .ok d) ↔ ∃ entry, v = .map entry ∧ Spelled ChoosesLoosely entry) ∧
      (WellFormed v ↔
        (∃ d, ofValue v = .ok d) ∧ ¬ ∃ entry, v = .map entry ∧ MistypedChoice entry) := by
  have hread : (∃ d, ofValue v = .ok d) ↔ ∃ entry, v = .map entry ∧ Spelled ChoosesLoosely entry := by
    constructor
    · rintro ⟨d, hd⟩
      obtain ⟨entry, rfl⟩ := exists_map_of_ofValue hd
      exact ⟨entry, rfl, ofValue_ok_iff.1 ⟨d, hd⟩⟩
    · rintro ⟨entry, rfl, h⟩
      exact ofValue_ok_iff.2 h
  refine ⟨hread, ?_⟩
  rw [hread]
  constructor
  · rintro ⟨entry, rfl, h⟩
    obtain ⟨hloose, hnot⟩ := spelled_iff.1 h
    refine ⟨⟨entry, rfl, hloose⟩, ?_⟩
    rintro ⟨entry', hmap, hwrong⟩
    exact hnot (Value.map.inj hmap ▸ hwrong)
  · rintro ⟨⟨entry, rfl, hloose⟩, hnot⟩
    exact ⟨entry, rfl, spelled_iff.2 ⟨hloose, fun hwrong => hnot ⟨entry, rfl, hwrong⟩⟩⟩

/-- A base directory that is a list is passed over, and so is an action that is a number: this copy starts
from the working directory. -/
theorem mistyped_choice_is_passed_over :
    ofValue (.map [("directive", .str "copy"), ("from", .str "a.txt"), ("to", .str "b.txt"),
        ("action", .int 5), ("relativeTo", .list [.str "projectRoot"])]) =
      .ok ⟨.copy ⟨"a.txt", "b.txt", none, none, [], .workingDir⟩, none⟩ ∧
    ¬ WellFormed (.map [("directive", .str "copy"), ("from", .str "a.txt"), ("to", .str "b.txt"),
        ("action", .int 5), ("relativeTo", .list [.str "projectRoot"])]) := by
  refine ⟨rfl, ?_⟩
  rintro ⟨entry, hmap, h⟩
  obtain rfl := Value.map.inj hmap
  exact (spelled_iff.1 h).2 (.action rfl ⟨by simp, rfl⟩)

end Directive

end Stencil
