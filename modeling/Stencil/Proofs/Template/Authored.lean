import Stencil.Proofs.Template.Dialogue
import Stencil.Proofs.Template.Make
import Stencil.Proofs.Template.Rejected

/-!
# What is authored can be loaded

The author writes a configuration, and loading a template reads one. Both have rules for prompts of
their own, and they agree on every dialogue that is held in words (`Worded`): a description is a prompt
(`Described.spelled`), descriptions follow each other in the file as in the dialogue
(`Recorded.spelled`), and the file is read as it was saved. The one way to author what cannot be loaded
is to ask for a choice and give no options for it (`created_without_options`).
-/

set_option autoImplicit false

namespace Stencil.Authoring

open Value (SavesWithin)

variable {transforms : Registry} {operator : Operator} {w w' : World}

/-! ## 1. How it is read -/

/-- An answer in words: names, messages and types of prompts are texts, a name is not blank, and a list
of options names at least one. -/
def Worded (q : Question) (v : Value) : Prop :=
  (q.name = "message" → v.asStr?.isSome = true) ∧
  (q.name = "name" → v.asStr?.any (fun name => !(Unicode.trim name.toList).isEmpty) = true) ∧
  (q.name = "type" → v.asStr?.isSome = true) ∧
  (q.name = optionsQuestion → (OptionList.read v.display).isEmpty = false)

instance (q : Question) (v : Value) : Decidable (Worded q v) :=
  inferInstanceAs (Decidable (_ ∧ _ ∧ _ ∧ _))

/-- The answers to the questions of one name. -/
def saidTo (name : String) (heard : List (Question × Value)) : List Value :=
  (heard.filter fun e => e.1.name == name).map Prod.snd

theorem saidTo_cons_same {name : String} {q : Question} {v : Value}
    {heard : List (Question × Value)} (h : q.name = name) :
    saidTo name ((q, v) :: heard) = v :: saidTo name heard := by
  simp [saidTo, h]

theorem saidTo_cons_other {name : String} {q : Question} {v : Value}
    {heard : List (Question × Value)} (h : q.name ≠ name) :
    saidTo name ((q, v) :: heard) = saidTo name heard := by
  simp [saidTo, h]

theorem saidTo_append (name : String) (xs ys : List (Question × Value)) :
    saidTo name (xs ++ ys) = saidTo name xs ++ saidTo name ys := by
  rw [saidTo, List.filter_append, List.map_append]
  rfl

/-- The prompts that entries spell are those that the operator has described. -/
structure Spelled (heard : List (Question × Value)) (fields : List Value)
    (specs : List PromptSpec) : Prop where
  read : fields.map PromptSpec.ofValue = specs.map .ok
  plain : ∀ spec ∈ specs, spec.transform ++ spec.transformDefault = []
  messages : specs.map (fun spec => .str spec.message) = saidTo "message" heard
  names : specs.map (fun spec => .str spec.name) = saidTo "name" heard
  kinds : specs.map PromptSpec.kind = (saidTo "type" heard).map kindMeant
  saves : ∀ field ∈ fields, SavesWithin 2 field

theorem Spelled.nil : Spelled [] [] [] :=
  ⟨rfl, List.forall_mem_nil _, rfl, rfl, rfl, List.forall_mem_nil _⟩

theorem Spelled.append {xs ys : List (Question × Value)} {as bs : List Value}
    {specs more : List PromptSpec} (h : Spelled xs as specs) (h' : Spelled ys bs more) :
    Spelled (xs ++ ys) (as ++ bs) (specs ++ more) where
  read := by rw [List.map_append, List.map_append, h.read, h'.read]
  plain := List.forall_mem_append.2 ⟨h.plain, h'.plain⟩
  messages := by rw [List.map_append, saidTo_append, h.messages, h'.messages]
  names := by rw [List.map_append, saidTo_append, h.names, h'.names]
  kinds := by rw [List.map_append, saidTo_append, List.map_append, h.kinds, h'.kinds]
  saves := List.forall_mem_append.2 ⟨h.saves, h'.saves⟩

theorem spelled_aside {q : Question} {v : Value} (hq : q.name ∉ ["message", "name", "type"]) :
    Spelled [(q, v)] [] [] := by
  have hnot : ∀ name ∈ ["message", "name", "type"], saidTo name [(q, v)] = [] := by
    intro name hname
    exact saidTo_cons_other fun heq => hq (heq ▸ hname)
  refine ⟨rfl, List.forall_mem_nil _, ?_, ?_, ?_, List.forall_mem_nil _⟩
  · exact (hnot "message" (by decide)).symm
  · exact (hnot "name" (by decide)).symm
  · rw [hnot "type" (by decide)]
    rfl

theorem savesWithin_options (list : String) : SavesWithin 1 (.map (OptionList.read list)) := by
  refine Value.savesWithin_ofList fun e he => ?_
  obtain ⟨entry, -, rfl⟩ := List.mem_map.1 he
  exact Value.savesWithin_str 0 _

/-- A type that is the empty text counts as no type, which means the same. -/
theorem kind_of_typeName (type : String) :
    (PromptKind.ofName? (((some type).filter (· != "")).getD "input")).getD .input =
      kindMeant (.str type) := by
  by_cases htype : type = ""
  · rw [htype]
    rfl
  · rw [Option.filter_some_pos (by simpa using htype)]
    rfl

/-- Fields of an entry that is a prompt: the name is not blank, and there are options for a kind that
needs them. -/
theorem ofValue_of_fields {v : Value} {message name type : String} (default : Option Value)
    (options : Option (Fields Value))
    (h : PromptFields.ofValue v =
      .ok ⟨some name, some message, some type, default, [], [], options.map .map⟩)
    (hname : (Unicode.trim name.toList).isEmpty = false)
    (hneeds : (kindMeant (.str type)).needsOptions = true → (options.getD []).isEmpty = false) :
    ∃ spec, PromptSpec.ofValue v = .ok spec ∧ spec.message = message ∧ spec.name = name ∧
      spec.kind = kindMeant (.str type) ∧ spec.transform ++ spec.transformDefault = [] := by
  have hproper : properName? (some name) = some name := Option.filter_some_pos (by simp [hname])
  have hcheck : ((kindMeant (.str type)).needsOptions && (options.getD []).isEmpty) = false := by
    cases hkind : (kindMeant (.str type)).needsOptions with
    | false => rfl
    | true => exact hneeds hkind
  unfold PromptSpec.ofValue
  rw [h]
  dsimp only
  rw [hproper]
  dsimp only
  rw [kind_of_typeName]
  cases options with
  | none =>
    refine ⟨_, if_neg (by rw [Bool.not_eq_true]; exact hcheck), rfl, rfl, rfl, rfl⟩
  | some fields =>
    rw [Option.getD_some, ← List.isEmpty_map (f := fun e => Choice.mk e.1 e.2.display)] at hcheck
    refine ⟨_, if_neg (by rw [Bool.not_eq_true]; exact hcheck), rfl, rfl, rfl, rfl⟩

def entry (message name type : String) (more : Fields Value) : Value :=
  .map (("message", .str message) :: ("name", .str name) :: ("type", .str type) :: more)

namespace Further

variable {name type : String} {heard : List (Question × Value)} {more : Fields Value}

theorem spelled (h : Further (.str type) heard more) : Spelled heard [] [] := by
  cases h with
  | nothing => exact .nil
  | refused => exact spelled_aside (by decide)
  | default => exact (spelled_aside (by decide)).append (spelled_aside (by decide))
  | options => exact spelled_aside (by decide)

theorem saves {message : String} (h : Further (.str type) heard more) :
    SavesWithin 2 (entry message name type more) := by
  have htext : ∀ text : String, SavesWithin 1 (.str text) := Value.savesWithin_str 1
  refine Value.savesWithin_map.2 ⟨?_, ?_⟩
  · cases h with
    | default => exact show ["message", "name", "type", "default"].Nodup by decide
    | options => exact show ["message", "name", "type", "options"].Nodup by decide
    | _ => exact show ["message", "name", "type"].Nodup by decide
  · refine List.forall_mem_cons.2 ⟨htext _, List.forall_mem_cons.2 ⟨htext _,
      List.forall_mem_cons.2 ⟨htext _, ?_⟩⟩⟩
    cases h with
    | default => exact List.forall_mem_singleton.2 (htext _)
    | options => exact List.forall_mem_singleton.2 (savesWithin_options _)
    | _ => exact List.forall_mem_nil _

theorem reads (message : String) (h : Further (.str type) heard more)
    (hworded : ∀ e ∈ heard, Worded e.1 e.2) (hname : (Unicode.trim name.toList).isEmpty = false) :
    ∃ spec, PromptSpec.ofValue (entry message name type more) = .ok spec ∧
      spec.message = message ∧ spec.name = name ∧ spec.kind = kindMeant (.str type) ∧
      spec.transform ++ spec.transformDefault = [] := by
  have hinput : kindMeant (.str type) = .input → (kindMeant (.str type)).needsOptions = false := by
    intro hkind
    rw [hkind]
    rfl
  cases h with
  | nothing hkind =>
    exact ofValue_of_fields none none rfl hname
      fun hneeds => absurd hneeds (by simp [hkind])
  | refused hkind =>
    exact ofValue_of_fields none none rfl hname
      fun hneeds => absurd hneeds (by simp [hinput hkind])
  | @default v text hkind =>
    exact ofValue_of_fields (some (.str text.display)) none rfl hname
      fun hneeds => absurd hneeds (by simp [hinput hkind])
  | @options list hkind =>
    have hlist := (hworded _ List.mem_cons_self).2.2.2 rfl
    exact ofValue_of_fields none (some (OptionList.read list.display)) rfl hname fun _ => hlist

end Further

theorem eq_str_of_isSome {v : Value} (h : v.asStr?.isSome = true) : ∃ text, v = .str text := by
  cases v with
  | str text => exact ⟨text, rfl⟩
  | _ => exact absurd h (by simp [Value.asStr?])

theorem Described.spelled {said : List (Question × Value)} {field : Value}
    (h : Described said field) (hworded : ∀ e ∈ said, Worded e.1 e.2) :
    ∃ spec, Spelled said [field] [spec] := by
  cases h with
  | @intro q₁ q₂ q₃ message name type heard more h₁ h₂ h₃ hmore =>
    simp only [List.forall_mem_cons] at hworded
    obtain ⟨hfirst, hsecond, hthird, hothers⟩ := hworded
    obtain ⟨message, rfl⟩ := eq_str_of_isSome (hfirst.1 h₁)
    obtain ⟨name, rfl⟩ := eq_str_of_isSome (Option.isSome_of_any (hsecond.2.1 h₂))
    obtain ⟨type, rfl⟩ := eq_str_of_isSome (hthird.2.2.1 h₃)
    have hname : (Unicode.trim name.toList).isEmpty = false := by
      simpa [Value.asStr?] using hsecond.2.1 h₂
    obtain ⟨spec, hread, hm, hn, hkind, hplain⟩ := hmore.reads message hothers hname
    have hrest := hmore.spelled
    have hmessages : saidTo "message" heard = [] := hrest.messages.symm
    have hnames : saidTo "name" heard = [] := hrest.names.symm
    have htypes : saidTo "type" heard = [] := List.map_eq_nil_iff.1 hrest.kinds.symm
    refine ⟨spec, congrArg (fun r => [r]) hread, List.forall_mem_singleton.2 hplain, ?_, ?_, ?_,
      List.forall_mem_singleton.2 hmore.saves⟩
    · rw [saidTo_cons_same h₁, saidTo_cons_other (by rw [h₂]; decide),
        saidTo_cons_other (by rw [h₃]; decide), hmessages, ← hm]
      rfl
    · rw [saidTo_cons_other (by rw [h₁]; decide), saidTo_cons_same h₂,
        saidTo_cons_other (by rw [h₃]; decide), hnames, ← hn]
      rfl
    · rw [saidTo_cons_other (by rw [h₁]; decide), saidTo_cons_other (by rw [h₂]; decide),
        saidTo_cons_same h₃, htypes, List.map_singleton, List.map_singleton, hkind]

/-- A dialogue in words spells the prompts that it describes. -/
theorem Recorded.spelled {heard : List (Question × Value)} {fields : List Value}
    (h : Recorded heard fields) (hworded : ∀ e ∈ heard, Worded e.1 e.2) :
    ∃ specs, Spelled heard fields specs := by
  induction h with
  | done => exact ⟨[], .nil⟩
  | aside hq hrest ih =>
    obtain ⟨specs, hspecs⟩ := ih fun e he => hworded e (List.mem_cons_of_mem _ he)
    exact ⟨specs, (spelled_aside hq).append hspecs⟩
  | prompt hfield hrest ih =>
    obtain ⟨hsaid, hheard⟩ := List.forall_mem_append.1 hworded
    obtain ⟨spec, hspec⟩ := hfield.spelled hsaid
    obtain ⟨specs, hspecs⟩ := ih hheard
    exact ⟨spec :: specs, hspec.append hspecs⟩

/-! ## 2. The file that is loaded -/

theorem sections_eq (prompts directives : List Value) :
    sections prompts directives = ⟨[("prompts", .list prompts), ("directives", .list directives),
      ("messages", .list [])]⟩ := by
  have hsegments : segments "prompts" = ["prompts"] ∧ segments "directives" = ["directives"] ∧
      segments "messages" = ["messages"] := by decide
  rw [sections, Store.set_key hsegments.1, Store.set_key hsegments.2.1, Store.set_key hsegments.2.2]
  rfl

def wholeCopy : Directive :=
  ⟨.copy ⟨".", ".", none, none, [], .workingDir⟩, none⟩

theorem listOfValues_copied (copied : Bool) :
    Directive.listOfValues (if copied then [copyAll] else []) =
      .ok (if copied then [wholeCopy] else []) := by
  cases copied with
  | false => rfl
  | true => rfl

theorem savesWithin_sections {prompts : List Value} (copied : Bool)
    (h : ∀ field ∈ prompts, SavesWithin 2 field) :
    SavesWithin 4 (sections prompts (if copied then [copyAll] else [])).toValue := by
  have hcopy : ∀ directive ∈ if copied then [copyAll] else [], SavesWithin 2 directive := by
    intro directive hmem
    cases copied with
    | false => exact absurd hmem List.not_mem_nil
    | true => exact List.mem_singleton.1 hmem ▸ ⟨by decide, by decide⟩
  rw [sections_eq]
  refine Value.savesWithin_map.2 ⟨show ["prompts", "directives", "messages"].Nodup by decide, ?_⟩
  refine List.forall_mem_cons.2 ⟨Value.savesWithin_list.2 h, List.forall_mem_cons.2
    ⟨Value.savesWithin_list.2 hcopy, List.forall_mem_singleton.2 ?_⟩⟩
  exact Value.savesWithin_list.2 (List.forall_mem_nil _)

theorem config_of_saved {files : FileTree} {dir : Path} {prompts : List Value} {copied : Bool}
    (hfile : files.read? (ConfigFile.template dir).path = some (ConfigFile.fileText
      (sections prompts (if copied then [copyAll] else []))).toUTF8)
    (hsaves : ∀ field ∈ prompts, SavesWithin 2 field) :
    LoadedTemplate.config files dir =
      .ok ⟨prompts, if copied then [copyAll] else [], []⟩ := by
  obtain ⟨hwhole, hdepth⟩ := savesWithin_sections copied hsaves
  have hload := ConfigFile.load_of_parse? hfile
    (ConfigFile.parse?_fileText hwhole (hdepth.trans (by decide)))
  unfold LoadedTemplate.config
  dsimp only
  rw [ConfigFile.isPresent_of_read? hfile, if_neg (by simp), hload]
  dsimp only
  rw [sections_eq]
  rfl

/-- Entries that spell prompts without transforms are read with every registry. -/
theorem read_of_spelled {heard : List (Question × Value)} {fields : List Value}
    {specs : List PromptSpec} (h : Spelled heard fields specs) (transforms : Registry) (w : World) :
    ∃ w', Pipeline.read transforms fields w = (.ok ⟨specs⟩, w') := by
  have hpassed : ∀ v ∈ fields, ∃ spec, PromptSpec.check transforms v = .ok spec := by
    intro v hv
    obtain ⟨spec, hspec, hread⟩ := List.mem_map.1 (h.read ▸ List.mem_map_of_mem hv)
    refine ⟨spec, PromptSpec.check_eq_ok_iff.2 ⟨hread.symm, fun name hname => ?_⟩⟩
    rw [h.plain spec hspec] at hname
    exact absurd hname List.not_mem_nil
  obtain ⟨p, hp⟩ := Pipeline.read_of_passed hpassed w
  have hsame := (Pipeline.read_eq_ok hp).1
  rw [h.read] at hsame
  have hspecs : specs = p.specs := List.map_injective_iff.2 (fun _ _ => Except.ok.inj) hsame
  rw [hspecs]
  exact ⟨_, hp⟩

/-- **What authoring writes can be loaded.** After a dialogue in words, of however many prompts, the
template of the directory is loaded with every registry of transforms: its prompts are those that the
operator has described, in their order, and its one directive is the copy that the operator agreed to. -/
theorem load_created (services : Services) (template : ActiveTemplate) {rounds : Nat} {force : Bool}
    {config : ConfigFile}
    (h : createWithin rounds transforms operator template.dir force w = (.ok config, w'))
    (hworded : ∀ e ∈ w.heard operator w', Worded e.1 e.2) :
    ∃ loaded w'' copied, LoadedTemplate.load services template w' = (.ok loaded, w'') ∧
      loaded.prompts.specs.map (fun spec => .str spec.message) =
        saidTo "message" (w.heard operator w') ∧
      loaded.prompts.specs.map (fun spec => .str spec.name) =
        saidTo "name" (w.heard operator w') ∧
      loaded.prompts.specs.map PromptSpec.kind =
        (saidTo "type" (w.heard operator w')).map kindMeant ∧
      (copyQuestion, copied) ∈ w.heard operator w' ∧
      loaded.directives = (if copied.isTruthy then [wholeCopy] else []) ∧
      loaded.messages = [] := by
  obtain ⟨prompts, copied, hrecorded, hcopied, rfl, hfile⟩ := createWithin_eq_ok h
  obtain ⟨specs, hspelled⟩ := hrecorded.spelled hworded
  obtain ⟨w'', hread⟩ := read_of_spelled hspelled services.transforms w'
  have hconfig : (Step.ofExcept (LoadedTemplate.config w'.files template.dir) :
      Act TemplateConfig) w' = (.ok ⟨prompts, if copied.isTruthy then [copyAll] else [], []⟩, w') :=
    congrArg (·, w') (config_of_saved hfile hspelled.saves)
  have hdirectives : (Step.ofExcept (Directive.listOfValues
      (if copied.isTruthy then [copyAll] else [])) : Act (List Directive)) w'' =
        (.ok (if copied.isTruthy then [wholeCopy] else []), w'') :=
    congrArg (·, w'') (listOfValues_copied copied.isTruthy)
  refine ⟨⟨template, ⟨specs⟩, if copied.isTruthy then [wholeCopy] else [], []⟩, w'', copied, ?_,
    hspelled.messages, hspelled.names, hspelled.kinds, hcopied, rfl, rfl⟩
  unfold LoadedTemplate.load
  rw [Step.bind_of_ok (show Step.asks World.files w' = (.ok w'.files, w') from rfl),
    Step.bind_of_ok hconfig, Step.bind_of_ok hread, Step.bind_of_ok hdirectives]
  rfl

namespace Sample

/-- Someone who describes two prompts, the second one with a choice. -/
def twoPrompts : Answers := [
  ("Would you like to request data from the user?", [.value (.bool true)]),
  ("message", [.value (.str "Your name"), .value (.str "Your colour")]),
  ("name", [.value (.str "who"), .value (.str "colour")]),
  ("type", [.value (.str "input"), .value (.str "radio")]),
  ("Set a default value?", [.value (.bool true)]),
  ("Default value", [.value (.str "nobody")]),
  (optionsQuestion, [.value (.str "r > Red, Blue")]),
  ("Add another prompt?", [.value (.bool true), .value (.bool false)])]

/-- Someone who wants a choice and names nothing to choose from. -/
def noOptions : Answers := [
  ("Would you like to request data from the user?", [.value (.bool true)]),
  ("message", [.value (.str "m")]), ("name", [.value (.str "n")]),
  ("type", [.value (.str "enum")]), (optionsQuestion, [.value (.str " , ")]),
  ("Copy all template files into the project?", [.value (.bool false)])]

def world (answers : Answers) : World :=
  ⟨⟨[(["t"], .dir)], []⟩, [], [], answers, [], []⟩

def template : ActiveTemplate :=
  ⟨"default", "t", ⟨"t"⟩⟩

def left (answers : Answers) : Except Fault ConfigFile × World :=
  createWithin 2 .builtins .scripted template.dir false (world answers)

def said (answers : Answers) : List (Question × Value) :=
  (world answers).heard .scripted (left answers).2

def config (answers : Answers) : ConfigFile :=
  (left answers).1.toOption.getD (.template ⟨""⟩)

theorem left_eq (answers : Answers) (h : (left answers).1.toOption.isSome = true) :
    left answers = (.ok (config answers), (left answers).2) := by
  obtain ⟨c, hc⟩ := Option.isSome_iff_exists.1 h
  refine Step.eq_ok_of_toOption ?_
  rw [config, hc]
  rfl

end Sample

open Sample in
/-- A line with a default and a choice between two. -/
theorem load_created_sample :
    left twoPrompts = (.ok (config twoPrompts), (left twoPrompts).2) ∧
    (∀ e ∈ said twoPrompts, Worded e.1 e.2) ∧
    ∃ loaded w'', LoadedTemplate.load Make.Sample.bare template (left twoPrompts).2 =
        (.ok loaded, w'') ∧ loaded.prompts.specs.map PromptSpec.name = ["who", "colour"] := by
  have hleft := left_eq twoPrompts (by decide +kernel)
  have hworded : ∀ e ∈ said twoPrompts, Worded e.1 e.2 := by decide +kernel
  have hsaid : (saidTo "name" (said twoPrompts)).map Value.asStr? =
      [some "who", some "colour"] := by decide +kernel
  obtain ⟨loaded, w'', -, hload, -, hnames, -⟩ :=
    load_created Make.Sample.bare template hleft hworded
  refine ⟨hleft, hworded, loaded, w'', hload, ?_⟩
  rw [said, ← hnames, List.map_map] at hsaid
  refine List.map_injective_iff.2 (fun _ _ => Option.some.inj) ?_
  rw [List.map_map]
  exact hsaid

open Sample in
/-- A list that names no option makes a configuration that cannot be loaded. -/
theorem created_without_options :
    left noOptions = (.ok (config noOptions), (left noOptions).2) ∧
    (∀ e ∈ said noOptions, e.1.name ∈ ["message", "name", "type"] →
      e.2.asStr?.any (fun text => !(Unicode.trim text.toList).isEmpty) = true) ∧
    ∃ w'', LoadedTemplate.load Make.Sample.bare template (left noOptions).2 =
      (.error (.missingField .prompt "n" "options"), w'') := by
  refine ⟨left_eq noOptions (by decide +kernel), by decide +kernel, ?_⟩
  have hfails : (match (LoadedTemplate.load Make.Sample.bare template (left noOptions).2).1 with
      | .error e => decide (e = .missingField .prompt "n" "options")
      | .ok _ => false) = true := by
    decide +kernel
  split at hfails
  · rename_i e he
    exact ⟨_, Step.eq_error_of_fst (of_decide_eq_true hfails ▸ he)⟩
  · exact absurd hfails (by simp)

end Stencil.Authoring
