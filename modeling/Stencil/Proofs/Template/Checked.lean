import Stencil.Proofs.CommandLine.Faults
import Stencil.Proofs.Template.Rejected

/-!
# A loaded template has been checked

Everything that a template says is looked at before it is made: the loading asks nothing and changes no
file, and what it gives are the prompts and directives that the entries spell, with every field that is
required (`load_eq_ok`, `Directive.complete_of_ofValue`). So the making fails with no fault of a
specification any more, unless a directive has another template made, whose specification is its own
(`body_fails_with_nested_specification`).

There is one exception: the globs of a copy directive are read when the directive is carried out, not
before. A template with a malformed one loads, and its making fails halfway
(`malformed_glob_found_halfway`).
-/

set_option autoImplicit false

namespace Stencil

/-! ## 1. Required fields -/

/-- The fields that a condition requires are filled. -/
def Condition.Complete : Condition → Prop
  | .exists key => key ≠ ""
  | .filePresent file _ => file ≠ ""
  | .equals key _ => key ≠ ""
  | .not inner => inner.Complete

/-- The fields that are required by what a directive does are filled. -/
def DirectiveKind.Complete : DirectiveKind → Prop
  | .copy d => d.source ≠ "" ∧ d.target ≠ ""
  | .run d => d.command ≠ ""
  | .execute d => d.file ≠ ""

/-- The globs that a directive may have are well formed. -/
def DirectiveKind.ReadsGlobs : DirectiveKind → Prop
  | .copy d => d.ReadsGlobs
  | .run _ => True
  | .execute _ => True

instance : (kind : DirectiveKind) → Decidable kind.ReadsGlobs
  | .copy d => inferInstanceAs (Decidable d.ReadsGlobs)
  | .run _ => .isTrue trivial
  | .execute _ => .isTrue trivial

/-- The required fields of a directive are filled, and those of its conditions. -/
structure Directive.Complete (d : Directive) : Prop where
  kind : d.kind.Complete
  conditions : ∀ conditions, d.condition = some conditions → ∀ c ∈ conditions, c.Complete

theorem ne_empty_of_requiredText {spec : Value} {kind : SpecKind} {subject field s : String}
    (h : requiredText spec kind subject field = .ok s) : s ≠ "" := by
  unfold requiredText at h
  split at h
  · rename_i s' hfield
    obtain rfl : s' = s := Except.ok.inj h
    simpa using (Option.filter_eq_some_iff.1 hfield).2
  · exact absurd h (by simp)

theorem exists_of_map_ok {α β : Type} {x : Except Fault α} {f : α → β} {b : β}
    (h : x.map f = .ok b) : ∃ a, x = .ok a ∧ f a = b := by
  cases x with
  | error e => exact absurd h (by simp [Except.map])
  | ok a => exact ⟨a, rfl, Except.ok.inj h⟩

theorem exists_of_bind_ok {α β : Type} {x : Except Fault α} {f : α → Except Fault β} {b : β}
    (h : (x >>= f) = .ok b) : ∃ a, x = .ok a ∧ f a = .ok b := by
  cases x with
  | error e => exact absurd h (by simp [bind, Except.bind])
  | ok a => exact ⟨a, rfl, h⟩

namespace Condition

variable {spec : Value} {name : String} {c : Condition}

theorem complete_of_readExists (h : readExists spec name = .ok c) : c.Complete := by
  obtain ⟨key, hkey, rfl⟩ := exists_of_map_ok h
  exact ne_empty_of_requiredText hkey

theorem complete_of_readFilePresent (h : readFilePresent spec name = .ok c) : c.Complete := by
  unfold readFilePresent at h
  split at h
  · exact absurd h (by simp)
  · rename_i file hfile
    obtain ⟨relativeTo, -, rfl⟩ := exists_of_map_ok h
    exact ne_empty_of_requiredText hfile

theorem complete_of_readEquals (h : readEquals spec name = .ok c) : c.Complete := by
  unfold readEquals at h
  split at h
  · exact absurd h (by simp)
  · obtain ⟨key, hkey, rfl⟩ := exists_of_map_ok h
    exact ne_empty_of_requiredText hkey

theorem complete_not {x : Except Fault Condition} (h : x.map .not = .ok c)
    (hinner : ∀ c, x = .ok c → c.Complete) : c.Complete := by
  obtain ⟨inner, hx, rfl⟩ := exists_of_map_ok h
  exact hinner inner hx

theorem complete_of_ofValue (h : ofValue spec = .ok c) : c.Complete := by
  unfold ofValue at h
  split at h
  · exact absurd h (by simp)
  · split at h
    · exact complete_of_readExists h
    · split at h
      · exact complete_not h fun _ => complete_of_readExists
      · split at h
        · exact complete_of_readFilePresent h
        · split at h
          · exact complete_not h fun _ => complete_of_readFilePresent
          · split at h
            · exact complete_of_readEquals h
            · split at h
              · exact complete_not h fun _ => complete_of_readEquals
              · exact absurd h (by simp)

theorem complete_of_listOfValues {items : List Value} {conditions : List Condition}
    (h : listOfValues items = .ok conditions) : ∀ c ∈ conditions, c.Complete := by
  induction items generalizing conditions with
  | nil =>
    obtain rfl : [] = conditions := Except.ok.inj h
    exact fun _ hc => absurd hc List.not_mem_nil
  | cons v rest ih =>
    unfold listOfValues at h
    split at h
    · exact absurd h (by simp)
    · rename_i c hc
      obtain ⟨cs, hcs, rfl⟩ := exists_of_map_ok h
      exact List.forall_mem_cons.2 ⟨complete_of_ofValue hc, ih hcs⟩

end Condition

namespace Directive

variable {spec : Value} {d : Directive}

theorem complete_of_readKind {name : String} {kind : DirectiveKind}
    (h : readKind spec name = .ok kind) : kind.Complete := by
  unfold readKind at h
  split at h
  · obtain ⟨c, hc, rfl⟩ := exists_of_map_ok h
    obtain ⟨source, hsource, hc⟩ := exists_of_bind_ok hc
    obtain ⟨target, htarget, hc⟩ := exists_of_bind_ok hc
    obtain ⟨action, -, hc⟩ := exists_of_bind_ok hc
    obtain ⟨overwrite, -, hc⟩ := exists_of_bind_ok hc
    obtain ⟨exclude, -, hc⟩ := exists_of_bind_ok hc
    obtain ⟨relativeTo, -, hc⟩ := exists_of_bind_ok hc
    rw [← Except.ok.inj hc]
    exact ⟨ne_empty_of_requiredText hsource, ne_empty_of_requiredText htarget⟩
  · split at h
    · obtain ⟨c, hc, rfl⟩ := exists_of_map_ok h
      obtain ⟨command, hcommand, hc⟩ := exists_of_bind_ok hc
      obtain ⟨relativeTo, -, hc⟩ := exists_of_bind_ok hc
      rw [← Except.ok.inj hc]
      exact ne_empty_of_requiredText hcommand
    · split at h
      · obtain ⟨c, hc, rfl⟩ := exists_of_map_ok h
        obtain ⟨file, hfile, hc⟩ := exists_of_bind_ok hc
        rw [← Except.ok.inj hc]
        exact ne_empty_of_requiredText hfile
      · exact absurd h (by simp)

theorem complete_of_readCondition {condition : Option (List Condition)}
    (h : readCondition spec = .ok condition) :
    ∀ conditions, condition = some conditions → ∀ c ∈ conditions, c.Complete := by
  rintro conditions rfl
  have hgroup : ∀ v, Condition.groupOfValue v = .ok conditions → ∀ c ∈ conditions, c.Complete := by
    intro v hv
    unfold Condition.groupOfValue at hv
    split at hv
    · exact Condition.complete_of_listOfValues hv
    · obtain ⟨c, hc, rfl⟩ := exists_of_map_ok hv
      exact List.forall_mem_singleton.2 (Condition.complete_of_ofValue hc)
  unfold readCondition at h
  split at h
  · exact absurd h (by simp)
  · exact absurd h (by simp)
  · obtain ⟨cs, hcs, hsome⟩ := exists_of_map_ok h
    obtain rfl := Option.some.inj hsome
    exact hgroup _ hcs

/-- A directive that an entry spells has all the fields it requires. -/
theorem complete_of_ofValue (h : ofValue spec = .ok d) : d.Complete := by
  unfold ofValue at h
  split at h
  · exact absurd h (by simp)
  · split at h
    · exact absurd h (by simp)
    · rename_i kind hkind
      obtain ⟨condition, hcondition, rfl⟩ := exists_of_map_ok h
      exact ⟨complete_of_readKind hkind, complete_of_readCondition hcondition⟩

end Directive

/-! ## 2. Loading -/

namespace LoadedTemplate

/-- What was loaded is what the entries of the configuration spell, and nothing has happened but that
unknown types were pointed out. -/
theorem load_eq_ok {services : Services} {template : ActiveTemplate} {t : LoadedTemplate}
    {w w' : World} (h : load services template w = (.ok t, w')) :
    ∃ sections, config w.files template.dir = .ok sections ∧
      sections.prompts.map PromptSpec.ofValue = t.prompts.specs.map .ok ∧
      (∀ spec ∈ t.prompts.specs, spec.Known services.transforms) ∧
      sections.directives.map Directive.ofValue = t.directives.map .ok ∧
      w' = w.showing (sections.prompts.flatMap PromptSpec.warnings) := by
  cases hconfig : config w.files template.dir with
  | error e =>
    rw [load_of_config_error hconfig] at h
    exact absurd (Prod.mk.inj h).1 (by simp)
  | ok sections =>
    rw [load_of_config hconfig] at h
    obtain ⟨p, w₁, hprompts, h⟩ := Step.bind_eq_ok h
    obtain ⟨ds, w₂, hdirectives, h⟩ := Step.bind_eq_ok h
    obtain ⟨hds, rfl⟩ := Prod.mk.inj hdirectives
    obtain ⟨ht, rfl⟩ := Prod.mk.inj h
    obtain rfl := Except.ok.inj ht
    obtain ⟨hspecs, hknown⟩ := Pipeline.read_eq_ok hprompts
    refine ⟨sections, rfl, hspecs, hknown, ?_, ?_⟩
    · have hnil : Directive.listOfValues [] = .ok [] := rfl
      exact map_of_readAll_eq_ok hnil Directive.listOfValues_cons hds
    · obtain hpassed | ⟨before, entry, e, hfirst⟩ :=
        passed_or_firstWrong (PromptSpec.check services.transforms) sections.prompts
      · obtain ⟨p', hread⟩ := Pipeline.read_of_passed hpassed w
        exact congrArg Prod.snd (hprompts.symm.trans hread)
      · have hread := Pipeline.read_of_firstWrong hfirst w
        exact absurd (congrArg Prod.fst (hprompts.symm.trans hread)) (by simp)

theorem complete_of_load {services : Services} {template : ActiveTemplate} {t : LoadedTemplate}
    {w w' : World} (h : load services template w = (.ok t, w')) :
    ∀ d ∈ t.directives, d.Complete := by
  obtain ⟨sections, -, -, -, hdirectives, -⟩ := load_eq_ok h
  intro d hd
  have hmem := List.mem_map_of_mem (f := Except.ok (ε := Fault)) hd
  rw [← hdirectives] at hmem
  obtain ⟨entry, -, hentry⟩ := List.mem_map.1 hmem
  exact Directive.complete_of_ofValue hentry

/-- The globs of all copy directives are well formed. -/
def ReadsGlobs (t : LoadedTemplate) : Prop :=
  ∀ d ∈ t.directives, d.kind.ReadsGlobs

instance (t : LoadedTemplate) : Decidable t.ReadsGlobs :=
  inferInstanceAs (Decidable (∀ d ∈ t.directives, d.kind.ReadsGlobs))

end LoadedTemplate

/-! ## 3. Making -/

/-- Where a directive fails with a fault of a specification, a host has failed with it. -/
theorem Directive.host_of_perform_error {d : Directive} {services : Services} {r r' : Run}
    {e : Fault} (hglobs : d.kind.ReadsGlobs)
    (h : d.perform services r = (.error e, r')) (he : e.isSpecification = true) :
    ∃ args host, d.handedOver? services r = some args ∧ services.host = some host ∧
      host args r = (.error e, r') := by
  have hclean : ∀ {α : Type} {m : Job α} {r₁ : Run}, m.Clean → m r₁ ≠ (.error e, r') :=
    fun hm hfail => absurd (he.symm.trans (hm _ e r' hfail)) (by simp)
  rcases Step.bind_eq_error h with hallowed | ⟨allowed, r₁, hallowed, h⟩
  · exact absurd hallowed (hclean (d.clean_allowed services))
  cases allowed with
  | false => exact absurd h (hclean (Step.raises_pure false))
  | true =>
    obtain rfl : r = r₁ := (d.snd_allowed services r).symm.trans (congrArg Prod.snd hallowed)
    rcases Step.bind_eq_error h with hact | ⟨u, r₂, -, hend⟩
    · unfold act at hact
      cases hkind : d.kind with
      | copy c =>
        rw [hkind] at hact hglobs
        exact absurd hact (hclean (CopyDirective.clean_perform hglobs services))
      | execute c =>
        rw [hkind] at hact
        exact absurd hact (hclean (c.clean_perform services))
      | run c =>
        rw [hkind] at hact
        obtain ⟨command, first, args, host, htext, hwords, hbase, hhost, hfail⟩ :=
          RunDirective.host_of_perform_error hact he
        refine ⟨args, host, handedOver?_eq_some.2 ?_, hhost, hfail⟩
        exact ⟨c, command, first, congrArg Prod.fst hallowed, hkind, htext, hwords, hbase⟩
    · exact absurd hend (hclean (Step.raises_pure true))

namespace Make

theorem clean_askAll {services : Services} (hoperator : services.operator.Clean)
    (prompts : Pipeline) : (askAll services prompts).Clean :=
  (Pipeline.clean_collect hoperator prompts services.transforms).on _ _

theorem clean_deferMessage (services : Services) (spec : MessageSpec) :
    (deferMessage services spec).Clean :=
  (services.clean_render _).bind fun _ => Step.raises_modify _

/-- Where the body of a template fails with a fault of a specification, one of its directives has handed
its words to a host that failed with it. -/
theorem host_of_body_error {services : Services} (hoperator : services.operator.Clean)
    {t : LoadedTemplate} (hglobs : t.ReadsGlobs) {r r' : Run} {e : Fault}
    (h : body services t r = (.error e, r')) (he : e.isSpecification = true) :
    ∃ k d r₁ args host, t.directives[k]? = some d ∧ opening services t k r = (.ok (), r₁) ∧
      d.handedOver? services r₁ = some args ∧ services.host = some host ∧
      host args r₁ = (.error e, r') := by
  have hclean : ∀ {α : Type} {m : Job α} {r₁ : Run}, m.Clean → m r₁ ≠ (.error e, r') :=
    fun hm hfail => absurd (he.symm.trans (hm _ e r' hfail)) (by simp)
  rcases Step.bind_eq_error h with hpublish | ⟨u, r₁, hpublish, h⟩
  · exact absurd hpublish (hclean (Step.raises_modify _))
  rcases Step.bind_eq_error h with hask | ⟨u, r₂, hask, h⟩
  · exact absurd hask (hclean (clean_askAll hoperator _))
  rcases Step.bind_eq_error h with hall | ⟨u, r₃, -, h⟩
  · obtain ⟨before, d, after, r₃, hsplit, hbefore, hd⟩ := Step.each_error hall
    rcases Step.bind_eq_error hd with hperform | ⟨b, r₄, -, hend⟩
    · have hmem : d ∈ t.directives := by
        rw [hsplit]
        exact List.mem_append_right _ List.mem_cons_self
      obtain ⟨args, host, hhanded, hhost, hfail⟩ :=
        Directive.host_of_perform_error (hglobs d hmem) hperform he
      refine ⟨before.length, d, r₃, args, host, ?_, ?_, hhanded, hhost, hfail⟩
      · rw [hsplit, List.getElem?_append_right (Nat.le_refl _), Nat.sub_self]
        rfl
      · unfold opening
        rw [Step.bind_of_ok hpublish, Step.bind_of_ok hask, hsplit, List.take_left]
        exact hbefore
    · exact absurd hend (hclean (Step.raises_pure ()))
  · exact absurd h (hclean (Step.raises_each fun spec _ => clean_deferMessage services spec))

end Make

/-- **A loaded template has been checked.** Loading asks nothing, changes no file and calls nothing; what
it gives are the directives that the entries spell, none of them without a field that it or one of its
conditions requires. Where all globs are well formed, the template's own prompts and directives then
fail with no fault of a specification, in whatever run: one that turns up is that of another template,
which the `k`-th directive had a host make. -/
theorem body_fails_with_nested_specification {services : Services}
    (hoperator : services.operator.Clean) {template : ActiveTemplate} {t : LoadedTemplate}
    {w w' : World} (hload : LoadedTemplate.load services template w = (.ok t, w'))
    (hglobs : t.ReadsGlobs) :
    (w'.asked = w.asked ∧ w'.files = w.files ∧ w'.written = w.written ∧ w'.gitCalls = w.gitCalls) ∧
    (∃ sections, LoadedTemplate.config w.files template.dir = .ok sections ∧
      sections.prompts.map PromptSpec.ofValue = t.prompts.specs.map .ok ∧
      sections.directives.map Directive.ofValue = t.directives.map .ok) ∧
    (∀ d ∈ t.directives, d.Complete) ∧
    ∀ r r' e, Make.body services t r = (.error e, r') → e.isSpecification = true →
      ∃ k d r₁ args host, t.directives[k]? = some d ∧
        Make.opening services t k r = (.ok (), r₁) ∧
        d.handedOver? services r₁ = some args ∧ services.host = some host ∧
        host args r₁ = (.error e, r') ∧
        ∀ outer depth, outer.operator.Clean → host = CommandLine.host outer depth →
          ∃ defaults nested force data,
            CommandLine.read args = .ok ⟨defaults, .make nested force data⟩ := by
  obtain ⟨sections, hconfig, hprompts, -, hdirectives, hw⟩ := LoadedTemplate.load_eq_ok hload
  refine ⟨?_, ⟨sections, hconfig, hprompts, hdirectives⟩, LoadedTemplate.complete_of_load hload, ?_⟩
  · rw [hw]
    exact ⟨rfl, rfl, rfl, rfl⟩
  · intro r r' e hbody he
    obtain ⟨k, d, r₁, args, host, hk, hopening, hhanded, hhost, hfail⟩ :=
      Make.host_of_body_error hoperator hglobs hbody he
    refine ⟨k, d, r₁, args, host, hk, hopening, hhanded, hhost, hfail, ?_⟩
    rintro outer depth houter rfl
    exact CommandLine.make_of_host_error houter hfail he

namespace LoadedTemplate.GlobSample

def services : Services :=
  ⟨⟨⟨"home"⟩, ⟨"t"⟩, none⟩, .builtins, .defaults, none, fun _ _ files => ⟨.code 0, [], files⟩,
    fun _ _ _ => none, none⟩

/-- A template that asks for a value, copies a file, and copies it again with a glob. -/
def configText (glob : String) : String :=
  "\x7b\"prompts\":[\x7b\"name\":\"x\",\"default\":\"y\"\x7d],\"directives\":[" ++
    "\x7b\"directive\":\"copy\",\"from\":\"a\",\"to\":\"one\"\x7d," ++
    "\x7b\"directive\":\"copy\",\"from\":\"a\",\"to\":\"two\",\"exclude\":\"" ++ glob ++ "\"\x7d]\x7d"

def run (glob : String) : Run :=
  let files : FileTree := ⟨[(["t"], .dir), (["t", "default"], .dir), (["t", "default", "o"], .dir),
    (["t", "default", "o", "config.json"], .file (configText glob).toUTF8),
    (["t", "default", "o", "a"], .file "new".toUTF8), (["work"], .dir)], []⟩
  ⟨Session.fresh ⟨"work"⟩, ⟨files, [], [], [], [], []⟩⟩

def loaded (glob : String) : Except Fault LoadedTemplate × World :=
  load services ⟨"default", "o", ⟨"t/default/o"⟩⟩ (run glob).world

def made (glob : String) : Except Fault Unit × Run :=
  make services "o" ⟨false, []⟩ (run glob)

end LoadedTemplate.GlobSample

open LoadedTemplate.GlobSample in
/-- Without a host, a template with a well-formed glob never fails with a fault of a specification. -/
theorem body_fails_with_nested_specification_sample :
    ∃ t, (loaded "*.md").1 = .ok t ∧ t.ReadsGlobs ∧ t.directives.length = 2 ∧
      ∀ r r' e, Make.body services t r = (.error e, r') → e.isSpecification = false := by
  have hvalues : ∃ t ∈ (loaded "*.md").1.toOption, t.ReadsGlobs ∧ t.directives.length = 2 := by
    decide +kernel
  obtain ⟨t, ht, hglobs, hlength⟩ := hvalues
  have hload := Step.eq_ok_of_toOption ht
  obtain ⟨-, -, -, hbody⟩ :=
    body_fails_with_nested_specification Operator.clean_defaults hload hglobs
  refine ⟨t, congrArg Prod.fst hload, hglobs, hlength, fun r r' e herror => ?_⟩
  refine Bool.eq_false_iff.2 fun he => ?_
  obtain ⟨k, d, r₁, args, host, -, -, -, hhost, -⟩ := hbody r r' e herror he
  exact absurd hhost (by simp [services])

open LoadedTemplate.GlobSample in
/-- A template with a malformed glob loads. Its making asks the prompt and makes the first copy before it
fails. -/
theorem malformed_glob_found_halfway :
    (loaded "[").1.toOption.isSome = true ∧
    (made "[").1 = .error (.globPattern "[") ∧ (Fault.globPattern "[").isSpecification = true ∧
    (made "[").2.world.asked.map (·.name) = ["x"] ∧
    (run "[").world.files.exists ⟨"work/one"⟩ = false ∧
    (made "[").2.world.files.exists ⟨"work/one"⟩ = true := by
  decide +kernel

end Stencil
