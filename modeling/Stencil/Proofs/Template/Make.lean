import Stencil.Proofs.Session.Sample
import Stencil.Proofs.Session.Scope
import Stencil.Proofs.Store.Entries

/-!
# Making a template is scoped

A template is made with its own scope and its own published directory, and hands both back:

> whatever happens between entering and leaving, the session has the template and the overwriting
> of before, and **`template_dir` is the directory of the template that was active at entry**.

Leaving does not look at what the body did, so the theorem holds for every host that the directives
may call, whether the body comes to its end or not. A host of commands is such that its calls keep
the scope themselves (`keepsScope_host`); then every directive of a template starts in the scope of
that template, and after one that has another template made it finds its own directory published
too. `Make.opening` is the part of a body before its `k`-th directive, where these are claims about
the state that a directive starts from.
-/

set_option autoImplicit false

namespace Stencil

/-! ## 1. Phases of a making -/

namespace Make

/-- What a template does before its `k`-th directive. -/
def opening (services : Services) (t : LoadedTemplate) (k : Nat) : Job Unit := do
  Job.change fun s =>
    { s with data := s.data.set "template_dir" (.str t.template.dir.text) }
  askAll services t.prompts
  Directive.performAll (t.directives.take k) services

/-- What a template does from its `k`-th directive on. -/
def closing (services : Services) (t : LoadedTemplate) (k : Nat) : Job Unit := do
  Directive.performAll (t.directives.drop k) services
  Step.each (deferMessage services) t.messages

/-- A run in which a template has been entered. -/
def entered (t : ActiveTemplate) (force : Bool) (r : Run) : Run :=
  { r with session := enter t force r.session }

theorem within_apply (t : ActiveTemplate) (force : Bool) (m : Job Unit) (r : Run) :
    within t force m r =
      ((m (entered t force r)).1,
        { (m (entered t force r)).2 with
          session := leave r.session (m (entered t force r)).2.session }) := rfl

/-- A body is what comes before a directive and what comes from it on. -/
theorem body_eq_opening_closing (services : Services) (t : LoadedTemplate) (k : Nat) :
    body services t = (do opening services t k; closing services t k) := by
  have hsplit : Directive.performAll t.directives services = (do
      Directive.performAll (t.directives.take k) services
      Directive.performAll (t.directives.drop k) services) := by
    unfold Directive.performAll
    rw [← Step.each_append, List.take_append_drop]
  unfold body opening closing
  rw [hsplit]
  simp only [Step.bind_assoc]

section

-- A making goes along the course of a part of the session that entering and leaving do not move.
variable {γ : Type} {part : Session → γ} {rel : Run → Run → Prop} (hcourse : Run.Course part rel)
  (hpart : ∀ s template overwrite data,
    part { s with template := template, overwrite := overwrite, data := data } = part s)
  {services : Services}
  (hhost : ∀ host, services.host = some host → ∀ args, Step.Leads rel (host args))
  (hscript : ∀ d : ExecuteDirective, Step.Leads rel (d.perform services))

include hpart in
theorem keeps_leave (before s : Session) : part (leave before s) = part s := by
  unfold leave publishTemplate
  split
  · exact hpart s _ _ _
  · exact hpart s _ _ _

include hcourse hpart hhost hscript

/-- What a template does before its `k`-th directive is led along the course. -/
theorem leads_opening (t : LoadedTemplate) (k : Nat) : Step.Leads rel (opening services t k) := by
  have hdata : ∀ s data, part { s with data := data } = part s := fun s => hpart s _ _
  refine hcourse.bind (hcourse.leads (Job.keeps_change fun s => hdata s _)) fun _ => ?_
  refine hcourse.bind (hcourse.leads (Step.keeps_on _ fun s r => hdata r.session _)) fun _ => ?_
  exact Directive.leads_performAll hcourse hhost hscript _

/-- A making is led along the course, if finding its template and putting messages aside are. -/
theorem leads_make {template : String} {options : MakeOptions}
    (hprepare : Step.Leads rel (prepare services template options))
    (hdefer : ∀ spec, Step.Leads rel (deferMessage services spec)) :
    Step.Leads rel (make services template options) := by
  have hbody : ∀ t, Step.Leads rel (body services t) := by
    intro t
    rw [body_eq_opening_closing services t 0]
    refine hcourse.bind (leads_opening hcourse hpart hhost hscript t 0) fun _ => ?_
    refine hcourse.bind (Directive.leads_performAll hcourse hhost hscript _) fun _ => ?_
    exact Step.leads_each (fun _ => hcourse.of_eq rfl) hcourse.trans fun spec _ => hdefer spec
  refine hcourse.bind hprepare fun loaded r => ?_
  rw [within_apply]
  have hentered : rel r (entered loaded.template options.force r) :=
    hcourse.of_eq (hpart r.session _ _ _)
  refine hcourse.trans (hcourse.trans hentered (hbody loaded _)) (hcourse.of_eq ?_)
  exact keeps_leave hpart r.session _

end

end Make

/-! ## 2. The published directory -/

namespace Make

theorem segments_templateDir : segments "template_dir" = ["template_dir"] := by decide

/-- Leaving a template publishes the directory of the one that is active again. -/
theorem templateDir_leave (before s : Session) :
    (leave before s).data.get? "template_dir" = before.template.map fun t => .str t.dir.text := by
  unfold leave publishTemplate
  cases before.template with
  | none => exact Store.get?_forget_key segments_templateDir
  | some t => exact Store.get?_set _ _ _

/-- Up to the loading of a template, only the given values go to the data. -/
theorem data_prepare (services : Services) (template : String) (options : MakeOptions) (r : Run) :
    (prepare services template options r).2.session.data = (storeAll options.data r.session).data := by
  have hrest : Job.Keeps Session.data (do
      let ref ← Step.ofExcept (TemplateRef.read template)
      let located ← locate services ref
      Job.outside (LoadedTemplate.load services located)) := by
    refine (Step.keeps_ofExcept _).bind fun ref => ?_
    exact (keeps_locate (fun _ _ => rfl) services ref).bind fun _ => Job.keeps_outside _
  exact hrest { r with session := storeAll options.data r.session }

end Make

theorem make_of_prepare_error {services : Services} {template : String} {options : MakeOptions}
    {r r₁ : Run} {e : Fault} (h : Make.prepare services template options r = (.error e, r₁)) :
    make services template options r = (.error e, r₁) :=
  Step.bind_of_error h

theorem make_of_prepare_ok {services : Services} {template : String} {options : MakeOptions}
    {r r₁ : Run} {t : LoadedTemplate} (h : Make.prepare services template options r = (.ok t, r₁)) :
    make services template options r =
      Make.within t.template options.force (Make.body services t) r₁ :=
  Step.bind_of_ok h

/-- A template that was loaded leaves the directory of the template before it published. -/
theorem templateDir_make {services : Services} {template : String} {options : MakeOptions} {r : Run}
    (h : (Make.prepare services template options r).1.isOk = true) :
    (make services template options r).2.session.data.get? "template_dir" =
      r.session.template.map fun t => .str t.dir.text := by
  have hscope := Make.keepsScope_prepare services template options r
  rcases hp : Make.prepare services template options r with ⟨e | t, r₁⟩
  · rw [hp] at h
    exact absurd h (by simp [Except.isOk, Except.toBool])
  · rw [hp] at hscope
    have htemplate : r₁.session.template = r.session.template := congrArg Prod.fst hscope
    rw [make_of_prepare_ok hp, Make.within_apply, Make.templateDir_leave, htemplate]

/-! ## 3. Within a body -/

namespace Make

theorem keepsScope_askAll (services : Services) (prompts : Pipeline) :
    Job.Keeps Session.scope (askAll services prompts) :=
  Step.keeps_on _ fun _ _ => rfl

/-- Every directive starts in the scope of its own template, when the host keeps scopes. -/
theorem scope_of_opening {services : Services} {t : LoadedTemplate} {k : Nat} {force : Bool}
    {r r₂ : Run}
    (hhost : ∀ host, services.host = some host → ∀ args, Job.Keeps Session.scope (host args))
    (h : opening services t k (entered t.template force r) = (.ok (), r₂)) :
    r₂.session.scope = (some t.template, r.session.overwrite || force) := by
  have hkeeps : Job.Keeps Session.scope (opening services t k) := by
    refine Step.Keeps.bind ?_ fun _ => ?_
    · exact Job.keeps_change fun _ => rfl
    refine (keepsScope_askAll services t.prompts).bind fun _ => ?_
    exact Directive.keepsScope_performAll _ hhost
  have hs := hkeeps (entered t.template force r)
  rw [h] at hs
  exact hs

end Make

/-- The words that a directive hands to the host in a run, if it is one that does. -/
def Directive.handedOver? (d : Directive) (services : Services) (r : Run) : Option (List String) :=
  match (d.allowed services r).1, d.kind with
  | .ok true, .run c =>
    match Render.text (services.context r) c.command with
    | .ok command =>
      match Shell.words? command with
      | some (first :: rest) => if Settings.isBaseCommand first then some rest else none
      | _ => none
    | .error _ => none
  | _, _ => none

theorem Directive.handedOver?_eq_some {d : Directive} {services : Services} {r : Run} {args : List String} :
    d.handedOver? services r = some args ↔ ∃ line command first,
      (d.allowed services r).1 = .ok true ∧ d.kind = .run line ∧
      Render.text (services.context r) line.command = .ok command ∧
      Shell.words? command = some (first :: args) ∧ Settings.isBaseCommand first = true := by
  constructor
  · intro h
    unfold handedOver? at h
    split at h
    · rename_i line hallowed hkind
      split at h
      · rename_i command hcommand
        split at h
        · rename_i first rest hwords
          split at h
          · rename_i hbase
            obtain rfl := Option.some.inj h
            exact ⟨line, command, first, hallowed, hkind, hcommand, hwords, hbase⟩
          · exact absurd h (by simp)
        · exact absurd h (by simp)
      · exact absurd h (by simp)
    · exact absurd h (by simp)
  · rintro ⟨line, command, first, hallowed, hkind, hcommand, hwords, hbase⟩
    unfold handedOver?
    simp only [hallowed, hkind, hcommand, hwords, hbase, if_true]

/-- A command line that calls the program goes to the host. -/
theorem RunDirective.perform_of_words {d : RunDirective} {services : Services} {r : Run}
    {command first : String} {args : List String} {host : List String → Job Unit}
    (hhost : services.host = some host)
    (hrender : Render.text (services.context r) d.command = .ok command)
    (hwords : Shell.words? command = some (first :: args))
    (hbase : Settings.isBaseCommand first = true) : d.perform services r = host args r := by
  have hr : services.render d.command r = (.ok command, r) := by
    rw [Services.render, hrender]
  unfold RunDirective.perform
  rw [Step.bind_of_ok hr, hwords]
  simp only [hbase, if_true, RunDirective.callHost, hhost]

/-- What such a directive does is what the host does. -/
theorem Directive.perform_of_handedOver {d : Directive} {services : Services} {r : Run}
    {args : List String} {host : List String → Job Unit} (hhost : services.host = some host)
    (h : d.handedOver? services r = some args) : (d.perform services r).2 = (host args r).2 := by
  obtain ⟨line, command, first, hallowed, hkind, hrender, hwords, hbase⟩ := handedOver?_eq_some.1 h
  have ha : d.allowed services r = (.ok true, r) := Prod.ext hallowed (d.snd_allowed services r)
  have hact : d.act services r = host args r := by
    rw [act, hkind]
    exact RunDirective.perform_of_words hhost hrender hwords hbase
  unfold perform
  rw [Step.bind_of_ok ha, if_pos rfl, Step.snd_bind_pure, hact]

namespace CommandLine

/-- What the making of a template on the command line does before the template is entered. -/
def prepareMake (services : Services) (template : String) (options : MakeOptions) :
    Job LoadedTemplate := do
  let s ← Job.session
  Job.outside (ensureDefaultRepo services s template)
  Make.prepare services template options

theorem templateDir_runMake {services : Services} {template : String} {options : MakeOptions}
    {r : Run} (h : (prepareMake services template options r).1.isOk = true) :
    (runMake services template options r).2.session.data.get? "template_dir" =
      r.session.template.map fun t => .str t.dir.text := by
  have hs : Job.session r = (.ok r.session, r) := rfl
  unfold prepareMake at h
  unfold runMake
  rw [Step.bind_of_ok hs] at h ⊢
  -- the default repository is seen to outside the session
  rcases hw : Job.outside (ensureDefaultRepo services r.session template) r with ⟨e | u, r₁⟩
  · rw [Step.bind_of_error hw] at h
    exact absurd h (by simp [Except.isOk, Except.toBool])
  · have hr : r₁.session = r.session := by
      rw [← congrArg (fun x => x.2.session) hw]
      rfl
    rw [Step.bind_of_ok hw] at h ⊢
    rw [templateDir_make h, hr]

/-- A host that is handed the making of a template makes it, one level further in. -/
theorem host_of_make {services : Services} {depth : Nat} {args : List String} {defaults : Bool}
    {template : String} {force : Bool} {data : List (String × String)}
    (h : read args = .ok ⟨defaults, .make template force data⟩) :
    host services (depth + 1) args =
      runMake { services with host := some (host services depth) } template ⟨force, data⟩ := by
  rw [host, h]
  rfl

end CommandLine

/-- A making that fails before its template is loaded leaves the data with the given values. -/
theorem data_make_of_prepare_error {services : Services} {template : String} {options : MakeOptions}
    {r : Run} (h : (Make.prepare services template options r).1.isOk = false) :
    (make services template options r).2.session.data =
      r.session.data.putAll (options.data.map fun (key, value) => (key, .str value)) := by
  have hdata := Make.data_prepare services template options r
  rcases hp : Make.prepare services template options r with ⟨e | t, r₁⟩
  · rw [hp] at hdata
    rw [make_of_prepare_error hp, hdata]
    rfl
  · rw [hp] at h
    exact absurd h (by simp [Except.isOk, Except.toBool])

/-- **The making of a template is scoped.** Whatever the services, the session has the template and
the overwriting of before afterwards; once the template was loaded, `template_dir` is the directory
of the template that was active at entry, and before that nothing but the given values goes to the
data. Under a host of commands, nested to any depth, every directive starts in the scope of its own
template; and a directive that has another template made leaves that scope as it is, with the
directory of its own template published once the other one was loaded. -/
theorem make_is_scoped (services : Services) (template : String) (options : MakeOptions) (r : Run) :
    let after := (make services template options r).2.session
    after.template = r.session.template ∧
    after.overwrite = r.session.overwrite ∧
    ((Make.prepare services template options r).1.isOk = true →
      after.data.get? "template_dir" = r.session.template.map fun t => .str t.dir.text) ∧
    ((Make.prepare services template options r).1.isOk = false →
      after.data = r.session.data.putAll (options.data.map fun (key, value) => (key, .str value)) ∧
      ((∀ pair ∈ options.data, (segments pair.1).head? ≠ some "template_dir") →
        after.data.get? "template_dir" = r.session.data.get? "template_dir")) ∧
    ∀ (outer : Services) (depth : Nat) (loaded : LoadedTemplate) (r₁ : Run),
      services.host = some (CommandLine.host outer (depth + 1)) →
      Make.prepare services template options r = (.ok loaded, r₁) →
      ∀ k,
        Make.body services loaded = (do
          Make.opening services loaded k
          Make.closing services loaded k) ∧
        ∀ r₂,
          Make.opening services loaded k (Make.entered loaded.template options.force r₁) =
            (.ok (), r₂) →
          r₂.session.template = some loaded.template ∧
          r₂.session.overwrite = (r.session.overwrite || options.force) ∧
          ∀ (d : Directive) args defaults nested force data,
            d.handedOver? services r₂ = some args →
            CommandLine.read args = .ok ⟨defaults, .make nested force data⟩ →
            let next := (d.perform services r₂).2.session
            next.template = some loaded.template ∧
            next.overwrite = (r.session.overwrite || options.force) ∧
            ((CommandLine.prepareMake { outer with host := some (CommandLine.host outer depth) }
                nested ⟨force, data⟩ r₂).1.isOk = true →
              next.data.get? "template_dir" = some (.str loaded.template.dir.text)) := by
  have hscope := keepsScope_make services template options r
  refine ⟨congrArg Prod.fst hscope, congrArg Prod.snd hscope, templateDir_make, ?_, ?_⟩
  · intro h
    have hdata := data_make_of_prepare_error h
    refine ⟨hdata, fun hkeys => ?_⟩
    rw [hdata]
    refine Store.get?_putAll_of_head_ne fun entry hentry => ?_
    obtain ⟨pair, hpair, rfl⟩ := List.mem_map.1 hentry
    rw [Make.segments_templateDir]
    exact hkeys pair hpair
  · intro outer depth loaded r₁ hhost hprepare k
    have hkeeps : ∀ host, services.host = some host →
        ∀ args, Job.Keeps Session.scope (host args) := by
      intro host hh args
      rw [hhost, Option.some.injEq] at hh
      rw [← hh]
      exact CommandLine.keepsScope_host outer (depth + 1) args
    have hr₁ : r₁.session.overwrite = r.session.overwrite := by
      have hp := Make.keepsScope_prepare services template options r
      rw [hprepare] at hp
      exact congrArg Prod.snd hp
    refine ⟨Make.body_eq_opening_closing services loaded k, fun r₂ hopening => ?_⟩
    have hown := Make.scope_of_opening hkeeps hopening
    rw [hr₁] at hown
    have htemplate : r₂.session.template = some loaded.template := congrArg Prod.fst hown
    refine ⟨htemplate, congrArg Prod.snd hown, ?_⟩
    intro d args defaults nested force data hhanded hread
    have hnext : (d.perform services r₂).2.session.scope = r₂.session.scope :=
      d.keepsScope_perform hkeeps r₂
    rw [hown] at hnext
    refine ⟨congrArg Prod.fst hnext, congrArg Prod.snd hnext, fun hloaded => ?_⟩
    rw [Directive.perform_of_handedOver hhost hhanded, CommandLine.host_of_make hread,
      CommandLine.templateDir_runMake hloaded, htemplate]
    rfl

/-! ## 4. A template that has another one made -/

namespace Make.Sample

/-- Services whose templates can have `levels` levels of commands carried out. -/
def hosting (levels : Nat) : Services :=
  { bare with host := some (CommandLine.host bare levels) }

/-- A template that has `inner` made with force. -/
def config : String :=
  "\x7b\"directives\":[\x7b\"directive\":\"run\",\"command\":\"forge make inner --force\"\x7d]\x7d"

/-- A run with the two templates installed. -/
def run : Run :=
  let files : FileTree := ⟨[(["t"], .dir), (["t", "default"], .dir),
    (["t", "default", "outer"], .dir),
    (["t", "default", "outer", "config.json"], .file config.toUTF8),
    (["t", "default", "inner"], .dir),
    (["t", "default", "inner", "config.json"], .file "\x7b\x7d".toUTF8)], []⟩
  ⟨Session.fresh ⟨"work"⟩, ⟨files, [], [], [], [], []⟩⟩

/-- The arguments that the first directive of a loaded template hands over, if the other template
they ask for can be loaded. -/
def handedOver? (loaded : LoadedTemplate) (r : Run) : Option (List String) :=
  match loaded.directives with
  | d :: _ =>
    if (CommandLine.prepareMake (hosting 1) "inner" ⟨true, []⟩ r).1.isOk then
      d.handedOver? (hosting 2) r
    else none
  | [] => none

/-- The same for the sample, once it has been loaded and entered. -/
def found? : Option (List String) :=
  match prepare (hosting 2) "outer" ⟨false, []⟩ run with
  | (.ok loaded, r₁) =>
    match opening (hosting 2) loaded 0 (entered loaded.template false r₁) with
    | (.ok _, r₂) => handedOver? loaded r₂
    | _ => none
  | _ => none

theorem found?_eq :
    found? = some ["make", "inner", "--force"] := by
  decide +kernel

end Make.Sample

/-- A template that is made without force and has another one made with force finds its own scope and
its own directory as they were. -/
theorem make_is_scoped_nested :
    ∃ (loaded : LoadedTemplate) (d : Directive) (r₁ r₂ : Run),
      Make.prepare (Make.Sample.hosting 2) "outer" ⟨false, []⟩ Make.Sample.run = (.ok loaded, r₁) ∧
      Make.opening (Make.Sample.hosting 2) loaded 0 (Make.entered loaded.template false r₁) =
        (.ok (), r₂) ∧
      loaded.directives.head? = some d ∧
      (d.perform (Make.Sample.hosting 2) r₂).2.session.template = some loaded.template ∧
      (d.perform (Make.Sample.hosting 2) r₂).2.session.overwrite = false ∧
      (d.perform (Make.Sample.hosting 2) r₂).2.session.data.get? "template_dir" =
        some (.str loaded.template.dir.text) := by
  have hfound := Make.Sample.found?_eq
  have hread : CommandLine.read ["make", "inner", "--force"] =
      .ok ⟨false, .make "inner" true []⟩ := by rfl
  unfold Make.Sample.found? at hfound
  rcases hp : Make.prepare (Make.Sample.hosting 2) "outer" ⟨false, []⟩ Make.Sample.run with
    ⟨e | loaded, r₁⟩
  · rw [hp] at hfound
    exact absurd hfound (by simp)
  rw [hp] at hfound
  rcases ho : Make.opening (Make.Sample.hosting 2) loaded 0 (Make.entered loaded.template false r₁) with
    ⟨e | u, r₂⟩
  · simp only [ho] at hfound
    exact absurd hfound (by simp)
  simp only [ho, Make.Sample.handedOver?] at hfound
  cases hd : loaded.directives with
  | nil => exact absurd hfound (by simp [hd])
  | cons d rest =>
    rw [hd] at hfound
    simp only at hfound
    split at hfound
    · rename_i hinner
      obtain ⟨-, -, -, -, hnested⟩ :=
        make_is_scoped (Make.Sample.hosting 2) "outer" ⟨false, []⟩ Make.Sample.run
      obtain ⟨-, hscoped⟩ := hnested Make.Sample.bare 1 loaded r₁ rfl hp 0
      obtain ⟨-, -, hnext⟩ := hscoped r₂ ho
      obtain ⟨htemplate, hoverwrite, hdir⟩ := hnext d _ _ _ _ _ hfound hread
      exact ⟨loaded, d, r₁, r₂, rfl, ho, by rw [hd]; rfl, htemplate, hoverwrite, hdir hinner⟩
    · exact absurd hfound (by simp)

end Stencil
