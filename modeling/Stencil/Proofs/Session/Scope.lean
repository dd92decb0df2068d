import Stencil.CommandLine.Dispatch
import Stencil.Proofs.Step
import Stencil.Proofs.Template.Find

/-!
# What directives and commands keep of a session

The template that is active and the overwriting of files are the *scope* of a session. Both change
only where a template is entered, and `Make.within` puts them back whatever happened inside; so
nothing that is done in a session moves its scope. That is what this file shows, from the single
directive to the command of a host: `keepsScope_make` needs nothing about the host that the
directives call, since leaving is unconditional, and with it every command keeps the scope, so every
host built from the commands does, at any depth of nesting.

Other parts of a session are not kept but only ever go one way. What is shared is stated for more than
the scope: copies and the world leave any part of the session, scripts any that has neither data nor
messages in it, every command but the making of a template any that the root and the data are not in,
and directives and hosts go along any relation on runs that composes (`Run.Course`,
`Directive.leads_performAll`, `CommandLine.leads_host`).
-/

set_option autoImplicit false

namespace Stencil

/-- The active template and the overwriting of files. -/
def Session.scope (s : Session) : Option ActiveTemplate × Bool :=
  (s.template, s.overwrite)

namespace Job

variable {α γ : Type} {part : Session → γ}

/-- The job leaves a part of the session as it is, however it ends. -/
abbrev Keeps (part : Session → γ) (m : Job α) : Prop :=
  Step.Keeps (fun r : Run => part r.session) m

theorem keeps_outside (m : Act α) : Keeps part (outside m) :=
  Step.keeps_on m fun _ _ => rfl

theorem keeps_consult (f : Session → Except Fault α) : Keeps part (consult f) := fun _ => rfl

theorem keeps_session : Keeps part session := fun _ => rfl

theorem keeps_change {f : Session → Session} (h : ∀ s, part (f s) = part s) :
    Keeps part (change f) :=
  Step.keeps_modify fun r => h r.session

theorem keeps_render (services : Services) (text : String) : Keeps part (services.render text) :=
  fun _ => rfl

end Job

/-- A relation on runs that composes, and that holds between runs which agree on a part of their
sessions. -/
structure Run.Course {γ : Type} (part : Session → γ) (rel : Run → Run → Prop) : Prop where
  of_eq : ∀ {r r' : Run}, part r'.session = part r.session → rel r r'
  trans : ∀ {r r₁ r₂ : Run}, rel r r₁ → rel r₁ r₂ → rel r r₂

namespace Run.Course

variable {α β γ : Type} {part : Session → γ} {rel : Run → Run → Prop}

theorem agreement (part : Session → γ) :
    Course part fun r r' => part r'.session = part r.session where
  of_eq := id
  trans := fun h h' => h'.trans h

theorem leads (h : Course part rel) {m : Job α} (hm : Job.Keeps part m) : Step.Leads rel m :=
  fun r => h.of_eq (hm r)

theorem bind (h : Course part rel) {m : Job α} {f : α → Job β} (hm : Step.Leads rel m)
    (hf : ∀ a, Step.Leads rel (f a)) : Step.Leads rel (m >>= f) :=
  Step.Leads.bind h.trans hm hf

end Run.Course

/-! ## 1. Directives -/

theorem CopyDirective.keeps_copy {γ : Type} {part : Session → γ} (d : CopyDirective)
    (services : Services) (templateDir source target : Path) :
    Job.Keeps part (d.copy services templateDir source target) := by
  refine Job.keeps_session.bind fun s => ?_
  refine (Step.keeps_ofExcept _).bind fun copies => ?_
  refine (Job.keeps_outside _).bind fun isDir => ?_
  cases d.actionFor isDir with
  | copyDir => exact (Job.keeps_outside _).bind fun _ => Step.keeps_pure ()
  | copyFile => exact (Job.keeps_outside _).bind fun _ => Step.keeps_pure ()

/-- A copy touches nothing in the session. -/
theorem CopyDirective.keeps_perform {γ : Type} {part : Session → γ} (d : CopyDirective)
    (services : Services) : Job.Keeps part (d.perform services) := by
  refine (Job.keeps_consult _).bind fun templateDir => ?_
  refine (Job.keeps_render services _).bind fun source => ?_
  refine (Job.keeps_consult _).bind fun base => ?_
  refine (Job.keeps_render services _).bind fun target => ?_
  refine (Job.keeps_outside _).bind fun there => ?_
  exact Step.keeps_ite (d.keeps_copy services _ _ _) (Step.keeps_fail _)

section

-- Scripts write to the data and to the messages.
variable {γ : Type} {part : Session → γ}
  (hdata : ∀ s data, part { s with data := data } = part s)
  (hmessages : ∀ s messages, part { s with messages := messages } = part s)

include hdata hmessages

/-- What a script leaves behind goes to the data and the messages. -/
theorem ExecuteDirective.keeps_adopt (file : String) (result : ScriptResult) :
    Job.Keeps part (ExecuteDirective.adopt file result) := by
  have hadoptData : Job.Keeps part (ExecuteDirective.adoptData file result) := by
    unfold ExecuteDirective.adoptData
    split
    · exact Step.keeps_pure ()
    · exact Job.keeps_change fun s => hdata s _
    · exact Step.keeps_fail _
  have hadoptMessages : Job.Keeps part (ExecuteDirective.adoptMessages file result) := by
    unfold ExecuteDirective.adoptMessages
    split
    · exact Step.keeps_pure ()
    · exact Job.keeps_change fun s => hmessages s _
    · exact Step.keeps_fail _
  exact hadoptData.bind fun _ => hadoptMessages

theorem ExecuteDirective.keeps_runScript (services : Services) (path : Path) :
    Job.Keeps part (ExecuteDirective.runScript services path) := by
  refine (Job.keeps_outside _).bind fun content => ?_
  refine Step.keeps_get.bind fun r => ?_
  dsimp only
  split
  · exact Step.keeps_fail _
  · exact ExecuteDirective.keeps_adopt hdata hmessages _ _

theorem ExecuteDirective.keeps_perform (d : ExecuteDirective) (services : Services) :
    Job.Keeps part (d.perform services) := by
  refine (Job.keeps_consult _).bind fun templateDir => ?_
  refine (Job.keeps_render services _).bind fun file => ?_
  refine (Job.keeps_outside _).bind fun there => ?_
  exact Step.keeps_ite (ExecuteDirective.keeps_runScript hdata hmessages services _)
    (Step.keeps_fail _)

end

section

variable {services services' : Services}

/-- Of the services, conditions look at the transforms only. -/
theorem Condition.holds_congr (h : services.transforms = services'.transforms) (c : Condition)
    (r : Run) : c.holds services r = c.holds services' r := by
  induction c with
  | «exists» key => rfl
  | equals key value => rfl
  | filePresent file relativeTo =>
    unfold holds findsFile Services.context
    rw [h]
  | not inner ih => exact congrArg _ ih

theorem Condition.allHold_congr (h : services.transforms = services'.transforms)
    (conditions : List Condition) (r : Run) :
    allHold services r conditions = allHold services' r conditions := by
  induction conditions with
  | nil => rfl
  | cons c rest ih =>
    unfold allHold
    rw [holds_congr h, ih]

theorem Directive.allowed_congr (h : services.transforms = services'.transforms) (d : Directive) :
    d.allowed services = d.allowed services' := by
  funext r
  unfold allowed
  simp only [Condition.allHold_congr h]

end

namespace Directive

/-- Deciding conditions leaves the run as it is. -/
theorem snd_allowed (d : Directive) (services : Services) (r : Run) :
    (d.allowed services r).2 = r := by
  unfold allowed
  split <;> rfl

theorem keeps_allowed {γ : Type} {part : Session → γ} (d : Directive) (services : Services) :
    Job.Keeps part (d.allowed services) := by
  intro r
  rw [snd_allowed]

section

-- What a directive does itself is led along the course of a part of the session, if scripts are.
variable {γ : Type} {part : Session → γ} {rel : Run → Run → Prop} (hcourse : Run.Course part rel)
  {services : Services}
  (hhost : ∀ host, services.host = some host → ∀ args, Step.Leads rel (host args))
  (hscript : ∀ d : ExecuteDirective, Step.Leads rel (d.perform services))

include hcourse hhost

theorem leads_performRun (d : RunDirective) : Step.Leads rel (d.perform services) := by
  have hcall : ∀ command args, Step.Leads rel (RunDirective.callHost services command args) := by
    intro command args
    unfold RunDirective.callHost
    split
    · exact hhost _ ‹_› args
    · exact hcourse.leads (Step.keeps_fail _)
  refine hcourse.bind (hcourse.leads (Job.keeps_render services _)) fun command => ?_
  split
  · exact hcourse.leads (Step.keeps_fail _)
  · exact hcourse.leads (Step.keeps_pure ())
  · split
    · exact hcall _ _
    · exact hcourse.leads ((Job.keeps_consult _).bind fun _ => Job.keeps_outside _)

include hscript

theorem leads_perform (d : Directive) : Step.Leads rel (d.perform services) := by
  have hact : Step.Leads rel (d.act services) := by
    unfold act
    split
    · exact hcourse.leads (CopyDirective.keeps_perform _ services)
    · exact leads_performRun hcourse hhost _
    · exact hscript _
  refine hcourse.bind (hcourse.leads (d.keeps_allowed services)) fun allowed => ?_
  split
  · exact hcourse.bind hact fun _ => hcourse.leads (Step.keeps_pure true)
  · exact hcourse.leads (Step.keeps_pure false)

theorem leads_performAll (directives : List Directive) :
    Step.Leads rel (performAll directives services) := by
  refine Step.leads_each (fun _ => hcourse.of_eq rfl) hcourse.trans fun d _ => ?_
  refine hcourse.bind (leads_perform hcourse hhost hscript d) fun _ => ?_
  exact hcourse.leads (Step.keeps_pure ())

end

variable {services : Services}

theorem keepsScope_perform (d : Directive)
    (hhost : ∀ host, services.host = some host → ∀ args, Job.Keeps Session.scope (host args)) :
    Job.Keeps Session.scope (d.perform services) :=
  leads_perform (.agreement Session.scope) hhost
    (fun d => d.keeps_perform (fun _ _ => rfl) (fun _ _ => rfl) services) d

theorem keepsScope_performAll (directives : List Directive)
    (hhost : ∀ host, services.host = some host → ∀ args, Job.Keeps Session.scope (host args)) :
    Job.Keeps Session.scope (performAll directives services) :=
  leads_performAll (.agreement Session.scope) hhost
    (fun d => d.keeps_perform (fun _ _ => rfl) (fun _ _ => rfl) services) directives

end Directive

/-! ## 2. Making a template -/

namespace Make

/-- Up to the loading of a template, its namespace and the given values go to the session. -/
theorem keeps_prepare {γ : Type} {part : Session → γ}
    (hdata : ∀ s data, part { s with data := data } = part s)
    (hspace : ∀ s space, part { s with space := space } = part s) (services : Services)
    (template : String) (options : MakeOptions) :
    Job.Keeps part (prepare services template options) := by
  refine Step.Keeps.bind ?_ fun _ => ?_
  · exact Job.keeps_change fun s => hdata s _
  refine (Step.keeps_ofExcept _).bind fun ref => ?_
  exact (keeps_locate hspace services ref).bind fun _ => Job.keeps_outside _

theorem keepsScope_prepare (services : Services) (template : String) (options : MakeOptions) :
    Job.Keeps Session.scope (prepare services template options) :=
  keeps_prepare (fun _ _ => rfl) (fun _ _ => rfl) services template options

theorem scope_publishTemplate (s : Session) : (publishTemplate s).scope = s.scope := by
  unfold publishTemplate
  split <;> rfl

/-- Leaving a template puts the scope of before back. -/
theorem scope_leave (before s : Session) : (leave before s).scope = before.scope :=
  scope_publishTemplate _

/-- **Whatever is done with a template active**, the scope is as it was afterwards. -/
theorem keepsScope_within (t : ActiveTemplate) (force : Bool) (m : Job Unit) :
    Job.Keeps Session.scope (within t force m) :=
  fun r => scope_leave r.session _

end Make

/-- Making a template keeps the scope, whatever the services are. -/
theorem keepsScope_make (services : Services) (template : String) (options : MakeOptions) :
    Job.Keeps Session.scope (make services template options) :=
  (Make.keepsScope_prepare services template options).bind fun _ =>
    Make.keepsScope_within _ _ _

/-! ## 3. Commands -/

namespace CommandLine

/-- Initialising a project moves the root and adds to the data. -/
theorem keeps_init {γ : Type} {part : Session → γ}
    (hpart : ∀ s root data, part { s with projectRoot := root, data := data } = part s)
    (services : Services) (force : Bool) : Job.Keeps part (Project.init services force) := by
  refine Job.keeps_session.bind fun s => ?_
  refine (Job.keeps_outside _).bind fun _ => ?_
  refine (Job.keeps_outside _).bind fun answers => ?_
  refine (Job.keeps_outside _).bind fun config => ?_
  refine Step.Keeps.bind ?_ fun _ => Step.keeps_pure config
  exact Job.keeps_change fun s => hpart s _ _

/-- Every command but the making of a template moves no more than the root, and adds to the data. -/
theorem keeps_dispatch {γ : Type} {part : Session → γ}
    (hpart : ∀ s root data, part { s with projectRoot := root, data := data } = part s)
    {services : Services} {command : Command}
    (h : ∀ template force data, command ≠ .make template force data) :
    Job.Keeps part (dispatch services command) := by
  cases command with
  | make template force data => exact absurd rfl (h template force data)
  | init force => exact (keeps_init hpart services force).bind fun _ => Step.keeps_pure ()
  | createTemplate force =>
    refine Job.keeps_session.bind fun s => ?_
    exact (Job.keeps_outside _).bind fun _ => Step.keeps_pure ()
  | _ => exact Job.keeps_outside _

section

variable {γ : Type} {part : Session → γ} {rel : Run → Run → Prop} (hcourse : Run.Course part rel)

include hcourse

/-- What is done for the default repository before a template is made is done in the world. -/
theorem leads_runMake {services : Services} {template : String} {options : MakeOptions}
    (hmake : Step.Leads rel (make services template options)) :
    Step.Leads rel (runMake services template options) := by
  refine hcourse.bind (hcourse.leads Job.keeps_session) fun s => ?_
  exact hcourse.bind (hcourse.leads (Job.keeps_outside _)) fun _ => hmake

/-- A host of commands goes along a course, however deep the commands may be nested in it, if the
making of templates goes along it whenever the host that it calls does. -/
theorem leads_host (hpart : ∀ s root data, part { s with projectRoot := root, data := data } = part s)
    (hmake : ∀ services : Services,
      (∀ host, services.host = some host → ∀ args, Step.Leads rel (host args)) →
      ∀ template options, Step.Leads rel (make services template options))
    (services : Services) (depth : Nat) (args : List String) :
    Step.Leads rel (host services depth args) := by
  induction depth generalizing args with
  | zero => exact hcourse.leads (Step.keeps_fail _)
  | succ depth ih =>
    unfold host
    split
    · exact hcourse.leads (Step.keeps_fail _)
    · rename_i invocation _
      cases hcommand : invocation.command with
      | make template force data =>
        refine leads_runMake hcourse (hmake _ (fun inner hinner args => ?_) template ⟨force, data⟩)
        obtain rfl := Option.some.inj hinner
        exact ih args
      | _ => exact hcourse.leads (keeps_dispatch hpart fun _ _ _ h => Command.noConfusion h)

end

/-- A host of commands keeps the scope, however deep the commands may be nested in it. -/
theorem keepsScope_host (services : Services) (depth : Nat) (args : List String) :
    Job.Keeps Session.scope (host services depth args) :=
  leads_host (.agreement Session.scope) (fun _ _ _ => rfl)
    (fun services _ template options => keepsScope_make services template options) services depth args

end CommandLine

end Stencil
