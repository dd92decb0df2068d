import Stencil.Proofs.Project.Replaced
import Stencil.Proofs.Prompt.Unasked
import Stencil.Proofs.Session.Files
import Stencil.Proofs.Session.Sample
import Stencil.Proofs.Template.Force
import Stencil.Proofs.Template.Questions

/-!
# Who answers the questions of commands within a run

A template can have commands of the program carried out within its own run, and those can have others
carried out in turn. Whatever they ask, on any level, is put to the operator of the run, and nothing
else about the operator matters than the answers (`CommandLine.tracks_host`). That is shown command by
command: most of what a command does asks nothing, and what asks is a row of prompts and confirmations.

So the flag `--defaults` is heard by the program (`carryOut_defaults`), which takes another operator for
it, and not by a host, which does not. Where the operator of the run would take the defaults anyway, both
come to the same (`defaults_within_a_run`); where an answer is laid out, it is taken in spite of the flag
(`answer_taken_within_a_run`).
-/

set_option autoImplicit false

namespace Stencil

/-- The services with another operator, and with another host to call. -/
def Services.answeredBy (services : Services) (other : Operator)
    (host : List String → Job Unit) : Services :=
  { services with operator := other, host := some host }

namespace Job

variable {α : Type} {operator other : Operator}

/-- Steps on the world around the session. -/
theorem tracks_outside {m m' : Act α} (h : Step.Tracks World.exchange operator other m m') :
    Step.Tracks Run.exchange operator other (outside m) (outside m') :=
  h.on (fun _ => rfl) fun _ _ => rfl

end Job

theorem ConfigFile.tracks_beside {α : Type} {operator other : Operator} {m m' : Act α}
    (h : Step.Tracks World.exchange operator other m m') :
    Step.Tracks World.exchangeBeside operator other (beside m) (beside m') :=
  h.on (fun _ => rfl) fun _ _ => rfl

section

variable {services : Services} {other : Operator} {host : List String → Job Unit}

/-! ## 1. Templates that are looked for and loaded -/

theorem tracks_locate (ref : TemplateRef) :
    Step.Tracks Run.exchange services.operator other (locate services ref)
      (locate (services.answeredBy other host) ref) := by
  have hoffer : ∀ wanted candidates, Step.Tracks World.exchange services.operator other
      (offer services.operator wanted candidates) (offer other wanted candidates) := by
    intro wanted candidates
    induction candidates with
    | nil => exact Step.tracks_fail _
    | cons candidate rest ih =>
      refine Step.tracks_after (World.unasked_tell _ _) fun _ => ?_
      refine (World.tracks_confirm _ _ _ _).bind fun agreed => ?_
      exact Step.tracks_ite (Step.tracks_pure candidate) ih
  refine Step.tracks_after (Job.unasked_consult _) fun space => ?_
  refine Step.tracks_after (Job.unasked_change _) fun _ => ?_
  refine Step.tracks_after (Job.unasked_outside (World.unasked_asks _)) fun there => ?_
  refine Step.tracks_ite (Step.tracks_pure _) (Job.tracks_outside ?_)
  refine Step.tracks_after (World.unasked_tell _ _) fun _ => ?_
  refine Step.tracks_after (World.unasked_tell _ _) fun _ => ?_
  exact Step.tracks_after (World.unasked_asks _) fun files => hoffer _ _

namespace Make

theorem tracks_prepare (template : String) (options : MakeOptions) :
    Step.Tracks Run.exchange services.operator other (prepare services template options)
      (prepare (services.answeredBy other host) template options) := by
  refine Step.tracks_after (Job.unasked_change _) fun _ => ?_
  refine Step.tracks_after (Step.keeps_ofExcept _) fun ref => ?_
  refine (tracks_locate ref).bind fun located => ?_
  exact .of_keeps (Job.unasked_outside (LoadedTemplate.keeps_load (fun _ _ => rfl) services located))

theorem tracks_askAll (prompts : Pipeline) :
    Step.Tracks Run.exchange services.operator other (askAll services prompts)
      (askAll (services.answeredBy other host) prompts) :=
  (Pipeline.tracks_collect _ _ prompts services.transforms).on (fun _ => rfl) fun _ _ => rfl

end Make

/-! ## 2. Projects, templates that are written, repositories -/

theorem Pipeline.tracks_fill {operator : Operator} {m m' : Pipeline.Filling Unit}
    (h : Step.Tracks World.exchangeBeside operator other m m') :
    Step.Tracks World.exchange operator other (fill m) (fill m') := by
  intro w
  obtain ⟨asked, hasked, hsame⟩ := h (.empty, w)
  refine ⟨asked, ?_, fun hagree => ?_⟩
  · unfold fill
    rcases hm : m (.empty, w) with ⟨_ | _, data, w'⟩
    · rw [hm] at hasked
      exact hasked
    · rw [hm] at hasked
      exact hasked
  · unfold fill
    rw [hsame hagree]

theorem Project.tracks_init (force : Bool) :
    Step.Tracks Run.exchange services.operator other (init services force)
      (init (services.answeredBy other host) force) := by
  have hconfirm : ∀ dir, Step.Tracks World.exchange services.operator other
      (confirmReplacing services dir force)
      (confirmReplacing (services.answeredBy other host) dir force) := by
    intro dir
    refine Step.tracks_after (World.unasked_asks _) fun files => ?_
    refine Step.tracks_ite ?_ (Step.tracks_pure ())
    refine Step.tracks_after (World.unasked_tell _ _) fun _ => ?_
    refine (World.tracks_confirm _ _ _ _).bind fun agreed => ?_
    exact Step.tracks_ite (Step.tracks_fail _) (Step.tracks_pure ())
  have hask : ∀ dir, Step.Tracks World.exchange services.operator other (askAll services dir)
      (askAll (services.answeredBy other host) dir) := by
    intro dir
    refine Pipeline.tracks_fill (Step.Tracks.bind ?_ fun pipeline => ?_)
    · exact .of_keeps fun s => Pipeline.keeps_read (fun _ _ => rfl) _ _ s.2
    · exact Pipeline.tracks_collect _ _ pipeline _
  refine Step.tracks_after Job.unasked_session fun s => ?_
  refine (Job.tracks_outside (hconfirm _)).bind fun _ => ?_
  refine (Job.tracks_outside (hask _)).bind fun answers => ?_
  refine Step.tracks_after (Job.unasked_outside (unasked_saveAnswers _ _)) fun config => ?_
  exact Step.tracks_after (Job.unasked_change _) fun _ => Step.tracks_pure config

namespace Authoring

variable {operator : Operator}

theorem tracks_askMore (field : Store) :
    Step.Tracks World.exchange operator other (askMore operator field) (askMore other field) := by
  have hdefault : ∀ kind, Step.Tracks World.exchange operator other
      (askDefault operator kind field) (askDefault other kind field) := by
    intro kind
    refine Step.tracks_ite ?_ (Step.tracks_pure _)
    refine (World.tracks_confirm _ _ _ _).bind fun wanted => ?_
    refine Step.tracks_ite ?_ (Step.tracks_pure _)
    exact (World.tracks_askLine _ _ _).bind fun line => Step.tracks_pure _
  have hoptions : ∀ kind field, Step.Tracks World.exchange operator other
      (askOptions operator kind field) (askOptions other kind field) := by
    intro kind field
    refine Step.tracks_ite ?_ (Step.tracks_pure _)
    exact (World.tracks_askLine _ _ _).bind fun line => Step.tracks_pure _
  refine (hdefault _).bind fun filled => ?_
  exact (hoptions _ filled).bind fun _ => Step.tracks_pure _

theorem tracks_askFields (pipeline : Pipeline) (transforms : Registry) (rounds : Nat) :
    Step.Tracks World.exchange operator other (askFields pipeline transforms operator rounds)
      (askFields pipeline transforms other rounds) := by
  induction rounds with
  | zero => exact Step.tracks_fail _
  | succ rounds ih =>
    unfold askFields
    rw [askField_eq, askField_eq]
    refine Step.Tracks.bind ?_ fun field => ?_
    · refine Step.Tracks.bind ?_ tracks_askMore
      exact Pipeline.tracks_fill (Pipeline.tracks_collect _ _ pipeline transforms)
    refine (World.tracks_confirm _ _ _ _).bind fun more => ?_
    exact Step.tracks_ite (ih.bind fun rest => Step.tracks_pure _) (Step.tracks_pure _)

theorem tracks_create (transforms : Registry) (dir : Path) (force : Bool) :
    Step.Tracks World.exchange operator other (create transforms operator dir force)
      (create transforms other dir force) := by
  have hprompts : Step.Tracks World.exchange operator other
      (askPrompts transforms operator fieldLimit) (askPrompts transforms other fieldLimit) := by
    refine (World.tracks_confirm _ _ _ _).bind fun wanted => ?_
    refine Step.tracks_ite ?_ (Step.tracks_pure _)
    refine Step.tracks_after (Pipeline.keeps_read (fun _ _ => rfl) _ _) fun pipeline => ?_
    exact tracks_askFields pipeline transforms _
  have hdirectives : Step.Tracks World.exchange operator other (askDirectives operator)
      (askDirectives other) :=
    (World.tracks_confirm _ _ _ _).bind fun wanted =>
      Step.tracks_ite (Step.tracks_pure _) (Step.tracks_pure _)
  refine Step.tracks_after (World.unasked_asks _) fun there => ?_
  refine Step.tracks_first (Step.tracks_fail _) ?_
  refine hprompts.bind fun prompts => hdirectives.bind fun directives => ?_
  refine Step.tracks_after (ConfigFile.unasked_save _) fun _ => ?_
  exact Step.tracks_after (World.unasked_tell _ _) fun _ => Step.tracks_pure _

end Authoring

namespace CommandLine

theorem tracks_onGlobal {α : Type} {m m' : ConfigFile.Editing α}
    (h : Step.Tracks World.exchangeBeside services.operator other m m') :
    Step.Tracks World.exchange services.operator other (onGlobal services m)
      (onGlobal (services.answeredBy other host) m') := by
  intro w
  have hload : onGlobal (services.answeredBy other host) m' = onGlobal services m' := rfl
  rw [hload]
  unfold onGlobal
  split
  · exact ⟨[], rfl, fun _ => rfl⟩
  · rename_i data _
    obtain ⟨asked, hasked, hsame⟩ :=
      h ({ ConfigFile.global services.settings with data := data }, w)
    refine ⟨asked, hasked, fun hagree => ?_⟩
    dsimp only
    rw [hsame hagree]

theorem unasked_cloneRepo (url name : String) (branch : Option String) (force : Bool) :
    Step.Keeps World.exchangeBeside (cloneRepo services url name branch force) := by
  refine Step.Keeps.bind (fun s => Repository.unasked_clone _ _ _ _ s) fun result => ?_
  split
  · exact Step.keeps_pure ()
  · refine (ConfigFile.unasked_beside (World.unasked_tell _ _)).bind fun _ => ?_
    exact (ConfigFile.unasked_beside (World.unasked_tell _ _)).bind fun _ => Step.keeps_fail _
  · exact Step.keeps_fail _

theorem unasked_listTemplates : Step.Keeps World.exchange (listTemplates services) := by
  refine (World.unasked_asks _).bind fun files => (Step.keeps_ofExcept _).bind fun templates => ?_
  split
  · exact World.unasked_tell _ _
  · refine (World.unasked_tell _ _).bind fun _ => ?_
    exact Step.keeps_each fun _ _ => World.unasked_tell _ _

theorem unasked_listRepos (data : Store) : Step.Keeps World.exchange (listRepos services data) := by
  unfold listRepos
  split
  · exact World.unasked_tell _ _
  · exact Step.keeps_each fun _ _ => World.unasked_tell _ _

theorem tracks_ensureDefaultRepo (s : Session) (template : String) :
    Step.Tracks World.exchange services.operator other (ensureDefaultRepo services s template)
      (ensureDefaultRepo (services.answeredBy other host) s template) := by
  refine Step.tracks_after (Step.keeps_ofExcept _) fun ref => ?_
  refine Step.tracks_ite (Step.tracks_pure ()) ?_
  refine Step.tracks_after (World.unasked_asks _) fun there => ?_
  refine Step.tracks_ite (Step.tracks_pure ()) (tracks_onGlobal (.of_keeps ?_))
  refine Step.keeps_get.bind fun ⟨config, w⟩ => ?_
  dsimp only
  split
  · exact Step.keeps_pure ()
  · refine (ConfigFile.unasked_beside (World.unasked_tell _ _)).bind fun _ => ?_
    exact (Repository.unasked_clone _ _ _ _).bind fun _ => Step.keeps_pure ()

theorem tracks_deleteRepo (name : String) (yes : Bool) :
    Step.Tracks World.exchangeBeside services.operator other (deleteRepo services name yes)
      (deleteRepo (services.answeredBy other host) name yes) := by
  have hdelete : Step.Tracks World.exchangeBeside services.operator other
      (Repository.delete services.settings name) (Repository.delete services.settings name) :=
    .of_keeps (Repository.unasked_delete _ _)
  refine Step.tracks_ite ?_ hdelete
  refine (ConfigFile.tracks_beside (World.tracks_confirm _ _ _ _)).bind fun agreed => ?_
  exact Step.tracks_first (Step.tracks_fail _) hdelete

end CommandLine

/-! ## 3. What calls the host -/

section

variable {host' : List String → Job Unit} (hservices : services.host = some host)
  (hhost : ∀ args, Step.Tracks Run.exchange services.operator other (host args) (host' args))

include hservices hhost

namespace Directive

/-- A directive asks nothing, unless it calls the host. -/
theorem tracks_perform (d : Directive) :
    Step.Tracks Run.exchange services.operator other (d.perform services)
      (d.perform (services.answeredBy other host')) := by
  have hact : Step.Tracks Run.exchange services.operator other (d.act services)
      (d.act (services.answeredBy other host')) := by
    unfold act
    split
    · rename_i copy _
      exact .of_keeps (copy.unasked_perform services)
    · rename_i line _
      refine Step.tracks_after (Job.unasked_render services _) fun command => ?_
      split
      · exact Step.tracks_fail _
      · exact Step.tracks_pure ()
      · refine Step.tracks_ite ?_ ?_
        · -- the only place where what was called differs
          unfold RunDirective.callHost
          rw [hservices]
          exact hhost _
        · refine Step.tracks_after (Job.unasked_consult _) fun dir => ?_
          exact .of_keeps (Job.unasked_outside (RunDirective.unasked_spawnIn _ _ _))
    · rename_i script _
      exact .of_keeps fun r => congrArg World.exchange (script.keepsWorld_perform services r)
  have hallowed : Step.Keeps Run.exchange (d.allowed services) :=
    fun r => congrArg Run.exchange (d.snd_allowed services r)
  have htransforms : (services.answeredBy other host').transforms = services.transforms := rfl
  unfold perform
  rw [allowed_congr htransforms]
  refine Step.tracks_after hallowed fun holds => ?_
  exact Step.tracks_ite (hact.bind fun _ => Step.tracks_pure true) (Step.tracks_pure false)

end Directive

theorem Make.tracks_body (t : LoadedTemplate) :
    Step.Tracks Run.exchange services.operator other (body services t)
      (body (services.answeredBy other host') t) := by
  refine Step.tracks_after (Job.unasked_change _) fun _ => ?_
  refine (tracks_askAll t.prompts).bind fun _ => ?_
  refine Step.Tracks.bind (Step.tracks_each fun d _ => ?_) fun _ => ?_
  · exact (Directive.tracks_perform hservices hhost d).bind fun _ => Step.tracks_pure ()
  · refine Step.tracks_each fun spec _ => ?_
    refine Step.tracks_after (Job.unasked_render services _) fun text => ?_
    exact .of_keeps (Job.unasked_change _)

theorem tracks_make (template : String) (options : MakeOptions) :
    Step.Tracks Run.exchange services.operator other (make services template options)
      (make (services.answeredBy other host') template options) := by
  refine (Make.tracks_prepare template options).bind fun loaded => ?_
  refine Step.tracks_after Job.unasked_session fun before => ?_
  refine Step.tracks_after (Job.unasked_change _) fun _ => ?_
  refine (Make.tracks_body hservices hhost loaded).outcome.bind fun result => ?_
  refine Step.tracks_after (Job.unasked_change _) fun _ => ?_
  exact .of_keeps (Step.keeps_ofExcept _)

theorem CommandLine.tracks_dispatch (command : Command) :
    Step.Tracks Run.exchange services.operator other (dispatch services command)
      (dispatch (services.answeredBy other host') command) := by
  cases command with
  | make template force data =>
    refine Step.tracks_after Job.unasked_session fun s => ?_
    refine (Job.tracks_outside (tracks_ensureDefaultRepo s template)).bind fun _ => ?_
    exact tracks_make hservices hhost template _
  | init force => exact (Project.tracks_init force).bind fun _ => Step.tracks_pure ()
  | cloneRepo url name branch force =>
    exact Job.tracks_outside (tracks_onGlobal (.of_keeps (unasked_cloneRepo _ _ _ _)))
  | updateRepo name branch remote =>
    refine Job.tracks_outside (tracks_onGlobal (.of_keeps ?_))
    refine Step.keeps_get.bind fun s => ?_
    exact ConfigFile.unasked_beside (Repository.unasked_update _ _ _ _ _ _)
  | deleteRepo name yes =>
    exact Job.tracks_outside (tracks_onGlobal (tracks_deleteRepo name yes))
  | listRepos =>
    refine Job.tracks_outside (tracks_onGlobal (.of_keeps ?_))
    refine Step.keeps_get.bind fun s => ?_
    exact ConfigFile.unasked_beside (unasked_listRepos _)
  | createTemplate force =>
    refine Step.tracks_after Job.unasked_session fun s => ?_
    refine (Job.tracks_outside (Authoring.tracks_create _ _ _)).bind fun _ => ?_
    exact Step.tracks_pure ()
  | listTemplates => exact .of_keeps (Job.unasked_outside unasked_listTemplates)

end

end

/-! ## 4. Hosts -/

namespace CommandLine

/-- **A host asks the operator of its services**, on every level of commands, and goes by nothing else
of the operator than the answers to what was asked. -/
theorem tracks_host (services : Services) (other : Operator) (depth : Nat) (args : List String) :
    Step.Tracks Run.exchange services.operator other (host services depth args)
      (host { services with operator := other } depth args) := by
  induction depth generalizing args with
  | zero => exact Step.tracks_fail _
  | succ depth ih =>
    unfold host
    cases read args with
    | error e => exact Step.tracks_fail _
    | ok invocation =>
      -- the commands that are handed over go to the hosts one level down
      have hhost : ({ services with host := some (host services depth) } : Services).host =
        some (host services depth) := rfl
      exact tracks_dispatch hhost ih invocation.command

theorem host_of_read {services : Services} {depth : Nat} {args : List String}
    {invocation : Invocation} (hread : read args = .ok invocation) :
    host services (depth + 1) args = dispatch (withLevels services depth) invocation.command := by
  unfold host
  rw [hread]
  rfl

/-- A host does not call the host of the services that it is made with. -/
theorem host_of_host (services : Services) (called : Option (List String → Job Unit)) (depth : Nat) :
    host { services with host := called } depth = host services depth := by
  induction depth with
  | zero => rfl
  | succ depth ih =>
    funext args
    unfold host
    split
    · rfl
    · rw [ih]

theorem withOperator_withHost (services : Services) (operator : Operator) :
    withOperator (withHost services) operator =
      withLevels { services with operator := operator } nestingLimit := by
  have hhost := host_of_host { services with operator := operator }
    (some (host services nestingLimit)) nestingLimit
  unfold withLevels
  rw [← hhost]
  unfold withOperator withHost
  exact if_pos Option.isSome_some

/-- A program that is called with `--defaults` carries its command out with an operator who takes every
default, and so it does with the commands that are handed over to it. -/
theorem carryOut_defaults (services : Services) (command : Command) :
    carryOut (withHost services) ⟨true, command⟩ =
      dispatch (withLevels { services with operator := .defaults } nestingLimit) command :=
  congrArg (dispatch · command) (withOperator_withHost services .defaults)

/-- **`--defaults` within a run.** A command line with `--defaults` that is handed over in a run has its
questions answered by the operator of the run, and so have the commands that it hands over itself. It
comes to what the program makes of the same command line, with every default taken, as far as that
operator would take the defaults anyway. The program leaves the laid-out answers as they are. -/
theorem defaults_within_a_run (services : Services) (depth : Nat) {args : List String}
    {command : Command} (hread : read args = .ok ⟨true, command⟩) (r : Run) :
    let quiet : Services := { services with operator := .defaults }
    (∃ asked,
      (host services (depth + 1) args r).2.exchange = services.operator.after r.exchange asked ∧
      (services.operator.AgreesOn .defaults r.exchange asked →
        host services (depth + 1) args r = dispatch (withLevels quiet depth) command r)) ∧
    (dispatch (withLevels quiet depth) command r).2.world.answers = r.world.answers := by
  intro quiet
  rw [← host_of_read hread]
  refine ⟨tracks_host services .defaults (depth + 1) args r, ?_⟩
  obtain ⟨asked, hasked, -⟩ := tracks_host quiet .defaults (depth + 1) args r
  exact (congrArg Prod.snd hasked).trans Operator.answers_after_defaults

namespace Sample

/-- Services with an operator who follows laid-out answers. -/
def scripted : Services :=
  { Make.Sample.bare with operator := .scripted }

/-- A template that asks one question. -/
def config : String :=
  "\x7b\"prompts\":[\x7b\"name\":\"x\",\"message\":\"X\",\"default\":\"d\"\x7d]\x7d"

/-- A run with that template installed and the given answers laid out. -/
def run (answers : Answers) : Run :=
  let files : FileTree := ⟨[(["t"], .dir), (["t", "default"], .dir),
    (["t", "default", "inner"], .dir),
    (["t", "default", "inner", "config.json"], .file config.toUTF8)], []⟩
  ⟨Session.fresh ⟨"work"⟩, ⟨files, [], [], answers, [], []⟩⟩

/-- The arguments that ask for the template with every default taken. -/
def arguments : List String :=
  ["make", "inner", "--defaults"]

end Sample

/-- With no answers laid out, the question of the template is answered by its default either way. -/
theorem defaults_within_a_run_unanswered :
    read Sample.arguments = .ok ⟨true, .make "inner" false []⟩ ∧
    (host Sample.scripted 1 Sample.arguments (Sample.run [])).2.world.asked.map (·.name) = ["x"] ∧
    host Sample.scripted 1 Sample.arguments (Sample.run []) =
      dispatch (withLevels Make.Sample.bare 0) (.make "inner" false []) (Sample.run []) := by
  have hread : read Sample.arguments = .ok ⟨true, .make "inner" false []⟩ := by rfl
  obtain ⟨⟨asked, -, hsame⟩, -⟩ := defaults_within_a_run Sample.scripted 0 hread (Sample.run [])
  exact ⟨hread, by decide +kernel, hsame Operator.scripted_agreesOn_defaults⟩

/-- An answer that is laid out for the question is taken within a run, in place of the default that the
program takes. -/
theorem answer_taken_within_a_run :
    let r := Sample.run [("x", [.value (.str "typed")])]
    read Sample.arguments = .ok ⟨true, .make "inner" false []⟩ ∧
    (host Sample.scripted 1 Sample.arguments r).2.session.data.getStr? "x" = some "typed" ∧
    (dispatch (withLevels Make.Sample.bare 0) (.make "inner" false []) r).2.session.data.getStr? "x" =
      some "d" := by
  refine ⟨by rfl, ?_, ?_⟩
  · decide +kernel
  · decide +kernel

end CommandLine

end Stencil
