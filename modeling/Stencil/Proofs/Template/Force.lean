import Stencil.Proofs.Scaffold.Overwrite
import Stencil.Proofs.Session.Files
import Stencil.Proofs.Template.Make

/-!
# Force is scoped

A template can be made with force, and then its copies replace what stands where they go, unless a
copy says otherwise. Force reaches inwards, to the templates that a template has made, and nowhere
else: not to what comes after in a template that was made without it, and not over a copy that says
that it does not overwrite.

The argument has two halves. What may be overwritten is read off the session, and

> every directive starts with the overwriting that was given to its making or around it

(`CarriesOut.overwrite_eq`), since makings keep the scope. What is overwritten follows the recursion
of makings: `CarriesOut` lists the directives that a making comes to, on whatever level, with the
runs they start in, and by induction on the levels a file is replaced only where one of the copies
among them may replace it (`spares_of_onlyMakes`). Everything else that a making does, up to loading
its template, asking its prompts and executing its scripts, leaves the files as they are.

A copy asks for its target before it makes directories, so a detour (`Attempt.Detours`) replaces a
file without any force; `detour_replaces_kept_file` is a making in which one does.
-/

set_option autoImplicit false

namespace Stencil

/-! ## 1. Makings within makings -/

namespace CommandLine

/-- The services of a run whose templates can have `depth` levels of commands carried out. -/
def withLevels (services : Services) (depth : Nat) : Services :=
  { services with host := some (host services depth) }

/-- Where the default templates are installed, nothing is done about them. -/
theorem outside_ensureDefaultRepo (services : Services) {r : Run} (s : Session) (template : String)
    (h : r.world.files.exists (services.settings.repoDir defaultSpace)) :
    Job.outside (ensureDefaultRepo services s template) r =
      ((Job.outside (ensureDefaultRepo services s template) r).1, r) := by
  have hworld : (ensureDefaultRepo services s template r.world).2 = r.world := by
    unfold ensureDefaultRepo
    refine Step.after_reading (P := (· = r.world)) (m := Step.ofExcept _) rfl rfl fun ref _ => ?_
    split
    · rfl
    · rw [Step.bind_of_ok (show World.exists _ r.world = (.ok true, r.world) by
        rw [World.exists, Step.asks, h]), if_pos rfl]
      rfl
  refine Prod.ext rfl ?_
  show { r with world := (ensureDefaultRepo services s template r.world).2 } = r
  rw [hworld]

end CommandLine

namespace Make

/-- A making comes to a directive: its template is loaded, and all that comes before the directive
has ended well. -/
def ComesTo (services : Services) (template : String) (options : MakeOptions) (r : Run)
    (d : Directive) (r₁ : Run) : Prop :=
  ∃ loaded r₀ k, prepare services template options r = (.ok loaded, r₀) ∧
    loaded.directives[k]? = some d ∧
    opening services loaded k (entered loaded.template options.force r₀) = (.ok (), r₁)

/-- The directives that a making comes to, itself or in a making nested in it, with the run that
each starts in. The flag says whether the making of the directive, or one around it, was given
force. -/
inductive CarriesOut (services : Services) :
    Nat → String → MakeOptions → Run → Bool → Directive → Run → Prop
  | own {depth : Nat} {template : String} {options : MakeOptions} {r r₁ : Run} {d : Directive}
      (h : ComesTo (CommandLine.withLevels services depth) template options r d r₁) :
      CarriesOut services depth template options r options.force d r₁
  | nested {depth : Nat} {template inner : String} {options : MakeOptions} {r r₁ r₂ r₃ : Run}
      {d d' : Directive} {args : List String} {defaults force given : Bool}
      {data : List (String × String)}
      (h : ComesTo (CommandLine.withLevels services (depth + 1)) template options r d r₁)
      (hargs : d.handedOver? services r₁ = some args)
      (hread : CommandLine.read args = .ok ⟨defaults, .make inner force data⟩)
      (hrepo : Job.outside (CommandLine.ensureDefaultRepo (CommandLine.withLevels services depth)
        r₁.session inner) r₁ = (.ok (), r₂))
      (hinner : CarriesOut services depth inner ⟨force, data⟩ r₂ given d' r₃) :
      CarriesOut services (depth + 1) template options r (options.force || given) d' r₃

section

variable {services : Services} {depth : Nat} {template : String} {options : MakeOptions}
  {r r₁ : Run} {d : Directive}

theorem ComesTo.overwrite_eq
    (h : ComesTo (CommandLine.withLevels services depth) template options r d r₁) :
    r₁.session.overwrite = (r.session.overwrite || options.force) := by
  obtain ⟨loaded, r₀, k, hprepare, -, hopening⟩ := h
  have hkeeps : ∀ host, (CommandLine.withLevels services depth).host = some host →
      ∀ args, Job.Keeps Session.scope (host args) := by
    rintro host hhost args
    obtain rfl := Option.some.inj hhost
    exact CommandLine.keepsScope_host services depth args
  have hscope : r₁.session.overwrite = (r₀.session.overwrite || options.force) :=
    congrArg Prod.snd (scope_of_opening hkeeps hopening)
  have hbefore := keepsScope_prepare (CommandLine.withLevels services depth) template options r
  rw [hprepare] at hbefore
  rw [hscope, show r₀.session.overwrite = r.session.overwrite from congrArg Prod.snd hbefore]

/-- **Every directive starts with the force that was given**, to its own making or around it. -/
theorem CarriesOut.overwrite_eq {given : Bool}
    (h : CarriesOut services depth template options r given d r₁) :
    r₁.session.overwrite = (r.session.overwrite || given) := by
  induction h with
  | own h => exact h.overwrite_eq
  | nested h hargs hread hrepo hinner ih =>
    rw [ih, Job.session_of_outside hrepo, h.overwrite_eq, Bool.or_assoc]

end

end Make

/-! ## 2. What one directive may replace -/

namespace Directive

open FileTree (Spares)

theorem handedOver?_withLevels {d : Directive} {services : Services} {depth : Nat} {r : Run} :
    d.handedOver? (CommandLine.withLevels services depth) r = d.handedOver? services r := by
  have htransforms : (CommandLine.withLevels services depth).transforms = services.transforms := rfl
  unfold handedOver?
  rw [allowed_congr htransforms]
  rfl

/-- All that a directive in a run has commands do is to make templates. -/
structure OnlyMakes (d : Directive) (services : Services) (r : Run) : Prop where
  /-- A command line that is not blank calls the program. -/
  hands_over : ∀ line command first args, (d.allowed services r).1 = .ok true → d.kind = .run line →
    Render.text (services.context r) line.command = .ok command →
    Shell.words? command = some (first :: args) → Settings.isBaseCommand first = true
  makes : ∀ args invocation, d.handedOver? services r = some args →
    CommandLine.read args = .ok invocation →
    ∃ template force data, invocation.command = .make template force data

variable {d : Directive} {services : Services} {r : Run} {depth : Nat} {blamed : Location → Prop}

theorem onlyMakes_of_not_run (h : ∀ line, d.kind ≠ .run line) : d.OnlyMakes services r where
  hands_over line _ _ _ _ hkind := absurd hkind (h line)
  makes args _ hargs := by
    obtain ⟨line, -, -, -, hkind, -⟩ := handedOver?_eq_some.1 hargs
    exact absurd hkind (h line)

/-- A run directive hands over the words of its command line after the first. -/
theorem args_of_handedOver {line : RunDirective} {command first : String} {args args' : List String}
    (hkind : d.kind = .run line)
    (hrender : Render.text (services.context r) line.command = .ok command)
    (hwords : Shell.words? command = some (first :: args))
    (hargs : d.handedOver? services r = some args') : args' = args := by
  obtain ⟨line', command', first', -, hkind', hrender', hwords', -⟩ := handedOver?_eq_some.1 hargs
  obtain rfl : line = line' := DirectiveKind.run.inj (hkind.symm.trans hkind')
  obtain rfl : command = command' := Except.ok.inj (hrender.symm.trans hrender')
  exact (List.cons.inj (Option.some.inj (hwords'.symm.trans hwords))).2

theorem onlyMakes_of_command {line : RunDirective} {command first : String} {args : List String}
    {defaults force : Bool} {template : String} {data : List (String × String)}
    (hkind : d.kind = .run line)
    (hrender : Render.text (services.context r) line.command = .ok command)
    (hwords : Shell.words? command = some (first :: args))
    (hbase : Settings.isBaseCommand first = true)
    (hread : CommandLine.read args = .ok ⟨defaults, .make template force data⟩) :
    d.OnlyMakes services r where
  hands_over line' command' first' args' _ hkind' hrender' hwords' := by
    obtain rfl : line = line' := DirectiveKind.run.inj (hkind.symm.trans hkind')
    obtain rfl : command = command' := Except.ok.inj (hrender.symm.trans hrender')
    rw [← (List.cons.inj (Option.some.inj (hwords.symm.trans hwords'))).1]
    exact hbase
  makes args' invocation hargs hread' := by
    rw [args_of_handedOver hkind hrender hwords hargs] at hread'
    exact ⟨template, force, data, by rw [Except.ok.inj (hread'.symm.trans hread)]⟩

/-- A run directive that hands nothing over does nothing, when all it has done is making
templates. -/
theorem perform_of_not_handedOver {line : RunDirective} (hkind : d.kind = .run line)
    (honly : d.OnlyMakes services r) (hnone : d.handedOver? services r = none) :
    (d.perform (CommandLine.withLevels services depth) r).2 = r := by
  have hallowed' : d.allowed (CommandLine.withLevels services depth) r =
      ((d.allowed services r).1, r) := by
    have htransforms : (CommandLine.withLevels services depth).transforms = services.transforms := rfl
    rw [allowed_congr htransforms]
    exact Prod.ext rfl (d.snd_allowed services r)
  refine Step.after_reading (P := (· = r)) hallowed' rfl fun allowed hallowed => ?_
  cases allowed with
  | false => rfl
  | true =>
    rw [if_pos rfl, Step.snd_bind_pure, act, hkind]
    refine Step.after_reading (P := (· = r)) (m := (CommandLine.withLevels services depth).render _)
      rfl rfl fun command hcommand => ?_
    cases hwords : Shell.words? command with
    | none => rfl
    | some words =>
      cases words with
      | nil => rfl
      | cons first args =>
        have hbase := honly.hands_over line command first args hallowed hkind hcommand hwords
        rw [handedOver?_eq_some.2 ⟨line, command, first, hallowed, hkind, hcommand, hwords, hbase⟩]
          at hnone
        exact absurd hnone (by simp)

/-- What a directive does is allowed, or nothing. -/
theorem perform_cases (d : Directive) (services : Services) (r : Run) :
    (d.perform services r).2 = (d.act services r).2 ∨ (d.perform services r).2 = r := by
  unfold perform
  rcases hallowed : d.allowed services r with ⟨e | allowed, r₁⟩
  · obtain rfl : r₁ = r := by rw [← d.snd_allowed services r, hallowed]
    exact Or.inr (by rw [Step.bind_of_error hallowed])
  · obtain rfl : r₁ = r := by rw [← d.snd_allowed services r, hallowed]
    rw [Step.bind_of_ok hallowed]
    cases allowed with
    | false => exact Or.inr rfl
    | true => exact Or.inl (by rw [if_pos rfl, Step.snd_bind_pure])

/-- A directive replaces the files that a copy may replace, or those that what it hands over may. -/
theorem spares_perform (hw : r.world.files.WellFormed) (honly : d.OnlyMakes services r)
    (hcopy : ∀ copy, d.kind = .copy copy → ∀ loc, copy.MayReplace services r loc → blamed loc)
    (hhost : ∀ args, d.handedOver? services r = some args →
      Spares blamed r.world.files (CommandLine.host services depth args r).2.world.files) :
    Spares blamed r.world.files
      (d.perform (CommandLine.withLevels services depth) r).2.world.files := by
  cases hargs : d.handedOver? services r with
  | some args =>
    rw [perform_of_handedOver rfl (handedOver?_withLevels.trans hargs)]
    exact hhost args hargs
  | none =>
    cases hkind : d.kind with
    | run line =>
      rw [perform_of_not_handedOver hkind honly hargs]
      exact .refl _ _
    | copy copy =>
      rcases d.perform_cases (CommandLine.withLevels services depth) r with hact | hnothing
      · rw [hact, act, hkind]
        exact (copy.spares_perform services hw).mono (hcopy copy hkind)
      · rw [hnothing]
        exact .refl _ _
    | execute script =>
      rcases d.perform_cases (CommandLine.withLevels services depth) r with hact | hnothing
      · rw [hact, act, hkind]
        rw [script.keepsWorld_perform _ r]
        exact .refl _ _
      · rw [hnothing]
        exact .refl _ _

end Directive

/-! ## 3. What a making may replace -/

namespace Make

open FileTree (Spares)

section

variable {services : Services} {template : String} {options : MakeOptions} {r r₀ : Run}
  {loaded : LoadedTemplate} {blamed : Location → Prop}

/-- If every directive that a making comes to spares the files, so does all that comes before any
of them. -/
theorem spares_opening (hprepare : prepare services template options r = (.ok loaded, r₀))
    (h : ∀ d r₁, ComesTo services template options r d r₁ →
      Spares blamed r.world.files r₁.world.files →
      Spares blamed r₁.world.files (d.perform services r₁).2.world.files) (k : Nat) :
    Spares blamed r.world.files
      (opening services loaded k (entered loaded.template options.force r₀)).2.world.files := by
  let P : Run → Prop := fun r₁ => Spares blamed r.world.files r₁.world.files
  let start : Job Unit := do
    Job.change fun s => { s with data := s.data.set "template_dir" (.str loaded.template.dir.text) }
    askAll services loaded.prompts
  have hstart : Job.KeepsFiles start :=
    (Job.keepsFiles_change _).bind fun _ => keepsFiles_askAll services loaded.prompts
  have hopening : ∀ j, opening services loaded j =
      start >>= fun _ => Directive.performAll (loaded.directives.take j) services := by
    intro j
    unfold opening
    rw [Step.bind_assoc]
  have hstarted : P (start (entered loaded.template options.force r₀)).2 := by
    show Spares blamed r.world.files _
    rw [← (keepsFiles_prepare services template options).files_eq hprepare]
    exact hstart.spares blamed (entered loaded.template options.force r₀)
  show P _
  rw [hopening]
  -- the induction is on the directives, each of them reached by those in front of it
  rcases hs : start (entered loaded.template options.force r₀) with ⟨e | u, r₁⟩
  · rw [Step.bind_of_error hs]
    rw [hs] at hstarted
    exact hstarted
  · rw [Step.bind_of_ok hs]
    rw [hs] at hstarted
    refine Step.each_induction hstarted fun j d r₂ hj hrow hP => ?_
    have hjk : j < k := by
      have hlt := (List.getElem?_eq_some_iff.1 hj).1
      rw [List.length_take] at hlt
      omega
    rw [List.getElem?_take_of_lt hjk] at hj
    rw [List.take_take, Nat.min_eq_left (Nat.le_of_lt hjk)] at hrow
    have hcomes : ComesTo services template options r d r₂ := by
      refine ⟨loaded, r₀, j, hprepare, hj, ?_⟩
      rw [hopening, Step.bind_of_ok hs]
      exact hrow
    rw [Step.snd_bind_pure]
    exact hP.trans (h d r₂ hcomes hP)

/-- If every directive that a making comes to spares the files, so does the making. -/
theorem spares_make_of_directives
    (h : ∀ d r₁, ComesTo services template options r d r₁ →
      Spares blamed r.world.files r₁.world.files →
      Spares blamed r₁.world.files (d.perform services r₁).2.world.files) :
    Spares blamed r.world.files (make services template options r).2.world.files := by
  rcases hprepare : prepare services template options r with ⟨e | loaded, r₀⟩
  · rw [make_of_prepare_error hprepare,
      (keepsFiles_prepare services template options).files_eq hprepare]
    exact .refl _ _
  · rw [make_of_prepare_ok hprepare, within_apply,
      body_eq_opening_closing services loaded loaded.directives.length]
    have hclosing : Job.KeepsFiles (closing services loaded loaded.directives.length) := by
      unfold closing
      rw [List.drop_length]
      exact Step.Keeps.bind (Step.keeps_pure ()) fun _ =>
        Step.keeps_each fun spec _ => keepsFiles_deferMessage services spec
    show Spares blamed r.world.files
      ((opening services loaded loaded.directives.length >>= fun _ =>
        closing services loaded loaded.directives.length)
        (entered loaded.template options.force r₀)).2.world.files
    rw [Step.part_bind (fun r : Run => r.world.files) fun _ => hclosing]
    exact spares_opening hprepare h _

end

section

variable {services : Services} {depth : Nat} {template : String} {options : MakeOptions} {r : Run}

/-- The locations where a copy that a making comes to may replace a file. -/
def MayReplace (services : Services) (depth : Nat) (template : String) (options : MakeOptions)
    (r : Run) (loc : Location) : Prop :=
  ∃ given d copy r₁, CarriesOut services depth template options r given d r₁ ∧
    d.kind = .copy copy ∧ copy.MayReplace services r₁ loc

/-- A directive that a making comes to replaces what the making may replace, when what it hands over
does. -/
theorem spares_directive (hw : r.world.files.WellFormed)
    (honly : ∀ given d r₁, CarriesOut services depth template options r given d r₁ →
      d.OnlyMakes services r₁)
    (hhost : ∀ d r₁ args,
      ComesTo (CommandLine.withLevels services depth) template options r d r₁ →
      Spares (MayReplace services depth template options r) r.world.files r₁.world.files →
      d.handedOver? services r₁ = some args →
      Spares (MayReplace services depth template options r) r₁.world.files
        (CommandLine.host services depth args r₁).2.world.files)
    (d : Directive) (r₁ : Run)
    (hcomes : ComesTo (CommandLine.withLevels services depth) template options r d r₁)
    (hspares : Spares (MayReplace services depth template options r) r.world.files r₁.world.files) :
    Spares (MayReplace services depth template options r) r₁.world.files
      (d.perform (CommandLine.withLevels services depth) r₁).2.world.files := by
  refine d.spares_perform (hspares.written.wellFormed hw) (honly _ _ _ (.own hcomes)) ?_
    fun args => hhost d r₁ args hcomes hspares
  exact fun copy hkind loc hloc => ⟨_, d, copy, r₁, .own hcomes, hkind, hloc⟩

/-- **Whatever a making does, on any level**, it replaces no other files than its copies may. -/
theorem spares_of_onlyMakes (hw : r.world.files.WellFormed)
    (hinstalled : r.world.files.exists (services.settings.repoDir defaultSpace))
    (honly : ∀ given d r₁, CarriesOut services depth template options r given d r₁ →
      d.OnlyMakes services r₁) :
    ∀ d r₁, ComesTo (CommandLine.withLevels services depth) template options r d r₁ →
      Spares (MayReplace services depth template options r) r.world.files r₁.world.files →
      Spares (MayReplace services depth template options r) r₁.world.files
        (d.perform (CommandLine.withLevels services depth) r₁).2.world.files := by
  induction depth generalizing template options r with
  | zero => exact spares_directive hw honly fun _ _ _ _ _ _ => .refl _ _
  | succ depth ih =>
    -- nothing but a making is handed over, and it is one level less deep
    refine spares_directive hw honly fun d r₁ args hcomes hspares hargs => ?_
    let P : Run → Prop := fun r₂ => Spares (MayReplace services (depth + 1) template options r)
      r₁.world.files r₂.world.files
    show P _
    cases hread : CommandLine.read args with
    | error usage =>
      rw [CommandLine.host, hread]
      exact .refl _ _
    | ok invocation =>
      obtain ⟨inner, force, data, hmake⟩ :=
        (honly _ _ _ (.own hcomes)).makes args invocation hargs hread
      obtain ⟨defaults, command⟩ := invocation
      obtain rfl : command = .make inner force data := hmake
      rw [CommandLine.host_of_make hread]
      refine Step.after_reading (P := P) (m := Job.session) rfl (.refl _ _) fun s hs => ?_
      obtain rfl := Except.ok.inj hs
      have hinstalled₁ := hspares.written.exists hinstalled
      have hrepo : Job.outside (CommandLine.ensureDefaultRepo
          (CommandLine.withLevels services depth) r₁.session inner) r₁ = (_, r₁) :=
        CommandLine.outside_ensureDefaultRepo _ _ inner hinstalled₁
      refine Step.after_reading (P := P) hrepo (.refl _ _) fun u hu => ?_
      -- what the inner making comes to, the outer one comes to by way of this directive
      have hentered : ∀ {given d' r₂},
          CarriesOut services depth inner ⟨force, data⟩ r₁ given d' r₂ →
          CarriesOut services (depth + 1) template options r (options.force || given) d' r₂ :=
        .nested hcomes hargs hread (hrepo.trans (Prod.ext hu rfl))
      refine (spares_make_of_directives (ih (hspares.written.wellFormed hw) hinstalled₁
        fun given d' r₂ h => honly _ _ _ (hentered h))).mono ?_
      rintro loc ⟨given, d', copy, r₂, hcarries, hkind, hloc⟩
      exact ⟨_, d', copy, r₂, hentered hcarries, hkind, hloc⟩

/-- Up to a directive of its own, a making replaces no other files than its copies may. -/
theorem ComesTo.spares {d : Directive} {r₁ : Run} (hw : r.world.files.WellFormed)
    (hinstalled : r.world.files.exists (services.settings.repoDir defaultSpace))
    (honly : ∀ given d r₁, CarriesOut services depth template options r given d r₁ →
      d.OnlyMakes services r₁)
    (h : ComesTo (CommandLine.withLevels services depth) template options r d r₁) :
    Spares (MayReplace services depth template options r) r.world.files r₁.world.files := by
  obtain ⟨loaded, r₀, k, hprepare, -, hopening⟩ := h
  have hspares := spares_opening hprepare (spares_of_onlyMakes hw hinstalled honly) k
  rw [hopening] at hspares
  exact hspares

/-- Whatever directive a making comes to, on any level, nothing was taken away before. -/
theorem CarriesOut.written {given : Bool} {d : Directive} {r₁ : Run}
    (h : CarriesOut services depth template options r given d r₁) (hw : r.world.files.WellFormed)
    (hinstalled : r.world.files.exists (services.settings.repoDir defaultSpace))
    (honly : ∀ given d r₁, CarriesOut services depth template options r given d r₁ →
      d.OnlyMakes services r₁) :
    FileTree.Extends (fun _ => True) r.world.files r₁.world.files := by
  induction h with
  | own hcomes => exact (hcomes.spares hw hinstalled honly).written
  | nested hcomes hargs hread hrepo hinner ih =>
    have hbefore := (hcomes.spares hw hinstalled honly).written
    have hinstalled₁ := hbefore.exists hinstalled
    obtain ⟨-, rfl⟩ := Prod.mk.inj
      ((CommandLine.outside_ensureDefaultRepo _ _ _ hinstalled₁).symm.trans hrepo)
    refine hbefore.trans (ih (hbefore.wellFormed hw) hinstalled₁ fun given d r₁ h => ?_)
    exact honly _ _ _ (.nested hcomes hargs hread hrepo h)

end

end Make

/-- **Force is scoped, apart from detours.** A making is started without overwriting; its templates,
nested to any depth, copy, execute scripts and have templates made. However it ends, no file that
was there is gone, and one that is not as it was is the target of a copy that says that it
overwrites, or does not say whether it does and had force given to its own making or to one around
it, or that came to its target on a detour. The overwriting that a directive starts with is the
force that was given to its own making or around it, whatever was made before it on other levels;
and a copy that does not overwrite leaves every file as it is, apart from detours. -/
theorem force_is_scoped (services : Services) (depth : Nat) (template : String)
    (options : MakeOptions) (r : Run) (hoff : r.session.overwrite = false)
    (hw : r.world.files.WellFormed)
    (hinstalled : r.world.files.exists (services.settings.repoDir defaultSpace))
    (honly : ∀ given d r₁, Make.CarriesOut services depth template options r given d r₁ →
      d.OnlyMakes services r₁) :
    let after := (make (CommandLine.withLevels services depth) template options r).2.world.files
    (∀ loc content, r.world.files.at? loc = some (.file content) →
      (∃ content', after.at? loc = some (.file content')) ∧
      (after.at? loc ≠ some (.file content) →
        ∃ given d copy r₁ c, Make.CarriesOut services depth template options r given d r₁ ∧
          d.kind = .copy copy ∧ copy.Attempts services r₁ c ∧ loc = c.aim ∧
          (copy.overwrite = some true ∨ (copy.overwrite = none ∧ given = true) ∨ c.Detours))) ∧
    ∀ given d r₁, Make.CarriesOut services depth template options r given d r₁ →
      r₁.session.overwrite = given ∧
      ∀ copy, d.kind = .copy copy →
        copy.overwrite = some false ∨ (copy.overwrite = none ∧ given = false) →
        ∀ loc content, r₁.world.files.at? loc = some (.file content) →
          (copy.perform services r₁).2.world.files.at? loc = some (.file content) ∨
          ∃ c, copy.Attempts services r₁ c ∧ loc = c.aim ∧ c.Detours := by
  intro after
  have hgiven : ∀ {given d r₁}, Make.CarriesOut services depth template options r given d r₁ →
      r₁.session.overwrite = given := by
    intro given d r₁ hcarries
    rw [hcarries.overwrite_eq, hoff, Bool.false_or]
  have hspares := Make.spares_make_of_directives (Make.spares_of_onlyMakes hw hinstalled honly)
  refine ⟨fun loc content hat => ⟨hspares.written.file loc content hat, fun hchanged => ?_⟩, ?_⟩
  -- a file that changed is blamed on a copy, and the copy says what it was allowed
  · obtain ⟨given, d, copy, r₁, hcarries, hkind, c, hc, haim, hblame⟩ :=
      (hspares.kept hw loc content hat).resolve_left hchanged
    refine ⟨given, d, copy, r₁, c, hcarries, hkind, hc, haim, ?_⟩
    rw [hgiven hcarries] at hblame
    rcases hblame with hoverwrite | hdetour
    · cases hflag : copy.overwrite with
      | none =>
        rw [hflag, Option.getD_none] at hoverwrite
        exact Or.inr (Or.inl ⟨rfl, hoverwrite⟩)
      | some flag =>
        rw [hflag, Option.getD_some] at hoverwrite
        exact Or.inl (by rw [hoverwrite])
    · exact Or.inr (Or.inr hdetour)
  · intro given d r₁ hcarries
    refine ⟨hgiven hcarries, fun copy hkind hnot loc content hat => ?_⟩
    have hw₁ := (hcarries.written hw hinstalled honly).wellFormed hw
    refine ((copy.spares_perform services hw₁).kept hw₁ loc
      content hat).imp_right ?_
    -- a copy that may not overwrite is to blame only for its detours
    rintro ⟨c, hc, haim, hblame⟩
    refine ⟨c, hc, haim, hblame.resolve_left ?_⟩
    rw [hgiven hcarries]
    rcases hnot with hfalse | ⟨hnone, hgiven⟩
    · rw [hfalse]
      exact Bool.false_ne_true
    · rw [hnone, hgiven]
      exact Bool.false_ne_true

/-! ## 4. A making with force within one without -/

namespace Make.Sample

/-- The bytes of a file. -/
def bytes? (t : FileTree) (loc : Location) : Option (List UInt8) :=
  match t.at? loc with
  | some (.file content) => some content.data.toList
  | _ => none

/-- A template that has another one made with force, and then copies. -/
def enclosingConfig : String :=
  "\x7b\"directives\":[\x7b\"directive\":\"run\",\"command\":\"forge make inner --force\"\x7d," ++
    "\x7b\"directive\":\"copy\",\"from\":\"a\",\"to\":\"later\"\x7d]\x7d"

/-- A template that copies. -/
def copyingConfig : String :=
  "\x7b\"directives\":[\x7b\"directive\":\"copy\",\"from\":\"b\",\"to\":\"now\"\x7d]\x7d"

/-- A run with the two templates installed, and with the targets of both there. -/
def standing : Run :=
  let files : FileTree := ⟨[(["t"], .dir), (["t", "default"], .dir),
    (["t", "default", "outer"], .dir),
    (["t", "default", "outer", "config.json"], .file enclosingConfig.toUTF8),
    (["t", "default", "outer", "a"], .file "new".toUTF8),
    (["t", "default", "inner"], .dir),
    (["t", "default", "inner", "config.json"], .file copyingConfig.toUTF8),
    (["t", "default", "inner", "b"], .file "new".toUTF8),
    (["work"], .dir), (["work", "now"], .file "old".toUTF8),
    (["work", "later"], .file "old".toUTF8)], []⟩
  ⟨Session.fresh ⟨"work"⟩, ⟨files, [], [], [], [], []⟩⟩

/-- The command line of a directive, if it has one. -/
def command? (d : Directive) : Option String :=
  match d.kind with
  | .run line => some line.command
  | _ => none

/-- What can be read off the directives of a template, where it can be loaded. -/
def loaded? {β : Type} (read : Directive → β) (levels : Nat) (template : String)
    (options : MakeOptions) (r : Run) : Option (List β) :=
  (prepare (CommandLine.withLevels bare levels) template options r).1.toOption.map
    fun loaded => loaded.directives.map read

/-- The run that the first directive of the outer template starts in. -/
def atFirst? (r : Run) : Option Run :=
  match prepare (CommandLine.withLevels bare 1) "outer" ⟨false, []⟩ r with
  | (.ok loaded, r₀) =>
    some (opening (CommandLine.withLevels bare 1) loaded 0 (entered loaded.template false r₀)).2
  | _ => none

theorem words_command :
    Shell.words? "forge make inner --force" = some ["forge", "make", "inner", "--force"] := by
  decide

theorem read_command :
    CommandLine.read ["make", "inner", "--force"] = .ok ⟨false, .make "inner" true []⟩ := by
  rfl

theorem render_command (r : Run) :
    Render.text (bare.context r) "forge make inner --force" = .ok "forge make inner --force" := by
  cbv

theorem standing_wellFormed : standing.world.files.WellFormed := by
  decide

theorem mem_loaded {β : Type} {read : Directive → β} {levels : Nat} {template : String}
    {options : MakeOptions} {r r₁ : Run} {d : Directive} {seen : List β}
    (h : ComesTo (CommandLine.withLevels bare levels) template options r d r₁)
    (hseen : loaded? read levels template options r = some seen) : read d ∈ seen := by
  obtain ⟨loaded, r₀, k, hprepare, hd, -⟩ := h
  have hseen : ((prepare (CommandLine.withLevels bare levels) template options r).1.toOption.map
      fun loaded => loaded.directives.map read) = some seen := hseen
  rw [hprepare] at hseen
  obtain rfl := Option.some.inj hseen
  exact List.mem_map.2 ⟨d, List.mem_of_getElem? hd, rfl⟩

theorem command?_of_run {d : Directive} {line : RunDirective} (h : d.kind = .run line) :
    command? d = some line.command := by
  show (match d.kind with
    | .run line => some line.command
    | _ => none) = _
  rw [h]

theorem onlyMakes_of_mem {d : Directive} {r : Run}
    (h : command? d ∈ [some "forge make inner --force", none]) : d.OnlyMakes bare r := by
  by_cases hrun : ∃ line, d.kind = .run line
  · obtain ⟨line, hkind⟩ := hrun
    rw [command?_of_run hkind] at h
    have hline : line.command = "forge make inner --force" := by simpa using h
    exact Directive.onlyMakes_of_command hkind (by rw [hline]; exact render_command r)
      words_command (by decide) read_command
  · exact Directive.onlyMakes_of_not_run fun line hkind => hrun ⟨line, hkind⟩

theorem standing_installed :
    standing.world.files.exists (bare.settings.repoDir defaultSpace) := by
  decide

theorem bytes_now_ne :
    bytes? standing.world.files ["work", "now"] ≠ some "new".toUTF8.data.toList := by
  decide

section

-- The command lines of the outer template, and those of the inner one where the outer one has it
-- made.
variable {r : Run}
  (houter : loaded? command? 1 "outer" ⟨false, []⟩ r =
    some [some "forge make inner --force", none])
  (hinner : ((atFirst? r).bind fun r₁ => loaded? command? 0 "inner" ⟨true, []⟩
    (Job.outside (CommandLine.ensureDefaultRepo (CommandLine.withLevels bare 0) r₁.session
      "inner") r₁).2) = some [none])

include houter

/-- The outer template has one command line, that of its first directive. -/
theorem atFirst_of_command {d : Directive} {r₁ : Run} {command : String}
    (h : ComesTo (CommandLine.withLevels bare 1) "outer" ⟨false, []⟩ r d r₁)
    (hcommand : command? d = some command) : atFirst? r = some r₁ := by
  obtain ⟨loaded, r₀, k, hprepare, hd, hopening⟩ := h
  have hcommands : ((prepare (CommandLine.withLevels bare 1) "outer" ⟨false, []⟩ r).1.toOption.map
      fun loaded => loaded.directives.map command?) =
        some [some "forge make inner --force", none] := houter
  rw [hprepare] at hcommands
  have hlist : loaded.directives.map command? = [some "forge make inner --force", none] :=
    Option.some.inj hcommands
  have hk : (loaded.directives.map command?)[k]? = some (some command) := by
    rw [List.getElem?_map, hd, Option.map_some, hcommand]
  rw [hlist] at hk
  match k with
  | 0 =>
    unfold atFirst?
    rw [hprepare]
    exact congrArg (fun x => some x.2) hopening
  | 1 => exact absurd hk (by simp)
  | k + 2 => exact absurd hk (by simp)

include hinner

/-- All that the two templates come to is a making and copies. -/
theorem onlyMakes_of_commands {given : Bool} {d : Directive} {r' : Run}
    (h : CarriesOut bare 1 "outer" ⟨false, []⟩ r given d r') : d.OnlyMakes bare r' := by
  cases h with
  | own hcomes => exact onlyMakes_of_mem (mem_loaded hcomes houter)
  | @nested _ _ inner _ _ r₁ r₂ _ outer _ args defaults force given data hcomes hargs hread hrepo
      hnested =>
    obtain ⟨line, -, -, -, hkind, -⟩ := Directive.handedOver?_eq_some.1 hargs
    have hcommand := command?_of_run hkind
    have hline : line.command = "forge make inner --force" := by
      have hmem := mem_loaded hcomes houter
      rw [hcommand] at hmem
      simpa using hmem
    rw [atFirst_of_command houter hcomes hcommand, Option.bind_some] at hinner
    obtain rfl := Directive.args_of_handedOver hkind (by rw [hline]; exact render_command r₁)
      words_command hargs
    obtain ⟨rfl, hmake⟩ :=
      CommandLine.Invocation.mk.inj (Except.ok.inj (hread.symm.trans read_command))
    obtain ⟨rfl, rfl, rfl⟩ := CommandLine.Command.make.inj hmake
    rw [hrepo] at hinner
    cases hnested with
    | own hcomes' =>
      exact onlyMakes_of_mem (List.mem_cons_of_mem _ (mem_loaded hcomes' hinner))

end

/-- The files after the outer template was made without force. -/
def files (r : Run) : FileTree :=
  (make (CommandLine.withLevels bare 1) "outer" ⟨false, []⟩ r).2.world.files

end Make.Sample

/-- The inner template replaces a file, by the force that it was given; the outer one does not, with
the next directive. -/
theorem force_is_scoped_nested :
    Make.Sample.standing.session.overwrite = false ∧
    Make.Sample.standing.world.files.WellFormed ∧
    Make.Sample.standing.world.files.exists (Make.Sample.bare.settings.repoDir defaultSpace) ∧
    Make.Sample.bytes? (Make.Sample.files Make.Sample.standing) ["work", "later"] =
      Make.Sample.bytes? Make.Sample.standing.world.files ["work", "later"] ∧
    ∃ given d copy r₁ c,
      Make.CarriesOut Make.Sample.bare 1 "outer" ⟨false, []⟩ Make.Sample.standing given d r₁ ∧
      d.kind = .copy copy ∧ copy.Attempts Make.Sample.bare r₁ c ∧ ["work", "now"] = c.aim ∧
      (copy.overwrite = some true ∨ (copy.overwrite = none ∧ given = true) ∨ c.Detours) := by
  open Make.Sample in
  obtain ⟨hlater, hnow⟩ :
      bytes? (files standing) ["work", "later"] = bytes? standing.world.files ["work", "later"] ∧
        bytes? (files standing) ["work", "now"] = some "new".toUTF8.data.toList := by
    decide +kernel
  open Make.Sample in
  obtain ⟨houter, hinner⟩ :
      loaded? command? 1 "outer" ⟨false, []⟩ standing =
        some [some "forge make inner --force", none] ∧
      ((atFirst? standing).bind fun r₁ => loaded? command? 0 "inner" ⟨true, []⟩
        (Job.outside (CommandLine.ensureDefaultRepo (CommandLine.withLevels bare 0) r₁.session
          "inner") r₁).2) = some [none] := by
    decide +kernel
  refine ⟨rfl, Make.Sample.standing_wellFormed, Make.Sample.standing_installed, hlater, ?_⟩
  obtain ⟨hfiles, -⟩ := force_is_scoped Make.Sample.bare 1 "outer" ⟨false, []⟩ Make.Sample.standing
    rfl Make.Sample.standing_wellFormed Make.Sample.standing_installed
    fun _ _ _ => Make.Sample.onlyMakes_of_commands houter hinner
  refine (hfiles ["work", "now"] "old".toUTF8 rfl).2 fun hsame => ?_
  rw [Make.Sample.bytes?, Make.Sample.files, hsame] at hnow
  exact Make.Sample.bytes_now_ne hnow

/-! ## 5. A detour -/

namespace Make.Sample

/-- A template that copies to a path that turns back, and not over anything. -/
def turningConfig : String :=
  "\x7b\"directives\":[\x7b\"directive\":\"copy\",\"from\":\"a\",\"to\":\"new/../keep\"," ++
    "\"overwrite\":false\x7d]\x7d"

/-- A run with the template installed, and a file where its target leads. -/
def turning : Run :=
  let files : FileTree := ⟨[(["t"], .dir), (["t", "default"], .dir),
    (["t", "default", "outer"], .dir),
    (["t", "default", "outer", "config.json"], .file turningConfig.toUTF8),
    (["t", "default", "outer", "a"], .file "new".toUTF8),
    (["work"], .dir), (["work", "keep"], .file "old".toUTF8)], []⟩
  ⟨Session.fresh ⟨"work"⟩, ⟨files, [], [], [], [], []⟩⟩

/-- Whether a directive that copies says that it overwrites. -/
def flag? (d : Directive) : Option (Option Bool) :=
  match d.kind with
  | .copy copy => some copy.overwrite
  | _ => none

theorem turning_wellFormed : turning.world.files.WellFormed := by
  decide

theorem copies_of_flags {r : Run}
    (hflags : loaded? flag? 1 "outer" ⟨false, []⟩ r = some [some (some false)])
    {d : Directive} {r₁ : Run}
    (h : ComesTo (CommandLine.withLevels bare 1) "outer" ⟨false, []⟩ r d r₁) :
    ∃ copy, d.kind = .copy copy ∧ copy.overwrite = some false := by
  have hmem := mem_loaded h hflags
  rw [List.mem_singleton, flag?] at hmem
  split at hmem
  · rename_i copy hkind
    exact ⟨copy, hkind, Option.some.inj hmem⟩
  · exact absurd hmem (by simp)

end Make.Sample

/-- Without any force, a copy that says that it does not overwrite replaces a file on a detour. -/
theorem detour_replaces_kept_file :
    Make.Sample.turning.session.overwrite = false ∧
    Make.Sample.turning.world.files.WellFormed ∧
    Make.Sample.turning.world.files.exists (Make.Sample.bare.settings.repoDir defaultSpace) ∧
    (∀ given d r₁,
      Make.CarriesOut Make.Sample.bare 1 "outer" ⟨false, []⟩ Make.Sample.turning given d r₁ →
      d.OnlyMakes Make.Sample.bare r₁ ∧ given = false ∧
        ∃ copy, d.kind = .copy copy ∧ copy.overwrite = some false) ∧
    Make.Sample.bytes? Make.Sample.turning.world.files ["work", "keep"] =
      some "old".toUTF8.data.toList ∧
    Make.Sample.bytes? (Make.Sample.files Make.Sample.turning) ["work", "keep"] =
      some "new".toUTF8.data.toList := by
  open Make.Sample in
  have hflags : loaded? flag? 1 "outer" ⟨false, []⟩ turning = some [some (some false)] := by
    decide +kernel
  refine ⟨rfl, Make.Sample.turning_wellFormed, by decide +kernel, fun given d r₁ h => ?_,
    by decide +kernel, by decide +kernel⟩
  cases h with
  | own hcomes =>
    obtain ⟨copy, hkind, hflag⟩ := Make.Sample.copies_of_flags hflags hcomes
    refine ⟨Directive.onlyMakes_of_not_run fun line hrun => ?_, rfl, copy, hkind, hflag⟩
    rw [hkind] at hrun
    exact absurd hrun (by simp)
  | nested hcomes hargs =>
    -- The only directive is a copy, so nothing is handed over.
    obtain ⟨copy, hkind, -⟩ := Make.Sample.copies_of_flags hflags hcomes
    obtain ⟨line, -, -, -, hrun, -⟩ := Directive.handedOver?_eq_some.1 hargs
    rw [hkind] at hrun
    exact absurd hrun (by simp)

end Stencil
