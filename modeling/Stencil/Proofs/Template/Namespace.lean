import Stencil.Proofs.Template.Force

/-!
# The namespace of nested makings

A reference without a namespace means the one of the session. The first reference of a session that
has none gives it its own, and from then on the session keeps it, whatever is made in it
(`keepsSpace_host`). So along a chain of makings, each of them started by a directive of the one
before, all references without a namespace mean the same one: the namespace that the session had at
the start of the chain, or else the one of the first reference of the chain
(`nested_reference_takes_session_space`).

That is the namespace of the active template as long as no reference on the way names another one.
Behind `acme:mid`, made by a template of `default`, a reference without a namespace means `default`
(`nested_reference_leaves_active_space`).
-/

set_option autoImplicit false

namespace Stencil

/-! ## 1. A session keeps its namespace -/

/-- A namespace that the session has is not taken from it. -/
def Run.KeepsSpace (r r' : Run) : Prop :=
  ∀ space, r.session.space = some space → r'.session.space = some space

theorem Run.KeepsSpace.course : Run.Course Session.space KeepsSpace where
  of_eq := fun h _ hspace => h.trans hspace
  trans := fun h h' space hspace => h' space (h space hspace)

open Run (KeepsSpace)

/-- Finding a template gives a namespace to a session that has none. -/
theorem keepsSpace_locate (services : Services) (ref : TemplateRef) :
    Step.Leads KeepsSpace (locate services ref) := by
  refine KeepsSpace.course.bind (KeepsSpace.course.leads (Job.keeps_consult _)) fun space => ?_
  refine KeepsSpace.course.bind (fun r given hgiven => ?_) fun _ => ?_
  · show some (r.session.space.getD space) = some given
    rw [hgiven, Option.getD_some]
  · refine KeepsSpace.course.leads ((Job.keeps_outside _).bind fun there => ?_)
    exact Step.keeps_ite (Step.keeps_pure _) (Job.keeps_outside _)

theorem ExecuteDirective.keepsSpace_perform (d : ExecuteDirective) (services : Services) :
    Step.Leads KeepsSpace (d.perform services) :=
  KeepsSpace.course.leads (d.keeps_perform (fun _ _ => rfl) (fun _ _ => rfl) services)

namespace Make

theorem keepsSpace_prepare (services : Services) (template : String) (options : MakeOptions) :
    Step.Leads KeepsSpace (prepare services template options) := by
  refine KeepsSpace.course.bind (KeepsSpace.course.leads (Job.keeps_change fun _ => rfl)) fun _ => ?_
  refine KeepsSpace.course.bind (KeepsSpace.course.leads (Step.keeps_ofExcept _)) fun ref => ?_
  refine KeepsSpace.course.bind (keepsSpace_locate services ref) fun _ => ?_
  exact KeepsSpace.course.leads (Job.keeps_outside _)

section

variable {services : Services}
  (hhost : ∀ host, services.host = some host → ∀ args, Step.Leads KeepsSpace (host args))

include hhost

/-- What a template does before one of its directives. -/
theorem keepsSpace_opening (t : LoadedTemplate) (k : Nat) :
    Step.Leads KeepsSpace (opening services t k) :=
  leads_opening KeepsSpace.course (fun _ _ _ _ => rfl) hhost
    (fun d => d.keepsSpace_perform services) t k

theorem keepsSpace_make (template : String) (options : MakeOptions) :
    Step.Leads KeepsSpace (make services template options) :=
  leads_make KeepsSpace.course (fun _ _ _ _ => rfl) hhost (fun d => d.keepsSpace_perform services)
    (keepsSpace_prepare services template options)
    fun _ => KeepsSpace.course.leads <|
      (Job.keeps_render services _).bind fun _ => Job.keeps_change fun _ => rfl

end

end Make

/-- **A session keeps its namespace**, whatever commands are carried out in it, on any number of
levels. -/
theorem CommandLine.keepsSpace_host (services : Services) (depth : Nat) (args : List String) :
    Step.Leads KeepsSpace (host services depth args) :=
  leads_host KeepsSpace.course (fun _ _ _ => rfl)
    (fun _ hhost template options => Make.keepsSpace_make hhost template options) services depth args

/-! ## 2. One making -/

/-- A making of a template: what is asked for, and the run that it starts in. -/
structure Making where
  template : String
  options : MakeOptions
  start : Run

namespace Making

/-- What a reference means at the start of a making. -/
def meant (m : Making) (services : Services) (ref : TemplateRef) : ActiveTemplate :=
  .of services.settings (spaceOf m.start.session ref) ref.name

/-- The namespace of the session once a reference has been followed. -/
def settled (m : Making) (ref : TemplateRef) : String :=
  m.start.session.space.getD (spaceOf m.start.session ref)

/-- The making asks for a template by a reference, and it is where it is asked for. -/
structure Finds (m : Making) (services : Services) (ref : TemplateRef) : Prop where
  read : TemplateRef.read m.template = .ok ref
  found : m.start.world.files.exists (m.meant services ref).dir = true

end Making

theorem LoadedTemplate.template_of_load {services : Services} {template : ActiveTemplate}
    {loaded : LoadedTemplate} {w w' : World}
    (h : load services template w = (.ok loaded, w')) : loaded.template = template := by
  unfold load at h
  obtain ⟨files, w₁, -, h⟩ := Step.bind_eq_ok h
  obtain ⟨sections, w₂, -, h⟩ := Step.bind_eq_ok h
  obtain ⟨prompts, w₃, -, h⟩ := Step.bind_eq_ok h
  obtain ⟨directives, w₄, -, h⟩ := Step.bind_eq_ok h
  rw [← Except.ok.inj (Prod.mk.inj h).1]

theorem spaceOf_eq (s : Session) (ref : TemplateRef) :
    spaceOf s ref = ref.space.getD (s.space.getD defaultSpace) := by
  unfold spaceOf
  cases ref.space with
  | some space => rfl
  | none => rfl

/-- A template that is where it is asked for is the one that is found. -/
theorem locate_of_exists {services : Services} {ref : TemplateRef} {r : Run}
    (h : r.world.files.exists (services.settings.templateDir (spaceOf r.session ref) ref.name)) :
    locate services ref r = (.ok (.of services.settings (spaceOf r.session ref) ref.name),
      { r with session := { r.session with
          space := some (r.session.space.getD (spaceOf r.session ref)) } }) := by
  unfold locate
  rw [Step.bind_of_ok (show Job.consult _ r = (.ok (spaceOf r.session ref), r) from rfl),
    Step.bind_of_ok (show Job.change _ r = (.ok (), _) from rfl)]
  refine (Step.bind_of_ok (m := Job.outside (World.exists _)) (a := true) ?_).trans rfl
  exact Prod.ext (congrArg Except.ok h) rfl

section

variable {services : Services} {depth : Nat} {m m' : Making} {ref : TemplateRef}

/-- A making that finds its template loads it, in a session that has a namespace by then. -/
theorem Making.Finds.prepare (h : m.Finds services ref) {loaded : LoadedTemplate} {r : Run}
    (hprepare : Make.prepare (CommandLine.withLevels services depth) m.template m.options m.start =
      (.ok loaded, r)) :
    loaded.template = m.meant services ref ∧ r.session.space = some (m.settled ref) := by
  unfold Make.prepare at hprepare
  obtain ⟨_, r₁, hstore, hprepare⟩ := Step.bind_eq_ok hprepare
  obtain ⟨-, rfl⟩ := Prod.mk.inj hstore
  obtain ⟨ref', r₂, hread, hprepare⟩ := Step.bind_eq_ok hprepare
  obtain ⟨href, rfl⟩ := Prod.mk.inj hread
  obtain rfl : ref = ref' := Except.ok.inj (h.read.symm.trans href)
  obtain ⟨located, r₃, hlocate, hload⟩ := Step.bind_eq_ok hprepare
  have hthere : locate (CommandLine.withLevels services depth) ref
      { m.start with session := Make.storeAll m.options.data m.start.session } = _ :=
    locate_of_exists h.found
  obtain ⟨hlocated, rfl⟩ := Prod.mk.inj (hthere.symm.trans hlocate)
  rw [LoadedTemplate.template_of_load (Job.world_of_outside hload), ← Except.ok.inj hlocated,
    Job.session_of_outside hload]
  exact ⟨rfl, rfl⟩

/-! ## 3. Makings within makings -/

/-- A directive of one making hands over another one, and that starts. -/
inductive Starts (services : Services) (depth : Nat) (m m' : Making) : Prop
  | handed {d : Directive} {r : Run} {args : List String} {defaults force : Bool}
      {data : List (String × String)}
      (hcomes : Make.ComesTo (CommandLine.withLevels services (depth + 1)) m.template m.options
        m.start d r)
      (hargs : d.handedOver? services r = some args)
      (hread : CommandLine.read args = .ok ⟨defaults, .make m'.template force data⟩)
      (hoptions : m'.options = ⟨force, data⟩)
      (hrepo : Job.outside (CommandLine.ensureDefaultRepo (CommandLine.withLevels services depth)
        r.session m'.template) r = (.ok (), m'.start))

/-- A making that is handed over starts with the template active that has handed it over, and with
the namespace that the session had by then. -/
theorem Starts.session (h : Starts services depth m m') (hfinds : m.Finds services ref) :
    m'.start.session.template = some (m.meant services ref) ∧
      m'.start.session.space = some (m.settled ref) := by
  obtain ⟨⟨loaded, r₀, k, hprepare, -, hopening⟩, -, -, -, hrepo⟩ := h
  obtain ⟨htemplate, hspace⟩ := hfinds.prepare hprepare
  have hkeeps : ∀ host, (CommandLine.withLevels services (depth + 1)).host = some host →
      ∀ args, Job.Keeps Session.scope (host args) ∧ Step.Leads KeepsSpace (host args) := by
    rintro host hhost args
    obtain rfl := Option.some.inj hhost
    exact ⟨CommandLine.keepsScope_host services _ args, CommandLine.keepsSpace_host services _ args⟩
  have hscope := Make.scope_of_opening (fun host hhost args => (hkeeps host hhost args).1) hopening
  have hkept := Make.keepsSpace_opening (fun host hhost args => (hkeeps host hhost args).2) loaded k
    (Make.entered loaded.template m.options.force r₀)
  rw [hopening] at hkept
  rw [Job.session_of_outside hrepo, ← htemplate]
  exact ⟨congrArg Prod.fst hscope, hkept _ hspace⟩

/-- A chain of makings, each of them handed over by the one before, with the references by which
those before the last have found their templates. -/
inductive Chain (services : Services) (depth : Nat) (first : Making) :
    List TemplateRef → Nat → Making → Prop
  | start : Chain services depth first [] depth first
  | next {refs : List TemplateRef} {ref : TemplateRef} {inner : Nat} {m m' : Making}
      (h : Chain services depth first refs (inner + 1) m) (hfinds : m.Finds services ref)
      (hstarts : Starts services inner m m') : Chain services depth first (refs ++ [ref]) inner m'

/-- The namespace that references without one have along a chain: that of the session at its start,
or else that of the first reference. -/
def Making.common (first : Making) (refs : List TemplateRef) : String :=
  first.start.session.space.getD ((refs.head?.bind TemplateRef.space).getD defaultSpace)

theorem Making.common_concat (first : Making) {refs : List TemplateRef} (hne : refs ≠ [])
    (ref : TemplateRef) : first.common (refs ++ [ref]) = first.common refs := by
  cases refs with
  | nil => exact absurd rfl hne
  | cons outermost rest => rfl

variable {first last : Making} {refs : List TemplateRef} {inner : Nat}

/-- What a making in a chain starts with. -/
theorem Chain.session (h : Chain services depth first refs inner last) :
    (refs = [] ∧ last = first) ∨
      ∃ front ref, refs = front ++ [ref] ∧
        last.start.session.space = some (first.common refs) ∧
        last.start.session.template =
          some (.of services.settings (ref.space.getD (first.common refs)) ref.name) := by
  induction h with
  | start => exact Or.inl ⟨rfl, rfl⟩
  | @next refs ref inner m m' h hfinds hstarts ih =>
    obtain ⟨htemplate, hspace⟩ := hstarts.session hfinds
    refine Or.inr ⟨refs, ref, rfl, ?_⟩
    rw [htemplate, hspace, Making.meant]
    rcases ih with ⟨rfl, rfl⟩ | ⟨front, before, rfl, hgiven, -⟩
    · show some (m.start.session.space.getD (spaceOf m.start.session ref)) =
          some (m.start.session.space.getD (ref.space.getD defaultSpace)) ∧
        some (ActiveTemplate.of services.settings (spaceOf m.start.session ref) ref.name) =
          some (.of services.settings (ref.space.getD
            (m.start.session.space.getD (ref.space.getD defaultSpace))) ref.name)
      rw [spaceOf_eq]
      cases m.start.session.space with
      | some given => exact ⟨rfl, rfl⟩
      | none =>
        cases ref.space with
        | some space => exact ⟨rfl, rfl⟩
        | none => exact ⟨rfl, rfl⟩
    · -- the session has had its namespace since the first making
      rw [Making.common_concat first (by simp), Making.settled, spaceOf_eq, hgiven]
      exact ⟨rfl, rfl⟩

end

/-- **A nested reference takes the namespace of the session.** Along a chain of makings, a reference
without a namespace means the namespace that the session had when the chain started, or else that of
the chain's first reference; outside of any making it means `default` when the session has none. A
reference with a namespace means that one. The template that is active where the last making starts
is the one of the reference before it, by the same rule; and what the last making loads, when it is
where it is asked for, is what its reference means. -/
theorem nested_reference_takes_session_space {services : Services} {depth inner : Nat}
    {first last : Making} {refs : List TemplateRef}
    (h : Chain services depth first refs inner last)
    (htop : first.start.session.template = none) :
    (refs = [] → last.start.session.template = none) ∧
    (∀ front active, refs = front ++ [active] → last.start.session.template =
      some (.of services.settings (active.space.getD (first.common refs)) active.name)) ∧
    ∀ ref : TemplateRef,
      last.meant services ref =
        .of services.settings (ref.space.getD (first.common refs)) ref.name ∧
      (last.Finds services ref → ∀ loaded r,
        Make.prepare (CommandLine.withLevels services inner) last.template last.options last.start =
          (.ok loaded, r) →
        loaded.template =
          .of services.settings (ref.space.getD (first.common refs)) ref.name) := by
  have hmeant : ∀ ref : TemplateRef, last.meant services ref =
      .of services.settings (ref.space.getD (first.common refs)) ref.name := by
    intro ref
    rw [Making.meant, spaceOf_eq]
    rcases h.session with ⟨rfl, rfl⟩ | ⟨front, active, -, hspace, -⟩
    · rfl
    · rw [hspace, Option.getD_some]
  refine ⟨?_, ?_, fun ref => ⟨hmeant ref, fun hfinds loaded r hprepare => ?_⟩⟩
  · rcases h.session with ⟨rfl, rfl⟩ | ⟨front, active, rfl, -⟩
    · exact fun _ => htop
    · exact fun hnil => absurd hnil (by simp)
  · rintro front active rfl
    rcases h.session with ⟨hnil, -⟩ | ⟨front', active', hsplit, -, htemplate⟩
    · exact absurd hnil (by simp)
    · obtain ⟨-, hlast⟩ := List.append_inj' hsplit rfl
      rw [htemplate, (List.cons.inj hlast).1]
  · rw [(hfinds.prepare hprepare).1, hmeant]

/-! ## 4. A chain of three -/

namespace Making

/-- The making that the first directive of a template hands over. -/
def next? (services : Services) (depth : Nat) (m : Making) : Option Making :=
  match Make.prepare (CommandLine.withLevels services (depth + 1)) m.template m.options m.start with
  | (.ok loaded, r₀) =>
    match loaded.directives, Make.opening (CommandLine.withLevels services (depth + 1)) loaded 0
        (Make.entered loaded.template m.options.force r₀) with
    | d :: _, (.ok (), r) =>
      match (d.handedOver? services r).map CommandLine.read with
      | some (.ok ⟨_, .make template force data⟩) =>
        match Job.outside (CommandLine.ensureDefaultRepo (CommandLine.withLevels services depth)
            r.session template) r with
        | (.ok (), start) => some ⟨template, ⟨force, data⟩, start⟩
        | _ => none
      | _ => none
    | _, _ => none
  | _ => none

theorem starts_of_next? {services : Services} {depth : Nat} {m m' : Making}
    (h : m.next? services depth = some m') : Starts services depth m m' := by
  unfold next? at h
  split at h
  · rename_i loaded r₀ hprepare
    split at h
    · rename_i d rest r hdirectives hopening
      split at h
      · rename_i defaults template force data hread
        obtain ⟨args, hargs, hread⟩ := Option.map_eq_some_iff.1 hread
        split at h
        · rename_i start hrepo
          obtain rfl := Option.some.inj h
          exact .handed ⟨loaded, r₀, 0, hprepare, by rw [hdirectives]; rfl, hopening⟩ hargs hread
            rfl hrepo
        · exact absurd h (by simp)
      · exact absurd h (by simp)
    · exact absurd h (by simp)
  · exact absurd h (by simp)

end Making

namespace SpaceSample

open Make.Sample (bare)

/-- A template that has another one made. -/
def having (template : String) : String :=
  "\x7b\"directives\":[\x7b\"directive\":\"run\",\"command\":\"forge make " ++ template ++
    "\"\x7d]\x7d"

/-- Two namespaces: `default` has `outer` and `inner`, `acme` has `mid` and `inner`. -/
def run : Run :=
  let files : FileTree := ⟨[(["t"], .dir), (["t", "default"], .dir),
    (["t", "default", "outer"], .dir),
    (["t", "default", "outer", "config.json"], .file (having "acme:mid").toUTF8),
    (["t", "default", "inner"], .dir),
    (["t", "default", "inner", "config.json"], .file "\x7b\x7d".toUTF8),
    (["t", "acme"], .dir), (["t", "acme", "mid"], .dir),
    (["t", "acme", "mid", "config.json"], .file (having "inner").toUTF8),
    (["t", "acme", "inner"], .dir),
    (["t", "acme", "inner", "config.json"], .file "\x7b\x7d".toUTF8)], []⟩
  ⟨Session.fresh ⟨"work"⟩, ⟨files, [], [], [], [], []⟩⟩

def first (template : String) : Making :=
  ⟨template, ⟨false, []⟩, run⟩

/-- The template that the last making of a chain loads. -/
def loaded? (m : Making) : Option ActiveTemplate :=
  (Make.prepare (CommandLine.withLevels bare 0) m.template m.options m.start).1.toOption.map
    LoadedTemplate.template

def mid : TemplateRef := ⟨some "acme", "mid"⟩

def inner : TemplateRef := ⟨none, "inner"⟩

/-- There is a template where a making asks for it. -/
def there (m : Making) (ref : TemplateRef) : Bool :=
  m.start.world.files.exists (m.meant bare ref).dir

theorem behind_mid : ∃ last ∈ (first "acme:mid").next? bare 0,
    last.template = "inner" ∧ there last inner = true ∧ (loaded? last).isSome = true := by
  decide +kernel

theorem behind_outer : ∃ m ∈ (first "outer").next? bare 1, ∃ last ∈ m.next? bare 0,
    m.template = "acme:mid" ∧ there m mid = true ∧
      last.template = "inner" ∧ there last inner = true ∧ there last ⟨some "acme", "inner"⟩ = true ∧
      last.start.session.template = some (.of bare.settings "acme" "mid") ∧
      loaded? last = some (.of bare.settings "default" "inner") := by
  decide +kernel

theorem finds_outer : (first "outer").Finds bare ⟨none, "outer"⟩ :=
  ⟨by rfl, by decide +kernel⟩

theorem finds_mid : (first "acme:mid").Finds bare mid :=
  ⟨by rfl, by decide +kernel⟩

end SpaceSample

open Make.Sample (bare) in
open SpaceSample in
/-- What a template of `acme` has made by a name alone is the template of `acme`. -/
theorem nested_reference_takes_session_space_sample :
    ∃ last loaded r, Chain bare 1 (first "acme:mid") [mid] 0 last ∧ last.template = "inner" ∧
      last.start.session.template = some (.of bare.settings "acme" "mid") ∧
      Make.prepare (CommandLine.withLevels bare 0) last.template last.options last.start =
        (.ok loaded, r) ∧
      loaded.template = .of bare.settings "acme" "inner" := by
  obtain ⟨last, hnext, hinner, hthere, hloaded⟩ := behind_mid
  obtain ⟨template, hloaded⟩ := Option.isSome_iff_exists.1 hloaded
  obtain ⟨loaded, hok, -⟩ := Option.map_eq_some_iff.1 hloaded
  have hprepare := Step.eq_ok_of_toOption hok
  have hchain : Chain bare 1 (first "acme:mid") [mid] 0 last :=
    .next .start finds_mid (Making.starts_of_next? hnext)
  obtain ⟨-, hactive, hall⟩ := nested_reference_takes_session_space hchain rfl
  have hfinds : last.Finds bare inner := ⟨by rw [hinner]; rfl, hthere⟩
  exact ⟨last, loaded, _, hchain, hinner, hactive [] _ rfl, hprepare,
    (hall inner).2 hfinds _ _ hprepare⟩

open Make.Sample (bare) in
open SpaceSample in
/-- When another template of `default` stands before it in the chain, a template of `acme` has the
template of `default` made by a name alone, though there is one in `acme`. -/
theorem nested_reference_leaves_active_space :
    (first "outer").start.session.template = none ∧ (first "outer").start.session.space = none ∧
    ∃ last, Chain bare 2 (first "outer") [⟨none, "outer"⟩, mid] 0 last ∧
      last.start.session.template = some (.of bare.settings "acme" "mid") ∧
      last.Finds bare inner ∧ there last ⟨some "acme", "inner"⟩ = true ∧
      loaded? last = some (.of bare.settings "default" "inner") := by
  obtain ⟨m, hm, last, hlast, hmid, hthere, hinner, hdefault, hacme, hactive, hloaded⟩ :=
    behind_outer
  have hchain : Chain bare 2 (first "outer") [⟨none, "outer"⟩, mid] 0 last :=
    .next (.next .start finds_outer (Making.starts_of_next? hm)) ⟨by rw [hmid]; rfl, hthere⟩
      (Making.starts_of_next? hlast)
  exact ⟨rfl, rfl, last, hchain, hactive, ⟨by rw [hinner]; rfl, hdefault⟩, hacme, hloaded⟩

end Stencil
