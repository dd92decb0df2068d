import Stencil.Directive.Execute
import Stencil.Proofs.Session.Sample
import Stencil.Proofs.Step
import Stencil.Script.Run

/-!
# What a script leaves behind is taken over as a whole, or nearly

An execute directive changes the session only at its end, when it takes over what the script has left
in its variables (`adopt_apply`):

    data      gone or a map        messages      gone or a list

Where the data is of another kind, nothing is taken over. Where the messages are, the data has been
taken over already, and the directive fails with that half done. Every other failure, that of the
engine included, leaves the run as it was (`perform_error_half_done`). The engine is any function from
the variables at the start to a failure or the variables at the end.
-/

set_option autoImplicit false

namespace Stencil.ExecuteDirective

/-! ## 1. Taking over -/

/-- The data of a session after a script, unless what the script left for it is no map. -/
def dataAfter (s : Session) : Leftover → Option Store
  | .gone => some s.data
  | .value (.map fields) => some (s.data.replaceOrdered fields)
  | _ => none

/-- The messages of a session after a script, unless what the script left for them is no list. -/
def messagesAfter (s : Session) : Leftover → Option (List Message)
  | .gone => some s.messages
  | .value (.list items) => some (s.messages ++ items.map Message.ofValue)
  | _ => none

theorem adoptData_apply (file : String) (result : ScriptResult) (r : Run) :
    adoptData file result r =
      match dataAfter r.session result.data with
      | none => (.error (.script file .dataNotMap), r)
      | some data => (.ok (), { r with session := { r.session with data := data } }) := by
  unfold adoptData dataAfter
  cases result.data with
  | gone => rfl
  | strange => rfl
  | value v =>
    cases v with
    | map fields => rfl
    | _ => rfl

theorem adoptMessages_apply (file : String) (result : ScriptResult) (r : Run) :
    adoptMessages file result r =
      match messagesAfter r.session result.messages with
      | none => (.error (.script file .messagesNotList), r)
      | some messages => (.ok (), { r with session := { r.session with messages := messages } }) := by
  unfold adoptMessages messagesAfter
  cases result.messages with
  | gone => rfl
  | strange => rfl
  | value v =>
    cases v with
    | list items => rfl
    | _ => rfl

/-- The data is taken over first, and the messages after it. -/
theorem adopt_apply (file : String) (result : ScriptResult) (r : Run) :
    adopt file result r =
      match dataAfter r.session result.data, messagesAfter r.session result.messages with
      | none, _ => (.error (.script file .dataNotMap), r)
      | some data, none =>
        (.error (.script file .messagesNotList),
          { r with session := { r.session with data := data } })
      | some data, some messages =>
        (.ok (), { r with session := { r.session with data := data, messages := messages } }) := by
  have hfirst := adoptData_apply file result r
  cases hdata : dataAfter r.session result.data with
  | none =>
    rw [hdata] at hfirst
    exact Step.bind_of_error hfirst
  | some data =>
    rw [hdata] at hfirst
    have hsecond := adoptMessages_apply file result
      { r with session := { r.session with data := data } }
    -- what messages there are does not depend on the data
    have hsame : messagesAfter { r.session with data := data } result.messages =
        messagesAfter r.session result.messages := by
      unfold messagesAfter
      rfl
    rw [hsame] at hsecond
    cases hmessages : messagesAfter r.session result.messages with
    | none =>
      rw [hmessages] at hsecond
      exact (Step.bind_of_ok hfirst).trans hsecond
    | some messages =>
      rw [hmessages] at hsecond
      exact (Step.bind_of_ok hfirst).trans hsecond

/-! ## 2. The run of a directive -/

/-- The path of the script that a directive names in a run. -/
def Names (d : ExecuteDirective) (services : Services) (r : Run) (path : Path) : Prop :=
  ∃ dir file, r.session.templateDir = .ok dir ∧
    Render.text (services.context r) d.file = .ok file ∧ path = dir.joinText file

theorem Names.eq {d : ExecuteDirective} {services : Services} {r : Run} {p q : Path}
    (hp : d.Names services r p) (hq : d.Names services r q) : p = q := by
  obtain ⟨dir, file, hdir, hfile, rfl⟩ := hp
  obtain ⟨dir', file', hdir', hfile', rfl⟩ := hq
  rw [hdir] at hdir'
  rw [hfile] at hfile'
  rw [Except.ok.inj hdir', Except.ok.inj hfile']

/-- What the engine says to the script at a path, if there is one. -/
def reply? (services : Services) (r : Run) (path : Path) : Option ScriptResult :=
  (r.world.files.read? path).bind fun content =>
    services.scripts (fun name => r.world.files.exists (r.session.workingDir.joinText name))
      (input r.session) (Text.decodeLossy content)

section

variable {d : ExecuteDirective} {services : Services} {r : Run} {path : Path}

theorem runScript_of_reply {result : ScriptResult} (h : reply? services r path = some result) :
    runScript services path r = adopt path.text result r := by
  obtain ⟨content, hread, hscript⟩ := Option.bind_eq_some_iff.1 h
  have hstep : Job.outside (World.read path) r = (.ok content, r) := by
    unfold Job.outside Step.on
    rw [World.read_of_some hread]
  rw [runScript, Step.bind_of_ok hstep, Step.bind_of_ok (show Step.get r = (.ok r, r) from rfl),
    hscript]

theorem runScript_of_no_reply (h : reply? services r path = none) :
    ∃ e, runScript services path r = (.error e, r) := by
  cases hread : r.world.files.read? path with
  | none =>
    have hstep : Job.outside (World.read path) r = (.error (.io s!"reading {path.text}"), r) := by
      unfold Job.outside Step.on
      rw [World.read_of_none hread]
    exact ⟨_, Step.bind_of_error hstep⟩
  | some content =>
    have hstep : Job.outside (World.read path) r = (.ok content, r) := by
      unfold Job.outside Step.on
      rw [World.read_of_some hread]
    rw [reply?, hread, Option.bind_some] at h
    rw [runScript, Step.bind_of_ok hstep, Step.bind_of_ok (show Step.get r = (.ok r, r) from rfl),
      h]
    exact ⟨_, rfl⟩

theorem perform_of_names (h : d.Names services r path) :
    d.perform services r =
      if r.world.files.exists path then runScript services path r
      else (.error (.fileMissing path), r) := by
  obtain ⟨dir, file, hdir, hfile, rfl⟩ := h
  have hconsult : Job.consult Session.templateDir r = (.ok dir, r) := by
    rw [Job.consult, hdir]
  have hrender : services.render d.file r = (.ok file, r) := by
    rw [Services.render, hfile]
  rw [perform, Step.bind_of_ok hconsult, Step.bind_of_ok hrender,
    Step.bind_of_ok (show Job.outside (World.exists (dir.joinText file)) r =
      (.ok (r.world.files.exists (dir.joinText file)), r) from rfl)]
  split
  · rfl
  · rfl

end

theorem names_or_error (d : ExecuteDirective) (services : Services) (r : Run) :
    (∃ path, d.Names services r path) ∨ ∃ e, d.perform services r = (.error e, r) := by
  cases hdir : r.session.templateDir with
  | error e =>
    have hconsult : Job.consult Session.templateDir r = (.error e, r) := by
      rw [Job.consult, hdir]
    exact Or.inr ⟨e, Step.bind_of_error hconsult⟩
  | ok dir =>
    cases hfile : Render.text (services.context r) d.file with
    | error e =>
      have hconsult : Job.consult Session.templateDir r = (.ok dir, r) := by
        rw [Job.consult, hdir]
      have hrender : services.render d.file r = (.error e, r) := by
        rw [Services.render, hfile]
      exact Or.inr ⟨e, (Step.bind_of_ok hconsult).trans (Step.bind_of_error hrender)⟩
    | ok file => exact Or.inl ⟨_, dir, file, hdir, hfile, rfl⟩

/-- A directive fails with nothing done, or its script has come to an end and is taken over. -/
theorem perform_cases (d : ExecuteDirective) (services : Services) (r : Run) :
    (∃ e, d.perform services r = (.error e, r)) ∨
      ∃ path result, d.Names services r path ∧ reply? services r path = some result ∧
        d.perform services r = adopt path.text result r := by
  rcases d.names_or_error services r with ⟨path, hnames⟩ | hfails
  · rw [perform_of_names hnames]
    split
    · cases hreply : reply? services r path with
      | none => exact Or.inl (runScript_of_no_reply hreply)
      | some result => exact Or.inr ⟨path, result, hnames, hreply, runScript_of_reply hreply⟩
    · exact Or.inl ⟨_, rfl⟩
  · exact Or.inl hfails

/-! ## 3. Failures -/

/-- **A directive that fails leaves the run as it was**, for every engine, but for one case: the script
left data that can be taken over and messages that cannot. Then the data has been taken over. -/
theorem perform_error_half_done (d : ExecuteDirective) (services : Services) {r r' : Run} {e : Fault}
    (h : d.perform services r = (.error e, r')) :
    r' = r ∨ ∃ path result data, d.Names services r path ∧ reply? services r path = some result ∧
      dataAfter r.session result.data = some data ∧
      messagesAfter r.session result.messages = none ∧
      e = .script path.text .messagesNotList ∧
      r' = { r with session := { r.session with data := data } } := by
  rcases d.perform_cases services r with ⟨e', hfails⟩ | ⟨path, result, hnames, hreply, hadopts⟩
  · rw [hfails] at h
    exact Or.inl (Prod.mk.inj h).2.symm
  · rw [hadopts, adopt_apply] at h
    cases hdata : dataAfter r.session result.data with
    | none =>
      rw [hdata] at h
      exact Or.inl (Prod.mk.inj h).2.symm
    | some data =>
      cases hmessages : messagesAfter r.session result.messages with
      | none =>
        rw [hdata, hmessages] at h
        obtain ⟨he, hr'⟩ := Prod.mk.inj h
        exact Or.inr ⟨path, result, data, hnames, hreply, hdata, hmessages,
          (Except.error.inj he).symm, hr'.symm⟩
      | some messages =>
        rw [hdata, hmessages] at h
        exact absurd (Prod.mk.inj h).1 (by simp)

namespace Sample

def services : Services :=
  { Make.Sample.bare with scripts := Script.run }

/-- A run with some data whose template has a script in it. -/
def run (data : Fields Value) (script : String) : Run :=
  ⟨⟨⟨data⟩, [], some ⟨"default", "t", ⟨"t"⟩⟩, none, ⟨"work"⟩, ⟨"work"⟩, false⟩,
    ⟨⟨[(["t"], .dir), (["t", "s.rhai"], .file script.toUTF8), (["work"], .dir)], []⟩,
      [], [], [], [], []⟩⟩

def directive : ExecuteDirective :=
  ⟨"s.rhai"⟩

variable {data : Fields Value} {script : String}

theorem names_directive
    (h : (Render.text (services.context (run data script)) "s.rhai").toOption = some "s.rhai") :
    directive.Names services (run data script) ⟨"t/s.rhai"⟩ := by
  have hpath : Path.joinText ⟨"t"⟩ "s.rhai" = ⟨"t/s.rhai"⟩ := by decide
  cases htext : Render.text (services.context (run data script)) "s.rhai" with
  | error e =>
    rw [htext] at h
    exact absurd h (by simp [Except.toOption])
  | ok text =>
    rw [htext] at h
    obtain rfl := Option.some.inj h
    exact ⟨⟨"t"⟩, "s.rhai", rfl, htext, hpath.symm⟩

/-- What the engine leaves behind, once the data by key is known. -/
theorem reply?_run {given : Value} (hgiven : (Value.map data).sorted = given) :
    reply? services (run data script) ⟨"t/s.rhai"⟩ =
      ((run data script).world.files.read? ⟨"t/s.rhai"⟩).bind fun content =>
        Script.run
          (fun name => (run data script).world.files.exists (Path.joinText ⟨"work"⟩ name))
          ⟨given, "t", "work", "work"⟩ (Text.decodeLossy content) := by
  rw [← hgiven]
  rfl

/-- The end of a script decides what becomes of the directive. -/
theorem perform_run (data : Fields Value) (script : String) {given : Value} {P : ScriptResult → Bool}
    (hgiven : (Value.map data).sorted = given)
    (htext : (Render.text (services.context (run data script)) "s.rhai").toOption =
      some "s.rhai")
    (hthere : (run data script).world.files.exists ⟨"t/s.rhai"⟩)
    (hreply : (((run data script).world.files.read? ⟨"t/s.rhai"⟩).bind fun content =>
      Script.run
        (fun name => (run data script).world.files.exists (Path.joinText ⟨"work"⟩ name))
        ⟨given, "t", "work", "work"⟩ (Text.decodeLossy content)).any P = true) :
    ∃ result, reply? services (run data script) ⟨"t/s.rhai"⟩ = some result ∧ P result ∧
      directive.perform services (run data script) =
        adopt "t/s.rhai" result (run data script) := by
  rw [← reply?_run hgiven] at hreply
  cases hresult : reply? services (run data script) ⟨"t/s.rhai"⟩ with
  | none =>
    rw [hresult] at hreply
    exact absurd hreply (by simp)
  | some result =>
    rw [hresult, Option.any_some] at hreply
    refine ⟨result, rfl, hreply, ?_⟩
    rw [perform_of_names (names_directive htext), if_pos hthere, runScript_of_reply hresult]

theorem sorted_nil : (Value.map []).sorted = .map [] := by
  unfold Value.sorted sortedFields Fields.sorted
  rw [List.mergeSort_nil]

end Sample

/-- Data that is no map is refused before anything is taken over. -/
theorem perform_error_half_done_sample :
    ∃ r', Sample.directive.perform Sample.services
          (Sample.run [] "messages.push(1); data = 5;") =
        (.error (.script "t/s.rhai" .dataNotMap), r') ∧
      r' = Sample.run [] "messages.push(1); data = 5;" := by
  obtain ⟨result, -, hresult, hrun⟩ := Sample.perform_run [] "messages.push(1); data = 5;"
    (P := fun result => (dataAfter (Sample.run [] "").session result.data).isNone)
    Sample.sorted_nil (by decide +kernel) (by decide) (by decide +kernel)
  have hdata : dataAfter (Sample.run [] "messages.push(1); data = 5;").session result.data =
      none := Option.isNone_iff_eq_none.1 hresult
  rw [adopt_apply, hdata] at hrun
  refine ⟨_, hrun, ?_⟩
  rcases perform_error_half_done Sample.directive Sample.services hrun with
    hsame | ⟨_, _, _, -, -, -, -, he, -⟩
  · exact hsame
  · exact absurd he (by simp)

/-- The data that a script has changed stays changed when its messages are refused. -/
theorem refused_messages_leave_data :
    ∃ r', Sample.directive.perform Sample.services
          (Sample.run [] "data.x = 1; messages = 5;") =
        (.error (.script "t/s.rhai" .messagesNotList), r') ∧
      (Sample.run [] "data.x = 1; messages = 5;").session.data.has "x" = false ∧
      r'.session.data.has "x" = true := by
  obtain ⟨result, -, hresult, hrun⟩ := Sample.perform_run [] "data.x = 1; messages = 5;"
    (P := fun result => (dataAfter (Sample.run [] "").session result.data).any (·.has "x") &&
      (messagesAfter (Sample.run [] "").session result.messages).isNone)
    Sample.sorted_nil (by decide +kernel) (by decide) (by decide +kernel)
  obtain ⟨hdata, hmessages⟩ := Bool.and_eq_true_iff.1 hresult
  cases hafter : dataAfter (Sample.run [] "").session result.data with
  | none =>
    rw [hafter] at hdata
    exact absurd hdata (by simp)
  | some data =>
    rw [hafter, Option.any_some] at hdata
    have hdata' : dataAfter (Sample.run [] "data.x = 1; messages = 5;").session result.data =
        some data := hafter
    have hmessages' : messagesAfter (Sample.run [] "data.x = 1; messages = 5;").session
        result.messages = none := Option.isNone_iff_eq_none.1 hmessages
    rw [adopt_apply, hdata', hmessages'] at hrun
    exact ⟨_, hrun, by decide, hdata⟩

end Stencil.ExecuteDirective
