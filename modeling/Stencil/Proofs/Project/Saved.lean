import Mathlib.Data.List.Infix
import Stencil.Project
import Stencil.Proofs.Config.RoundTrip
import Stencil.Proofs.Files.Ancestors
import Stencil.Proofs.Prompt.Collect
import Stencil.Proofs.Prompt.Fill
import Stencil.Proofs.Prompt.Read
import Stencil.Proofs.Session.Files
import Stencil.Proofs.Session.Open
import Stencil.Proofs.Store.Merged

/-!
# Saved answers are not asked for again

Initialising a project leaves a file with the answers to its questions (`leaves_init`). This file
follows them into a session that is opened in the project. The answers are texts under keys of one
segment or two, so they are read as they were saved (`Leaves.savesWithin`). The project is found
from its root and from below it (`discover_below`). The session takes over what was saved, and
publishes two paths of its own (`open_of_load`); one of them has the key of the one answer that is
not saved, the project's root. So every key has a value in the session, and a value is all that is
needed for a question not to be asked.
-/

set_option autoImplicit false

namespace Stencil

open FileTree (Proper)

namespace Project

variable {services : Services} {config : ConfigFile} {workingDir : Path}

/-! ## 1. The questions -/

/-- The questions as they are read. -/
def specs (workingDir dirName : String) : List PromptSpec :=
  (prompts workingDir dirName).filterMap fun entry => (PromptSpec.ofValue entry).toOption

/-- The keys of the questions. -/
def names : List String :=
  (specs "" "").map (·.name)

theorem names_eq : names = ["project_root", "project_name", "vendor_name", "package_name",
    "text_domain", "namespace", "prefixes.long", "prefixes.short", "prefixes.function",
    "prefixes.constant", "prefixes.meta", "prefixes.slug"] := rfl

theorem nodup_names : names.Nodup := by
  rw [names_eq]
  decide

theorem names_specs (workingDir dirName : String) :
    Pipeline.names ⟨specs workingDir dirName⟩ = names := rfl

theorem ofValue_prompts (workingDir dirName : String) :
    (prompts workingDir dirName).map PromptSpec.ofValue = (specs workingDir dirName).map .ok := rfl

theorem isFallback_specs (workingDir dirName : String) :
    ∀ spec ∈ specs workingDir dirName, spec.isFallback = false := by
  have hall : (specs workingDir dirName).all (fun spec => !spec.isFallback) = true := rfl
  exact fun spec hspec => by simpa using List.all_eq_true.1 hall spec hspec

/-- The transforms of the questions do not depend on the directory. -/
theorem known_specs {transforms : Registry} {dir dirName : String}
    (h : ∀ spec ∈ specs dir dirName, spec.Known transforms) (dir' dirName' : String) :
    ∀ spec ∈ specs dir' dirName', spec.Known transforms := by
  have hsame : (specs dir' dirName').map (fun s => s.transform ++ s.transformDefault) =
      (specs dir dirName).map fun s => s.transform ++ s.transformDefault := rfl
  intro spec hspec name hname
  have hmem := List.mem_map_of_mem (f := fun s => s.transform ++ s.transformDefault) hspec
  rw [hsame] at hmem
  obtain ⟨other, hother, heq⟩ := List.mem_map.1 hmem
  exact h other hother name (by simpa only [heq] using hname)

theorem separate_names : Pipeline.Separate names := by
  unfold Pipeline.Separate
  rw [names_eq]
  decide +kernel

theorem listFree_empty : Pipeline.ListFreeFor names .empty := by
  refine Pipeline.listFreeFor_of_fits fun name _ before after _ _ x hx => ?_
  cases before with
  | nil => exact ⟨[], (Option.some.inj hx).symm⟩
  | cons s before => exact absurd hx (by simp [Value.at?, Value.child?, Store.toValue, Store.empty])

/-- The keys of the questions and the two paths of a session go different ways. -/
theorem head_segments {name : String} (h : name ∈ names) :
    (∃ key rest, segments name = key :: rest ∧ rest.length ≤ 1) ∧
      (segments name).head? ≠ some "working_dir" ∧
      (name ≠ "project_root" → (segments name).head? ≠ some "project_root") := by
  have hall : ∀ name ∈ names, (segments name).length ≤ 2 ∧
      (segments name).head? ≠ some "working_dir" ∧
      (name ≠ "project_root" → (segments name).head? ≠ some "project_root") := by
    rw [names_eq]
    decide +kernel
  obtain ⟨hlen, hheads⟩ := hall name h
  obtain ⟨key, rest, hsegments⟩ := List.exists_cons_of_ne_nil (Store.segments_ne_nil name)
  rw [hsegments, List.length_cons] at hlen
  exact ⟨⟨key, rest, hsegments, by omega⟩, hheads⟩

/-! ## 2. What initialising leaves -/

/-- Who answers all questions has been asked each of them once, and their answers are what is stored. -/
theorem askAll_eq_ok {answers : Store} {w w' : World}
    (h : askAll services workingDir w = (.ok answers, w')) :
    ∃ dir dirName asked given, (∀ spec ∈ specs dir dirName, spec.Known services.transforms) ∧
      Pipeline.Collected services.transforms services.operator ⟨specs dir dirName⟩ .empty w asked
        given answers w' ∧ asked.map (·.name) = names := by
  obtain ⟨p, ⟨d, w₁⟩, hread, hcollect⟩ := Step.bind_eq_ok (Pipeline.fill_eq_ok h)
  rw [Pipeline.onWorld_apply, Prod.mk.injEq, Prod.mk.injEq] at hread
  obtain ⟨hp, rfl, rfl⟩ := hread
  obtain ⟨hspecs, hknown⟩ := Pipeline.read_eq_ok (Prod.ext hp rfl)
  rw [ofValue_prompts] at hspecs
  have hp' : Pipeline.mk (specs workingDir.text (workingDir.fileName?.getD "")) = p :=
    congrArg Pipeline.mk (List.map_injective_iff.2 (fun _ _ => Except.ok.inj) hspecs)
  rw [← hp'] at hknown
  -- all types are known, so the world is asked in as it was
  rw [← hp', Pipeline.read_of_known (ofValue_prompts _ _) (isFallback_specs _ _) hknown] at hcollect
  have hall : ∀ name ∈ Pipeline.names ⟨specs workingDir.text (workingDir.fileName?.getD "")⟩,
      name ∈ names := by
    rw [names_specs]
    exact fun _ h => h
  obtain ⟨⟨asked, given, hcollected⟩, -⟩ :=
    Pipeline.collect_ok separate_names listFree_empty hall hcollect
  refine ⟨_, _, asked, given, hknown, hcollected, ?_⟩
  rw [hcollected.names_asked, names_specs, names_eq]
  decide +kernel

theorem saveAnswers_eq_ok {answers : Store} {w w' : World}
    (h : saveAnswers services workingDir answers w = (.ok config, w')) :
    config = { ConfigFile.project (rootOf workingDir answers) with
      data := answers.forget "project_root" } ∧
    ∃ w₁, config.save w = (.ok (), w₁) ∧ w'.files = w₁.files := by
  unfold saveAnswers at h
  obtain ⟨files, w₁, hfiles, h⟩ := Step.bind_eq_ok h
  obtain rfl : w = w₁ := congrArg Prod.snd hfiles
  dsimp only at h
  split at h
  · obtain ⟨_, _, hfail, -⟩ := Step.bind_eq_ok h
    exact absurd hfail (by simp [Step.fail])
  · obtain ⟨_, w₂, hsave, h⟩ := Step.bind_eq_ok h
    obtain ⟨_, w₃, htell, h⟩ := Step.bind_eq_ok h
    obtain ⟨hconfig, rfl⟩ := Prod.mk.inj h
    obtain rfl := Except.ok.inj hconfig
    exact ⟨rfl, w₂, hsave, (congrArg (fun r => r.2.files) htell).symm⟩

/-- What is there when a project has been initialised: a file with the answers at its root. -/
structure Leaves (services : Services) (config : ConfigFile) (r : Run) : Prop where
  known : ∀ dir dirName, ∀ spec ∈ specs dir dirName, spec.Known services.transforms
  answered : ∃ answers : Fields Value, Fields.keys answers = names ∧
    config.data = (Store.empty.putAll answers).forget "project_root"
  fileName : config.fileName = projectConfigName
  dir : config.dir.text = "" ∨ r.world.files.isDir config.dir
  file : r.world.files.read? config.path = some (ConfigFile.fileText config.data).toUTF8
  projectRoot : r.session.projectRoot = config.dir

/-- An initialisation that ends well has confirmed, asked and saved, one after the other in the world,
and then moved the root and taken the answers into the data. -/
theorem init_eq_ok {force : Bool} {r r' : Run} (h : init services force r = (.ok config, r')) :
    (∃ answers w₁ w₂,
      confirmReplacing services r.session.workingDir force r.world = (.ok (), w₁) ∧
      askAll services r.session.workingDir w₁ = (.ok answers, w₂) ∧
      saveAnswers services r.session.workingDir answers w₂ = (.ok config, r'.world)) ∧
    r'.session =
      { r.session with projectRoot := config.dir, data := r.session.data.merge config.data } := by
  unfold init at h
  obtain ⟨s, r₀, hs, h⟩ := Step.bind_eq_ok h
  obtain ⟨hsession, rfl⟩ := Prod.mk.inj hs
  obtain rfl : r.session = s := Except.ok.inj hsession
  obtain ⟨⟨⟩, r₁, hconfirm, h⟩ := Step.bind_eq_ok h
  obtain ⟨answers, r₂, hask, h⟩ := Step.bind_eq_ok h
  obtain ⟨saved, r₃, hsave, h⟩ := Step.bind_eq_ok h
  obtain ⟨_, r₄, hchange, h⟩ := Step.bind_eq_ok h
  obtain ⟨hconfig, rfl⟩ := Prod.mk.inj h
  obtain rfl : saved = config := Except.ok.inj hconfig
  obtain ⟨-, rfl⟩ := Prod.mk.inj hchange
  have hsaved := Job.world_of_outside hsave
  refine ⟨⟨answers, r₁.world, r₂.world, Job.world_of_outside hconfirm, Job.world_of_outside hask,
    hsaved⟩, ?_⟩
  have hsame : r₃.session = r.session := by
    rw [Job.session_of_outside hsave, Job.session_of_outside hask, Job.session_of_outside hconfirm]
  rw [← hsame]

theorem leaves_init {force : Bool} {r r' : Run} (h : init services force r = (.ok config, r')) :
    Leaves services config r' := by
  obtain ⟨⟨answers, w₁, w₂, -, hask, hsave⟩, hsession⟩ := init_eq_ok h
  obtain ⟨dir, dirName, asked, given, hknown, hcollected, hasked⟩ := askAll_eq_ok hask
  obtain ⟨hdata, w₃, hsaved, hfiles⟩ := saveAnswers_eq_ok hsave
  obtain ⟨hdir, hfile⟩ := ConfigFile.save_leaves hsaved
  have hkeys : Fields.keys given = names := hcollected.keys_answers.trans hasked
  refine ⟨known_specs hknown, ⟨given, hkeys, ?_⟩, ?_, hfiles ▸ hdir, hfiles ▸ hfile,
    congrArg Session.projectRoot hsession⟩
  · rw [hdata, hcollected.data_eq]
  · rw [hdata]
    rfl

/-! ## 3. The answers in the file -/

/-- The answers are texts. The project's root is not among them. -/
def TextAnswers (data : Store) : Prop :=
  ∀ name ∈ names, name ≠ "project_root" → ∀ v, data.get? name = some v → ∃ text, v = .str text

theorem mem_names {answers : Fields Value} (hkeys : Fields.keys answers = names)
    {pair : String × Value} (hpair : pair ∈ answers) : pair.1 ∈ names :=
  hkeys ▸ List.mem_map_of_mem hpair

/-- An answer is found under its key, also when the root is forgotten. -/
theorem get?_answer {answers : Fields Value} (hkeys : Fields.keys answers = names)
    {pair : String × Value} (hpair : pair ∈ answers) (hne : pair.1 ≠ "project_root") :
    ((Store.empty.putAll answers).forget "project_root").get? pair.1 = some pair.2 := by
  have hdistinct : Fields.Distinct answers := by
    rw [Fields.Distinct, hkeys]
    exact nodup_names
  have hother := (head_segments (mem_names hkeys hpair)).2.2 hne
  rw [Store.get?_forget_other (by decide) hother]
  exact Pipeline.get?_putAll_of_mem separate_names listFree_empty
    (fun _ hmem => mem_names hkeys hmem) hdistinct hpair

theorem Leaves.has {r : Run} (h : Leaves services config r) {name : String} (hname : name ∈ names)
    (hne : name ≠ "project_root") : config.data.has name = true := by
  obtain ⟨answers, hkeys, hdata⟩ := h.answered
  obtain ⟨pair, hpair, rfl⟩ := List.mem_map.1 (show name ∈ Fields.keys answers from hkeys ▸ hname)
  rw [Store.has, hdata, get?_answer hkeys hpair hne]
  rfl

/-- Answers that are texts make a store of two levels, which can be saved and merged. -/
theorem Leaves.savesWithin {r : Run} (h : Leaves services config r)
    (htexts : TextAnswers config.data) :
    config.data.toValue.SavesWithin 2 ∧ ∀ e ∈ config.data.fields, '.' ∉ e.1.toList := by
  obtain ⟨answers, hkeys, hdata⟩ := h.answered
  have hroot : segments "project_root" = ["project_root"] := by decide
  rw [hdata]
  refine Store.SavesBut.forget (n := 1) ?_ hroot
  refine Store.SavesBut.putAll (Store.savesBut_empty _ 1) fun pair hpair => ?_
  have hmem := mem_names hkeys hpair
  obtain ⟨key, rest, hsegments, hlen⟩ := (head_segments hmem).1
  refine ⟨key, rest, 1 - rest.length, hsegments, by omega, fun hkey => ?_⟩
  have hne : pair.1 ≠ "project_root" := by
    intro heq
    rw [heq, hroot] at hsegments
    exact hkey (List.cons.inj hsegments).1.symm
  obtain ⟨text, htext⟩ := htexts pair.1 hmem hne pair.2 (hdata ▸ get?_answer hkeys hpair hne)
  rw [htext]
  exact Value.savesWithin_str _ text

end Project

/-! ## 4. Where a project is found -/

namespace ConfigFile

variable {settings : Settings} {t : FileTree} {root : Path}

/-- Idle steps at the end of a path do not make it another directory. -/
theorem isHome_trim (hroot : root.text = "" ∨ t.isDir root)
    (hhome : isHome settings t root = false) : isHome settings t root.trim = false := by
  rw [← Bool.not_eq_true] at hhome ⊢
  refine fun htrim => hhome ?_
  rcases hroot with hempty | hdir
  · rwa [Path.trim_of_empty hempty] at htrim
  · rw [isHome_iff] at htrim ⊢
    refine htrim.imp (fun hsame => ?_) ?_
    · unfold Path.same at hsame ⊢
      rwa [Path.components_trim] at hsame
    · rintro ⟨here, home, hhere, hplaces⟩
      obtain ⟨loc, hloc, -⟩ := FileTree.isDir_iff.1 hdir
      rw [FileTree.locate_trim hloc, Except.ok.injEq] at hhere
      exact ⟨here, home, hhere ▸ hloc, hplaces⟩

/-- From a project's root, and from below it where no other project is nearer, the project is found;
by another text than the root's it may be, but not by another path. -/
theorem discover_below {content : ByteArray} {dirs : List String}
    (hroot : root.text = "" ∨ t.isDir root) (hhome : isHome settings t root = false)
    (hfile : t.read? (project root).path = some content) (hdirs : ∀ name ∈ dirs, Proper name)
    (hbetween : ∀ front rest, dirs = front ++ rest → front ≠ [] →
      isProject settings t (front.foldl Path.joinText root) = false) :
    ∃ found, discover settings t (dirs.foldl Path.joinText root) = project found ∧
      found.same root = true ∧ t.read? (project found).path = some content := by
  have hproject : ∀ found, isHome settings t found = false →
      t.read? (project found).path = some content → isProject settings t found = true := by
    intro found hnot hread
    have hthere : t.isFile (found.joinText projectConfigName) = true := by
      rw [FileTree.isFile, show t.read? (found.joinText projectConfigName) = _ from hread]
      rfl
    rw [isProject, hnot, hthere]
    rfl
  by_cases hnil : dirs = []
  · refine ⟨root, ?_, beq_self_eq_true _, hfile⟩
    obtain ⟨up, hup⟩ := FileTree.ancestors_eq_cons root
    rw [hnil, discover, List.foldl_nil, hup, List.find?_cons_of_pos (hproject root hhome hfile)]
    rfl
  · have hread : t.read? (project root.trim).path = some content :=
      FileTree.read?_trim_joinText proper_projectConfigName hfile
    refine ⟨root.trim, ?_, beq_iff_eq.2 (Path.components_trim root), hread⟩
    rw [discover, Path.find?_ancestors (fun name hname =>
      ⟨(hdirs name hname).not_idle, (hdirs name hname).no_slash⟩) hnil hbetween
      (hproject _ (isHome_trim hroot hhome) hread)]
    rfl

end ConfigFile

/-! ## 5. The session of an initialised project -/

namespace Session

theorem get?_publishPaths {s : Session} {path : String}
    (hroot : (segments path).head? ≠ some "project_root")
    (hdir : (segments path).head? ≠ some "working_dir") :
    s.publishPaths.data.get? path = s.data.get? path := by
  have hsegments : segments "project_root" = ["project_root"] ∧
      segments "working_dir" = ["working_dir"] := by decide
  unfold publishPaths
  rw [Store.get?_set_of_head_ne _ (by rw [hsegments.2]; exact hdir.symm),
    Store.get?_set_of_head_ne _ (by rw [hsegments.1]; exact hroot.symm)]

/-- A session has what the project has saved, apart from the two paths that it publishes itself. -/
theorem open_of_load {settings : Settings} {t : FileTree} {start found : Path} {data : Store}
    (hdiscover : ConfigFile.discover settings t start = ConfigFile.project found)
    (hload : (ConfigFile.project found).load t = .ok data)
    (hdistinct : Fields.Distinct data.fields) (hdot : ∀ e ∈ data.fields, '.' ∉ e.1.toList) :
    ∃ s, Session.open settings t start = .ok s ∧ s.projectRoot = found ∧
      s.data.has "project_root" = true ∧
      ∀ path, data.has path = true → (segments path).head? ≠ some "project_root" →
        (segments path).head? ≠ some "working_dir" → s.data.get? path = data.get? path := by
  let s : Session := { fresh start with
    projectRoot := found, data := (fresh start).data.merge data }
  refine ⟨s.publishPaths, ?_, rfl, ?_, fun path hpath hroot hdir => ?_⟩
  · unfold Session.open
    dsimp only
    rw [hdiscover, hload]
    rfl
  · show ((s.data.set "project_root" _).set "working_dir" _).has "project_root" = true
    rw [Store.has, Store.get?_set_of_head_ne _ (by decide), Store.get?_set]
    rfl
  · rw [get?_publishPaths hroot hdir]
    exact Store.get?_merge ⟨hdistinct, List.forall_mem_map.2 hdot⟩ hpath

end Session

namespace Project

/-- **Saved answers are not asked for again.** -/
theorem open_after_init {services : Services} {force : Bool} {r r' : Run} {config : ConfigFile}
    (h : init services force r = (.ok config, r')) (htexts : TextAnswers config.data)
    (hhome : ConfigFile.isHome services.settings r'.world.files config.dir = false)
    {dirs : List String} (hdirs : ∀ name ∈ dirs, Proper name)
    (hbetween : ∀ front rest, dirs = front ++ rest → front ≠ [] →
      ConfigFile.isProject services.settings r'.world.files
        (front.foldl Path.joinText config.dir) = false) :
    r'.session.projectRoot = config.dir ∧
    ∃ s, Session.open services.settings r'.world.files (dirs.foldl Path.joinText config.dir) =
        .ok s ∧
      s.projectRoot.same config.dir = true ∧
      (∀ name ∈ names, s.data.has name = true ∧
        (name ≠ "project_root" → s.data.get? name = config.data.get? name)) ∧
      ∀ dir dirName w, ∃ p, Pipeline.read services.transforms (prompts dir dirName) w = (.ok p, w) ∧
        p.names = names ∧
        ∀ operator, p.collect services.transforms operator (s.data, w) = (.ok (), (s.data, w)) := by
  have hleaves := leaves_init h
  obtain ⟨hsaves, hdot⟩ := hleaves.savesWithin htexts
  have hread : r'.world.files.read? (ConfigFile.project config.dir).path =
      some (ConfigFile.fileText config.data).toUTF8 := by
    rw [← hleaves.file, ConfigFile.path, ConfigFile.path, hleaves.fileName]
    rfl
  obtain ⟨found, hdiscover, hsame, hfound⟩ :=
    ConfigFile.discover_below hleaves.dir hhome hread hdirs hbetween
  have hload : (ConfigFile.project found).load r'.world.files = .ok config.data :=
    ConfigFile.load_of_parse? hfound
      (ConfigFile.parse?_fileText hsaves.1 (Nat.le_trans hsaves.2 (by decide)))
  obtain ⟨s, hopen, rfl, hroot, hkept⟩ :=
    Session.open_of_load hdiscover hload (Value.isWhole_map_iff.1 hsaves.1).1 hdot
  have hnames : ∀ name ∈ names, s.data.has name = true ∧
      (name ≠ "project_root" → s.data.get? name = config.data.get? name) := by
    intro name hname
    obtain ⟨-, hdir, hhead⟩ := head_segments hname
    by_cases heq : name = "project_root"
    · rw [heq]
      exact ⟨hroot, fun hne => absurd rfl hne⟩
    · have hthere := hleaves.has hname heq
      have hsaved := hkept name hthere (hhead heq) hdir
      exact ⟨by rw [Store.has, hsaved]; exact hthere, fun _ => hsaved⟩
  refine ⟨hleaves.projectRoot, s, hopen, hsame, hnames, fun dir dirName w => ?_⟩
  refine ⟨⟨specs dir dirName⟩, ?_, names_specs dir dirName, fun operator => ?_⟩
  · exact Pipeline.read_of_known (ofValue_prompts dir dirName) (isFallback_specs dir dirName)
      (hleaves.known dir dirName) w
  · refine Pipeline.collect_of_all_have w fun name hname => ?_
    rw [names_specs] at hname
    exact (hnames name hname).1

namespace Sample

def services : Services :=
  ⟨.ofHome ⟨"/home"⟩, .builtins, .scripted, none, fun _ _ t => ⟨.code 0, [], t⟩, fun _ _ _ => none,
    none⟩

/-- Someone who names the project, puts it into a directory of its own and takes the defaults for
the rest. -/
def world : World :=
  ⟨⟨[(["home"], .dir), (["work"], .dir)], ["work"]⟩, [], [],
    [("project_root", [.value (.str "site")]), ("project_name", [.value (.str "my site")]),
      ("vendor_name", [.value (.str "acme")])], [], []⟩

def left : Except Fault ConfigFile × Run :=
  init services false ⟨Session.fresh ⟨"/work/"⟩, world⟩

/-- What has been saved. -/
def config : ConfigFile :=
  left.1.toOption.getD (.project ⟨""⟩)

/-- What the run and its file come to, in one evaluation. -/
theorem left_values : left.1.toOption.isSome = true ∧ config.dir = ⟨"/work/site"⟩ ∧
    config.data.getStr? "prefixes.short" = some "MS" ∧
    (∀ name ∈ names, name ≠ "project_root" → (config.data.getStr? name).isSome = true) ∧
    ConfigFile.isHome services.settings left.2.world.files config.dir = false ∧
    ∀ front ∈ ["src", "lib"].inits, front ≠ [] →
      ConfigFile.isProject services.settings left.2.world.files
        (front.foldl Path.joinText config.dir) = false := by
  decide +kernel

theorem left_eq : left = (.ok config, left.2) := by
  obtain ⟨c, hc⟩ := Option.isSome_iff_exists.1 left_values.1
  refine Step.eq_ok_of_toOption ?_
  rw [config, hc]
  rfl

theorem textAnswers : TextAnswers config.data := by
  obtain ⟨-, -, -, hall, -⟩ := left_values
  intro name hname hne v hv
  obtain ⟨text, htext⟩ := Option.isSome_iff_exists.1 (hall name hname hne)
  rw [Store.get?_of_getStr? htext, Option.some.injEq] at hv
  exact ⟨text, hv.symm⟩

end Sample

open Sample in
/-- Two directories below the project, which need not be there, its short prefix is known. -/
theorem open_after_init_sample :
    left = (.ok config, left.2) ∧ TextAnswers config.data ∧
    ∃ s, Session.open services.settings left.2.world.files ⟨"/work/site/src/lib"⟩ = .ok s ∧
      s.projectRoot.same ⟨"/work/site"⟩ = true ∧
      s.data.get? "prefixes.short" = some (.str "MS") := by
  have hdirs : ∀ name ∈ ["src", "lib"], Proper name := by decide
  obtain ⟨-, hdir, hshort, -, hhome, hbetween⟩ := left_values
  obtain ⟨-, s, hopen, hroot, hnames, -⟩ := open_after_init left_eq textAnswers hhome hdirs
    fun front rest hsplit => hbetween front ((List.mem_inits _ _).2 ⟨rest, hsplit.symm⟩)
  rw [hdir] at hopen hroot
  refine ⟨left_eq, textAnswers, s, hopen, hroot, ?_⟩
  rw [(hnames "prefixes.short" (by simp [names_eq])).2 (by decide)]
  exact Store.get?_of_getStr? hshort

end Project

end Stencil
