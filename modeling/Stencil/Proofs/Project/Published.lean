import Stencil.Proofs.Project.Saved

/-!
# The paths that a session publishes

A session knows its working directory and its project's root twice: they are fields, and they are in
the data, where texts find them. `Published` says that the two copies agree. A session is opened
that way (`published_fresh`, `published_open`).

Initialising a project moves the root to the one that was answered and takes the answers into the
data. The keys of the answers lie beside the two published ones, so the merge leaves both as they
were (`Leaves.get?_merge`). For the working directory that is right; for the root it means that
the data have the text of the old one. So the copies agree after an initialisation exactly when the
root has not moved (`published_after_init`), and they come apart as soon as another one is answered
(`init_moves_root_unpublished`).
-/

set_option autoImplicit false

namespace Stencil

namespace Store

/-! ## 1. Keys at the top -/

/-- A key at the top after writes is an old one, or one that a written path starts with. -/
theorem head_of_mem_putAll {s : Store} {entries : Fields Value} {e : String × Value}
    (h : e ∈ (s.putAll entries).fields) :
    e ∈ s.fields ∨ ∃ entry ∈ entries, (segments entry.1).head? = some e.1 := by
  induction entries generalizing s with
  | nil => exact Or.inl h
  | cons entry rest ih =>
    rcases ih (s := s.set entry.1 entry.2) h with hset | ⟨later, hlater, hhead⟩
    · obtain ⟨key, below, hpath⟩ := List.exists_cons_of_ne_nil (segments_ne_nil entry.1)
      rw [fields_set hpath] at hset
      rcases Fields.mem_alter hset with hold | rfl
      · exact Or.inl hold
      · exact Or.inr ⟨entry, List.mem_cons_self, by rw [hpath]; rfl⟩
    · exact Or.inr ⟨later, List.mem_cons_of_mem entry hlater, hhead⟩

theorem segments_of_head {path key : String} (h : (segments path).head? = some key) :
    segments key = [key] := by
  obtain ⟨rest, hpath⟩ := List.head?_eq_some_iff.1 h
  exact Text.split_of_not_mem (no_dot_of_segments hpath)

end Store

namespace Session

/-! ## 2. The two copies -/

/-- The data have the paths of the session. -/
structure Published (s : Session) : Prop where
  root : s.data.get? "project_root" = some (.str s.projectRoot.text)
  working : s.data.get? "working_dir" = some (.str s.workingDir.text)

theorem published_publishPaths (s : Session) : s.publishPaths.Published := by
  refine ⟨?_, Store.get?_set _ _ _⟩
  show ((s.data.set "project_root" _).set "working_dir" _).get? "project_root" = _
  rw [Store.get?_set_of_head_ne _ (by decide), Store.get?_set]
  rfl

theorem published_fresh (workingDir : Path) : (fresh workingDir).Published :=
  published_publishPaths _

theorem published_open {settings : Settings} {files : FileTree} {workingDir : Path} {s : Session}
    (h : Session.open settings files workingDir = .ok s) : s.Published := by
  unfold Session.open at h
  dsimp only at h
  split at h
  · exact absurd h (by simp)
  · rw [← Except.ok.inj h]
    exact published_publishPaths _

/-- A placeholder for the project's root shows what the data have for it. -/
theorem render_project_root {services : Services} {r : Run} {root : String}
    (h : r.session.data.get? "project_root" = some (.str root)) :
    Render.text (services.context r) "\x7b\x7b project_root \x7d\x7d" = .ok root := by
  have hsegments : Render.segments "\x7b\x7b project_root \x7d\x7d".toList =
      [.literal [], .placeholder false " project_root ".toList, .literal []] := by decide +kernel
  have hvalue : (Render.expression " project_root ".toList).evaluate (services.context r) =
      .ok root := by
    show (Except.ok ((r.session.data.get? "project_root").getD .null)).map Value.display = .ok root
    rw [h]
    rfl
  unfold Render.text Render.chars
  rw [hsegments]
  simp only [Render.renderSegments, Render.Segment.evaluate, hvalue, Except.map, List.nil_append,
    List.append_nil, String.ofList_toList]

end Session

namespace Project

variable {services : Services} {config : ConfigFile}

/-! ## 3. What initialising changes -/

/-- The keys of saved answers are not those of the published paths. -/
theorem Leaves.apart {r : Run} (h : Leaves services config r) :
    ∀ e ∈ config.data.fields, segments e.1 = [e.1] ∧ e.1 ≠ "working_dir" ∧ e.1 ≠ "project_root" := by
  obtain ⟨answers, hkeys, hdata⟩ := h.answered
  have hself : segments "project_root" = ["project_root"] := by decide
  intro e he
  rw [hdata, Store.fields_forget hself] at he
  obtain ⟨hmem, hroot⟩ := List.mem_filter.1 he
  rcases Store.head_of_mem_putAll hmem with hnone | ⟨answer, hanswer, hhead⟩
  · exact absurd hnone List.not_mem_nil
  · refine ⟨Store.segments_of_head hhead, ?_, by simpa using hroot⟩
    rintro hdir
    rw [hdir] at hhead
    exact (head_segments (mem_names hkeys hanswer)).2.1 hhead

/-- Taking saved answers into a session leaves what it has published. -/
theorem Leaves.get?_merge {r : Run} (h : Leaves services config r) (data : Store) {key : String}
    (hkey : key = "working_dir" ∨ key = "project_root") :
    (data.merge config.data).get? key = data.get? key := by
  have hself : segments key = [key] := by
    rcases hkey with rfl | rfl
    · decide
    · decide
  refine Store.get?_putAll_of_head_ne fun e he => ?_
  obtain ⟨hsegments, hdir, hroot⟩ := h.apart e he
  rw [hsegments, hself, List.head?_cons, List.head?_cons, ne_eq, Option.some.injEq]
  rcases hkey with rfl | rfl
  · exact hdir
  · exact hroot

/-- A sequence that starts outside the session and fails has not touched it, or it has failed behind
that start. -/
theorem session_of_outside_bind {α β : Type} {m : Act α} {f : α → Job β} {r r' : Run} {e : Fault}
    (h : (Job.outside m >>= f) r = (.error e, r')) :
    r'.session = r.session ∨ ∃ a r₁, r₁.session = r.session ∧ f a r₁ = (.error e, r') := by
  rcases Step.bind_eq_error h with hfail | ⟨a, r₁, hm, hthen⟩
  · exact Or.inl (Job.session_of_outside hfail)
  · exact Or.inr ⟨a, r₁, Job.session_of_outside hm, hthen⟩

/-- An initialisation that fails leaves the session. -/
theorem session_of_init_error {force : Bool} {r r' : Run} {e : Fault}
    (h : init services force r = (.error e, r')) : r'.session = r.session := by
  unfold init at h
  obtain ⟨s, r₀, hs, h⟩ := (Step.bind_eq_error h).resolve_left fun hfail =>
    absurd (Prod.mk.inj hfail).1 (by simp)
  obtain ⟨-, rfl⟩ := Prod.mk.inj hs
  rcases session_of_outside_bind h with hsame | ⟨_, r₁, h₁, h⟩
  · exact hsame
  rcases session_of_outside_bind h with hsame | ⟨_, r₂, h₂, h⟩
  · exact hsame.trans h₁
  rcases session_of_outside_bind h with hsame | ⟨saved, r₃, h₃, h⟩
  · exact hsame.trans (h₂.trans h₁)
  -- nothing behind the saving can fail
  · exact absurd (Prod.mk.inj h).1 (by simp)

/-- What the data have for the published paths stays. -/
theorem get?_of_init_ok {force : Bool} {r r' : Run} (h : init services force r = (.ok config, r'))
    {key : String} (hkey : key = "working_dir" ∨ key = "project_root") :
    r'.session.data.get? key = r.session.data.get? key := by
  rw [(init_eq_ok h).2]
  exact (leaves_init h).get?_merge r.session.data hkey

/-- **Initialising publishes no root.** However an initialisation of a session with published paths
ends, the working directory is published as before, and a placeholder for the project's root shows the
root there was. Relative paths start from the root there is, the one of the configuration that was
saved; so both copies agree in the end exactly when the root is written as before. -/
theorem published_after_init {services : Services} {force : Bool} {r r' : Run}
    {x : Except Fault ConfigFile} (hpub : r.session.Published)
    (h : init services force r = (x, r')) :
    (∀ e, x = .error e → r'.session = r.session) ∧
      (∀ config, x = .ok config → r'.session.projectRoot = config.dir) ∧
      r'.session.workingDir = r.session.workingDir ∧
      r'.session.data.get? "working_dir" = some (.str r'.session.workingDir.text) ∧
      Render.text (services.context r') "\x7b\x7b project_root \x7d\x7d" =
        .ok r.session.projectRoot.text ∧
      r'.session.baseDir .projectRoot = .ok r'.session.projectRoot ∧
      (r'.session.Published ↔ r'.session.projectRoot.text = r.session.projectRoot.text) := by
  have hkept : (∀ e, x = .error e → r'.session = r.session) ∧
      (∀ config, x = .ok config → r'.session.projectRoot = config.dir) ∧
      r'.session.workingDir = r.session.workingDir ∧
      ∀ key, key = "working_dir" ∨ key = "project_root" →
        r'.session.data.get? key = r.session.data.get? key := by
    cases x with
    | error e =>
      have hsame := session_of_init_error h
      rw [hsame]
      exact ⟨fun _ _ => rfl, fun _ hx => absurd hx (by simp), rfl, fun _ _ => rfl⟩
    | ok config =>
      refine ⟨fun _ hx => absurd hx (by simp), fun _ hx => ?_, ?_, fun key => get?_of_init_ok h⟩
      · rw [← Except.ok.inj hx, (init_eq_ok h).2]
      · rw [(init_eq_ok h).2]
  obtain ⟨herror, hok, hworking, hdata⟩ := hkept
  have hdir : r'.session.data.get? "working_dir" = some (.str r'.session.workingDir.text) := by
    rw [hdata _ (Or.inl rfl), hworking]
    exact hpub.working
  have hroot : r'.session.data.get? "project_root" = some (.str r.session.projectRoot.text) := by
    rw [hdata _ (Or.inr rfl)]
    exact hpub.root
  refine ⟨herror, hok, hworking, hdir, Session.render_project_root hroot, rfl, ?_⟩
  constructor
  · intro hafter
    have htexts := hafter.root.symm.trans hroot
    rw [Option.some.injEq, Value.str.injEq] at htexts
    exact htexts
  · intro hsame
    exact ⟨hroot.trans (by rw [hsame]), hdir⟩

open Sample in
/-- The root that was answered is the one that relative paths start from. -/
theorem published_after_init_sample :
    (Session.fresh ⟨"/work/"⟩).Published ∧ left = (.ok Sample.config, left.2) ∧
      left.2.session.workingDir = ⟨"/work/"⟩ ∧
      left.2.session.data.get? "working_dir" = some (.str "/work/") ∧
      left.2.session.baseDir .projectRoot = .ok ⟨"/work/site"⟩ := by
  have hpub := Session.published_fresh ⟨"/work/"⟩
  have hinit : init Sample.services false ⟨Session.fresh ⟨"/work/"⟩, world⟩ =
    (.ok Sample.config, left.2) := left_eq
  obtain ⟨-, hdir, -⟩ := left_values
  obtain ⟨-, hroot, hworking, hshown, -, hbase, -⟩ := published_after_init hpub hinit
  rw [hworking] at hshown
  rw [hroot Sample.config rfl, hdir] at hbase
  exact ⟨hpub, left_eq, hworking, hshown, hbase⟩

open Sample in
/-- A root that was answered is not published: texts still show the one there was before, and that
is not where relative paths start from. -/
theorem init_moves_root_unpublished :
    (Session.fresh ⟨"/work/"⟩).Published ∧ left = (.ok Sample.config, left.2) ∧
      Render.text (Sample.services.context left.2) "\x7b\x7b project_root \x7d\x7d" = .ok "/work/" ∧
      left.2.session.baseDir .projectRoot = .ok ⟨"/work/site"⟩ ∧
      ¬ left.2.session.Published := by
  have hinit : init Sample.services false ⟨Session.fresh ⟨"/work/"⟩, world⟩ =
    (.ok Sample.config, left.2) := left_eq
  obtain ⟨-, hdir, -⟩ := left_values
  have hdata : left.2.session.data.get? "project_root" = some (.str "/work/") :=
    (get?_of_init_ok hinit (Or.inr rfl)).trans (Session.published_fresh ⟨"/work/"⟩).root
  have hroot : left.2.session.projectRoot = ⟨"/work/site"⟩ :=
    (leaves_init hinit).projectRoot.trans hdir
  refine ⟨Session.published_fresh _, left_eq, Session.render_project_root hdata, ?_, fun hpub => ?_⟩
  · rw [Session.baseDir, hroot]
  · have htexts := hpub.root
    rw [hdata, hroot, Option.some.injEq, Value.str.injEq] at htexts
    exact absurd htexts (by decide)

end Project

end Stencil
