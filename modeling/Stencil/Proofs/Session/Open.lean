import Stencil.Proofs.Files.Ancestors
import Stencil.Proofs.Files.Apart
import Stencil.Session.Basic

/-!
# Whose configuration a session gets

The user's configuration and a project's have one file name. What keeps the user's out of a session
is that the search for a project passes over the home directory; it is known by its path, or by the
place that its path leads to. This file compares two runs, on trees that differ in the user's
configuration and in nothing else (`AgreesBut`): home is the same directory in both (`isHome_eq`),
so the same directories are projects (`isProject_eq`), the search ends at the same one
(`discover_eq`), and the file that is read there is another one than the user's.

There are two ways past the exception. Where no directory is a project the search ends at its start
without asking whether that is home; and a path that is written empty leads nowhere, so it is not
known for home, although files are looked for by it in the current directory. `hstart` and `hknown`
in `open_eq_of_agreesBut` say that neither is taken, `home_takes_global` is what happens otherwise.
A search from an absolute path does not come to the empty one (`isHome_of_reaches`).
-/

set_option autoImplicit false

namespace Stencil

open FileTree (AgreesBut Proper absolute)

namespace ConfigFile

variable {settings : Settings} {t t' : FileTree} {dir start : Path}

/-! ## 1. Home and projects -/

theorem proper_projectConfigName : Proper projectConfigName := by decide

theorem proper_globalConfigName : Proper globalConfigName := by decide

/-- The user's configuration lies in the home directory. -/
theorem locate_global {loc : Location} (hhome : settings.home.text ≠ "")
    (h : t.locate (ConfigFile.global settings).path = .ok loc) :
    ∃ home, t.locate settings.home = .ok home ∧ t.at? home = some .dir ∧
      loc = home ++ [globalConfigName] :=
  ((FileTree.locate_joinText hhome proper_globalConfigName).1 h).2

/-- A directory is home by its path or by its place. -/
theorem isHome_iff : isHome settings t dir = true ↔
    dir.same settings.home = true ∨
      ∃ here home, t.locate dir = .ok here ∧ (t.at? here).isSome ∧
        t.locate settings.home = .ok home ∧ (t.at? home).isSome ∧
        (absolute here).same (absolute home) = true := by
  unfold isHome
  rw [Bool.or_eq_true]
  refine or_congr_right ?_
  trans ∃ a b, t.realPath? dir = some a ∧ t.realPath? settings.home = some b ∧ a.same b = true
  · cases t.realPath? dir with
    | none => simp
    | some a =>
      cases t.realPath? settings.home with
      | none => simp
      | some b => simp
  · simp only [FileTree.realPath?_eq_some]
    constructor
    · rintro ⟨a, b, ⟨here, hhere, hat, rfl⟩, ⟨home, hhome, hat', rfl⟩, hsame⟩
      exact ⟨here, home, hhere, hat, hhome, hat', hsame⟩
    · rintro ⟨here, home, hhere, hat, hhome, hat', hsame⟩
      exact ⟨_, _, ⟨here, hhere, hat, rfl⟩, ⟨home, hhome, hat', rfl⟩, hsame⟩

theorem isHome_of_locate {here : Location} (hdir : t.locate dir = .ok here)
    (hhome : t.locate settings.home = .ok here) (hat : (t.at? here).isSome) :
    isHome settings t dir = true :=
  isHome_iff.2 (Or.inr ⟨here, here, hdir, hat, hhome, hat, by simp [Path.same]⟩)

/-- The file that makes a directory a project is the user's configuration there. -/
def HoldsGlobal (settings : Settings) (t : FileTree) (dir : Path) : Prop :=
  ∃ loc, t.locate (project dir).path = .ok loc ∧
    t.locate (ConfigFile.global settings).path = .ok loc

/-- The home directory is known by its place, whatever path leads to it. -/
theorem isHome_of_holdsGlobal (hdir : dir.text ≠ "") (hhome : settings.home.text ≠ "")
    (h : HoldsGlobal settings t dir) : isHome settings t dir = true := by
  obtain ⟨loc, hloc, hglobal⟩ := h
  obtain ⟨-, here, hhere, hat, rfl⟩ :=
    (FileTree.locate_joinText hdir proper_projectConfigName).1 hloc
  obtain ⟨home, hlocate, -, heq⟩ := locate_global hhome hglobal
  rw [← (List.append_inj' heq rfl).1] at hlocate
  exact isHome_of_locate hhere hlocate (by rw [hat]; rfl)

/-- The search from `start` comes to a directory: no directory in front of it is a project. -/
def Reaches (settings : Settings) (t : FileTree) (start dir : Path) : Prop :=
  ∃ before after, start.ancestors = before ++ dir :: after ∧
    ∀ d ∈ before, isProject settings t d = false

/-- An absolute path has no empty path above it. -/
theorem isHome_of_reaches (hstart : start.isAbsolute = true) (hhome : settings.home.text ≠ "")
    (hreaches : Reaches settings t start dir) (h : HoldsGlobal settings t dir) :
    isHome settings t dir = true := by
  obtain ⟨before, after, hsplit, -⟩ := hreaches
  have hmem : dir ∈ start.ancestors := by
    rw [hsplit]
    exact List.mem_append_right before List.mem_cons_self
  have habs := Path.isAbsolute_of_mem_ancestors hstart hmem
  exact isHome_of_holdsGlobal (Path.text_ne_empty_of_isAbsolute habs) hhome h

/-- The search ends where it came to. -/
theorem reaches_discover (settings : Settings) (t : FileTree) (start : Path) :
    Reaches settings t start (discover settings t start).dir := by
  show Reaches settings t start ((start.ancestors.find? (isProject settings t)).getD start)
  cases hfind : start.ancestors.find? (isProject settings t) with
  | none =>
    obtain ⟨up, hup⟩ := FileTree.ancestors_eq_cons start
    exact ⟨[], up, hup, fun d hd => absurd hd List.not_mem_nil⟩
  | some dir =>
    obtain ⟨-, before, after, hsplit, hbefore⟩ := List.find?_eq_some_iff_append.1 hfind
    exact ⟨before, after, hsplit, fun d hd => by simpa using hbefore d hd⟩

/-! ## 2. Two runs -/

section

variable (h : AgreesBut (ConfigFile.global settings).path t t')

include h

/-- Home is where it was: neither directory of the comparison is the file that differs. -/
theorem isHome_of_agreesBut (hdir : isHome settings t dir = true) :
    isHome settings t' dir = true := by
  rw [isHome_iff] at hdir ⊢
  refine hdir.imp_right ?_
  rintro ⟨here, home, hhere, hat, hhome, hat', hsame⟩
  have hne : settings.home.text ≠ "" := (FileTree.locate_eq_ok.1 hhome).2.1
  -- where the file is, is one step below home
  have hglobal : ∀ loc, t.locate (ConfigFile.global settings).path = .ok loc →
      loc = home ++ [globalConfigName] := by
    intro loc hloc
    obtain ⟨home', hhome', -, rfl⟩ := locate_global hne hloc
    rw [hhome, Except.ok.injEq] at hhome'
    rw [hhome']
  refine ⟨here, home, h.locate_iff.2 hhere, ?_, h.locate_iff.2 hhome, ?_, hsame⟩
  · rw [h.elsewhere here fun hloc => ?_]
    · exact hat
    · rw [hglobal here hloc,
        FileTree.absolute_concat_not_same home proper_globalConfigName] at hsame
      exact absurd hsame (by simp)
  · rw [h.elsewhere home fun hloc => ?_]
    · exact hat'
    · exact absurd (hglobal home hloc) (by simp)

theorem isHome_eq : isHome settings t' dir = isHome settings t dir :=
  Bool.eq_iff_iff.2 ⟨isHome_of_agreesBut h.symm, isHome_of_agreesBut h⟩

theorem read?_project_eq (hdir : ¬ HoldsGlobal settings t dir) :
    t'.read? (project dir).path = t.read? (project dir).path :=
  h.read?_eq fun loc hloc hglobal => hdir ⟨loc, hloc, hglobal⟩

/-- Where home is known, the same directories are projects. -/
theorem isProject_eq (hknown : HoldsGlobal settings t dir → isHome settings t dir = true) :
    isProject settings t' dir = isProject settings t dir := by
  unfold isProject
  rw [isHome_eq h]
  cases hdir : isHome settings t dir with
  | true => rfl
  | false =>
    have hother : ¬ HoldsGlobal settings t dir := fun hholds => by
      rw [hknown hholds] at hdir
      exact absurd hdir (by simp)
    show (!false && (t'.read? (project dir).path).isSome) = _
    rw [read?_project_eq h hother]
    rfl

theorem find?_isProject_eq {dirs : List Path}
    (hknown : ∀ before dir after, dirs = before ++ dir :: after →
      (∀ d ∈ before, isProject settings t d = false) → HoldsGlobal settings t dir →
      isHome settings t dir = true) :
    dirs.find? (isProject settings t') = dirs.find? (isProject settings t) := by
  induction dirs with
  | nil => rfl
  | cons dir up ih =>
    have hdir : isProject settings t' dir = isProject settings t dir :=
      isProject_eq h (hknown [] dir up rfl fun d hd => absurd hd List.not_mem_nil)
    rw [List.find?_cons, List.find?_cons, hdir]
    cases hproject : isProject settings t dir with
    | true => rfl
    | false =>
      refine ih fun before d after hsplit hbefore => ?_
      exact hknown (dir :: before) d after (by rw [hsplit]; rfl)
        (List.forall_mem_cons.2 ⟨hproject, hbefore⟩)

/-- The nearest project is the same one. -/
theorem discover_eq (hknown : ∀ dir, Reaches settings t start dir → HoldsGlobal settings t dir →
    isHome settings t dir = true) :
    discover settings t' start = discover settings t start := by
  have hfind : start.ancestors.find? (isProject settings t') =
      start.ancestors.find? (isProject settings t) :=
    find?_isProject_eq h fun before dir after hsplit hbefore =>
      hknown dir ⟨before, after, hsplit, hbefore⟩
  unfold discover
  rw [hfind]

end

/-! ## 3. Opening a session -/

/-- A start that is not home, or that lies in a project, has a project that is not home. -/
theorem isHome_discover_eq_false (hstart : isHome settings t start = false ∨
    ∃ dir ∈ start.ancestors, isProject settings t dir = true) :
    isHome settings t (discover settings t start).dir = false := by
  show isHome settings t ((start.ancestors.find? (isProject settings t)).getD start) = false
  cases hfind : start.ancestors.find? (isProject settings t) with
  | none =>
    refine hstart.resolve_right ?_
    rintro ⟨dir, hmem, hdir⟩
    exact List.find?_eq_none.1 hfind dir hmem hdir
  | some dir =>
    have hdir := List.find?_some hfind
    unfold isProject at hdir
    simpa using (Bool.and_eq_true_iff.1 hdir).1

/-- What is read from a file depends on the bytes in it only. -/
theorem load_congr {c : ConfigFile} (hread : t'.read? c.path = t.read? c.path) :
    c.load t' = c.load t := by
  unfold load
  rw [hread]

end ConfigFile

namespace Session

/-- **The user's configuration does not reach a session.** -/
theorem open_eq_of_agreesBut {settings : Settings} {t t' : FileTree} {start : Path}
    (h : AgreesBut (ConfigFile.global settings).path t t')
    (hknown : ∀ dir, ConfigFile.Reaches settings t start dir →
      ConfigFile.HoldsGlobal settings t dir → ConfigFile.isHome settings t dir = true)
    (hstart : ConfigFile.isHome settings t start = false ∨
      ∃ dir ∈ start.ancestors, ConfigFile.isProject settings t dir = true) :
    Session.open settings t' start = Session.open settings t start := by
  have hdiscover := ConfigFile.discover_eq h hknown
  have hdir := ConfigFile.isHome_discover_eq_false hstart
  have hother : ¬ ConfigFile.HoldsGlobal settings t (ConfigFile.discover settings t start).dir := by
    intro hholds
    rw [hknown _ (ConfigFile.reaches_discover settings t start) hholds] at hdir
    exact absurd hdir (by simp)
  have hread : t'.read? (ConfigFile.discover settings t start).path =
      t.read? (ConfigFile.discover settings t start).path := ConfigFile.read?_project_eq h hother
  unfold Session.open
  rw [hdiscover]
  dsimp only
  rw [ConfigFile.load_congr hread]

namespace Sample

def settings : Settings := .ofHome ⟨"/home"⟩

/-- Where the user's configuration is. -/
def place : Location := ["home", globalConfigName]

/-- Two directories below the home directory, one of them a project. -/
def plain (current : Location) : FileTree :=
  ⟨[(["home"], .dir), (["home", "site"], .dir), (["home", "site", "src"], .dir),
      (["home", "site", projectConfigName],
        .file (ConfigFile.fileText ⟨[("name", .str "site")]⟩).toUTF8),
      (["home", "new"], .dir)], current⟩

/-- The same with a repository registered. -/
def registered (current : Location) : FileTree :=
  (plain current).place place (.file (ConfigFile.fileText
    ⟨[("templates", .map [("acme", .map [("url", .str "u"), ("path", .str "p")])])]⟩).toUTF8)

theorem agreesBut (current : Location) :
    AgreesBut (ConfigFile.global settings).path (plain current) (registered current) :=
  have hnone : (plain current).at? place = none := rfl
  have hplace : (plain current).locate (ConfigFile.global settings).path = .ok place := rfl
  FileTree.agreesBut_place hplace (by simp [hnone]) _

end Sample

open Sample in
theorem open_eq_of_agreesBut_below_home :
    AgreesBut (ConfigFile.global settings).path (plain ["home"]) (registered ["home"]) ∧
    (∀ start ∈ [(⟨"/home/site/src"⟩ : Path), ⟨"/home/new"⟩],
      Session.open settings (registered ["home"]) start =
        Session.open settings (plain ["home"]) start) ∧
    (Session.open settings (plain ["home"]) ⟨"/home/site/src"⟩).toOption.map
      (fun s => (s.projectRoot, s.data.keys)) =
        some (⟨"/home/site"⟩, ["project_root", "working_dir", "name"]) := by
  refine ⟨agreesBut ["home"], fun start hstart => ?_, by decide +kernel⟩
  have hwhere : ∀ start ∈ [(⟨"/home/site/src"⟩ : Path), ⟨"/home/new"⟩],
      start.isAbsolute = true ∧ ConfigFile.isHome settings (plain ["home"]) start = false := by
    decide +kernel
  obtain ⟨habs, hnot⟩ := hwhere start hstart
  exact open_eq_of_agreesBut (agreesBut ["home"])
    (fun dir => ConfigFile.isHome_of_reaches habs (by decide)) (Or.inl hnot)

open Sample in
/-- In the home directory itself the user's configuration is taken for the project's, and so it is
where the search goes by the empty path. -/
theorem home_takes_global :
    AgreesBut (ConfigFile.global settings).path (plain ["home"]) (registered ["home"]) ∧
    ∀ start ∈ [(⟨"/home"⟩ : Path), ⟨"new"⟩],
      (Session.open settings (plain ["home"]) start).toOption.map (·.data.keys) =
        some ["project_root", "working_dir"] ∧
      (Session.open settings (registered ["home"]) start).toOption.map (·.data.keys) =
        some ["project_root", "working_dir", "templates"] :=
  ⟨agreesBut ["home"], by decide +kernel⟩

end Session

end Stencil
