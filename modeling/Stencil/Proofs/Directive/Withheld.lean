import Stencil.Proofs.Files.After
import Stencil.Proofs.Scaffold.Inside
import Stencil.Proofs.Scaffold.Overwrite
import Stencil.Proofs.Session.Sample

/-!
# The configuration of a template stays with the template

A copy directive passes over the configuration file of its template. The file is told by its path,
component by component, and only where a directory is copied. So there are two ways for it to be
copied all the same, and no others (`perform_withholds_config`):

* the directive names it as the file to copy;
* the directive copies a directory above it that **comes around** to it: the path from there into the
  template's directory is not the template's own path, as for `src/..`.

A source that is relative and does not turn back never comes around. Where it leads is the template's
directory or a place below it; if the template's directory lies below that place again, the two are
the same, and so are their paths (`Path.aim_joinParts`).
-/

set_option autoImplicit false

namespace Stencil

open FileTree (Proper)

/-! ## 1. Components of joined paths -/

namespace Path

theorem same_iff {p q : Path} : p.same q ↔ p.components = q.components := by
  simp [same]

theorem same_joinText {p q : Path} {name : String} (h : Proper name) (hsame : p.same q) :
    (p.joinText name).same (q.joinText name) := by
  rw [same_iff, components_joinText h, components_joinText h, same_iff.1 hsame]

/-- A slash at the end says nothing. -/
theorem components_of_steps_concat {p q : Path} (habs : q.isAbsolute = p.isAbsolute)
    (hsteps : q.steps = p.steps ++ [""]) : q.components = p.components := by
  obtain ⟨s, rest, hp⟩ := List.exists_cons_of_ne_nil p.steps_ne_nil
  have hq : q.steps = s :: (rest ++ [""]) := by rw [hsteps, hp, List.cons_append]
  cases hroot : p.isAbsolute with
  | true =>
    unfold components
    rw [parts_of_isAbsolute hroot, parts_of_isAbsolute (habs.trans hroot), hp, hq]
    simp [isIdle]
  | false =>
    by_cases hs : s = "."
    · subst hs
      unfold components
      rw [parts_of_here hroot hp, parts_of_here (habs.trans hroot) hq]
      simp [isIdle]
    · unfold components
      rw [parts_of_free hroot (by simpa [hp] using hs),
        parts_of_free (habs.trans hroot) (by simpa [hq] using hs), hsteps]
      simp [isIdle]

theorem same_join_empty (p : Path) : (p.join ⟨""⟩).same p := by
  have hcomponents : (p.join ⟨""⟩).components = p.components := by
    by_cases hseam : p.text = "" ∨ p.text.toList.getLast? = some '/'
    · have hself : p.join ⟨""⟩ = p := by
        have htext : (p.join ⟨""⟩).text = p.text := by
          rw [join_text_of_relative rfl, seam_eq_empty hseam, String.append_empty,
            String.append_empty]
        cases p
        exact congrArg Path.mk htext
      rw [hself]
    · obtain ⟨hne, hslash⟩ := not_or.1 hseam
      have hstem : p.stem = p.steps := if_neg hslash
      refine components_of_steps_concat ?_ ?_
      · have htext : (p.join ⟨""⟩).text = p.text ++ "/" := by
          simp [join, isAbsolute, hne, hslash]
        unfold isAbsolute
        rw [htext, String.toList_append]
        cases hcs : p.text.toList with
        | nil => exact absurd (String.toList_eq_nil_iff.1 hcs) hne
        | cons c cs => rfl
      · rw [steps_join hne rfl, hstem]
        rfl
  exact same_iff.2 hcomponents

end Path

/-! ## 2. Where joined paths lead -/

namespace FileTree

theorem aim_join_below (t : FileTree) (source : Path) {names : List String}
    (h : ∀ n ∈ names, Proper n) :
    t.aim (source.join (Path.below names)) = t.aim source ++ names := by
  induction names using List.reverseRecOn with
  | nil => exact (t.aim_join_empty source).trans (List.append_nil _).symm
  | append_singleton names n ih =>
    have hn : Proper n := h n (by simp)
    have hnames : ∀ m ∈ names, Proper m := fun m hm => h m (by simp [hm])
    rw [Path.join_below_concat source hnames hn, aim_joinText hn.no_slash, ih hnames]
    simp [turn, hn.not_idle, hn.ne_up]

/-- Names that are joined one by one lead down from where the path leads. -/
theorem aim_foldl_joinText (t : FileTree) (p : Path) {parts : List Path.Component}
    (h : ∀ part ∈ parts, ∃ name, part = .name name ∧ Path.isIdle name = false ∧ name ≠ ".." ∧
      '/' ∉ name.toList) :
    t.aim (parts.foldl (fun p part => p.joinText part.text) p) =
      t.aim p ++ parts.map Path.Component.text := by
  induction parts generalizing p with
  | nil => simp
  | cons part rest ih =>
    obtain ⟨name, rfl, hidle, hup, hslash⟩ := h part List.mem_cons_self
    rw [List.foldl_cons, ih _ fun part hpart => h part (List.mem_cons_of_mem _ hpart),
      show Path.Component.text (.name name) = name from rfl, aim_joinText hslash]
    simp [turn, hidle, hup, Path.Component.text]

end FileTree

/-! ## 3. Coming around -/

/-- The path starts at the root, or it turns back on its way. -/
def Path.Roams (p : Path) : Prop :=
  p.isAbsolute ∨ .up ∈ p.components

/-- The directory lies below the source or is the source's, but the path to it through the source is
not its own path. -/
def ComesAround (t : FileTree) (dir source : Path) : Prop :=
  ∃ names, (∀ n ∈ names, Proper n) ∧ t.aim dir = t.aim source ++ names ∧
    ¬ (source.join (Path.below names)).same dir

theorem Path.isAbsolute_of_root_mem {p : Path} (h : .root ∈ p.components) : p.isAbsolute := by
  by_contra habs
  have hanchor : p.parts.1 ≠ .root := by
    unfold parts
    rw [if_neg habs]
    split <;> simp
  have hbody : ∀ ss : List String, .root ∉ ss.map componentOf := by
    intro ss hmem
    obtain ⟨s, -, hs⟩ := List.mem_map.1 hmem
    unfold componentOf at hs
    split at hs <;> exact absurd hs (by simp)
  unfold components at h
  rcases hparts : p.parts with ⟨anchor, ss⟩
  rw [hparts] at h hanchor
  cases anchor with
  | root => exact hanchor rfl
  | here =>
    rcases List.mem_cons.1 h with hhere | h
    · exact absurd hhere (by simp)
    · exact hbody _ h
  | free => exact hbody _ h

/-- The path of a directory with a path joined to it that does not roam leads to the directory or
down from it, and to the directory itself only when it is the directory's own. -/
theorem Path.aim_joinParts {q : Path} (h : ¬ q.Roams) (t : FileTree) (dir : Path) :
    ∃ names, t.aim (dir.joinParts q) = t.aim dir ++ names ∧
      (names = [] → dir.joinParts q = dir) := by
  obtain ⟨habs, hup⟩ := not_or.1 h
  have hnames : ∀ part ∈ q.components.filter (· != .here), ∃ name, part = .name name ∧
      isIdle name = false ∧ name ≠ ".." ∧ '/' ∉ name.toList := by
    intro part hpart
    obtain ⟨hmem, hne⟩ := List.mem_filter.1 hpart
    cases part with
    | root => exact absurd (isAbsolute_of_root_mem hmem) habs
    | here => exact absurd hne (by simp)
    | up => exact absurd hmem hup
    | name s => exact ⟨s, rfl, of_name_mem_components hmem⟩
  refine ⟨_, t.aim_foldl_joinText dir hnames, fun hnil => ?_⟩
  rw [joinParts, List.map_eq_nil_iff.1 hnil, List.foldl_nil]

theorem not_comesAround_of_not_roams {q : Path} (h : ¬ q.Roams) (t : FileTree) (dir : Path) :
    ¬ ComesAround t dir (dir.joinParts q) := by
  rintro ⟨names, -, haim, hsame⟩
  obtain ⟨down, hdown, hself⟩ := Path.aim_joinParts h t dir
  -- going down from the directory and down again, one is back at the directory
  rw [hdown, List.append_assoc, List.self_eq_append_right, List.append_eq_nil_iff] at haim
  obtain ⟨hnil, rfl⟩ := haim
  rw [hself hnil] at hsame
  exact hsame (Path.same_join_empty dir)

/-! ## 4. Copies of the configuration -/

namespace Scaffold

/-- The source of the attempt leads to the configuration of the template in a directory. -/
def Attempt.TakesConfig (c : Attempt World) (dir : Path) : Prop :=
  ∃ loc, c.before.files.locate (dir.joinText templateConfigName) = .ok loc ∧
    c.before.files.locate c.source = .ok loc

theorem proper_templateConfigName : Proper templateConfigName := by
  decide

/-- A copy of a directory that passes over the configuration takes it only if it comes around. -/
theorem comesAround_of_takesConfig {s : Scaffold} {source dir : Path} {t : FileTree}
    {c : Attempt World} {names : List String} (hplaced : Attempt.Placed s source t c names)
    (hignored : dir.joinText templateConfigName ∈ s.ignored) (htakes : c.TakesConfig dir) :
    ComesAround t dir source := by
  obtain ⟨loc, hconfig, hsource⟩ := htakes
  have hconfig' : loc = t.aim dir ++ [templateConfigName] := by
    rw [FileTree.eq_aim_of_locate hconfig, hplaced.later.aim_eq,
      FileTree.aim_joinText proper_templateConfigName.no_slash]
    rfl
  have hsource' : loc = t.aim source ++ names := by
    rw [FileTree.eq_aim_of_locate hsource, hplaced.source_eq, hplaced.later.aim_eq,
      t.aim_join_below source hplaced.proper]
  -- the last of the names is the configuration's, and those before lead to its directory
  obtain ⟨front, last, rfl⟩ := List.eq_nil_or_concat names |>.resolve_left hplaced.ne_nil
  rw [List.concat_eq_append, hconfig', ← List.append_assoc] at hsource'
  obtain ⟨hdir, hlast⟩ := List.append_inj' hsource' rfl
  obtain rfl : templateConfigName = last := by simpa using hlast
  have hproper : ∀ n ∈ front, Proper n := fun n hn => hplaced.proper n (by simp [hn])
  refine ⟨front, hproper, hdir, fun hsame => ?_⟩
  have hskips : s.skips (source.join (Path.below (front ++ [templateConfigName])))
      (Path.below (front ++ [templateConfigName])) = true := by
    rw [Path.join_below_concat source hproper proper_templateConfigName]
    have hsame' := Path.same_iff.1 (Path.same_joinText proper_templateConfigName hsame)
    have hany : s.ignored.any
        (·.same ((source.join (Path.below front)).joinText templateConfigName)) = true :=
      List.any_eq_true.2 ⟨_, hignored, Path.same_iff.2 hsame'.symm⟩
    rw [skips, hany, Bool.true_or]
  have htakes := hplaced.takes
  rw [List.concat_eq_append, Takes, hskips] at htakes
  exact absurd htakes (by simp)

end Scaffold

namespace CopyDirective

open Scaffold (Attempt)

variable {d : CopyDirective} {services : Services} {r : Run}

/-- What a directive copies takes the configuration only where the directive names it, or comes
around to it with a path that roams. -/
theorem Attempts.roams_of_takesConfig (hw : r.world.files.WellFormed) {dir : Path}
    (hdir : r.session.templateDir = .ok dir) {c : Attempt World} (hc : d.Attempts services r c)
    (htakes : c.TakesConfig dir) :
    ∃ text, Render.text (services.context r) d.source = .ok text ∧
      ((d.actionFor (r.world.files.isDir (dir.joinParts ⟨text⟩)) = .copyFile ∧
          c.source = dir.joinParts ⟨text⟩) ∨
        (d.actionFor (r.world.files.isDir (dir.joinParts ⟨text⟩)) = .copyDir ∧
          Path.Roams ⟨text⟩ ∧ ComesAround r.world.files dir (dir.joinParts ⟨text⟩))) := by
  cases hc with
  | file hresolves haction =>
    obtain ⟨dir', text, hdir', htext, rfl⟩ := hresolves.source
    obtain rfl : dir' = dir := Except.ok.inj (hdir'.symm.trans hdir)
    exact ⟨text, htext, Or.inl ⟨haction, rfl⟩⟩
  | inDir hresolves haction hmem =>
    obtain ⟨dir', text, hdir', htext, rfl⟩ := hresolves.source
    obtain rfl : dir' = dir := Except.ok.inj (hdir'.symm.trans hdir)
    obtain ⟨names, hplaced⟩ := Scaffold.placed_of_mem_attempts _ _ _ _ hw hmem
    have haround := Scaffold.comesAround_of_takesConfig hplaced (hresolves.ignores hdir) htakes
    have hroams : Path.Roams ⟨text⟩ := by
      by_contra hplain
      exact not_comesAround_of_not_roams hplain r.world.files dir' haround
    exact ⟨text, htext, Or.inr ⟨haction, hroams, haround⟩⟩

theorem extends_perform (hw : r.world.files.WellFormed) :
    FileTree.Extends (fun loc => ∃ c, d.Attempts services r c ∧ loc = r.world.files.aim c.target)
      r.world.files (d.perform services r).2.world.files := by
  refine files_perform (P := FileTree.Extends _ r.world.files) (.refl _ _)
    (fun {source target copies} hresolves haction => ?_)
    (fun {source target copies} hresolves haction => ?_)
  · refine (copies.extends_copyFile r.session.data source target (Prod.eta _).symm).mono ?_
    intro loc hloc
    exact ⟨_, .file hresolves haction, hloc⟩
  · refine (copies.extends_copyDir r.session.data source target hw).mono ?_
    rintro loc ⟨c, hc, hloc⟩
    exact ⟨c, .inDir hresolves haction hc, hloc⟩

/-- **A directive copies the configuration of its template only where it names it as the file to copy, or
copies a directory that comes around to it.** The directive touches nothing but what its copies aimed
at. -/
theorem perform_withholds_config (d : CopyDirective) (services : Services) {r : Run}
    (hw : r.world.files.WellFormed) {dir : Path} (hdir : r.session.templateDir = .ok dir) :
    FileTree.Extends (fun loc => ∃ c, d.Attempts services r c ∧ loc = r.world.files.aim c.target)
        r.world.files (d.perform services r).2.world.files ∧
      ∀ c, d.Attempts services r c → c.TakesConfig dir →
        ∃ text, Render.text (services.context r) d.source = .ok text ∧
          ((d.actionFor (r.world.files.isDir (dir.joinParts ⟨text⟩)) = .copyFile ∧
              c.source = dir.joinParts ⟨text⟩) ∨
            (d.actionFor (r.world.files.isDir (dir.joinParts ⟨text⟩)) = .copyDir ∧
              Path.Roams ⟨text⟩ ∧ ComesAround r.world.files dir (dir.joinParts ⟨text⟩))) :=
  ⟨extends_perform hw, fun _ hc htakes => hc.roams_of_takesConfig hw hdir htakes⟩

/-! ## 5. A template whose configuration is copied -/

namespace Sample

/-- A template with a file in it, next to a working directory. -/
def files : FileTree :=
  ⟨[(["t"], .dir), (["t", "a"], .file "text".toUTF8), (["t", "config.json"], .file "set".toUTF8),
    (["work"], .dir)], []⟩

def run : Run :=
  ⟨{ Session.fresh ⟨"work"⟩ with template := some ⟨"default", "t", ⟨"t"⟩⟩ },
    ⟨files, [], [], [], [], []⟩⟩

/-- Copies something of the template to a place of its own. -/
def copying (source : String) : CopyDirective :=
  ⟨source, "out", none, none, [], .workingDir⟩

def copies : Scaffold :=
  { Scaffold.plain Make.Sample.bare.transforms with
    overwrite := false
    excluded := Scaffold.matchesAny []
    ignored := [⟨"t/config.json"⟩]
    displayBase := some ⟨"work"⟩ }

theorem run_wellFormed : run.world.files.WellFormed := by
  decide

/-- The paths that the directives name have nothing to render in them. -/
theorem text_of_mem : ∀ source ∈ ["out", ".", "config.json", "../t"],
    Render.text (Make.Sample.bare.context run) source = .ok source := by
  decide +kernel

theorem resolves_copying {source : String} {path : Path}
    (hmem : source ∈ ["out", ".", "config.json", "../t"])
    (hpath : Path.joinParts ⟨"t"⟩ ⟨source⟩ = path) :
    (copying source).Resolves Make.Sample.bare run path ⟨"work/out"⟩ copies where
  source := ⟨⟨"t"⟩, source, rfl, text_of_mem source hmem, hpath.symm⟩
  target := ⟨⟨"work"⟩, "out", rfl, text_of_mem "out" (by simp), by decide⟩
  copies := ⟨⟨"t"⟩, rfl, by rfl⟩

end Sample

/-- Nothing of a whole template that is copied is its configuration. -/
theorem perform_withholds_config_sample :
    Sample.run.world.files.WellFormed ∧ Sample.run.session.templateDir = .ok ⟨"t"⟩ ∧
      ∀ c, (Sample.copying ".").Attempts Make.Sample.bare Sample.run c → ¬ c.TakesConfig ⟨"t"⟩ := by
  refine ⟨Sample.run_wellFormed, rfl, fun c hc htakes => ?_⟩
  obtain ⟨-, hwithholds⟩ := perform_withholds_config (Sample.copying ".") Make.Sample.bare
    Sample.run_wellFormed (show Sample.run.session.templateDir = .ok ⟨"t"⟩ from rfl)
  obtain ⟨text, htext, hcase⟩ := hwithholds c hc htakes
  have hdot := Sample.text_of_mem "." (by simp)
  obtain rfl : "." = text := Except.ok.inj (hdot.symm.trans htext)
  rcases hcase with ⟨haction, -⟩ | ⟨-, hroams, -⟩
  · exact absurd haction (by decide)
  · exact absurd hroams (by unfold Path.Roams; decide)

namespace Sample

/-- What comes of the entries of the template, reached by a path that turns back. -/
def around : Except Fault (CopyReport × List Path) × World × List (Scaffold.Call World) :=
  copies.copyEntries (copies.access run.session.data).noting ⟨"work/out"⟩ ⟨""⟩ .empty []
    [⟨"t/../t/a"⟩, ⟨"t/../t/config.json"⟩] (run.world, [.list run.world ⟨"t/../t/"⟩])

/-- The attempt on the configuration, the second of two. -/
def aroundConfig : Scaffold.Attempt World :=
  ((Scaffold.attempts around.2.2)[1]?).getD ⟨run.world, ⟨""⟩, ⟨""⟩, .ok .skipped⟩

/-- What the copy and the attempt come to, in one evaluation. -/
theorem around_values :
    around.1.toOption = some (⟨[⟨"work/out/a"⟩, ⟨"work/out/config.json"⟩], []⟩, []) ∧
      (Scaffold.attempts around.2.2)[1]?.isSome = true ∧
      aroundConfig.before.files.locate ⟨"t/config.json"⟩ = .ok ["t", "config.json"] ∧
      aroundConfig.before.files.locate aroundConfig.source = .ok ["t", "config.json"] ∧
      aroundConfig.Ended .created ∧
      aroundConfig.target = ⟨"work/out/config.json"⟩ := by
  decide +kernel

theorem notedCopy_around :
    copies.notedCopy run.session.data ⟨"t/../t"⟩ ⟨"work/out"⟩ (run.world, []) =
      (.ok ⟨[⟨"work/out/a"⟩, ⟨"work/out/config.json"⟩], []⟩, around.2) := by
  refine Scaffold.notedCopy_of_level copies run.session.data _ _
    (Scaffold.Sample.list_noted copies run.session.data
      (show _ = Except.ok ["t"] by decide) (by decide)
      (show _ = ["a", "config.json"] by decide) (by decide) []) ?_
  exact Step.eq_ok_of_toOption around_values.1

theorem aroundConfig_mem : aroundConfig ∈ Scaffold.attempts around.2.2 := by
  obtain ⟨c, hc⟩ := Option.isSome_iff_exists.1 around_values.2.1
  rw [aroundConfig, hc]
  exact List.mem_of_getElem? hc

end Sample

/-- The configuration is copied when the directive names it, and when it comes around to it. -/
theorem config_is_copied :
    Sample.run.world.files.WellFormed ∧ Sample.run.session.templateDir = .ok ⟨"t"⟩ ∧
      (∃ c, (Sample.copying "config.json").Attempts Make.Sample.bare Sample.run c ∧
        c.TakesConfig ⟨"t"⟩ ∧ c.Ended .created ∧ c.target = ⟨"work/out"⟩) ∧
      (((Sample.copying "config.json").perform Make.Sample.bare Sample.run).2.world.files.read?
        ⟨"work/out"⟩).map ByteArray.toList = some "set".toUTF8.toList ∧
      ∃ c, (Sample.copying "../t").Attempts Make.Sample.bare Sample.run c ∧
        c.TakesConfig ⟨"t"⟩ ∧ c.Ended .created ∧ c.target = ⟨"work/out/config.json"⟩ := by
  have hnamed : (Sample.copying "config.json").Resolves Make.Sample.bare Sample.run
      ⟨"t/config.json"⟩ ⟨"work/out"⟩ Sample.copies :=
    Sample.resolves_copying (by simp) (by decide)
  have haround : (Sample.copying "../t").Resolves Make.Sample.bare Sample.run
      ⟨"t/../t"⟩ ⟨"work/out"⟩ Sample.copies :=
    Sample.resolves_copying (by simp) (by decide)
  obtain ⟨-, -, hconfig, hsource, hended, htarget⟩ := Sample.around_values
  refine ⟨Sample.run_wellFormed, rfl, ⟨_, .file hnamed (by decide), ?_, ?_, rfl⟩, ?_,
    Sample.aroundConfig, .inDir haround (by decide) ?_, ?_, ?_, ?_⟩
  · exact ⟨["t", "config.json"], by decide, by decide⟩
  · unfold Scaffold.Attempt.Ended
    decide +kernel
  · decide +kernel
  · rw [Sample.notedCopy_around]
    exact Sample.aroundConfig_mem
  · exact ⟨["t", "config.json"], hconfig, hsource⟩
  · exact hended
  · exact htarget

end CopyDirective

end Stencil
