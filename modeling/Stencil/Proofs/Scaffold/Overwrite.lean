import Stencil.Directive.Copy
import Stencil.Proofs.Files.Spare
import Stencil.Proofs.Scaffold.Complete

/-!
# Which files a copy replaces

A copy leaves a target that stands as it is, unless it may overwrite. Whether the target stands is
asked of its path, before the directories above the target are made; so what holds of a copy is

> a file that stands is replaced only by an attempt that may overwrite, or by one that **detours**:
> nothing was found at its target, and the path of the target turns back on its way.

For the copy of a directory, what is to blame is looked up among the calls that it makes. The access
that notes them is steady also with regard to blame (`steady_noting`), so the blame for what a walk
has replaced is found where the walk has noted it.
-/

set_option autoImplicit false

namespace Stencil

/-! ## 1. Copies -/

namespace Scaffold

open FileTree (Extends Spares)

/-- Nothing was found at the target, and the path of the target turns back on its way. -/
structure Attempt.Detours (c : Attempt World) : Prop where
  free : c.before.files.exists c.target = false
  turns : ".." ∈ c.target.steps

/-- The location that the target named when the attempt was made. -/
def Attempt.aim (c : Attempt World) : Location :=
  c.before.files.aim c.target

/-- The locations where some attempts may have replaced a file. -/
def Replaceable (overwrite : Bool) (copies : List (Attempt World)) (loc : Location) : Prop :=
  ∃ c ∈ copies, loc = c.aim ∧ (overwrite = true ∨ c.Detours)

theorem Replaceable.mono {overwrite : Bool} {copies copies' : List (Attempt World)}
    (hsub : copies ⊆ copies') (loc : Location) (h : Replaceable overwrite copies loc) :
    Replaceable overwrite copies' loc := by
  obtain ⟨c, hc, hblame⟩ := h
  exact ⟨c, hsub hc, hblame⟩

variable (s : Scaffold) (data : Store) (source target : Path)

theorem spares_copyFile {w w' : World} {r : Except Fault CopyOutcome}
    (h : s.copyFile data source target w = (r, w')) :
    Spares (Replaceable s.overwrite [⟨w, source, target, r⟩]) w.files w'.files := by
  by_cases hstays : (w.files.exists target && !s.overwrite) = true
  · rw [copyFile_apply, if_pos hstays] at h
    obtain ⟨rfl, rfl⟩ := Prod.mk.inj h
    exact .refl _ _
  · rcases s.copyFile_cases data source target h with ⟨hfiles, -⟩ | ⟨-, -, rendered, hfiles⟩
    · rw [hfiles]
      exact .refl _ _
    · rw [hfiles]
      refine (World.spares_write target rendered w).mono fun loc hloc => ?_
      refine ⟨_, List.mem_singleton_self _, hloc.1, ?_⟩
      cases hoverwrite : s.overwrite with
      | true => exact Or.inl rfl
      | false =>
        rw [hoverwrite, Bool.not_false, Bool.and_true, Bool.not_eq_true] at hstays
        exact Or.inr ⟨hstays, hloc.2 hstays⟩

/-- Calls were added, and only the new ones replaced files. -/
def Blames (overwrite : Bool) (st st' : World × List (Call World)) : Prop :=
  ∃ calls, st'.2 = st.2 ++ calls ∧
    Spares (Replaceable overwrite (attempts calls)) st.1.files st'.1.files

/-- Whatever a copy does to a tree that a file system can hold, it notes what is to blame for it. -/
theorem steady_noting : (s.access data).noting.Steady (fun st => st.1.files.WellFormed)
    (Blames s.overwrite) where
  refl st := ⟨[], (List.append_nil _).symm, .refl _ _⟩
  trans := by
    rintro st st₁ st₂ ⟨calls, hcalls, hspares⟩ ⟨calls', hcalls', hspares'⟩
    refine ⟨calls ++ calls', by rw [hcalls', hcalls, List.append_assoc], ?_⟩
    rw [attempts_append]
    exact (hspares.mono (Replaceable.mono (List.subset_append_left _ _))).trans
      (hspares'.mono (Replaceable.mono (List.subset_append_right _ _)))
  stays_good := fun hw ⟨_, _, hspares⟩ => hspares.written.wellFormed hw
  list p st := by
    refine ⟨[.list st.1 p], rfl, ?_⟩
    show Spares _ st.1.files (World.list p st.1).2.files
    rw [snd_list]
    exact .refl _ _
  render rel st := ⟨[], (List.append_nil _).symm, .refl _ _⟩
  copy source target st := ⟨_, rfl, s.spares_copyFile data source target rfl⟩
  isDir hgood hlist hlater :=
    (steady_access s data).noting.isDir hgood hlist hlater.choose_spec.2.written

theorem spares_copyDir {w : World} (hw : w.files.WellFormed) :
    Spares (Replaceable s.overwrite (attempts (s.notedCopy data source target (w, [])).2.2))
      w.files (s.copyDir data source target w).2.files := by
  have hsteady := s.steady_noting data
  obtain ⟨calls, hcalls, hspares⟩ :=
    leads_walk hsteady s source target .empty [⟨""⟩] (w, [])
  rw [copyDir_eq_notedCopy, notedCopy_eq_notedWalk s data source target w hw]
  rw [List.nil_append] at hcalls
  rw [← hcalls] at hspares
  exact hspares

end Scaffold

/-! ## 2. Copy directives -/

namespace CopyDirective

open FileTree (Spares)
open Scaffold (Attempt attempts Replaceable)

/-- What a directive in a run copies, where to, and how. -/
structure Resolves (d : CopyDirective) (services : Services) (r : Run) (source target : Path)
    (copies : Scaffold) : Prop where
  source : ∃ dir text, r.session.templateDir = .ok dir ∧
    Render.text (services.context r) d.source = .ok text ∧ source = dir.joinParts ⟨text⟩
  target : ∃ base text, r.session.baseDir d.relativeTo = .ok base ∧
    Render.text (services.context r) d.target = .ok text ∧ target = base.joinParts ⟨text⟩
  copies : ∃ dir, r.session.templateDir = .ok dir ∧
    d.scaffold services r.session dir = .ok copies

/-- The files that a directive in a run comes to copy: the one it names, or those of a directory. -/
inductive Attempts (d : CopyDirective) (services : Services) (r : Run) : Attempt World → Prop
  | file {source target : Path} {copies : Scaffold}
      (hresolves : d.Resolves services r source target copies)
      (haction : d.actionFor (r.world.files.isDir source) = .copyFile) :
      Attempts d services r
        ⟨r.world, source, target, (copies.copyFile r.session.data source target r.world).1⟩
  | inDir {source target : Path} {copies : Scaffold} {c : Attempt World}
      (hresolves : d.Resolves services r source target copies)
      (haction : d.actionFor (r.world.files.isDir source) = .copyDir)
      (hc : c ∈ attempts (copies.notedCopy r.session.data source target (r.world, [])).2.2) :
      Attempts d services r c

/-- The locations where a directive in a run may replace a file. -/
def MayReplace (d : CopyDirective) (services : Services) (r : Run) (loc : Location) : Prop :=
  ∃ c, d.Attempts services r c ∧ loc = c.aim ∧
    (d.overwrite.getD r.session.overwrite = true ∨ c.Detours)

variable {d : CopyDirective} {services : Services} {r : Run}

/-- A scaffold of a directive overwrites when the directive does, or else the session, and passes
over the configuration of the template. -/
theorem of_scaffold {dir : Path} {copies : Scaffold}
    (h : d.scaffold services r.session dir = .ok copies) :
    copies.overwrite = d.overwrite.getD r.session.overwrite ∧
      copies.ignored = [dir.joinText templateConfigName] := by
  unfold scaffold Scaffold.excluding at h
  cases hglobs : Scaffold.readGlobs d.exclude with
  | error e => simp [hglobs, Except.map] at h
  | ok globs =>
    simp only [hglobs, Except.map, Except.ok.injEq] at h
    rw [← h]
    exact ⟨rfl, rfl⟩

theorem Resolves.overwrite {source target : Path} {copies : Scaffold}
    (h : d.Resolves services r source target copies) :
    copies.overwrite = d.overwrite.getD r.session.overwrite := by
  obtain ⟨dir, -, hcopies⟩ := h.copies
  exact (of_scaffold hcopies).1

theorem Resolves.ignores {source target dir : Path} {copies : Scaffold}
    (h : d.Resolves services r source target copies) (hdir : r.session.templateDir = .ok dir) :
    dir.joinText templateConfigName ∈ copies.ignored := by
  obtain ⟨dir', hdir', hcopies⟩ := h.copies
  obtain rfl : dir' = dir := Except.ok.inj (hdir'.symm.trans hdir)
  rw [(of_scaffold hcopies).2]
  exact List.mem_singleton_self _

section

variable {P : FileTree → Prop} (hstart : P r.world.files)
  (hfile : ∀ {source target : Path} {copies : Scaffold},
    d.Resolves services r source target copies →
    d.actionFor (r.world.files.isDir source) = .copyFile →
    P (copies.copyFile r.session.data source target r.world).2.files)
  (hdir : ∀ {source target : Path} {copies : Scaffold},
    d.Resolves services r source target copies →
    d.actionFor (r.world.files.isDir source) = .copyDir →
    P (copies.copyDir r.session.data source target r.world).2.files)

include hstart hfile hdir

theorem files_copy {dir source target : Path}
    (hresolves : ∀ copies, d.scaffold services r.session dir = .ok copies →
      d.Resolves services r source target copies) :
    P (d.copy services dir source target r).2.world.files := by
  let Q : Run → Prop := fun r' => P r'.world.files
  show Q (d.copy services dir source target r).2
  unfold copy
  refine Step.after_reading (P := Q) (m := Job.session) rfl hstart fun s hs => ?_
  obtain rfl := Except.ok.inj hs
  refine Step.after_reading (P := Q) (m := Step.ofExcept _) rfl hstart fun copies hcopies => ?_
  refine Step.after_reading (P := Q) (m := Job.outside (World.isDir source)) rfl hstart
    fun isDir hisDir => ?_
  obtain rfl := Except.ok.inj hisDir
  cases haction : d.actionFor (r.world.files.isDir source) with
  | copyFile =>
    dsimp only
    rw [Step.snd_bind_pure]
    exact hfile (hresolves copies hcopies) haction
  | copyDir =>
    dsimp only
    rw [Step.snd_bind_pure]
    exact hdir (hresolves copies hcopies) haction

/-- A directive copies what it resolves to, or leaves the files as they are. -/
theorem files_perform : P (d.perform services r).2.world.files := by
  let Q : Run → Prop := fun r' => P r'.world.files
  show Q (d.perform services r).2
  unfold perform
  refine Step.after_reading (P := Q) (m := Job.consult _) rfl hstart fun dir htemplate => ?_
  refine Step.after_reading (P := Q) (m := services.render _) rfl hstart fun source hsource => ?_
  refine Step.after_reading (P := Q) (m := Job.consult _) rfl hstart fun base hbase => ?_
  refine Step.after_reading (P := Q) (m := services.render _) rfl hstart fun target htarget => ?_
  refine Step.after_reading (P := Q) (m := Job.outside (World.exists _)) rfl hstart
    fun there _ => ?_
  split
  · exact files_copy hstart hfile hdir fun copies hcopies =>
      ⟨⟨dir, source, htemplate, hsource, rfl⟩, ⟨base, target, hbase, htarget, rfl⟩,
        dir, htemplate, hcopies⟩
  · exact hstart

end

/-- **A directive leaves every file as it is** that it may not replace. -/
theorem spares_perform (d : CopyDirective) (services : Services) (hw : r.world.files.WellFormed) :
    Spares (d.MayReplace services r) r.world.files (d.perform services r).2.world.files := by
  refine files_perform (P := Spares (d.MayReplace services r) r.world.files) (.refl _ _)
    (fun {source target copies} hresolves haction => ?_)
    (fun {source target copies} hresolves haction => ?_)
  · refine (copies.spares_copyFile r.session.data source target (Prod.eta _).symm).mono ?_
    rintro loc ⟨c, hc, haim, hblame⟩
    rw [List.mem_singleton] at hc
    subst hc
    rw [hresolves.overwrite] at hblame
    exact ⟨_, .file hresolves haction, haim, hblame⟩
  · refine (copies.spares_copyDir r.session.data source target hw).mono ?_
    rintro loc ⟨c, hc, haim, hblame⟩
    rw [hresolves.overwrite] at hblame
    exact ⟨c, .inDir hresolves haction hc, haim, hblame⟩

end CopyDirective

end Stencil
