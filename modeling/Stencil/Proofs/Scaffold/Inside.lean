import Stencil.Proofs.Files.Inside
import Stencil.Proofs.Scaffold.Places

/-!
# A copy of a directory writes below its target

The copy of a file goes to the path of the target with the rendered path of the file joined to it.
Nothing checks what a component renders to, so a value that starts with a slash, or one with `..` in
it, can take the copy somewhere else. What holds of every copy, however it ends, is

> a file is created or replaced strictly below the target, or where an attempt **strayed** to: one
> whose rendered path is absolute or turns back more often than it has gone down.

Slashes as such do no harm, nor do empty texts, nor `..` behind a name. Where every component renders
to a text without a slash that is not `..`, no attempt strays (`Attempt.Strays.slash_or_up`).

The statement holds along the copy (`along_confined`). It carries the noted calls, since an attempt may
only be blamed for what it was asked for itself.
-/

set_option autoImplicit false

namespace Stencil

/-! ## 1. Rendered paths -/

namespace Render

/-- Components that render to names keep a path from leading out. -/
theorem staysInside_of_components {c : Context} {parts : List Path.Component} {p rendered : Path}
    (hp : p.staysInside)
    (hparts : ∀ part ∈ parts, ∀ s, text c part.text = .ok s → '/' ∉ s.toList ∧ s ≠ "..")
    (h : components c p parts = .ok rendered) : rendered.staysInside := by
  induction parts generalizing p with
  | nil =>
    rw [components, Except.ok.injEq] at h
    exact h ▸ hp
  | cons part rest ih =>
    unfold components at h
    split at h
    · exact absurd h (by simp)
    · rename_i s hs
      obtain ⟨hslash, hup⟩ := hparts part List.mem_cons_self s hs
      exact ih (Path.staysInside_joinText hp hslash hup)
        (fun part' hpart' => hparts part' (List.mem_cons_of_mem part hpart')) h

end Render

namespace Scaffold

open FileTree (Proper Extends StrictlyBelow)
open Stencil.Path (below)

variable (s : Scaffold) (data : Store) (source target : Path)

/-! ## 2. Attempts that stray -/

/-- The rendered path of the attempt's file leads out of the target. -/
structure Attempt.Strays (c : Attempt World) (names : List String) (rendered : Path) : Prop where
  proper : ∀ n ∈ names, Proper n
  source_eq : c.source = source.join (below names)
  rendered_eq : Render.path (s.context data c.before) (below names) = .ok rendered
  target_eq : c.target = target.join rendered
  leaves : rendered.staysInside = false

/-- An attempt strays only by a component that renders to a text with a slash or to `..`. -/
theorem Attempt.Strays.slash_or_up {s : Scaffold} {data : Store} {source target : Path}
    {c : Attempt World} {names : List String} {rendered : Path}
    (h : Attempt.Strays s data source target c names rendered) :
    ∃ part ∈ (below names).components, ∃ text,
      Render.text (s.context data c.before) part.text = .ok text ∧
        ('/' ∈ text.toList ∨ text = "..") := by
  by_contra hplain
  have hinside := Render.staysInside_of_components rfl (fun part hpart text htext => ?_) h.rendered_eq
  · rw [h.leaves] at hinside
    exact absurd hinside (by simp)
  · have hnot : ¬ ('/' ∈ text.toList ∨ text = "..") :=
      fun hbad => hplain ⟨part, hpart, text, htext, hbad⟩
    exact not_or.1 hnot

/-- The locations that some attempts may touch: those strictly below the target, and the ones where
an attempt strayed to. -/
def Touchable (t : FileTree) (copies : List (Attempt World)) (loc : Location) : Prop :=
  StrictlyBelow (t.aim target) loc ∨
    ∃ c ∈ copies, (∃ names rendered, c.Strays s data source target names rendered) ∧
      loc = t.aim c.target

/-! ## 3. The walk -/

/-- Calls were added, and no file was touched but where they may. -/
def Confined (st st' : World × List (Call World)) : Prop :=
  ∃ calls, st'.2 = st.2 ++ calls ∧
    Extends (Touchable s data source target st.1.files (attempts calls)) st.1.files st'.1.files

section

variable {s : Scaffold} {data : Store} {source target : Path} {st st₁ st₂ : World × List (Call World)}

theorem Touchable.mono {t : FileTree} {copies copies' : List (Attempt World)}
    (hsub : copies ⊆ copies') (loc : Location) (h : Touchable s data source target t copies loc) :
    Touchable s data source target t copies' loc :=
  h.imp_right fun ⟨c, hc, hstrays⟩ => ⟨c, hsub hc, hstrays⟩

/-- Where paths aim is no matter of what was written. -/
theorem Touchable.before {written : Location → Prop} {t t' : FileTree} (h : Extends written t t')
    {copies : List (Attempt World)} {loc : Location}
    (hloc : Touchable s data source target t' copies loc) :
    Touchable s data source target t copies loc := by
  unfold Touchable at hloc ⊢
  simpa only [h.aim_eq] using hloc

theorem Confined.refl (st : World × List (Call World)) : Confined s data source target st st :=
  ⟨[], (List.append_nil _).symm, .refl _ _⟩

theorem Confined.trans (h : Confined s data source target st st₁)
    (h' : Confined s data source target st₁ st₂) : Confined s data source target st st₂ := by
  obtain ⟨calls, hcalls, hextends⟩ := h
  obtain ⟨calls', hcalls', hextends'⟩ := h'
  refine ⟨calls ++ calls', by rw [hcalls', hcalls, List.append_assoc], ?_⟩
  rw [attempts_append]
  refine (hextends.mono (Touchable.mono (List.subset_append_left _ _))).trans ?_
  exact hextends'.mono fun loc hloc =>
    (hloc.before hextends).mono (List.subset_append_right _ _) loc

theorem Confined.wellFormed (h : Confined s data source target st st₁)
    (hw : st.1.files.WellFormed) : st₁.1.files.WellFormed := by
  obtain ⟨calls, -, hextends⟩ := h
  exact hextends.wellFormed hw

end

/-- One attempt touches the place that it has under the target, or it has strayed. -/
theorem confined_copy {w : World} {names : List String} {rendered : Path}
    (hnames : ∀ n ∈ names, Proper n)
    (hrendered : Render.path (s.context data w) (below names) = .ok rendered)
    (calls : List (Call World)) :
    Confined s data source target (w, calls)
      ((s.access data).noting.copy (source.join (below names)) (target.join rendered)
        (w, calls)).2 := by
  refine ⟨_, rfl, ?_⟩
  show Extends _ w.files
    (s.copyFile data (source.join (below names)) (target.join rendered) w).2.files
  by_cases hinside : rendered.staysInside
  · rcases s.copyFile_cases data (source.join (below names)) (target.join rendered)
      (Prod.eta _).symm with ⟨hfiles, -⟩ | ⟨-, -, content, hfiles⟩
    · rw [hfiles]
      exact .refl _ _
    · rw [hfiles]
      exact (World.extends_write_inside target hinside content w).mono fun _ => Or.inl
  · refine (s.extends_copyFile data _ _ (Prod.eta _).symm).mono fun loc hloc => Or.inr ?_
    refine ⟨_, List.mem_singleton_self _, ⟨names, rendered, ?_⟩, hloc⟩
    exact ⟨hnames, rfl, hrendered, rfl, by simpa using hinside⟩

/-- Listing touches nothing. -/
theorem confined_list (p : Path) (st : World × List (Call World)) :
    Confined s data source target st ((s.access data).noting.list p st).2 := by
  refine ⟨[.list st.1 p], rfl, ?_⟩
  show Extends _ st.1.files (World.list p st.1).2.files
  rw [snd_list]
  exact .refl _ _

theorem along_confined : s.Along data source target (Confined s data source target) where
  refl := .refl
  trans := .trans
  wellFormed := Confined.wellFormed
  list := confined_list s data source target
  copy calls hproper _ _ hrendered := confined_copy s data source target hproper hrendered calls

theorem confined_walk {rels : List Path} {places : List (List String)}
    (hrels : rels = places.map below) (hproper : ∀ place ∈ places, ∀ n ∈ place, Proper n)
    (report : CopyReport) {st : World × List (Call World)} (hw : st.1.files.WellFormed) :
    Confined s data source target st
      (s.walk (s.access data).noting source target report rels st).2 :=
  (s.along_confined data source target).walk hrels hproper report hw

/-- **A copy of a directory touches no file outside of its target**, however it ends, apart from those
where its attempts strayed to. -/
theorem copyDir_writes_below_target {w : World} (hw : w.files.WellFormed) :
    Extends (fun loc => StrictlyBelow (w.files.aim target) loc ∨
        ∃ c ∈ attempts (s.notedCopy data source target (w, [])).2.2,
          (∃ names rendered, c.Strays s data source target names rendered) ∧
            loc = w.files.aim c.target)
      w.files (s.copyDir data source target w).2.files := by
  have hwalk : Confined s data source target (w, []) (s.notedWalk data source target (w, [])).2 :=
    confined_walk s data source target (show [⟨""⟩] = [[]].map below from rfl) (by simp) .empty hw
  obtain ⟨calls, hcalls, hextends⟩ := hwalk
  rw [List.nil_append] at hcalls
  rw [← hcalls] at hextends
  rw [copyDir_eq_notedCopy, notedCopy_eq_notedWalk s data source target w hw]
  exact hextends

/-! ## 4. A name that leads out -/

namespace Sample

/-- A file whose name is filled in. -/
def named : World :=
  ⟨⟨[(["from"], .dir), (["from", "\x7b\x7b name \x7d\x7d.txt"], .file "new".toUTF8)], []⟩,
    [], [], [], [], []⟩

/-- A name that leads to the parent directory. -/
def upward : Store :=
  ⟨[("name", .str "../outside")]⟩

theorem named_wellFormed : named.files.WellFormed := by
  decide +kernel

/-- What comes of the file. -/
def third : Except Fault (CopyReport × List Path) × World × List (Call World) :=
  copies.copyEntries (copies.access upward).noting ⟨"to"⟩ ⟨""⟩ .empty []
    [⟨"from/\x7b\x7b name \x7d\x7d.txt"⟩] (named, [.list named ⟨"from/"⟩])

theorem run_upward : copies.notedCopy upward ⟨"from"⟩ ⟨"to"⟩ (named, []) =
    (.ok ⟨[⟨"to/../outside.txt"⟩], []⟩, third.2) := by
  refine notedCopy_of_level copies upward _ _ (list_noted copies upward
    (show _ = Except.ok ["from"] by decide +kernel) (by decide +kernel)
    (show _ = ["\x7b\x7b name \x7d\x7d.txt"] by decide +kernel) (by decide +kernel) []) ?_
  exact Step.eq_ok_of_toOption (by decide +kernel)

theorem copyDir_upward : copies.copyDir upward ⟨"from"⟩ ⟨"to"⟩ named =
    (.ok ⟨[⟨"to/../outside.txt"⟩], []⟩, third.2.1) := by
  rw [copyDir_eq_notedCopy, run_upward]

theorem not_below : ¬ StrictlyBelow (named.files.aim ⟨"to"⟩) ["outside.txt"] := by
  rintro ⟨names, -, hnames⟩
  rw [show named.files.aim ⟨"to"⟩ = ["to"] by decide +kernel] at hnames
  exact absurd (List.cons.inj hnames).1 (by decide)

end Sample

/-- The file that the sample finds outside of its target is one where an attempt strayed to. -/
theorem copyDir_writes_below_target_sample :
    Sample.named.files.WellFormed ∧
      ∃ c ∈ attempts (Sample.copies.notedCopy Sample.upward ⟨"from"⟩ ⟨"to"⟩ (Sample.named, [])).2.2,
        (∃ names rendered, c.Strays Sample.copies Sample.upward ⟨"from"⟩ ⟨"to"⟩ names rendered) ∧
          ["outside.txt"] = Sample.named.files.aim c.target := by
  have hextends := copyDir_writes_below_target Sample.copies Sample.upward ⟨"from"⟩ ⟨"to"⟩
    Sample.named_wellFormed
  have hfile : Sample.third.2.1.files.isFile ⟨"outside.txt"⟩ := by decide +kernel
  obtain ⟨loc, content, hloc, hafter⟩ := FileTree.isFile_iff.1 hfile
  obtain rfl : loc = ["outside.txt"] := (FileTree.eq_aim_of_locate hloc).trans (by decide +kernel)
  have hbefore : Sample.named.files.at? ["outside.txt"] = none := by decide +kernel
  rw [Sample.copyDir_upward] at hextends
  refine ⟨Sample.named_wellFormed, ?_⟩
  rcases hextends.unwritten _ _ hafter with hold | hbelow | hstrayed
  · rw [hbefore] at hold
    exact absurd hold (by simp)
  · exact absurd hbelow Sample.not_below
  · exact hstrayed

/-- A value with `..` in it takes the copy of a file out of the target. -/
theorem copyDir_leaves_target :
    Sample.named.files.WellFormed ∧ Sample.named.files.exists ⟨"outside.txt"⟩ = false ∧
      ¬ StrictlyBelow (Sample.named.files.aim ⟨"to"⟩) ["outside.txt"] ∧
      ∃ w', Sample.copies.copyDir Sample.upward ⟨"from"⟩ ⟨"to"⟩ Sample.named =
          (.ok ⟨[⟨"to/../outside.txt"⟩], []⟩, w') ∧
        w'.files.read? ⟨"outside.txt"⟩ = some "new".toUTF8 ∧
        w'.files.exists ⟨"to/outside.txt"⟩ = false := by
  refine ⟨Sample.named_wellFormed, by decide +kernel, Sample.not_below, _, Sample.copyDir_upward,
    ?_, ?_⟩
  · decide +kernel
  · decide +kernel

end Scaffold

end Stencil
