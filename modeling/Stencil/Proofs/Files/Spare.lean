import Stencil.Proofs.Files.Write

/-!
# Files that a write leaves as they are

`Spares blamed t t'` says that the tree `t'` extends `t` and that the files of `t` whose location is
not blamed have the content in `t'` that they had. It composes, so it carries from a write to a copy
and on to whatever makes copies.

A write replaces a file at most where its path aims. When nothing was found at the path before,
there is one way left in which it can: the path turns back, and making the directories above its end
has turned it from one that leads nowhere into one that leads to a file:

    new/../keep.txt      with keep.txt, and no directory new

A path without `..` is no such path. The places on its way lie above the place where it ends, and
above what stands there are directories already (`locate_of_extends`).
-/

set_option autoImplicit false

namespace Stencil

namespace FileTree

/-! ## 1. Files that are left as they are -/

/-- The second tree extends the first, and the files of the first are in it as they were, apart
from those at a blamed location. -/
structure Spares (blamed : Location → Prop) (t t' : FileTree) : Prop where
  written : Extends (fun _ => True) t t'
  kept : t.WellFormed → ∀ loc content, t.at? loc = some (.file content) →
    t'.at? loc = some (.file content) ∨ blamed loc

namespace Spares

variable {blamed blamed' : Location → Prop} {t t₁ t' : FileTree}

protected theorem refl (blamed : Location → Prop) (t : FileTree) : Spares blamed t t :=
  ⟨.refl _ t, fun _ _ _ h => Or.inl h⟩

protected theorem trans (h : Spares blamed t t₁) (h' : Spares blamed t₁ t') :
    Spares blamed t t' := by
  refine ⟨h.written.trans h'.written, fun hw loc content hat => ?_⟩
  rcases h.kept hw loc content hat with hat₁ | hblamed
  · exact h'.kept (h.written.wellFormed hw) loc content hat₁
  · exact Or.inr hblamed

theorem mono (h : Spares blamed t t') (hsub : ∀ loc, blamed loc → blamed' loc) :
    Spares blamed' t t' :=
  ⟨h.written, fun hw loc content hat => (h.kept hw loc content hat).imp_right (hsub loc)⟩

end Spares

/-- A file that was not written is as it was. -/
theorem Extends.file_eq {written : Location → Prop} {t t' : FileTree} (h : Extends written t t')
    {loc : Location} {content : ByteArray} (hat : t.at? loc = some (.file content))
    (hnot : ¬ written loc) : t'.at? loc = some (.file content) := by
  obtain ⟨c, hc⟩ := h.file loc content hat
  rcases h.unwritten loc c hc with hold | hwritten
  · rw [hat] at hold
    rw [hc, ← hold]
  · exact absurd hwritten hnot

/-! ## 2. Paths that do not turn back -/

theorem prefix_of_follow {t : FileTree} {loc loc' : Location} {ss : List String}
    (hup : ".." ∉ ss) (h : t.follow loc ss = .ok loc') : loc <+: loc' := by
  induction ss generalizing loc with
  | nil =>
    rw [follow, Except.ok.injEq] at h
    exact h ▸ List.prefix_refl loc
  | cons s ss ih =>
    obtain ⟨-, -, hrest⟩ := follow_cons_eq_ok.1 h
    have hturn : loc <+: turn loc s := by
      unfold turn
      split
      · exact List.prefix_refl loc
      · rw [if_neg (fun heq : s = ".." => hup (heq ▸ List.mem_cons_self))]
        exact List.prefix_append loc [s]
    exact hturn.trans (ih (fun hmem => hup (List.mem_cons_of_mem s hmem)) hrest)

section

variable {written : Location → Prop} {t t₁ : FileTree} (h : Extends written t t₁)
  (hw : t.WellFormed)

include h hw

/-- Steps that lead down, in a later tree, to something that was there led to it before. -/
theorem follow_of_extends {loc loc' : Location} {ss : List String}
    (hup : ".." ∉ ss) (hsome : (t.at? loc').isSome)
    (hfollow : t₁.follow loc ss = .ok loc') : t.follow loc ss = .ok loc' := by
  induction ss generalizing loc with
  | nil => exact hfollow
  | cons s ss ih =>
    have hbelow : loc <+: loc' := prefix_of_follow hup hfollow
    obtain ⟨hdir, hs, hrest⟩ := follow_cons_eq_ok.1 hfollow
    refine follow_cons_eq_ok.2 ⟨?_, hs, ih (fun hmem => hup (List.mem_cons_of_mem s hmem)) hrest⟩
    obtain ⟨tail, rfl⟩ := hbelow
    by_cases htail : tail = []
    · -- a step from the place itself: what stands there is a directory in the later tree
      subst htail
      rw [List.append_nil] at hsome
      exact (h.dir_iff hsome).1 hdir
    · exact hw.dir_above htail hsome

/-- A path without `..` that leads, in a later tree, to something that was there led to it
before. -/
theorem locate_of_extends {p : Path} {loc : Location}
    (hup : ".." ∉ p.steps) (hsome : (t.at? loc).isSome)
    (hp : t₁.locate p = .ok loc) : t.locate p = .ok loc := by
  obtain ⟨hadmissible, hne, hfollow⟩ := locate_eq_ok.1 hp
  refine locate_eq_ok.2 ⟨hadmissible, hne, ?_⟩
  rw [h.route_eq] at hfollow
  refine follow_of_extends h hw (fun hmem => hup ?_) hsome hfollow
  unfold route at hmem
  split at hmem
  · exact List.mem_of_mem_drop hmem
  · exact hmem

end

/-! ## 3. Paths at which something stands -/

/-- Whatever stood at a path stands there in a later tree. -/
theorem Extends.exists {written : Location → Prop} {t t' : FileTree} (h : Extends written t t')
    {p : Path} (hp : t.exists p) : t'.exists p := by
  obtain ⟨loc, hloc, hsome⟩ := exists_iff.1 hp
  exact exists_iff.2 ⟨loc, h.locate hloc, h.isSome hsome⟩

/-! ## 4. Writing a file -/

/-- Where a write may replace a file: where its path aims; and when nothing was found at the path, only
if the path turns back. -/
def Replaces (t : FileTree) (p : Path) (loc : Location) : Prop :=
  loc = t.aim p ∧ (t.exists p = false → ".." ∈ p.steps)

/-- Making directories and then writing where the path leads by then spares all other files. -/
theorem spares_of_writable {t t₁ t' : FileTree} {p : Path} (hdirs : Extends (fun _ => False) t t₁)
    (hwrite : Extends (t₁.Writable p) t₁ t') : Spares (t.Replaces p) t t' := by
  refine ⟨(hdirs.mono fun _ _ => trivial).trans (hwrite.mono fun _ _ => trivial),
    fun hw loc c hat => ?_⟩
  by_cases hends : t₁.locate p = .ok loc
  · refine Or.inr ⟨?_, fun hfree => Classical.byContradiction fun hup => ?_⟩
    · rw [eq_aim_of_locate hends, hdirs.aim_eq]
    · have hlocate := locate_of_extends hdirs hw hup (by rw [hat]; rfl) hends
      have hexists : t.exists p := exists_iff.2 ⟨loc, hlocate, by rw [hat]; rfl⟩
      rw [hfree] at hexists
      exact absurd hexists (by simp)
  · exact Or.inl (hwrite.file_eq (hdirs.file_eq hat id) fun hwritable => hends hwritable.locate)

end FileTree

namespace World

theorem spares_write (p : Path) (content : ByteArray) (w : World) :
    FileTree.Spares (w.files.Replaces p) w.files (write p content w).2.files := by
  obtain ⟨t, hdirs, hwrite⟩ := write_cases p content w
  exact FileTree.spares_of_writable hdirs hwrite

end World

end Stencil
