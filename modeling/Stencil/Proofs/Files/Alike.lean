import Mathlib.Data.String.Basic
import Stencil.Proofs.Files.Dirs
import Stencil.Proofs.Files.Spare

/-!
# Trees that hold the same names

Two trees are `Alike` when they hold the same directories and the same files, whatever is in the
files: each is a later state of the other. So the trees list the same names.

What a tree lists and what a later one lists is not the same, but the names of the first come in the
second in the same order, among those that are new (`Extends.namesIn_eq_filter`).

A path that a file was written to can be written to again in any later tree: the directories that it
leads through are there, so nothing but the content of that file changes (`World.write_again`).
-/

set_option autoImplicit false

namespace Stencil

namespace FileTree

/-! ## 1. Alike -/

/-- The trees hold the same directories and the same files, whatever is in the files. -/
structure Alike (t t' : FileTree) : Prop where
  later : Extends (fun _ => True) t t'
  earlier : Extends (fun _ => True) t' t

namespace Alike

variable {t t₁ t' : FileTree}

protected theorem refl (t : FileTree) : Alike t t :=
  ⟨.refl _ t, .refl _ t⟩

protected theorem trans (h : Alike t t₁) (h' : Alike t₁ t') : Alike t t' :=
  ⟨h.later.trans h'.later, h'.earlier.trans h.earlier⟩

/-- A file in place of a file makes a tree alike. -/
theorem place (ht : t.WellFormed) {loc : Location} {c : ByteArray}
    (hat : t.at? loc = some (.file c)) (content : ByteArray) :
    Alike t (t.place loc (.file content)) := by
  have hne : loc ≠ [] := by
    rintro rfl
    exact absurd hat (by simp [at?])
  have hno : t.at? loc ≠ some .dir := by
    rw [hat]
    simp
  have hmem : (loc, Entry.file c) ∈ t.entries := by
    rw [at?, if_neg hne] at hat
    exact mem_of_lookup hat
  have hother : ∀ loc', loc' ≠ loc → (t.place loc (.file content)).at? loc' = t.at? loc' :=
    fun loc' h => by rw [at?_place t _ loc' hne, if_neg h]
  have hhere : (t.place loc (.file content)).at? loc = some (.file content) := by
    rw [at?_place t _ loc hne, if_pos rfl]
  refine ⟨⟨rfl, fun _ => ?_, fun loc' hd => ?_, fun loc' b hf => ?_, fun _ _ _ => Or.inr trivial⟩,
    ⟨rfl, fun _ => ht, fun loc' hd => ?_, fun loc' b hf => ?_, fun _ _ _ => Or.inr trivial⟩⟩
  · exact ht.place _ (ht.named _ hmem) (ht.parents _ hmem) hno
  · rw [hother loc' fun heq => hno (heq ▸ hd), hd]
  · by_cases heq : loc' = loc
    · exact ⟨content, heq ▸ hhere⟩
    · exact ⟨b, (hother loc' heq).trans hf⟩
  · by_cases heq : loc' = loc
    · rw [heq, hhere] at hd
      exact absurd hd (by simp)
    · exact (hother loc' heq).symm.trans hd
  · by_cases heq : loc' = loc
    · exact ⟨c, heq ▸ hat⟩
    · exact ⟨b, (hother loc' heq).symm.trans hf⟩

end Alike

/-! ## 2. The names in a directory -/

/-- The names in a directory ascend. -/
theorem WellFormed.pairwise_namesIn {t : FileTree} (hw : t.WellFormed) (dir : Location) :
    (t.namesIn dir).Pairwise (· < ·) := by
  have hle : (t.namesIn dir).Pairwise (· ≤ ·) := by
    refine (List.pairwise_mergeSort (fun a b c hab hbc => ?_) (fun a b => ?_) _).imp
      of_decide_eq_true
    · exact decide_eq_true (le_trans (of_decide_eq_true hab) (of_decide_eq_true hbc))
    · exact Bool.or_eq_true_iff.2 ((le_total a b).imp decide_eq_true decide_eq_true)
  exact (hle.and (hw.namesIn_nodup dir)).imp fun h => lt_of_le_of_ne h.1 h.2

/-- What stood in a directory is listed in a later tree in the same order, among what is new. -/
theorem Extends.namesIn_eq_filter {written : Location → Prop} {t t' : FileTree}
    (h : Extends written t t') (ht : t.WellFormed) (dir : Location) :
    t.namesIn dir = (t'.namesIn dir).filter fun n => (t.at? (dir ++ [n])).isSome := by
  have ht' := h.wellFormed ht
  have hsame : ∀ n, n ∈ t.namesIn dir ↔
      n ∈ (t'.namesIn dir).filter fun n => (t.at? (dir ++ [n])).isSome := by
    intro n
    rw [List.mem_filter, mem_namesIn, mem_namesIn]
    exact ⟨fun hsome => ⟨h.isSome hsome, hsome⟩, And.right⟩
  have hperm := (List.perm_ext_iff_of_nodup (ht.namesIn_nodup dir)
    ((ht'.namesIn_nodup dir).filter _)).2 hsame
  exact hperm.eq_of_pairwise (fun a b _ _ hab hba => absurd hba (lt_asymm hab))
    (ht.pairwise_namesIn dir) ((ht'.pairwise_namesIn dir).filter _)

end FileTree

/-! ## 3. Writing again -/

namespace World

open FileTree (Extends)

/-- A path that a file was written to can be written to in every later tree. -/
theorem write_again {p : Path} {content : ByteArray} {w w₁ v : World}
    (h : write p content w = (.ok (), w₁)) (hlater : Extends (fun _ => True) w₁.files v.files) :
    ∃ loc, w₁.files.locate p = .ok loc ∧ w₁.files.at? loc = some (.file content) ∧
      ∀ content', write p content' v =
        (.ok (), { v with files := v.files.place loc (.file content') }) := by
  -- whichever way the first write came to its end, it put the file there
  have hhere : ∀ {w₀ : World} {e : Fault}, writeHere p content e w₀ = (.ok (), w₁) →
      ∃ loc, w₁.files.locate p = .ok loc ∧ w₁.files.at? loc = some (.file content) ∧
        ∀ content' e', writeHere p content' e' v =
          (.ok (), { v with files := v.files.place loc (.file content') }) := by
    intro w₀ e hwrite
    obtain ⟨loc, hloc, hat⟩ := FileTree.read?_eq_some.1 (FileTree.read?_of_write
      (onFiles_attempt hwrite))
    obtain ⟨c, hc⟩ := hlater.file loc content hat
    exact ⟨loc, hloc, hat, fun content' e' =>
      onFiles_of_true (FileTree.write_of_file (hlater.locate hloc) hc content')⟩
  unfold write at h ⊢
  cases hp : p.parent? with
  | none =>
    rw [hp] at h
    obtain ⟨loc, hloc, hat, hagain⟩ := hhere h
    exact ⟨loc, hloc, hat, fun content' => hagain content' _⟩
  | some dir =>
    rw [hp] at h
    by_cases hdir : dir.text ≠ ""
    · simp only [if_pos hdir] at h ⊢
      obtain ⟨u, w₂, hdirs, hwrite⟩ := Step.bind_eq_ok h
      obtain ⟨loc, hloc, hat, hagain⟩ := hhere hwrite
      have hthere : v.files.isDir dir := by
        have hmade := (FileTree.isDir_of_makeDirs (onFiles_attempt hdirs)).resolve_left hdir
        exact hlater.isDir ((FileTree.extends_of_write (onFiles_attempt hwrite)).isDir hmade)
      refine ⟨loc, hloc, hat, fun content' => ?_⟩
      have hnothing : makeDirs dir (.io s!"creating directory {dir.text}") v = (.ok (), v) :=
        onFiles_of_true (FileTree.makeDirs_of_isDir (Or.inr hthere))
      rw [Step.bind_of_ok hnothing]
      exact hagain content' _
    · simp only [if_neg hdir] at h ⊢
      obtain ⟨loc, hloc, hat, hagain⟩ := hhere h
      exact ⟨loc, hloc, hat, fun content' => hagain content' _⟩

end World

end Stencil
