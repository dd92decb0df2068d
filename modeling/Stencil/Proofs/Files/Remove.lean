import Stencil.Proofs.Files.Dirs

/-!
# What removing leaves

`SameOutside place t t'` says that the trees differ at most at a place and below it. Removing what a
path leads to leaves such a tree (`sameOutside_delete`), and a well-formed one
(`WellFormed.delete`), whether it ends well or not. A directory whose path leads to it also when it
is empty is gone afterwards with everything in it (`at?_delete_dir`).
-/

set_option autoImplicit false

namespace Stencil.FileTree

variable {t t₁ t' : FileTree} {p : Path} {loc place : Location}

/-! ## 1. Outside a place -/

/-- The trees hold the same, apart from a place and what lies below it. -/
structure SameOutside (place : Location) (t t' : FileTree) : Prop where
  current : t'.current = t.current
  elsewhere : ∀ loc, ¬ place <+: loc → t'.at? loc = t.at? loc

namespace SameOutside

protected theorem refl (place : Location) (t : FileTree) : SameOutside place t t :=
  ⟨rfl, fun _ _ => rfl⟩

protected theorem trans (h : SameOutside place t t₁) (h' : SameOutside place t₁ t') :
    SameOutside place t t' :=
  ⟨h'.current.trans h.current, fun loc hloc => (h'.elsewhere loc hloc).trans (h.elsewhere loc hloc)⟩

end SameOutside

/-! ## 2. Entries taken away -/

theorem at?_clearBelow (t : FileTree) (loc other : Location) :
    (t.clearBelow loc).at? other = if loc <+: other ∧ other ≠ loc then none else t.at? other := by
  unfold at?
  by_cases hroot : other = []
  · subst hroot
    rw [if_pos rfl, if_pos rfl, if_neg]
    rintro ⟨hbelow, hne⟩
    exact hne (List.prefix_nil.1 hbelow).symm
  · rw [if_neg hroot, if_neg hroot]
    refine (lookup_filter (fun l => !(loc.isPrefixOf l && l != loc)) other t.entries).trans ?_
    by_cases hbelow : loc <+: other ∧ other ≠ loc
    · rw [if_pos hbelow, if_neg]
      simp [hbelow.1, hbelow.2]
    · rw [if_neg hbelow, if_pos]
      cases hfront : loc.isPrefixOf other with
      | false => rfl
      | true =>
        rw [List.isPrefixOf_iff_prefix] at hfront
        simpa [hfront] using hbelow

theorem at?_removeAt (t : FileTree) (hne : loc ≠ []) (other : Location) :
    (t.removeAt loc).at? other = if other = loc then none else t.at? other := by
  unfold at?
  by_cases hroot : other = []
  · rw [if_pos hroot, if_pos hroot, if_neg (by rw [hroot]; exact Ne.symm hne)]
  · rw [if_neg hroot, if_neg hroot]
    refine (lookup_filter (fun l => l != loc) other t.entries).trans ?_
    by_cases heq : other = loc
    · rw [if_pos heq, if_neg (by simp [heq])]
    · rw [if_neg heq, if_pos (by simp [heq])]

/-- A tree stays well-formed when nothing that is kept loses the directory it stands in. -/
theorem WellFormed.filter (h : t.WellFormed) (keep : Location → Bool)
    (hup : ∀ e ∈ t.entries, keep e.1 = true → e.1.dropLast ≠ [] → keep e.1.dropLast = true) :
    WellFormed { t with entries := t.entries.filter fun e => keep e.1 } := by
  refine ⟨h.distinct.sublist (List.filter_sublist.map _), fun e he => ?_, fun e he => ?_, h.current⟩
  · exact h.named e (List.mem_filter.1 he).1
  · obtain ⟨hmem, hkeep⟩ := List.mem_filter.1 he
    have hparent := h.parents e hmem
    by_cases hroot : e.1.dropLast = []
    · rw [hroot, at?_root]
    · rw [at?, if_neg hroot] at hparent ⊢
      exact (lookup_filter keep _ t.entries).trans ((if_pos (hup e hmem hkeep hroot)).trans hparent)

theorem WellFormed.clearBelow (h : t.WellFormed) (loc : Location) :
    (t.clearBelow loc).WellFormed := by
  refine h.filter (fun l => !(loc.isPrefixOf l && l != loc)) fun e _ hkeep _ => ?_
  simp only [Bool.not_eq_true', Bool.and_eq_false_iff, bne_eq_false_iff_eq] at hkeep ⊢
  by_cases hbelow : loc <+: e.1.dropLast
  · right
    have hall : loc <+: e.1 := hbelow.trans (List.dropLast_prefix e.1)
    have heq : e.1 = loc := hkeep.resolve_left (by simpa using hall)
    rw [heq] at hbelow ⊢
    exact (List.dropLast_prefix loc).eq_of_length_le hbelow.length_le
  · left
    simpa [← List.isPrefixOf_iff_prefix] using hbelow

/-- What holds nothing can be taken away. -/
theorem WellFormed.removeAt (h : t.WellFormed) (hempty : ∀ name, t.at? (loc ++ [name]) = none) :
    (t.removeAt loc).WellFormed := by
  refine h.filter (fun l => l != loc) fun e he _ hne => ?_
  rw [bne_iff_ne]
  rintro rfl
  have hlast : e.1 ≠ [] := fun hnil => hne (by rw [hnil]; rfl)
  have hnone := hempty (e.1.getLast hlast)
  rw [List.dropLast_concat_getLast hlast, at?, if_neg hlast] at hnone
  have hsome : (lookup e.1 t.entries).isSome := lookup_isSome_of_mem (e := e.2) he
  rw [hnone] at hsome
  exact absurd hsome (by simp)

/-! ## 3. Removing -/

theorem aim_clearBelow (t : FileTree) (loc : Location) (p : Path) :
    (t.clearBelow loc).aim p = t.aim p := rfl

theorem sameOutside_clearBelow (t : FileTree) (loc : Location) :
    SameOutside loc t (t.clearBelow loc) :=
  ⟨rfl, fun other hother => by rw [at?_clearBelow, if_neg fun h => hother h.1]⟩

theorem sameOutside_removeAt (t : FileTree) (loc : Location) :
    SameOutside loc t (t.removeAt loc) := by
  refine ⟨rfl, fun other hother => ?_⟩
  have hne : loc ≠ [] := fun hroot => hother (hroot ▸ List.nil_prefix)
  rw [at?_removeAt t hne, if_neg]
  rintro rfl
  exact hother List.prefix_rfl

/-- What a removal can have come to. -/
theorem delete_cases (t : FileTree) (p : Path) :
    (t.delete p).2 = t ∨
      ∃ loc, t.locate p = .ok loc ∧
        ((∃ content, t.at? loc = some (.file content) ∧ (t.delete p).2 = t.removeAt loc) ∨
          (t.at? loc = some .dir ∧
            ((t.delete p).2 = t.clearBelow loc ∨
              endsInName p = true ∧ (t.delete p).2 = (t.clearBelow loc).removeAt loc))) := by
  unfold delete
  cases hp : t.locate p with
  | error e => exact Or.inl rfl
  | ok loc =>
    dsimp only
    cases hat : t.at? loc with
    | none => exact Or.inl rfl
    | some entry =>
      refine Or.inr ⟨loc, rfl, ?_⟩
      cases entry with
      | file content => exact Or.inl ⟨content, hat, rfl⟩
      | dir =>
        refine Or.inr ⟨hat, ?_⟩
        dsimp only
        cases hstay : (t.clearBelow loc).locate p with
        | error e => exact Or.inl rfl
        | ok loc' =>
          -- the path reads the same, so it leads to the same place
          have heq : loc' = loc := by
            rw [eq_aim_of_locate hstay, aim_clearBelow, ← eq_aim_of_locate hp]
          dsimp only
          rw [heq]
          split
          · rename_i hends
            exact Or.inr ⟨hends, rfl⟩
          · exact Or.inl rfl

theorem sameOutside_delete (t : FileTree) (p : Path) : SameOutside (t.aim p) t (t.delete p).2 := by
  rcases t.delete_cases p with h | ⟨loc, hp, ⟨_, -, h⟩ | ⟨-, h | ⟨-, h⟩⟩⟩
  · rw [h]
    exact .refl _ t
  · rw [h, ← eq_aim_of_locate hp]
    exact sameOutside_removeAt t loc
  · rw [h, ← eq_aim_of_locate hp]
    exact sameOutside_clearBelow t loc
  · rw [h, ← eq_aim_of_locate hp]
    exact (sameOutside_clearBelow t loc).trans (sameOutside_removeAt _ loc)

theorem WellFormed.delete (h : t.WellFormed) (p : Path) : (t.delete p).2.WellFormed := by
  rcases t.delete_cases p with hd | ⟨loc, hp, ⟨content, hat, hd⟩ | ⟨hat, hd | ⟨hends, hd⟩⟩⟩
  · rw [hd]
    exact h
  · rw [hd]
    refine h.removeAt fun name => ?_
    cases hname : t.at? (loc ++ [name]) with
    | none => rfl
    | some entry =>
      have hdir := h.dir_above (List.cons_ne_nil name []) (by rw [hname]; rfl)
      rw [hat] at hdir
      exact absurd hdir (by simp)
  · rw [hd]
    exact h.clearBelow loc
  · rw [hd]
    refine (h.clearBelow loc).removeAt fun name => ?_
    rw [at?_clearBelow, if_pos ⟨List.prefix_append loc [name], by simp⟩]

/-- A directory is gone with everything in it. -/
theorem at?_delete_dir (hp : t.locate p = .ok loc) (hat : t.at? loc = some .dir)
    (hstay : (t.clearBelow loc).locate p = .ok loc) (hends : endsInName p = true) (hne : loc ≠ [])
    (other : Location) :
    (t.delete p).2.at? other = if loc <+: other then none else t.at? other := by
  have hdelete : (t.delete p).2 = (t.clearBelow loc).removeAt loc := by
    unfold FileTree.delete
    rw [hp]
    dsimp only
    rw [hat]
    dsimp only
    rw [hstay]
    dsimp only
    rw [if_pos hends]
  rw [hdelete, at?_removeAt _ hne, at?_clearBelow]
  by_cases heq : other = loc
  · rw [if_pos heq, if_pos (heq ▸ List.prefix_rfl)]
  · rw [if_neg heq]
    simp [heq]

end Stencil.FileTree
