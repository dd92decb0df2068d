import Stencil.Proofs.Files.Below
import Stencil.Proofs.Files.Dirs

/-!
# Trees that differ at one path

`AgreesBut p t t'` says that the trees hold the same, apart from a file at the place that `p` leads
to: in one of them it may be missing or another one. No directory is at stake, so every path leads
where it led (`AgreesBut.locate_iff`), and what is read by a path that leads to another place is the
same (`AgreesBut.read?_eq`).

The first section is about the paths of places. Such a path spells the names on the way, so the path
of a place in a directory is not the path of the directory (`absolute_concat_not_same`).
-/

set_option autoImplicit false

namespace Stencil

/-! ## 1. The paths of places -/

namespace FileTree

theorem steps_absolute {loc : Location} (hne : loc ≠ []) :
    (absolute loc).steps = "" :: loc.flatMap (Text.split '/') := by
  have htext : (absolute loc).text = "" ++ "/" ++ "/".intercalate loc := by
    rw [String.empty_append]
    rfl
  rw [Path.steps, htext, Text.split_append_slash, Text.split_intercalate hne]
  rfl

theorem isAbsolute_absolute (loc : Location) : (absolute loc).isAbsolute = true := by
  unfold Path.isAbsolute absolute
  rw [String.toList_append]
  rfl

/-- The components of a place's path. -/
theorem components_absolute (loc : Location) :
    (absolute loc).components =
      .root ::
        ((loc.flatMap (Text.split '/')).filter fun s => !Path.isIdle s).map Path.componentOf := by
  unfold Path.components Path.parts
  rw [if_pos (isAbsolute_absolute loc)]
  cases loc with
  | nil => rfl
  | cons name rest => rw [steps_absolute (List.cons_ne_nil name rest)]; rfl

/-- The path of a place in a directory is not the path of the directory. -/
theorem absolute_concat_not_same (dir : Location) {name : String} (hname : Proper name) :
    (absolute (dir ++ [name])).same (absolute dir) = false := by
  have hsplit : Text.split '/' name = [name] := Text.split_of_not_mem hname.no_slash
  unfold Path.same
  rw [beq_eq_false_iff_ne, components_absolute, components_absolute]
  intro heq
  have hlen := congrArg List.length heq
  simp [List.flatMap_append, hsplit, hname.not_idle] at hlen

theorem realPath?_eq_some {t : FileTree} {p q : Path} :
    t.realPath? p = some q ↔
      ∃ loc, t.locate p = .ok loc ∧ (t.at? loc).isSome ∧ q = absolute loc := by
  unfold realPath?
  cases hp : t.locate p with
  | error e => simp
  | ok loc =>
    dsimp only
    split
    · rename_i hsome
      constructor
      · intro h
        exact ⟨loc, rfl, hsome, (Option.some.inj h).symm⟩
      · rintro ⟨loc', hloc', -, rfl⟩
        rw [Except.ok.inj hloc']
    · rename_i hnone
      constructor
      · intro h
        exact absurd h (by simp)
      · rintro ⟨loc', hloc', hsome, -⟩
        rw [Except.ok.inj hloc'] at hnone
        exact absurd hsome hnone

/-! ## 2. Trees that differ at one path -/

/-- The trees differ in nothing but the file that a path leads to: in whether it is there and in
what it holds. -/
structure AgreesBut (p : Path) (t t' : FileTree) : Prop where
  current : t'.current = t.current
  elsewhere : ∀ loc, t.locate p ≠ .ok loc → t'.at? loc = t.at? loc
  file : ∀ loc, t.locate p = .ok loc → t.at? loc ≠ some .dir ∧ t'.at? loc ≠ some .dir

/-- A file that is put where no directory stands makes such trees. -/
theorem agreesBut_place {t : FileTree} {p : Path} {loc : Location} (hp : t.locate p = .ok loc)
    (hno : t.at? loc ≠ some .dir) (content : ByteArray) :
    AgreesBut p t (t.place loc (.file content)) := by
  have hne : loc ≠ [] := fun hnil => hno (by rw [hnil, at?_root])
  refine ⟨rfl, fun other hother => ?_, fun other hother => ?_⟩
  · have hdiffers : other ≠ loc := fun heq => hother (heq ▸ hp)
    rw [at?_place t _ other hne, if_neg hdiffers]
  · rw [hp, Except.ok.injEq] at hother
    rw [← hother, at?_place t _ loc hne, if_pos rfl]
    exact ⟨hno, by simp⟩

theorem agreesBut_of_write {t t' : FileTree} {p : Path} {content : ByteArray}
    (h : t.write p content = (true, t')) : AgreesBut p t t' := by
  obtain ⟨loc, hwritable, -, rfl⟩ := place_of_write h
  exact agreesBut_place hwritable.locate hwritable.no_dir content

namespace AgreesBut

variable {p q : Path} {t t' : FileTree}

theorem dir_iff (h : AgreesBut p t t') (loc : Location) :
    t'.at? loc = some .dir ↔ t.at? loc = some .dir := by
  by_cases hp : t.locate p = .ok loc
  · obtain ⟨hno, hno'⟩ := h.file loc hp
    exact ⟨fun hd => absurd hd hno', fun hd => absurd hd hno⟩
  · rw [h.elsewhere loc hp]

theorem locate_iff (h : AgreesBut p t t') {loc : Location} :
    t'.locate q = .ok loc ↔ t.locate q = .ok loc :=
  ⟨locate_of_dirs (fun loc => (h.dir_iff loc).1) h.current.symm,
    locate_of_dirs (fun loc => (h.dir_iff loc).2) h.current⟩

protected theorem symm (h : AgreesBut p t t') : AgreesBut p t' t :=
  ⟨h.current.symm, fun loc hp => (h.elsewhere loc fun hloc => hp (h.locate_iff.2 hloc)).symm,
    fun loc hp => (h.file loc (h.locate_iff.1 hp)).symm⟩

/-- A path that leads to another place finds the same there. -/
theorem read?_eq (h : AgreesBut p t t')
    (hq : ∀ loc, t.locate q = .ok loc → t.locate p ≠ .ok loc) : t'.read? q = t.read? q := by
  have hiff : ∀ content, t'.read? q = some content ↔ t.read? q = some content := by
    intro content
    rw [read?_eq_some, read?_eq_some]
    refine exists_congr fun loc => ?_
    rw [h.locate_iff]
    refine and_congr_right fun hloc => ?_
    rw [h.elsewhere loc (hq loc hloc)]
  exact Option.ext hiff

end AgreesBut

end FileTree

end Stencil
