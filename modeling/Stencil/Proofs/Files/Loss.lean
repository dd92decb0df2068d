import Stencil.Proofs.Files.Inside
import Stencil.Proofs.Files.Remove

/-!
# What is taken away

`Removed t t' loc` says that something stands at a location of the tree `t` and nothing at that of
`t'`, and `LosesOnly lost t t'` that this is so at the locations `lost` at most. What stands
elsewhere may have changed, but it is there; so the relation composes over steps that write and
steps that remove.

Two operations take anything away: removing, at the place where its path aims and below it
(`removed_delete`), and moving, at the place that is moved and below it (`losesOnly_rename`).

A directory goes itself only when its path ends in a name. So a path that stays inside a directory
and leads to no place but the directory, such as `dir/.` or `dir/a/..`, empties it and leaves it
there: all that is removed lies strictly below it (`strictlyBelow_of_removed`).
-/

set_option autoImplicit false

namespace Stencil

/-! ## 1. Steps to a name -/

namespace Path

theorem staysWithin_of_append {ss ss' : List String} {depth : Nat}
    (h : staysWithin depth (ss ++ ss')) : staysWithin depth ss := by
  induction ss generalizing depth with
  | nil => rfl
  | cons s ss ih =>
    rw [List.cons_append, staysWithin] at h
    rw [staysWithin]
    by_cases hidle : isIdle s
    · rw [if_pos hidle] at h ⊢
      exact ih h
    · rw [if_neg hidle] at h ⊢
      by_cases hup : s = ".."
      · rw [if_pos hup, Bool.and_eq_true] at h ⊢
        exact ⟨h.1, ih h.2⟩
      · rw [if_neg hup] at h ⊢
        exact ih h

/-- What is joined to a path comes last in it. -/
theorem steps_join_suffix (p : Path) {q : Path} (hq : q.isAbsolute = false) :
    q.steps <:+ (p.join q).steps := by
  by_cases hp : p.text = ""
  · have htext : p.join q = q := by
      unfold join
      rw [hq, if_neg (by simp), if_pos (by simp [hp]), hp, String.empty_append]
    exact ⟨[], by rw [htext, List.nil_append]⟩
  · rw [steps_join hp hq]
    exact List.suffix_append _ _

end Path

namespace FileTree

variable {t t₁ t' : FileTree} {p q : Path} {loc place : Location}

theorem stepsToName_ne_nil (hq : q.isAbsolute = false) (hne : q.text ≠ "") :
    stepsToName q ≠ [] := by
  obtain ⟨s, ss, hsteps, hs⟩ := head_steps_ne_empty hq hne
  obtain ⟨rest, hsplit, hrest⟩ := steps_eq_stepsToName q
  intro hnil
  rw [hnil, List.nil_append, hsteps] at hsplit
  exact hs (hrest s (hsplit ▸ List.mem_cons_self))

/-- A joined path ends in a name when what is joined does. -/
theorem endsInName_join (p : Path) (hq : q.isAbsolute = false) (hne : q.text ≠ "") :
    endsInName (p.join q) = endsInName q := by
  obtain ⟨front, hsteps⟩ := p.steps_join_suffix hq
  have hnil : (q.steps.reverse.dropWhile (· == "")).isEmpty = false := by
    have hname := stepsToName_ne_nil hq hne
    rw [stepsToName, ne_eq, List.reverse_eq_nil_iff] at hname
    simpa using hname
  have hjoin : stepsToName (p.join q) = front ++ stepsToName q := by
    rw [stepsToName, ← hsteps, List.reverse_append, List.dropWhile_append, hnil, if_neg (by simp),
      List.reverse_append, List.reverse_reverse, stepsToName]
  obtain ⟨names, name, hlast⟩ :=
    (List.eq_nil_or_concat (stepsToName q)).resolve_left (stepsToName_ne_nil hq hne)
  unfold endsInName
  rw [hjoin, hlast, List.concat_eq_append, ← List.append_assoc, List.getLast?_concat,
    List.getLast?_concat]

theorem foldl_turn_idle {rest : List String} (hrest : ∀ s ∈ rest, Path.isIdle s = true)
    (loc : Location) : rest.foldl turn loc = loc := by
  induction rest with
  | nil => rfl
  | cons s rest ih =>
    obtain ⟨hs, hmore⟩ := List.forall_mem_cons.1 hrest
    rw [List.foldl_cons, turn, if_pos hs, ih hmore]

/-- A path that stays inside and ends in a name leads strictly below. -/
theorem foldl_turn_strictlyBelow (base : Location) (hin : Path.staysWithin 0 q.steps)
    (hends : endsInName q = true) : StrictlyBelow base (q.steps.foldl turn base) := by
  obtain ⟨rest, hsteps, hrest⟩ := steps_eq_stepsToName q
  unfold endsInName at hends
  split at hends
  · rename_i name hlast
    obtain ⟨front, hfront⟩ := List.getLast?_eq_some_iff.1 hlast
    rw [hsteps, hfront] at hin ⊢
    obtain ⟨names, hnames⟩ := foldl_turn_below base []
      (Path.staysWithin_of_append (Path.staysWithin_of_append hin))
    rw [List.append_nil] at hnames
    refine ⟨names ++ [name], by simp, ?_⟩
    simp only [Bool.and_eq_true, Bool.not_eq_true', bne_iff_ne] at hends
    rw [List.foldl_append, foldl_turn_idle (isIdle_of_eq_empty hrest), List.foldl_append, hnames,
      List.foldl_cons, List.foldl_nil, turn, if_neg (by simp [hends.1]), if_neg hends.2,
      List.append_assoc]
  · exact absurd hends (by simp)

/-! ## 2. Losses -/

/-- Something stood there, and nothing stands there now. -/
def Removed (t t' : FileTree) (loc : Location) : Prop :=
  (t.at? loc).isSome = true ∧ t'.at? loc = none

/-- Nothing is gone from the tree but what stood at some locations. -/
structure LosesOnly (lost : Location → Prop) (t t' : FileTree) : Prop where
  current : t'.current = t.current
  removed : ∀ loc, Removed t t' loc → lost loc

namespace LosesOnly

variable {lost lost' : Location → Prop}

protected theorem refl (lost : Location → Prop) (t : FileTree) : LosesOnly lost t t :=
  ⟨rfl, fun _ h => absurd h.1 (by simp [h.2])⟩

protected theorem trans (h : LosesOnly lost t t₁) (h' : LosesOnly lost t₁ t') :
    LosesOnly lost t t' := by
  refine ⟨h'.current.trans h.current, fun loc hloc => ?_⟩
  cases hat : t₁.at? loc with
  | none => exact h.removed loc ⟨hloc.1, hat⟩
  | some e => exact h'.removed loc ⟨by rw [hat]; rfl, hloc.2⟩

theorem mono (h : LosesOnly lost t t') (hsub : ∀ loc, lost loc → lost' loc) :
    LosesOnly lost' t t' :=
  ⟨h.current, fun loc hloc => hsub loc (h.removed loc hloc)⟩

theorem aim_eq (h : LosesOnly lost t t') (p : Path) : t'.aim p = t.aim p :=
  aim_congr h.current p

/-- What is taken away where nothing was is no loss. -/
theorem of_free (h : LosesOnly lost t t') (hfree : ∀ loc, lost loc → t.at? loc = none) :
    LosesOnly lost' t t' :=
  ⟨h.current, fun loc hloc => absurd hloc.1 (by simp [hfree loc (h.removed loc hloc)])⟩

end LosesOnly

theorem Extends.losesOnly {written : Location → Prop} (h : Extends written t t')
    (lost : Location → Prop) : LosesOnly lost t t' := by
  refine ⟨h.current, fun loc hloc => ?_⟩
  obtain ⟨e, he⟩ := Option.isSome_iff_exists.1 hloc.1
  cases e with
  | dir => exact absurd (h.dir loc he) (by simp [hloc.2])
  | file content =>
    obtain ⟨content', hat⟩ := h.file loc content he
    exact absurd hat (by simp [hloc.2])

theorem SameOutside.losesOnly (h : SameOutside place t t') : LosesOnly (place <+: ·) t t' := by
  refine ⟨h.current, fun loc hloc => ?_⟩
  by_contra hout
  exact absurd hloc.1 (by simp [← h.elsewhere loc hout, hloc.2])

/-! ## 3. Removing -/

/-- What is removed stood where the path aims or below; and where the path aims, a directory is
removed only by a path that ends in a name. -/
theorem removed_delete (h : Removed t (t.delete p).2 loc) :
    t.locate p = .ok (t.aim p) ∧ t.aim p <+: loc ∧
      (loc = t.aim p → t.at? loc ≠ some .dir ∨ endsInName p = true) := by
  have hbelow := (sameOutside_delete t p).losesOnly.removed loc h
  rcases t.delete_cases p with hd | ⟨place, hp, hd⟩
  · rw [hd] at h
    exact absurd h.1 (by simp [h.2])
  · obtain rfl := eq_aim_of_locate hp
    refine ⟨hp, hbelow, fun hloc => ?_⟩
    rcases hd with ⟨content, hat, -⟩ | ⟨-, hd | ⟨hends, -⟩⟩
    · rw [hloc, hat]
      exact Or.inl (by simp)
    · rw [hd, Removed, at?_clearBelow, if_neg fun hin => hin.2 hloc] at h
      exact absurd h.1 (by simp [h.2])
    · exact Or.inr hends

/-- Under a path that stays inside a directory, everything that is removed stood strictly below
it. -/
theorem strictlyBelow_of_removed (hq : q.staysInside) (hne : q.text ≠ "")
    (h : Removed t (t.delete (p.join q)).2 loc) : StrictlyBelow (t.aim p) loc := by
  obtain ⟨habs, hsteps⟩ := Path.staysInside_iff.1 hq
  obtain ⟨hlocate, ⟨tail, rfl⟩, hitself⟩ := removed_delete h
  obtain ⟨names, hnames⟩ := foldl_turn_below (t.aim p) [] hsteps
  rw [List.append_nil, ← t.aim_join p habs] at hnames
  by_cases hempty : names ++ tail = []
  · obtain ⟨rfl, rfl⟩ := List.append_eq_nil_iff.1 hempty
    rw [List.append_nil] at hnames
    -- the path leads to the directory, so it does not end in a name
    have hdir : t.at? (t.aim (p.join q) ++ []) = some .dir := by
      rw [List.append_nil, hnames]
      exact dir_of_locate_join habs hlocate
    have hends := (hitself (List.append_nil _)).resolve_left (absurd hdir)
    rw [endsInName_join p habs hne] at hends
    have hbelow := foldl_turn_strictlyBelow (t.aim p) hsteps hends
    rwa [← t.aim_join p habs, ← List.append_nil (t.aim (p.join q))] at hbelow
  · exact ⟨names ++ tail, hempty, by rw [hnames, List.append_assoc]⟩

/-! ## 4. Moving -/

theorem at?_isSome_iff {t : FileTree} {loc : Location} (hne : loc ≠ []) :
    (t.at? loc).isSome = true ↔ ∃ e, (loc, e) ∈ t.entries := by
  rw [at?, if_neg hne]
  constructor
  · intro h
    obtain ⟨e, he⟩ := Option.isSome_iff_exists.1 h
    exact ⟨e, mem_of_lookup he⟩
  · rintro ⟨e, he⟩
    exact lookup_isSome_of_mem he

/-- What is not moved stands where it stood, or what is moved has come there. -/
theorem losesOnly_moved {u : FileTree} {src dst : Location} (hcurrent : u.current = t.current)
    (hkept : ∀ loc e, (loc, e) ∈ t.entries →
      (loc, e) ∈ u.entries ∨ loc = dst ∧ (u.at? src).isSome = true) :
    LosesOnly (src <+: ·) t { u with entries := u.entries.map fun e => (moved src dst e.1, e.2) } := by
  refine ⟨hcurrent, fun loc hloc => ?_⟩
  by_contra hout
  have hroot : loc ≠ [] := by
    rintro rfl
    exact absurd hloc.2 (by simp [at?_root])
  have hthere : ∃ e, (loc, e) ∈ u.entries.map fun e => (moved src dst e.1, e.2) := by
    obtain ⟨e, he⟩ := (at?_isSome_iff hroot).1 hloc.1
    rcases hkept loc e he with he | ⟨rfl, hsrc⟩
    · refine ⟨e, List.mem_map.2 ⟨(loc, e), he, ?_⟩⟩
      rw [moved, if_neg (by simpa [List.isPrefixOf_iff_prefix] using hout)]
    · have hne : src ≠ [] := fun hnil => hout (hnil ▸ List.nil_prefix)
      obtain ⟨e', he'⟩ := (at?_isSome_iff hne).1 hsrc
      refine ⟨e', List.mem_map.2 ⟨(src, e'), he', ?_⟩⟩
      rw [moved, if_pos (by simp), List.drop_length, List.append_nil]
  exact absurd ((at?_isSome_iff hroot).2 hthere) (by rw [hloc.2]; simp)

/-- A move takes away what is moved and nothing else. -/
theorem losesOnly_rename (t : FileTree) (p q : Path) :
    LosesOnly (t.aim p <+: ·) t (t.rename p q).2 := by
  have hsame : LosesOnly (t.aim p <+: ·) t t := .refl _ t
  unfold rename
  cases hp : t.locate p with
  | error e => exact hsame
  | ok src =>
    obtain rfl := eq_aim_of_locate hp
    dsimp only
    split
    · exact hsame
    split
    · split
      · split
        · exact hsame
        · exact losesOnly_moved rfl fun _ _ he => Or.inl he
      · exact hsame
    · split
      · rename_i dst _
        split
        · rename_i hguard
          simp only [Bool.and_eq_true, Bool.not_eq_true'] at hguard
          obtain ⟨⟨⟨⟨⟨hdir, -⟩, -⟩, -⟩, hapart⟩, hbelow⟩ := hguard
          have hsrc : t.aim p ≠ dst := by
            rintro rfl
            exact absurd hapart (by simp)
          have hne : dst ≠ [] := by
            rintro rfl
            exact absurd hbelow (by simp)
          refine losesOnly_moved rfl fun loc e he => ?_
          by_cases hdst : loc = dst
          · refine Or.inr ⟨hdst, ?_⟩
            rw [at?_removeAt t hne, if_neg hsrc, isDirAt_iff.1 hdir]
            rfl
          · exact Or.inl (List.mem_filter.2 ⟨he, by simpa using hdst⟩)
        · exact hsame
      · exact hsame

end FileTree

end Stencil
