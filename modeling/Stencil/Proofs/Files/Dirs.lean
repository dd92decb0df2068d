import Stencil.Proofs.Files.Write

/-!
# What stands where something was made

After a directory has been made with those above it, its path leads to a directory
(`isDir_of_makeDirs`), and making it again changes nothing (`makeDirs_of_isDir`). After a file has
been written, its path leads to a file with that content (`read?_of_write`), and it can be written
again (`write_of_isFile`).

A directory is made by the steps of its path up to the last name, and found by all of them. What is
left over is empty steps, and these lead from a directory to itself (`follow_empty`).
-/

set_option autoImplicit false

namespace Stencil.FileTree

variable {t t' : FileTree} {p : Path} {loc loc' : Location}

/-! ## 1. The steps of a path -/

/-- An absolute path starts with an empty step and goes on behind it. -/
theorem head_steps_of_isAbsolute (h : p.isAbsolute = true) : ∃ s ss, p.steps = "" :: s :: ss := by
  unfold Path.isAbsolute at h
  unfold Path.steps Text.split
  cases htext : p.text.toList with
  | nil => exact absurd h (by simp [htext])
  | cons c cs =>
    rw [htext] at h
    have hc : c = '/' := by simpa using h
    obtain ⟨q, qs, hpieces⟩ := List.exists_cons_of_ne_nil (Text.pieces_ne_nil '/' cs)
    exact ⟨String.ofList q, qs.map String.ofList, by rw [Text.pieces, if_pos hc, hpieces]; rfl⟩

theorem steps_of_isAbsolute (h : p.isAbsolute = true) : p.steps = "" :: p.steps.drop 1 := by
  obtain ⟨s, ss, hsteps⟩ := head_steps_of_isAbsolute h
  rw [hsteps]
  rfl

/-- A path that does not start at the root starts with a step that is not empty. -/
theorem head_steps_ne_empty (habs : p.isAbsolute = false) (hne : p.text ≠ "") :
    ∃ s ss, p.steps = s :: ss ∧ s ≠ "" := by
  unfold Path.isAbsolute at habs
  unfold Path.steps Text.split
  cases htext : p.text.toList with
  | nil => exact absurd (String.toList_eq_nil_iff.1 htext) hne
  | cons c cs =>
    rw [htext] at habs
    have hc : c ≠ '/' := by simpa using habs
    rw [Text.pieces, if_neg hc]
    cases hpieces : Text.pieces '/' cs with
    | nil => exact absurd hpieces (Text.pieces_ne_nil '/' cs)
    | cons q qs =>
      refine ⟨_, _, rfl, fun hnil => ?_⟩
      have hnil := congrArg String.toList hnil
      simp at hnil

/-- Behind the last name there are only empty steps. -/
theorem steps_eq_stepsToName (p : Path) :
    ∃ rest, p.steps = stepsToName p ++ rest ∧ ∀ s ∈ rest, s = "" := by
  refine ⟨(p.steps.reverse.takeWhile (· == "")).reverse, ?_, fun s hs => ?_⟩
  · rw [stepsToName, ← List.reverse_append, List.takeWhile_append_dropWhile, List.reverse_reverse]
  · have hall := List.all_eq_true.1 List.all_takeWhile s (List.mem_reverse.1 hs)
    simpa using hall

theorem follow_empty {rest : List String} (hrest : ∀ s ∈ rest, s = "")
    (hdir : t.at? loc = some .dir) : t.follow loc rest = .ok loc := by
  induction rest with
  | nil => rfl
  | cons s rest ih =>
    obtain ⟨rfl, hmore⟩ := List.forall_mem_cons.1 hrest
    exact follow_cons_eq_ok.2 ⟨hdir, Or.inl rfl, ih hmore⟩

/-- Idle steps stay where they are. -/
theorem eq_of_follow_idle {rest : List String} (hrest : ∀ s ∈ rest, Path.isIdle s = true)
    (h : t.follow loc rest = .ok loc') : loc' = loc := by
  induction rest with
  | nil => exact (Except.ok.inj h).symm
  | cons s rest ih =>
    obtain ⟨hs, hmore⟩ := List.forall_mem_cons.1 hrest
    have hturn : turn loc s = loc := if_pos hs
    have hnext := (follow_cons_eq_ok.1 h).2.2
    rw [hturn] at hnext
    exact ih hmore hnext

theorem isIdle_of_eq_empty {rest : List String} (hrest : ∀ s ∈ rest, s = "") :
    ∀ s ∈ rest, Path.isIdle s = true := by
  intro s hs
  rw [hrest s hs]
  rfl

/-- The root may be taken as a step. -/
theorem follow_steps :
    t.follow (t.route p).1 p.steps = .ok loc ↔ t.follow (t.route p).1 (t.route p).2 = .ok loc := by
  unfold route
  cases habs : p.isAbsolute with
  | false => exact Iff.rfl
  | true =>
    rw [if_pos rfl, steps_of_isAbsolute habs, follow_cons_eq_ok]
    exact ⟨fun h => h.2.2, fun h => ⟨at?_root t, Or.inl rfl, h⟩⟩

/-! ## 2. Directories -/

/-- A directory is made where the path aims, in a place that was free, and the path leads to it. -/
theorem makeDir_leaves (h : t.makeDir p = .ok t') :
    t' = t.place (t.aim p) .dir ∧ t.at? (t.aim p) = none ∧ t'.locate p = .ok (t.aim p) ∧
      endsInName p = true := by
  have hextends := extends_of_makeDir h
  obtain ⟨dir, name, hmakes, rfl⟩ := makes_of_makeDir h
  obtain ⟨rest, hsteps, hrest⟩ := steps_eq_stepsToName p
  have hne : dir ++ [name] ≠ [] := by simp
  have hat : (t.place (dir ++ [name]) .dir).at? (dir ++ [name]) = some .dir := by
    rw [at?_place t .dir _ hne, if_pos rfl]
  have hname : turn dir name = dir ++ [name] := by
    unfold turn
    rw [if_neg (by simp [hmakes.not_idle]), if_neg hmakes.ne_up]
  -- to the directory above as before, one step down to the new one, and on by empty steps
  have hlast : (t.place (dir ++ [name]) .dir).follow dir [name] = .ok (dir ++ [name]) :=
    follow_cons_eq_ok.2 ⟨hextends.dir dir hmakes.standing, Or.inr (Or.inr hmakes.size_le), by
      rw [hname, FileTree.follow]⟩
  have hfollow : (t.place (dir ++ [name]) .dir).follow (t.route p).1 p.steps =
      .ok (dir ++ [name]) := by
    rw [hsteps, ← List.dropLast_append_getLast? name hmakes.last]
    refine (follow_append _ _).2 ⟨dir ++ [name], ?_, follow_empty hrest hat⟩
    exact (follow_append _ _).2 ⟨dir, hextends.follow hmakes.follow, hlast⟩
  have hlocate : (t.place (dir ++ [name]) .dir).locate p = .ok (dir ++ [name]) := by
    refine locate_eq_ok.2 ⟨hmakes.admissible, fun hempty => ?_, ?_⟩
    · have hnone : (stepsToName p).getLast? = none := by
        unfold stepsToName Path.steps
        rw [hempty]
        rfl
      rw [hmakes.last] at hnone
      exact absurd hnone (by simp)
    · rw [← hextends.route_eq p] at hfollow
      exact follow_steps.1 hfollow
  have haim : dir ++ [name] = t.aim p := (eq_aim_of_locate hlocate).trans (hextends.aim_eq p)
  rw [← haim]
  refine ⟨rfl, hmakes.free, hlocate, ?_⟩
  unfold endsInName
  rw [hmakes.last]
  simp [hmakes.not_idle, hmakes.ne_up]

theorem isDir_of_makeDir (h : t.makeDir p = .ok t') : t'.isDir p := by
  obtain ⟨rfl, hfree, hlocate, -⟩ := makeDir_leaves h
  have hne : t.aim p ≠ [] := fun hroot => by
    rw [hroot, at?_root] at hfree
    exact absurd hfree (by simp)
  exact isDir_iff.2 ⟨t.aim p, hlocate, by rw [at?_place t .dir _ hne, if_pos rfl]⟩

theorem route_fst : (t.route p).1 = if p.isAbsolute then [] else t.current := by
  unfold route
  split
  · rfl
  · rfl

/-- No directory is made where something is there already. -/
theorem makeDir_of_locate (hlocate : t.locate p = .ok loc) (hsome : (t.at? loc).isSome) :
    t.makeDir p = .error .other := by
  obtain ⟨hadmissible, hne, hfollow⟩ := locate_eq_ok.1 hlocate
  obtain ⟨rest, hsteps, hrest⟩ := steps_eq_stepsToName p
  have hall := follow_steps.2 hfollow
  rw [hsteps] at hall
  obtain ⟨mid, hmid, hbehind⟩ := (follow_append _ _).1 hall
  rw [← eq_of_follow_idle (isIdle_of_eq_empty hrest) hbehind] at hmid
  unfold makeDir
  rw [if_neg (by simp [hadmissible])]
  dsimp only
  rw [← route_fst]
  cases hlast : (stepsToName p).getLast? with
  | none =>
    -- only the root is a path of empty steps
    have hnil : stepsToName p = [] := List.getLast?_eq_none_iff.1 hlast
    cases habs : p.isAbsolute with
    | true => rfl
    | false =>
      obtain ⟨s, ss, hcons, hs⟩ := head_steps_ne_empty habs hne
      rw [hnil, List.nil_append] at hsteps
      exact absurd (hrest s (by rw [← hsteps, hcons]; exact List.mem_cons_self)) hs
  | some name =>
    rw [← List.dropLast_append_getLast? name hlast] at hmid
    obtain ⟨dir, hfront, hend⟩ := (follow_append _ _).1 hmid
    obtain ⟨hstanding, -, hturn⟩ := follow_cons_eq_ok.1 hend
    have hturn : turn dir name = loc := Except.ok.inj hturn
    dsimp only
    rw [hfront]
    dsimp only
    rw [(standing_eq_ok (u := ())).2 hstanding]
    dsimp only
    split
    · rfl
    · rename_i hbad
      simp only [Bool.or_eq_true, decide_eq_true_eq, not_or, Bool.not_eq_true] at hbad
      unfold turn at hturn
      rw [if_neg (by simp [hbad.1.1]), if_neg hbad.1.2] at hturn
      rw [hturn, if_pos hsome]

theorem isDir_of_makeDirsAmong {up : List Path} (h : t.makeDirsAmong (p :: up) = (true, t')) :
    p.text = "" ∨ t'.isDir p := by
  unfold makeDirsAmong at h
  split at h
  · rename_i hempty
    exact Or.inl hempty
  · refine Or.inr ?_
    split at h
    · rename_i hmade
      rw [← (Prod.mk.inj h).2]
      exact isDir_of_makeDir hmade
    · rw [← (Prod.mk.inj h).2]
      exact (Prod.mk.inj h).1
    · split at h
      · exact absurd (Prod.mk.inj h).1 (by simp)
      · split at h
        · rename_i hmade
          rw [← (Prod.mk.inj h).2]
          exact isDir_of_makeDir hmade
        · rw [← (Prod.mk.inj h).2]
          exact (Prod.mk.inj h).1

theorem ancestors_eq_cons (p : Path) : ∃ up, p.ancestors = p :: up := by
  unfold Path.ancestors
  exact ⟨_, rfl⟩

/-- The empty path stands for a directory that need not be made. -/
theorem isDir_of_makeDirs (h : t.makeDirs p = (true, t')) : p.text = "" ∨ t'.isDir p := by
  obtain ⟨up, hup⟩ := ancestors_eq_cons p
  unfold makeDirs at h
  rw [hup] at h
  exact isDir_of_makeDirsAmong h

/-- Where something is there already, nothing is changed; it is what was to be made if it is a
directory. -/
theorem makeDirs_of_locate (hlocate : t.locate p = .ok loc) (hsome : (t.at? loc).isSome) :
    t.makeDirs p = (t.isDir p, t) := by
  obtain ⟨up, hup⟩ := ancestors_eq_cons p
  unfold makeDirs
  rw [hup, makeDirsAmong, if_neg (locate_eq_ok.1 hlocate).2.1, makeDir_of_locate hlocate hsome]

theorem makeDirs_of_empty (h : p.text = "") : t.makeDirs p = (true, t) := by
  obtain ⟨up, hup⟩ := ancestors_eq_cons p
  unfold makeDirs
  rw [hup, makeDirsAmong, if_pos h]

theorem makeDirs_of_isDir (h : p.text = "" ∨ t.isDir p) : t.makeDirs p = (true, t) := by
  rcases h with hempty | hdir
  · exact makeDirs_of_empty hempty
  · obtain ⟨loc, hlocate, hat⟩ := isDir_iff.1 hdir
    rw [makeDirs_of_locate hlocate (by rw [hat]; rfl), hdir]

/-! ## 3. What is new -/

/-- The second tree is the first one with directories made in places where nothing was. -/
structure Gains (made : Location → Prop) (t t' : FileTree) : Prop where
  current : t'.current = t.current
  entry : ∀ loc, t'.at? loc = t.at? loc ∨ t.at? loc = none ∧ t'.at? loc = some .dir ∧ made loc

namespace Gains

variable {made made' : Location → Prop} {t₁ : FileTree}

protected theorem refl (made : Location → Prop) (t : FileTree) : Gains made t t :=
  ⟨rfl, fun _ => Or.inl rfl⟩

protected theorem trans (h : Gains made t t₁) (h' : Gains made t₁ t') : Gains made t t' := by
  refine ⟨h'.current.trans h.current, fun loc => ?_⟩
  rcases h'.entry loc with heq' | ⟨hnone', hdir', hmade'⟩
  · rw [heq']
    exact h.entry loc
  · rcases h.entry loc with heq | ⟨-, hdir, -⟩
    · exact Or.inr ⟨heq ▸ hnone', hdir', hmade'⟩
    · rw [hdir] at hnone'
      exact absurd hnone' (by simp)

theorem mono (h : Gains made t t') (hsub : ∀ loc, made loc → made' loc) : Gains made' t t' :=
  ⟨h.current, fun loc => (h.entry loc).imp_right fun hnew => ⟨hnew.1, hnew.2.1, hsub loc hnew.2.2⟩⟩

theorem aim_eq (h : Gains made t t') (p : Path) : t'.aim p = t.aim p :=
  aim_congr h.current p

end Gains

theorem gains_of_makeDir (h : t.makeDir p = .ok t') : Gains (· = t.aim p) t t' := by
  obtain ⟨rfl, hfree, -, -⟩ := makeDir_leaves h
  have hne : t.aim p ≠ [] := fun hroot => by
    rw [hroot, at?_root] at hfree
    exact absurd hfree (by simp)
  refine ⟨rfl, fun loc => ?_⟩
  rw [at?_place t .dir loc hne]
  by_cases heq : loc = t.aim p
  · rw [if_pos heq, heq]
    exact Or.inr ⟨hfree, rfl, rfl⟩
  · rw [if_neg heq]
    exact Or.inl rfl

theorem gains_makeDirsAmong (t : FileTree) (paths : List Path) :
    Gains (fun loc => ∃ p ∈ paths, loc = t.aim p) t (t.makeDirsAmong paths).2 := by
  refine makeDirsAmong_induction (fun p hp t₁ t₂ h hmade => ?_) (.refl _ t)
  have hlast := gains_of_makeDir hmade
  rw [h.aim_eq] at hlast
  exact h.trans (hlast.mono fun loc hloc => ⟨p, hp, hloc⟩)

/-! ## 4. Files -/

theorem read?_eq_some {content : ByteArray} :
    t.read? p = some content ↔ ∃ loc, t.locate p = .ok loc ∧ t.at? loc = some (.file content) := by
  unfold read? entry?
  cases hp : t.locate p with
  | error e => simp
  | ok loc =>
    rcases hat : t.at? loc with _ | _ | _
    · simp [hat]
    · simp [hat]
    · simp [hat]

theorem exists_of_read? {content : ByteArray} (h : t.read? p = some content) : t.exists p := by
  obtain ⟨loc, hloc, hat⟩ := read?_eq_some.1 h
  exact exists_iff.2 ⟨loc, hloc, by rw [hat]; rfl⟩

theorem read?_of_write {content : ByteArray} (h : t.write p content = (true, t')) :
    t'.read? p = some content := by
  have hextends := extends_of_write h
  obtain ⟨loc, hwritable, hne, rfl⟩ := place_of_write h
  refine read?_eq_some.2 ⟨loc, hextends.locate hwritable.locate, ?_⟩
  rw [at?_place t _ loc hne, if_pos rfl]

/-- Where a file is, one can be written. -/
theorem write_of_file {c : ByteArray} (hloc : t.locate p = .ok loc)
    (hat : t.at? loc = some (.file c)) (content : ByteArray) :
    t.write p content = (true, t.place loc (.file content)) := by
  have hdir : ¬ t.isDirAt loc := by
    rw [isDirAt_iff, hat]
    simp
  unfold write
  rw [hloc]
  dsimp only
  rw [if_neg hdir]

theorem write_of_isFile (h : t.isFile p) (content : ByteArray) :
    ∃ t', t.write p content = (true, t') := by
  obtain ⟨loc, c, hloc, hat⟩ := isFile_iff.1 h
  exact ⟨_, write_of_file hloc hat content⟩

end Stencil.FileTree
