import Mathlib.Data.List.Induction
import Mathlib.Data.List.Nodup
import Stencil.Files.Tree

/-!
# The tree under writes

What writing does to a tree, and what a walk over the tree needs to know of it.

Nothing that writes takes anything away. A write puts a file where no directory stands, and making
directories puts one only where nothing stands. So along a run of writes a directory stays a
directory and a file stays a file (`Extends`), every path that led somewhere still leads there
(`Extends.locate`), and the only file whose content is another one is the one that was written
(`write_cases`).

There are no links, so a path that leads anywhere leads where its text says: `aim` reads the
location off the path alone, and `locate` agrees with it whenever it gives one.
-/

set_option autoImplicit false

namespace Stencil

theorem Path.steps_ne_nil (p : Path) : p.steps ≠ [] := by
  simpa [steps, Text.split] using Text.pieces_ne_nil '/' p.text.toList

namespace FileTree

/-! ## 1. Trees that a file system can hold -/

/-- A name that an entry of a directory can have. -/
structure Proper (name : String) : Prop where
  ne_empty : name ≠ ""
  ne_here : name ≠ "."
  ne_up : name ≠ ".."
  no_slash : '/' ∉ name.toList
  size_le : name.utf8ByteSize ≤ nameLimit

instance (name : String) : Decidable (Proper name) :=
  decidable_of_iff (name ≠ "" ∧ name ≠ "." ∧ name ≠ ".." ∧ '/' ∉ name.toList ∧
      name.utf8ByteSize ≤ nameLimit)
    ⟨fun h => ⟨h.1, h.2.1, h.2.2.1, h.2.2.2.1, h.2.2.2.2⟩,
      fun h => ⟨h.ne_empty, h.ne_here, h.ne_up, h.no_slash, h.size_le⟩⟩

theorem Proper.not_idle {name : String} (h : Proper name) : Path.isIdle name = false := by
  simp [Path.isIdle, h.ne_empty, h.ne_here]

theorem Proper.not_absolute {name : String} (h : Proper name) : Path.isAbsolute ⟨name⟩ = false :=
  Path.isAbsolute_eq_false h.no_slash

/-- At most one thing stands at a location, names are names, and whatever stands anywhere stands in
a directory. -/
structure WellFormed (t : FileTree) : Prop where
  distinct : (t.entries.map (·.1)).Nodup
  named : ∀ e ∈ t.entries, ∀ name ∈ e.1, Proper name
  parents : ∀ e ∈ t.entries, t.at? e.1.dropLast = some .dir
  current : ∀ name ∈ t.current, Proper name

/-! ## 2. What stands where -/

theorem mem_of_lookup {loc : Location} {entries : List (Location × Entry)} {e : Entry}
    (h : lookup loc entries = some e) : (loc, e) ∈ entries := by
  induction entries with
  | nil => exact absurd h (by simp [lookup])
  | cons entry rest ih =>
    obtain ⟨l, e'⟩ := entry
    unfold lookup at h
    split at h
    · rename_i hl
      rw [Option.some.injEq] at h
      rw [hl, h]
      exact List.mem_cons_self
    · exact List.mem_cons_of_mem _ (ih h)

theorem lookup_isSome_of_mem {loc : Location} {entries : List (Location × Entry)} {e : Entry}
    (h : (loc, e) ∈ entries) : (lookup loc entries).isSome := by
  induction entries with
  | nil => exact absurd h (by simp)
  | cons entry rest ih =>
    obtain ⟨l, e'⟩ := entry
    unfold lookup
    split
    · rfl
    · rename_i hl
      rcases List.mem_cons.1 h with heq | h
      · exact absurd (congrArg Prod.fst heq).symm hl
      · exact ih h

/-- What is looked for among the entries that are kept. -/
theorem lookup_filter (keep : Location → Bool) (loc : Location)
    (entries : List (Location × Entry)) :
    lookup loc (entries.filter fun e => keep e.1) =
      if keep loc = true then lookup loc entries else none := by
  induction entries with
  | nil => simp [lookup]
  | cons entry rest ih =>
    obtain ⟨l, e⟩ := entry
    by_cases hl : keep l = true
    · rw [List.filter_cons_of_pos (by exact hl), lookup, lookup, ih]
      by_cases heq : l = loc
      · rw [if_pos heq, if_pos heq, if_pos (heq ▸ hl)]
      · rw [if_neg heq, if_neg heq]
    · rw [List.filter_cons_of_neg (by exact hl), ih, lookup]
      by_cases heq : l = loc
      · rw [if_neg (heq ▸ hl), if_neg (heq ▸ hl)]
      · rw [if_neg heq]

theorem lookup_filter_ne {loc loc' : Location} (entries : List (Location × Entry))
    (h : loc' ≠ loc) :
    lookup loc' (entries.filter (·.1 != loc)) = lookup loc' entries :=
  (lookup_filter (· != loc) loc' entries).trans (if_pos (by simp [h]))

/-- After placing, the entry stands at its location and everything else where it stood. -/
theorem at?_place (t : FileTree) {loc : Location} (e : Entry) (loc' : Location) (hne : loc ≠ []) :
    (t.place loc e).at? loc' = if loc' = loc then some e else t.at? loc' := by
  unfold at?
  by_cases hroot : loc' = []
  · rw [if_pos hroot, if_pos hroot, if_neg (by rw [hroot]; exact Ne.symm hne)]
  · rw [if_neg hroot, if_neg hroot]
    show (if loc = loc' then some e else lookup loc' (t.entries.filter (·.1 != loc))) = _
    by_cases h : loc' = loc
    · rw [if_pos h.symm, if_pos h]
    · rw [if_neg (Ne.symm h), if_neg h, lookup_filter_ne t.entries h]

theorem at?_root (t : FileTree) : t.at? [] = some .dir := rfl

theorem isDirAt_iff {t : FileTree} {loc : Location} : t.isDirAt loc ↔ t.at? loc = some .dir := by
  unfold isDirAt
  split
  · rename_i h
    exact ⟨fun _ => h, fun _ => rfl⟩
  · rename_i h
    exact ⟨fun hf => absurd hf (by simp), fun hd => absurd hd h⟩

theorem wellFormed_iff {t : FileTree} : t.WellFormed ↔
    (t.entries.map (·.1)).Nodup ∧ (∀ e ∈ t.entries, ∀ name ∈ e.1, Proper name) ∧
      (∀ e ∈ t.entries, t.isDirAt e.1.dropLast) ∧ ∀ name ∈ t.current, Proper name := by
  simp only [isDirAt_iff]
  exact ⟨fun h => ⟨h.distinct, h.named, h.parents, h.current⟩,
    fun ⟨hdistinct, hnamed, hparents, hcurrent⟩ => ⟨hdistinct, hnamed, hparents, hcurrent⟩⟩

/-- Of a tree that is written down it can be told. -/
instance (t : FileTree) : Decidable t.WellFormed :=
  decidable_of_iff _ wellFormed_iff.symm

/-- Placing keeps a tree well-formed when the place has a name in a directory, and when nothing
that holds other entries is covered up. -/
theorem WellFormed.place {t : FileTree} (h : t.WellFormed) {loc : Location} (e : Entry)
    (hloc : ∀ name ∈ loc, Proper name) (hdir : t.at? loc.dropLast = some .dir)
    (hno : t.at? loc ≠ some .dir) : (t.place loc e).WellFormed := by
  have hne : loc ≠ [] := fun hloc => hno (by rw [hloc, at?_root])
  have hkeep : ∀ loc', t.at? loc' = some .dir → (t.place loc e).at? loc' = some .dir := by
    intro loc' hd
    rw [at?_place t e loc' hne, if_neg (fun heq : loc' = loc => hno (heq ▸ hd)), hd]
  refine ⟨?_, ?_, ?_, h.current⟩
  · show (((loc, e) :: t.entries.filter (·.1 != loc)).map (·.1)).Nodup
    rw [List.map_cons, List.nodup_cons]
    refine ⟨fun hmem => ?_, h.distinct.sublist (List.filter_sublist.map _)⟩
    obtain ⟨entry, hentry, heq⟩ := List.mem_map.1 hmem
    exact absurd heq (by simpa using (List.mem_filter.1 hentry).2)
  · intro entry hentry
    rcases List.mem_cons.1 hentry with rfl | hentry
    · exact hloc
    · exact h.named entry (List.mem_filter.1 hentry).1
  · intro entry hentry
    rcases List.mem_cons.1 hentry with rfl | hentry
    · exact hkeep _ hdir
    · exact hkeep _ (h.parents entry (List.mem_filter.1 hentry).1)

/-- Above anything that stands anywhere there are directories. -/
theorem WellFormed.dir_above {t : FileTree} (h : t.WellFormed) {loc tail : Location}
    (hne : tail ≠ []) (hat : (t.at? (loc ++ tail)).isSome) : t.at? loc = some .dir := by
  have hparent : ∀ (dir : Location) (name : String), (t.at? (dir ++ [name])).isSome →
      t.at? dir = some .dir := by
    intro dir name hsome
    obtain ⟨e, he⟩ := Option.isSome_iff_exists.1 hsome
    rw [at?, if_neg (by simp)] at he
    have hdir := h.parents _ (mem_of_lookup he)
    rwa [List.dropLast_concat] at hdir
  induction tail using List.reverseRecOn with
  | nil => exact absurd rfl hne
  | append_singleton front name ih =>
    rw [← List.append_assoc] at hat
    have hdir := hparent _ name hat
    by_cases hfront : front = []
    · rwa [hfront, List.append_nil] at hdir
    · exact ih hfront (by rw [hdir]; rfl)

/-- Nothing stands below a free place. -/
theorem WellFormed.free_below {t : FileTree} (h : t.WellFormed) {place loc : Location}
    (hfree : t.at? place = none) (hbelow : place <+: loc) : t.at? loc = none := by
  obtain ⟨tail, rfl⟩ := hbelow
  by_cases htail : tail = []
  · rw [htail, List.append_nil, hfree]
  · by_contra hsome
    have hdir := h.dir_above htail (Option.isSome_iff_ne_none.2 hsome)
    rw [hfree] at hdir
    exact absurd hdir (by simp)

/-! ## 3. The names in a directory -/

theorem nameIn_eq_some {dir loc : Location} {name : String} :
    nameIn dir loc = some name ↔ loc = dir ++ [name] := by
  unfold nameIn
  constructor
  · intro h
    split at h
    · rename_i hdir
      obtain ⟨ys, hys⟩ := List.getLast?_eq_some_iff.1 h
      rw [hys, List.dropLast_concat] at hdir
      rw [hys, hdir]
    · exact absurd h (by simp)
  · rintro rfl
    rw [List.dropLast_concat, if_pos rfl, List.getLast?_concat]

/-- The names in a directory are those of the entries one step below it. -/
theorem mem_namesIn {t : FileTree} {dir : Location} {name : String} :
    name ∈ t.namesIn dir ↔ (t.at? (dir ++ [name])).isSome := by
  rw [namesIn, List.mem_mergeSort, List.mem_filterMap, at?, if_neg (by simp)]
  constructor
  · rintro ⟨⟨loc, e⟩, hmem, h⟩
    have hloc : loc = dir ++ [name] := nameIn_eq_some.1 h
    exact lookup_isSome_of_mem (hloc ▸ hmem)
  · intro h
    obtain ⟨e, he⟩ := Option.isSome_iff_exists.1 h
    exact ⟨(dir ++ [name], e), mem_of_lookup he, nameIn_eq_some.2 rfl⟩

theorem WellFormed.namesIn_nodup {t : FileTree} (h : t.WellFormed) (dir : Location) :
    (t.namesIn dir).Nodup := by
  refine (List.mergeSort_perm _ _).nodup_iff.2 ?_
  have hsplit : t.entries.filterMap (nameIn dir ·.1)
      = (t.entries.map (·.1)).filterMap (nameIn dir) := by
    rw [List.filterMap_map]
    rfl
  rw [hsplit]
  refine h.distinct.filterMap fun loc loc' name hloc hloc' => ?_
  rw [nameIn_eq_some.1 hloc, nameIn_eq_some.1 hloc']

theorem WellFormed.proper_of_mem_namesIn {t : FileTree} (h : t.WellFormed) {dir : Location}
    {name : String} (hmem : name ∈ t.namesIn dir) : Proper name := by
  obtain ⟨e, he⟩ := Option.isSome_iff_exists.1 (mem_namesIn.1 hmem)
  rw [at?, if_neg (by simp)] at he
  exact h.named _ (mem_of_lookup he) name (by simp)

/-! ## 4. Where paths lead -/

/-- The place one step on, by the text of the step alone. -/
def turn (loc : Location) (step : String) : Location :=
  if Path.isIdle step then loc else if step = ".." then loc.dropLast else loc ++ [step]

/-- Where the steps of a path start and what they are. -/
def route (t : FileTree) (p : Path) : Location × List String :=
  if p.isAbsolute then ([], p.steps.drop 1) else (t.current, p.steps)

/-- The location that the text of a path names. -/
def aim (t : FileTree) (p : Path) : Location :=
  (t.route p).2.foldl turn (t.route p).1

/-- Where a path aims depends on the current directory only. -/
theorem aim_congr {t t' : FileTree} (h : t'.current = t.current) (p : Path) :
    t'.aim p = t.aim p := by
  unfold aim route
  rw [h]

theorem standing_eq_ok {t : FileTree} {loc : Location} {u : Unit} :
    t.standing loc = .ok u ↔ t.at? loc = some .dir := by
  unfold standing
  split
  · rename_i h
    simp [h]
  · rename_i h
    simp [h]
  · rename_i h
    simp [h]

/-- A step leads on from a directory to the place it names. -/
theorem follow_cons_eq_ok {t : FileTree} {loc loc' : Location} {step : String}
    {rest : List String} :
    t.follow loc (step :: rest) = .ok loc' ↔
      t.at? loc = some .dir ∧ (Path.isIdle step ∨ step = ".." ∨ step.utf8ByteSize ≤ nameLimit) ∧
        t.follow (turn loc step) rest = .ok loc' := by
  rw [follow]
  cases hs : t.standing loc with
  | error e =>
    have hno : t.at? loc ≠ some .dir := fun hd => by
      rw [standing_eq_ok (u := ()).2 hd] at hs
      exact absurd hs (by simp)
    constructor
    · intro h
      exact absurd h (by simp [bind, Except.bind])
    · intro h
      exact absurd h.1 hno
  | ok u =>
    have hd := standing_eq_ok.1 hs
    simp only [bind, Except.bind, hd, true_and, turn]
    by_cases hidle : Path.isIdle step
    · simp [hidle]
    · by_cases hup : step = ".."
      · subst hup
        simp [Path.isIdle]
      · by_cases hsize : nameLimit < step.utf8ByteSize
        · simp [hidle, hup, hsize, Nat.not_le.2 hsize]
        · simp [hidle, hup, hsize, Nat.le_of_not_lt hsize]

theorem follow_append {t : FileTree} (ss ss' : List String) {loc loc' : Location} :
    t.follow loc (ss ++ ss') = .ok loc' ↔
      ∃ mid, t.follow loc ss = .ok mid ∧ t.follow mid ss' = .ok loc' := by
  induction ss generalizing loc with
  | nil => simp [follow]
  | cons s ss ih =>
    rw [List.cons_append, follow_cons_eq_ok, ih]
    constructor
    · rintro ⟨hd, hs, mid, hmid, hloc⟩
      exact ⟨mid, follow_cons_eq_ok.2 ⟨hd, hs, hmid⟩, hloc⟩
    · rintro ⟨mid, hmid, hloc⟩
      obtain ⟨hd, hs, hmid⟩ := follow_cons_eq_ok.1 hmid
      exact ⟨hd, hs, mid, hmid, hloc⟩

theorem eq_foldl_of_follow {t : FileTree} {loc loc' : Location} {ss : List String}
    (h : t.follow loc ss = .ok loc') : loc' = ss.foldl turn loc := by
  induction ss generalizing loc with
  | nil =>
    rw [follow, Except.ok.injEq] at h
    exact h.symm
  | cons s ss ih => exact ih (follow_cons_eq_ok.1 h).2.2

theorem locate_eq_ok {t : FileTree} {p : Path} {loc : Location} :
    t.locate p = .ok loc ↔
      admissible p ∧ p.text ≠ "" ∧ t.follow (t.route p).1 (t.route p).2 = .ok loc := by
  unfold locate route
  cases hp : admissible p with
  | false => simp
  | true =>
    by_cases hempty : p.text = ""
    · simp [hempty]
    · cases habs : p.isAbsolute with
      | true => simp [hempty]
      | false => simp [hempty]

theorem exists_iff {t : FileTree} {p : Path} :
    t.exists p ↔ ∃ loc, t.locate p = .ok loc ∧ (t.at? loc).isSome := by
  unfold «exists» entry?
  cases hp : t.locate p with
  | error e => simp
  | ok loc => simp

theorem isDir_iff {t : FileTree} {p : Path} :
    t.isDir p ↔ ∃ loc, t.locate p = .ok loc ∧ t.at? loc = some .dir := by
  unfold isDir entry?
  cases hp : t.locate p with
  | error e => simp
  | ok loc =>
    have heq : ∀ loc', (Except.ok loc : Except Blocked Location) = .ok loc' ↔ loc' = loc :=
      fun loc' => ⟨fun h => (Except.ok.inj h).symm, fun h => by rw [h]⟩
    dsimp only
    simp only [heq, exists_eq_left]
    split
    · rename_i h
      simp [h]
    · rename_i h
      simpa using h

theorem isFile_iff {t : FileTree} {p : Path} :
    t.isFile p ↔ ∃ loc c, t.locate p = .ok loc ∧ t.at? loc = some (.file c) := by
  unfold isFile read? entry?
  cases hp : t.locate p with
  | error e => simp
  | ok loc =>
    rcases hat : t.at? loc with _ | _ | _
    · simp [hat]
    · simp [hat]
    · simp [hat]

section

variable {t t' : FileTree} (hdir : ∀ loc, t.at? loc = some .dir → t'.at? loc = some .dir)

include hdir

/-- Steps lead where they led as long as directories stay directories. -/
theorem follow_of_dirs {loc loc' : Location} {ss : List String}
    (h : t.follow loc ss = .ok loc') : t'.follow loc ss = .ok loc' := by
  induction ss generalizing loc with
  | nil => exact h
  | cons s ss ih =>
    obtain ⟨hd, hs, hrest⟩ := follow_cons_eq_ok.1 h
    exact follow_cons_eq_ok.2 ⟨hdir loc hd, hs, ih hrest⟩

theorem locate_of_dirs (hcurrent : t'.current = t.current) {p : Path} {loc : Location}
    (h : t.locate p = .ok loc) : t'.locate p = .ok loc := by
  obtain ⟨hadmissible, hne, hfollow⟩ := locate_eq_ok.1 h
  have hroute : t'.route p = t.route p := by
    unfold route
    rw [hcurrent]
  rw [← hroute] at hfollow
  exact locate_eq_ok.2 ⟨hadmissible, hne, follow_of_dirs hdir hfollow⟩

end

/-- A path leads where its text says, when it leads anywhere. -/
theorem eq_aim_of_locate {t : FileTree} {p : Path} {loc : Location} (h : t.locate p = .ok loc) :
    loc = t.aim p :=
  eq_foldl_of_follow (locate_eq_ok.1 h).2.2

theorem proper_of_turn {loc : Location} {step : String} (hloc : ∀ name ∈ loc, Proper name)
    (hslash : '/' ∉ step.toList)
    (hstep : Path.isIdle step ∨ step = ".." ∨ step.utf8ByteSize ≤ nameLimit) :
    ∀ name ∈ turn loc step, Proper name := by
  intro name hname
  unfold turn at hname
  split at hname
  · exact hloc name hname
  · rename_i hidle
    split at hname
    · exact hloc name ((List.dropLast_subset loc) hname)
    · rename_i hup
      rcases List.mem_append.1 hname with hname | hname
      · exact hloc name hname
      · rw [List.mem_singleton] at hname
        subst hname
        simp only [Path.isIdle, Bool.or_eq_true, beq_iff_eq, not_or] at hidle
        refine ⟨hidle.1, hidle.2, hup, hslash, ?_⟩
        rcases hstep with h | h | h
        · exact absurd h (by simp [Path.isIdle, hidle])
        · exact absurd h hup
        · exact h

theorem proper_of_follow {t : FileTree} {loc loc' : Location} {ss : List String}
    (hloc : ∀ name ∈ loc, Proper name) (hss : ∀ s ∈ ss, '/' ∉ s.toList)
    (h : t.follow loc ss = .ok loc') : ∀ name ∈ loc', Proper name := by
  induction ss generalizing loc with
  | nil =>
    rw [follow, Except.ok.injEq] at h
    exact h ▸ hloc
  | cons s ss ih =>
    obtain ⟨-, hs, hrest⟩ := follow_cons_eq_ok.1 h
    exact ih (proper_of_turn hloc (hss s List.mem_cons_self) hs)
      (fun s' hs' => hss s' (List.mem_cons_of_mem s hs')) hrest

/-- What stands at the end of a path and is no directory stands in one. -/
theorem WellFormed.parent_of_follow {t : FileTree} (h : t.WellFormed) {loc loc' : Location}
    {ss : List String} (hne : ss ≠ []) (hfollow : t.follow loc ss = .ok loc')
    (hno : t.at? loc' ≠ some .dir) : t.at? loc'.dropLast = some .dir := by
  obtain ⟨front, step, rfl⟩ := (List.eq_nil_or_concat ss).resolve_left hne
  rw [List.concat_eq_append] at hfollow
  obtain ⟨mid, -, hstep⟩ := (follow_append front [step]).1 hfollow
  obtain ⟨hmid, -, hend⟩ := follow_cons_eq_ok.1 hstep
  rw [follow, Except.ok.injEq] at hend
  subst hend
  unfold turn at hno ⊢
  split
  · rename_i hidle
    rw [if_pos hidle] at hno
    exact absurd hmid hno
  · rename_i hidle
    rw [if_neg hidle] at hno
    split
    · rename_i hup
      -- Up from a directory is a directory: everything stands in one.
      rw [if_pos hup] at hno
      rcases List.eq_nil_or_concat mid with rfl | ⟨dir, name, rfl⟩
      · exact absurd (at?_root t) hno
      · rw [List.concat_eq_append] at hmid hno
        rw [List.dropLast_concat] at hno
        exact absurd (h.dir_above (List.cons_ne_nil name []) (by rw [hmid]; rfl)) hno
    · rw [List.dropLast_concat]
      exact hmid

theorem WellFormed.parent_of_locate {t : FileTree} (h : t.WellFormed) {p : Path} {loc : Location}
    (hlocate : t.locate p = .ok loc) (hno : t.at? loc ≠ some .dir) :
    t.at? loc.dropLast = some .dir := by
  have hfollow := (locate_eq_ok.1 hlocate).2.2
  refine h.parent_of_follow (fun hnil => hno ?_) hfollow hno
  rw [hnil, follow, Except.ok.injEq] at hfollow
  unfold route at hnil hfollow
  split at hnil
  · rename_i habs
    rw [if_pos habs] at hfollow
    rw [← hfollow, at?_root]
  · exact absurd hnil p.steps_ne_nil

theorem no_slash_of_mem_route {t : FileTree} {p : Path} {s : String} (h : s ∈ (t.route p).2) :
    '/' ∉ s.toList := by
  unfold route at h
  split at h
  · exact Text.not_mem_of_mem_split (List.mem_of_mem_drop h)
  · exact Text.not_mem_of_mem_split h

theorem WellFormed.proper_of_locate {t : FileTree} (ht : t.WellFormed) {p : Path} {loc : Location}
    (h : t.locate p = .ok loc) : ∀ name ∈ loc, Proper name := by
  refine proper_of_follow ?_ (fun s hs => no_slash_of_mem_route hs) (locate_eq_ok.1 h).2.2
  unfold route
  split
  · simp
  · exact ht.current

end FileTree

end Stencil
