import Stencil.Proofs.Step
import Stencil.Scaffold

/-!
# The loop is a walk

`copyPending` keeps a stack of directories, and it asks whether an entry is a directory while it is
copying the entries before it. The walk below does neither. It looks into a directory, sorts the
entries that are not passed over into files and subdirectories, copies the files in the order of the
list, goes down into the subdirectories in the order of the list, and then on to the next directory.

Both are written for any `Access`, and what is proved is about any access that is steady: nothing
that a copy does makes an entry that was listed turn from a file into a directory or back. Then the
loop, started on some directories on top of a stack, is the walk over these directories and the loop
on the rest of the stack:

    copyPending report (rels ++ pending) = walk report rels >>= (copyPending · pending)

The induction is on the walk. The stack grows and shrinks; the directories of one call of the walk
are always the ones on its top, and `pending` is what is still to be done in the calls around it.

Since the access can be one that notes every call with the state it was made in (`Access.noting`),
this says that the two make the same calls, in the same order and on the same files.
-/

set_option autoImplicit false

namespace Stencil.Scaffold

variable {σ : Type}

/-! ## 1. The walk -/

section

variable (s : Scaffold) (a : Access σ) (source target : Path)

/-- The entries of a directory that are not passed over, with their paths below the source. -/
def kept (rel : Path) (entries : List Path) : List (Path × Path) :=
  entries.filterMap fun entry =>
    match entry.fileName? with
    | none => none
    | some name =>
      if s.skips entry (rel.joinText name) then none else some (entry, rel.joinText name)

/-- Copies files one after the other. -/
def copyFiles : CopyReport → List (Path × Path) → Step σ Fault CopyReport
  | report, [] => pure report
  | report, (entry, rel) :: rest => do
    let rendered ← a.render rel
    let outcome ← a.copy entry (target.join rendered)
    copyFiles (report.record outcome (target.join rendered)) rest

/-- Copies the files of a directory. Its subdirectories are left over. -/
def walkFiles (rel : Path) (report : CopyReport) : Step σ Fault (CopyReport × List Path) := do
  let entries ← a.list (source.join rel)
  let isDir ← Step.asks fun state (entry : Path × Path) => a.isDir entry.1 state
  let report ← copyFiles a target report ((s.kept rel entries).filter fun entry => !isDir entry)
  return (report, ((s.kept rel entries).filter isDir).map (·.2))

theorem of_mem_kept {rel : Path} {entries : List Path} {entry r : Path}
    (h : (entry, r) ∈ s.kept rel entries) :
    ∃ name, entry.fileName? = some name ∧ r = rel.joinText name := by
  obtain ⟨e, -, he⟩ := List.mem_filterMap.1 h
  cases hname : e.fileName? with
  | none =>
    rw [hname] at he
    exact absurd he (by simp)
  | some name =>
    rw [hname] at he
    dsimp only at he
    split at he
    · exact absurd he (by simp)
    · rw [Option.some.injEq, Prod.mk.injEq] at he
      obtain ⟨rfl, rfl⟩ := he
      exact ⟨name, hname, rfl⟩

theorem room_lt_of_walkFiles {rel : Path} {report report' : CopyReport} {subdirs : List Path}
    {state state' : σ}
    (h : s.walkFiles a source target rel report state = (.ok (report', subdirs), state')) :
    ∀ d ∈ subdirs, room source d < room source rel := by
  intro d hd
  obtain ⟨entries, s₁, hlist, h⟩ := Step.bind_eq_ok h
  obtain ⟨isDir, s₂, -, h⟩ := Step.bind_eq_ok h
  obtain ⟨r, s₃, -, h⟩ := Step.bind_eq_ok h
  rw [Step.pure_apply, Prod.mk.injEq, Except.ok.injEq, Prod.mk.injEq] at h
  rw [← h.1.2] at hd
  obtain ⟨⟨entry, rel'⟩, hentry, rfl⟩ := List.mem_map.1 hd
  obtain ⟨name, hname, rfl⟩ := s.of_mem_kept (List.mem_filter.1 hentry).1
  obtain ⟨hne, hslash⟩ := Path.of_fileName? hname
  exact room_joinText_lt a source hlist hne hslash

/-- One more than the most room that one of some directories has. -/
def mostRoom (rels : List Path) : Nat :=
  (rels.map fun rel => room source rel + 1).foldr max 0

theorem mostRoom_cons (rel : Path) (rest : List Path) :
    mostRoom source (rel :: rest) = max (room source rel + 1) (mostRoom source rest) := rfl

theorem mostRoom_le {rels : List Path} {n : Nat} (h : ∀ d ∈ rels, room source d < n) :
    mostRoom source rels ≤ n := by
  induction rels with
  | nil => exact Nat.zero_le n
  | cons d rels ih =>
    rw [mostRoom_cons]
    exact Nat.max_le.2 ⟨h d List.mem_cons_self, ih fun d' hd' => h d' (List.mem_cons_of_mem d hd')⟩

/-- Looks into directories one after the other, each with everything below it. -/
def walk : CopyReport → List Path → Step σ Fault CopyReport
  | report, [] => pure report
  | report, rel :: rest => fun state =>
    match _h : s.walkFiles a source target rel report state with
    | (.ok (report, subdirs), state) =>
      (walk report subdirs >>= fun report => walk report rest) state
    | (.error e, state) => (.error e, state)
termination_by _ rels => (mostRoom source rels, rels.length)
decreasing_by
  · have hle := mostRoom_le source (room_lt_of_walkFiles s a source target ‹_›)
    refine Prod.Lex.left _ _ (Nat.lt_of_lt_of_le (Nat.lt_succ_of_le hle) ?_)
    exact Nat.le_max_left _ _
  · exact Prod.Lex.right' _ (Nat.le_max_right _ _) (Nat.lt_succ_self _)

theorem walk_nil (report : CopyReport) : s.walk a source target report [] = pure report := by
  rw [walk]

/-- The walk, a directory at a time. -/
theorem walk_cons (report : CopyReport) (rel : Path) (rest : List Path) :
    s.walk a source target report (rel :: rest) = (do
      let (report, subdirs) ← s.walkFiles a source target rel report
      let report ← s.walk a source target report subdirs
      s.walk a source target report rest) := by
  funext state
  rw [walk]
  dsimp only
  split
  · rename_i report' subdirs state' h
    rw [Step.bind_of_ok h]
  · rename_i e state' h
    rw [Step.bind_of_error h]

theorem walk_append (report : CopyReport) (rels rest : List Path) :
    s.walk a source target report (rels ++ rest) =
      s.walk a source target report rels >>= fun report => s.walk a source target report rest := by
  induction rels generalizing report with
  | nil =>
    rw [walk_nil]
    rfl
  | cons rel rels ih =>
    rw [List.cons_append, walk_cons, walk_cons, Step.bind_assoc]
    funext state
    refine Step.bind_congr_of_ok fun found s₁ _ => ?_
    rw [Step.bind_assoc]
    refine Step.bind_congr_of_ok fun report s₂ _ => ?_
    rw [ih]

theorem walk_eq_foldlM (report : CopyReport) (rels : List Path) :
    s.walk a source target report rels =
      rels.foldlM (fun report rel => s.walk a source target report [rel]) report := by
  induction rels generalizing report with
  | nil => rw [walk_nil, List.foldlM_nil]
  | cons rel rels ih =>
    rw [List.foldlM_cons, ← List.singleton_append, walk_append]
    funext state
    refine Step.bind_congr_of_ok fun report s₁ _ => ?_
    rw [ih]

/-- The walk over one directory copies its files and walks over each of its subdirectories. -/
theorem walk_singleton (report : CopyReport) (rel : Path) :
    s.walk a source target report [rel] = (do
      let (report, subdirs) ← s.walkFiles a source target rel report
      subdirs.foldlM (fun report d => s.walk a source target report [d]) report) := by
  rw [walk_cons]
  funext state
  refine Step.bind_congr_of_ok fun found s₁ _ => ?_
  dsimp only
  rw [← walk_eq_foldlM]
  simp only [walk_nil, Step.bind_pure]

end

/-! ## 2. Steady access -/

/-- What holds of an access whose lists stay true: `good` states are those of which it is promised,
and `later` relates a state to those that the access can lead to. -/
structure Access.Steady (a : Access σ) (good : σ → Prop) (later : σ → σ → Prop) : Prop where
  refl : ∀ state, later state state
  trans : ∀ {state state₁ state₂}, later state state₁ → later state₁ state₂ → later state state₂
  stays_good : ∀ {state state'}, good state → later state state' → good state'
  list : ∀ p, Step.Leads later (a.list p)
  render : ∀ rel, Step.Leads later (a.render rel)
  copy : ∀ source target, Step.Leads later (a.copy source target)
  /-- What was listed stays a directory, or something else. -/
  isDir : ∀ {p entries state state₁ state₂}, good state → a.list p state = (.ok entries, state₁) →
    later state₁ state₂ → ∀ entry ∈ entries, a.isDir entry state₂ = a.isDir entry state₁

section

variable {a : Access σ} {good : σ → Prop} {later : σ → σ → Prop} (ha : a.Steady good later)
variable (s : Scaffold) (source target : Path)

include ha

theorem leads_copyFiles (report : CopyReport) (files : List (Path × Path)) :
    Step.Leads later (copyFiles a target report files) := by
  induction files generalizing report with
  | nil => exact ha.refl
  | cons file rest ih =>
    rw [copyFiles]
    refine (ha.render file.2).bind ha.trans fun rendered => ?_
    exact (ha.copy file.1 (target.join rendered)).bind ha.trans fun outcome => ih _

theorem leads_walkFiles (rel : Path) (report : CopyReport) :
    Step.Leads later (s.walkFiles a source target rel report) := by
  refine (ha.list _).bind ha.trans fun entries => ?_
  refine Step.Leads.bind ha.trans (fun state => ha.refl state) fun isDir => ?_
  exact (leads_copyFiles ha target report _).bind ha.trans fun r => ha.refl

theorem leads_walk (report : CopyReport) (rels : List Path) :
    Step.Leads later (s.walk a source target report rels) := by
  induction report, rels using walk.induct s a source target with
  | case1 report =>
    rw [walk_nil]
    exact ha.refl
  | case2 report rel rest ih₁ ih₂ =>
    intro state
    rw [walk_cons]
    refine Step.after_bind (leads_walkFiles ha s source target rel report state)
      fun found s₁ hm hfiles => ?_
    have hwalks : Step.Leads later (s.walk a source target found.1 found.2 >>= fun report =>
        s.walk a source target report rest) := (ih₁ _ _ _ _ hm).bind ha.trans ih₂
    exact ha.trans hfiles (hwalks s₁)

/-! ## 3. The loop -/

omit ha in
theorem kept_pass {rel entry : Path} (rest : List Path)
    (h : ∀ name, entry.fileName? = some name → s.skips entry (rel.joinText name)) :
    s.kept rel (entry :: rest) = s.kept rel rest := by
  refine List.filterMap_cons_none ?_
  cases hname : entry.fileName? with
  | none => rfl
  | some name => exact if_pos (h name hname)

omit ha in
theorem kept_keep {rel entry : Path} {name : String} (rest : List Path)
    (hname : entry.fileName? = some name) (h : s.skips entry (rel.joinText name) = false) :
    s.kept rel (entry :: rest) = (entry, rel.joinText name) :: s.kept rel rest := by
  refine List.filterMap_cons_some ?_
  rw [hname]
  exact if_neg (by rw [h]; exact Bool.false_ne_true)

/-- Sorting the entries first makes no difference, as long as they stay what they are. -/
theorem copyEntries_eq {rel : Path} {entries : List Path} {isDir : Path → Bool} {state : σ}
    (h : ∀ state', later state state' → ∀ entry ∈ entries, a.isDir entry state' = isDir entry)
    (report : CopyReport) (subdirs : List Path) :
    s.copyEntries a target rel report subdirs entries state =
      (do let report ← copyFiles a target report
            ((s.kept rel entries).filter fun entry => !isDir entry.1)
          pure (report,
            subdirs ++ ((s.kept rel entries).filter fun entry => isDir entry.1).map (·.2)) :
        Step σ Fault (CopyReport × List Path)) state := by
  induction entries generalizing report subdirs state with
  | nil =>
    rw [copyEntries_nil, show s.kept rel [] = [] from rfl, List.filter_nil, List.filter_nil,
      copyFiles, List.map_nil, List.append_nil]
    rfl
  | cons entry rest ih =>
    have hrest : ∀ {state₁}, later state state₁ → ∀ state', later state₁ state' → ∀ e ∈ rest,
        a.isDir e state' = isDir e := fun h₁ state' h' e he =>
      h state' (ha.trans h₁ h') e (List.mem_cons_of_mem entry he)
    by_cases hkeep : ∃ name, entry.fileName? = some name ∧ s.skips entry (rel.joinText name) = false
    · obtain ⟨name, hname, hskips⟩ := hkeep
      rw [copyEntries_keep s a target report subdirs rest hname hskips,
        s.kept_keep rest hname hskips, h state (ha.refl state) entry List.mem_cons_self]
      cases hdir : isDir entry with
      | true =>
        rw [if_pos rfl, ih (hrest (ha.refl state)), List.filter_cons_of_neg (by simp [hdir]),
          List.filter_cons_of_pos (by simpa using hdir), List.map_cons, List.append_assoc]
        rfl
      | false =>
        -- The rest is looked at in a later state, where the entries are still what they were.
        rw [if_neg (by simp), List.filter_cons_of_pos (by simp [hdir]),
          List.filter_cons_of_neg (by simp [hdir]), copyFiles, Step.bind_assoc]
        refine Step.bind_congr_of_ok fun rendered s₁ hrendered => ?_
        rw [Step.bind_assoc]
        refine Step.bind_congr_of_ok fun outcome s₂ hcopy => ?_
        have h₁ := ha.render (rel.joinText name) state
        have h₂ := ha.copy entry (target.join rendered) s₁
        rw [hrendered] at h₁
        rw [hcopy] at h₂
        exact ih (hrest (ha.trans h₁ h₂)) _ _
    · have hpass : ∀ name, entry.fileName? = some name → s.skips entry (rel.joinText name) :=
        fun name hname => Bool.of_not_eq_false fun hskips => hkeep ⟨name, hname, hskips⟩
      rw [copyEntries_pass s a target report subdirs rest hpass, s.kept_pass rest hpass]
      exact ih (hrest (ha.refl state)) _ _

/-- Looking into a directory is the first half of walking through it. -/
theorem copyLevel_eq {state : σ} (hgood : good state) (rel : Path) (report : CopyReport) :
    s.copyLevel a source target rel report state = s.walkFiles a source target rel report state := by
  refine Step.bind_congr_of_ok fun entries s₁ hlist => ?_
  have hstays : ∀ state', later s₁ state' → ∀ entry ∈ entries,
      a.isDir entry state' = a.isDir entry s₁ := fun state' h' => ha.isDir hgood hlist h'
  rw [copyEntries_eq ha s target hstays report []]
  rfl

/-- The loop on directories on top of a stack is the walk over them and the loop on the rest. -/
theorem copyPending_append {state : σ} (hgood : good state) (report : CopyReport)
    (rels pending : List Path) :
    s.copyPending a source target report (rels ++ pending) state =
      (s.walk a source target report rels >>= fun report =>
        s.copyPending a source target report pending) state := by
  induction report, rels using walk.induct s a source target generalizing state pending with
  | case1 report =>
    rw [walk_nil]
    rfl
  | case2 report rel rest ih₁ ih₂ =>
    -- Subdirectories go on top of the directories still to come, and both are the walk's: the first
    -- induction hypothesis takes `rest ++ pending` for its stack, the second one `pending`.
    rw [List.cons_append, copyPending_cons, walk_cons, Step.bind_assoc,
      Step.bind_congr_left (copyLevel_eq ha s source target hgood rel report)]
    refine Step.bind_congr_of_ok fun found s₁ hfound => ?_
    have hlater₁ := leads_walkFiles ha s source target rel report state
    rw [hfound] at hlater₁
    have hgood₁ : good s₁ := ha.stays_good hgood hlater₁
    dsimp only
    rw [ih₁ state found.1 found.2 s₁ hfound hgood₁, Step.bind_assoc]
    refine Step.bind_congr_of_ok fun report₂ s₂ hwalk => ?_
    have hlater₂ := leads_walk ha s source target found.1 found.2 s₁
    rw [hwalk] at hlater₂
    exact ih₂ report₂ (ha.stays_good hgood₁ hlater₂) pending

/-- The loop is the walk. -/
theorem copyPending_eq_walk {state : σ} (hgood : good state) (report : CopyReport)
    (rels : List Path) :
    s.copyPending a source target report rels state = s.walk a source target report rels state := by
  have h := copyPending_append ha s source target hgood report rels []
  simp only [List.append_nil, copyPending_nil, Step.bind_pure] at h
  exact h

end

end Stencil.Scaffold
