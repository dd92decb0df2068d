import Stencil.Render.Content
import Stencil.Text.Glob
import Stencil.World

/-!
# Scaffolding

Copying template files into a project. A file is rendered on the way, and so is each component of
its path below the copied directory; a target that is already there is left alone unless
overwriting is asked for.

A directory is copied with an explicit stack of directories still to be looked into. Looking into
one copies its files in the order of their names and puts its subdirectories on the stack, the
first on top. A source that is ignored or excluded is passed over, a directory with everything in
it.
-/

set_option autoImplicit false

namespace Stencil

/-- How files are copied. -/
structure Scaffold where
  transforms : Registry
  /-- Targets that are there are replaced. -/
  overwrite : Bool
  /-- Sources that are passed over, by their path below the copied directory. -/
  excluded : Path → Bool
  /-- Sources that are passed over, by their path. -/
  ignored : List Path
  /-- Targets below this directory are shown by their path from it. -/
  displayBase : Option Path

/-- What became of a file. -/
inductive CopyOutcome where
  | created
  | skipped
  deriving DecidableEq

/-- What a copy has dealt with, as target paths in order. -/
structure CopyReport where
  created : List Path
  skipped : List Path
  deriving DecidableEq

namespace CopyReport

/-- The report of a copy that has not dealt with anything. -/
def empty : CopyReport := ⟨[], []⟩

/-- One more target. -/
def record (r : CopyReport) (outcome : CopyOutcome) (target : Path) : CopyReport :=
  match outcome with
  | .created => { r with created := r.created ++ [target] }
  | .skipped => { r with skipped := r.skipped ++ [target] }

end CopyReport

namespace Scaffold

/-- Copies of nothing in particular: nothing is replaced, nothing is passed over. -/
def plain (transforms : Registry) : Scaffold :=
  ⟨transforms, false, fun _ => false, [], none⟩

/-- A path matches one of the globs. -/
def matchesAny (globs : List Text.Glob) (p : Path) : Bool :=
  globs.any (·.matches p.text)

/-- Reads globs; the first that is malformed counts. -/
def readGlobs : List String → Except Fault (List Text.Glob)
  | [] => .ok []
  | pattern :: rest =>
    match Text.Glob.read? pattern with
    | none => .error (.globPattern pattern)
    | some g => (readGlobs rest).map (g :: ·)

/-- The copies that also pass over sources whose path below the copied directory matches one of
the globs. -/
def excluding (s : Scaffold) (patterns : List String) : Except Fault Scaffold :=
  (readGlobs patterns).map fun globs => { s with excluded := matchesAny globs }

/-- A path as it is shown. -/
def shown (s : Scaffold) (p : Path) : String :=
  match s.displayBase with
  | none => p.text
  | some base => ((base.after? p).getD p).text

/-- A source is passed over. -/
def skips (s : Scaffold) (source rel : Path) : Bool :=
  s.ignored.any (·.same source) || s.excluded rel

/-- What texts are rendered with. -/
def context (s : Scaffold) (data : Store) (w : World) : Render.Context :=
  ⟨data, s.transforms, w.files⟩

/-! ## Files -/

/-- Copies one file. The source is not read when its target stays. -/
def copyFile (s : Scaffold) (data : Store) (source target : Path) : Act CopyOutcome := do
  if (← World.exists target) && !s.overwrite then
    World.tell .notice s!"File exists, skipping: {s.shown target}"
    return .skipped
  else if !(← World.exists source) then
    Step.fail (.fileMissing source)
  else
    let content ← World.read source
    let w ← Step.get
    let rendered ← Step.ofExcept (Render.content (s.context data w) content)
    World.write target rendered
    World.tell .success s!"Created {s.shown target}"
    return .created

/-! ## Access

A copy of a directory gets at the files through four operations. It is written for any state that
has them, so that what it asks for can be looked at apart from the files.
-/

/-- What a copy of a directory does with the files, on a state of type `σ`. -/
structure Access (σ : Type) where
  /-- The paths of what a directory holds. -/
  list : Path → Step σ Fault (List Path)
  isDir : Path → σ → Bool
  /-- The path below the target for a path below the source. -/
  render : Path → Step σ Fault Path
  copy : (source target : Path) → Step σ Fault CopyOutcome
  /-- Only a path that can be asked for at all is listed. -/
  admissible_of_list : ∀ {p : Path} {paths : List Path} {state state' : σ},
    list p state = (.ok paths, state') → FileTree.admissible p

/-- The files of the world. -/
def access (s : Scaffold) (data : Store) : Access World where
  list := World.list
  isDir p w := w.files.isDir p
  render rel := fun w => (Render.path (s.context data w) rel, w)
  copy := s.copyFile data
  admissible_of_list := World.admissible_of_list

/-! ## Looking into one directory -/

section

variable {σ : Type} (s : Scaffold) (a : Access σ) (source target : Path)

/-- Deals with the entries of a directory: files are copied, subdirectories are gathered. -/
def copyEntries (rel : Path) :
    CopyReport → List Path → List Path → Step σ Fault (CopyReport × List Path)
  | report, subdirs, [] => pure (report, subdirs)
  | report, subdirs, entry :: rest =>
    match entry.fileName? with
    | none => copyEntries rel report subdirs rest
    | some name =>
      if s.skips entry (rel.joinText name) then copyEntries rel report subdirs rest
      else do
        if ← Step.asks (a.isDir entry) then
          copyEntries rel report (subdirs ++ [rel.joinText name]) rest
        else
          let rendered ← a.render (rel.joinText name)
          let outcome ← a.copy entry (target.join rendered)
          copyEntries rel (report.record outcome (target.join rendered)) subdirs rest

/-- Looks into one directory, given by its path below the copied one. -/
def copyLevel (rel : Path) (report : CopyReport) : Step σ Fault (CopyReport × List Path) := do
  let entries ← a.list (source.join rel)
  s.copyEntries a target rel report [] entries

theorem copyEntries_nil (rel : Path) (report : CopyReport) (subdirs : List Path) :
    s.copyEntries a target rel report subdirs [] = pure (report, subdirs) := by
  rw [copyEntries]

/-- An entry without a name, or one that is skipped, is passed over. -/
theorem copyEntries_pass {rel entry : Path} (report : CopyReport) (subdirs rest : List Path)
    (h : ∀ name, entry.fileName? = some name → s.skips entry (rel.joinText name)) :
    s.copyEntries a target rel report subdirs (entry :: rest) =
      s.copyEntries a target rel report subdirs rest := by
  rw [copyEntries]
  cases hname : entry.fileName? with
  | none => rfl
  | some name => exact if_pos (h name hname)

/-- Any other entry is gathered when it is a directory, and copied when it is not. -/
theorem copyEntries_keep {rel entry : Path} {name : String} (report : CopyReport)
    (subdirs rest : List Path) (hname : entry.fileName? = some name)
    (h : s.skips entry (rel.joinText name) = false) (state : σ) :
    s.copyEntries a target rel report subdirs (entry :: rest) state =
      if a.isDir entry state then
        s.copyEntries a target rel report (subdirs ++ [rel.joinText name]) rest state
      else
        (do let rendered ← a.render (rel.joinText name)
            let outcome ← a.copy entry (target.join rendered)
            s.copyEntries a target rel (report.record outcome (target.join rendered)) subdirs
              rest : Step σ Fault (CopyReport × List Path)) state := by
  rw [copyEntries, hname]
  dsimp only
  rw [if_neg (by rw [h]; exact Bool.false_ne_true),
    Step.bind_of_ok
      (show Step.asks (a.isDir entry) state = (.ok (a.isDir entry state), state) from rfl)]
  split <;> rfl

theorem of_mem_copyEntries {rel : Path} {report report' : CopyReport}
    {subdirs subdirs' entries : List Path} {state state' : σ}
    (h : s.copyEntries a target rel report subdirs entries state = (.ok (report', subdirs'), state'))
    {d : Path} (hd : d ∈ subdirs') :
    d ∈ subdirs ∨ ∃ name, d = rel.joinText name ∧ name ≠ "" ∧ '/' ∉ name.toList := by
  induction entries generalizing report subdirs state with
  | nil =>
    rw [copyEntries_nil, Step.pure_apply, Prod.mk.injEq, Except.ok.injEq, Prod.mk.injEq] at h
    exact Or.inl (h.1.2 ▸ hd)
  | cons entry rest ih =>
    by_cases hkeep : ∃ name, entry.fileName? = some name ∧ s.skips entry (rel.joinText name) = false
    · obtain ⟨name, hname, hskips⟩ := hkeep
      rw [copyEntries_keep s a target report subdirs rest hname hskips] at h
      split at h
      · rcases ih h with hd | hd
        · rcases List.mem_append.1 hd with hd | hd
          · exact Or.inl hd
          · rw [List.mem_singleton] at hd
            exact Or.inr ⟨name, hd, Path.of_fileName? hname⟩
        · exact Or.inr hd
      · obtain ⟨rendered, s₂, -, h⟩ := Step.bind_eq_ok h
        obtain ⟨outcome, s₃, -, h⟩ := Step.bind_eq_ok h
        exact ih h
    · rw [copyEntries_pass s a target report subdirs rest] at h
      · exact ih h
      · intro name hname
        exact Bool.of_not_eq_false fun hskips => hkeep ⟨name, hname, hskips⟩

end

/-! ## The stack

Subdirectories have longer paths than the directory they are found in, and a path that is too long
is not listed. So the stack runs empty, whatever is found and whatever is written meanwhile.
-/

/-- The room that a path has below `source`: the bytes that can still be added to it. -/
def room (source rel : Path) : Nat :=
  FileTree.pathLimit - (source.join rel).text.utf8ByteSize

/-- Directories still to be looked into below `source`, the next one first. -/
structure Pending where
  source : Path
  stack : List Path

/-- A step from one stack to the next: the first directory gives way to ones with less room. -/
inductive Pending.Next : Pending → Pending → Prop
  | unfold {source rel : Path} {subdirs pending : List Path}
      (h : ∀ d ∈ subdirs, room source d < room source rel) :
      Next ⟨source, subdirs ++ pending⟩ ⟨source, rel :: pending⟩

namespace Pending

/-- A directory on top of a stack that comes to an end comes to an end: so do those with less
room, and the directories it gives way to are put on one after the other. -/
theorem acc_cons {source : Path} (n : Nat) {rel : Path} (hn : room source rel = n)
    {pending : List Path} (hp : Acc Next ⟨source, pending⟩) : Acc Next ⟨source, rel :: pending⟩ := by
  induction n using Nat.strongRecOn generalizing rel pending with
  | _ n ih =>
    constructor
    intro next hnext
    cases hnext with
    | @unfold _ _ subdirs _ h =>
      induction subdirs with
      | nil => exact hp
      | cons d subdirs ihd =>
        refine ih _ (hn ▸ h d List.mem_cons_self) rfl ?_
        exact ihd fun d' hd' => h d' (List.mem_cons_of_mem d hd')

theorem next_wf : WellFounded Next := by
  refine ⟨fun ⟨source, stack⟩ => ?_⟩
  induction stack with
  | nil => exact ⟨_, fun next hnext => nomatch hnext⟩
  | cons rel pending ih => exact acc_cons _ rfl ih

instance : WellFoundedRelation Pending := ⟨Next, next_wf⟩

end Pending

section

variable {σ : Type} (s : Scaffold) (a : Access σ) (source target : Path)

/-- A directory that is listed has more room than anything in it. -/
theorem room_joinText_lt {rel : Path} {entries : List Path} {state state' : σ}
    (hlist : a.list (source.join rel) state = (.ok entries, state')) {name : String}
    (hne : name ≠ "") (hslash : '/' ∉ name.toList) :
    room source (rel.joinText name) < room source rel := by
  have hadmissible := a.admissible_of_list hlist
  unfold FileTree.admissible at hadmissible
  simp only [Bool.and_eq_true, decide_eq_true_eq] at hadmissible
  have hlonger := Path.size_join_lt source rel hne (Path.isAbsolute_eq_false hslash)
  unfold room
  omega

theorem room_lt_of_copyLevel {rel : Path} {report report' : CopyReport} {subdirs : List Path}
    {state state' : σ}
    (h : s.copyLevel a source target rel report state = (.ok (report', subdirs), state')) :
    ∀ d ∈ subdirs, room source d < room source rel := by
  intro d hd
  obtain ⟨entries, s₁, hlist, h⟩ := Step.bind_eq_ok h
  rcases of_mem_copyEntries s a target h hd with hd | ⟨name, rfl, hne, hslash⟩
  · exact absurd hd (by simp)
  · exact room_joinText_lt a source hlist hne hslash

/-- Looks into the directories on the stack, and into those below them. -/
def copyPending : CopyReport → List Path → Step σ Fault CopyReport
  | report, [] => pure report
  | report, rel :: pending => fun state =>
    match _h : s.copyLevel a source target rel report state with
    | (.ok (report, subdirs), state) => copyPending report (subdirs ++ pending) state
    | (.error e, state) => (.error e, state)
termination_by _ pending => (⟨source, pending⟩ : Pending)
decreasing_by exact Pending.Next.unfold (room_lt_of_copyLevel s a source target ‹_›)

theorem copyPending_nil (report : CopyReport) :
    s.copyPending a source target report [] = pure report := by
  rw [copyPending]

/-- The loop, a directory at a time. -/
theorem copyPending_cons (report : CopyReport) (rel : Path) (pending : List Path) :
    s.copyPending a source target report (rel :: pending) = (do
      let (report, subdirs) ← s.copyLevel a source target rel report
      s.copyPending a source target report (subdirs ++ pending)) := by
  funext state
  rw [copyPending]
  dsimp only
  split
  · rename_i report' subdirs state' h
    rw [Step.bind_of_ok h]
  · rename_i e state' h
    rw [Step.bind_of_error h]

end

/-- Copies a directory. -/
def copyDir (s : Scaffold) (data : Store) (source target : Path) : Act CopyReport :=
  s.copyPending (s.access data) source target .empty [⟨""⟩]

end Scaffold

end Stencil
