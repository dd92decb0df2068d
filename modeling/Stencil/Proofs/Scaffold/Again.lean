import Stencil.Proofs.Scaffold.Redo

/-!
# Copying again

A copy of a directory that ended well is made a second time at once. When its attempts repeat, nothing
changes (`copyDir_again_changes_nothing`), also where several files have one target.

That no target lies under the source is not enough for that (`copyDir_again_differs`). What is rendered
can depend on the files, and then on what the first run has written. And the way to a target can lead
through the source and back: the directories that are made on it stand there in the second run, and
when the path of one of them is too long it cannot be told that it is a directory.
-/

set_option autoImplicit false

namespace Stencil.Scaffold

open FileTree (Proper Extends Alike)
open Stencil.Path (below)

/-! ## 1. The theorem -/

section

variable {s : Scaffold}

theorem foldl_recordAgain_skipped (h : s.overwrite = false) (done : List (Attempt World))
    (report : CopyReport) : done.foldl (Attempt.recordAgain s) report =
      { report with skipped := report.skipped ++ done.map (·.target) } := by
  induction done generalizing report with
  | nil => simp
  | cons c done ih =>
    rw [List.foldl_cons, ih]
    simp [Attempt.recordAgain, again, h, CopyReport.record]

theorem foldl_recordAgain_created (h : s.overwrite = true) {done : List (Attempt World)}
    (hcreated : ∀ c ∈ done, c.Ended .created) (report : CopyReport) :
    done.foldl (Attempt.recordAgain s) report = done.foldl Attempt.record report := by
  induction done generalizing report with
  | nil => rfl
  | cons c done ih =>
    obtain ⟨hc, hdone⟩ := List.forall_mem_cons.1 hcreated
    have hsame : Attempt.recordAgain s report c = Attempt.record report c := by
      unfold Attempt.recordAgain Attempt.record again
      rw [show c.outcome = .ok .created from hc, if_pos h]
    rw [List.foldl_cons, List.foldl_cons, hsame, ih hdone]

end

/-- **Copying again changes nothing.** When a copy of a directory has ended well and its attempts
repeat, the same copy made at once ends well again, and the files are as it found them. What is there is
skipped, and the report says so of every target that the first run attempted, in its order; or it is
overwritten, and the reports are the same. -/
theorem copyDir_again_changes_nothing (s : Scaffold) (data : Store) (source target : Path)
    {w w₁ : World} (hw : w.files.WellFormed) {report : CopyReport} {calls : List (Call World)}
    (hrun : s.notedCopy data source target (w, []) = (.ok report, w₁, calls))
    (hrep : Repeats s data source w.files w₁.files (attempts calls)) :
    s.copyDir data source target w = (.ok report, w₁) ∧
    ∃ report₂ w₂, s.copyDir data source target w₁ = (.ok report₂, w₂) ∧
      w₂.files.current = w₁.files.current ∧ (∀ loc, w₂.files.at? loc = w₁.files.at? loc) ∧
      (s.overwrite = false → w₂.files = w₁.files ∧
        report₂ = ⟨[], (attempts calls).map (·.target)⟩) ∧
      (s.overwrite = true → report₂ = report) := by
  refine ⟨by rw [copyDir_eq_notedCopy, hrun], ?_⟩
  rw [s.notedCopy_eq_notedWalk data source target w hw] at hrun
  obtain ⟨looked, visited, new, hwalked, hcalls, rfl⟩ :=
    walked_of_walk hrun hw (show [⟨""⟩] = [[]].map below from rfl) (by simp)
  rw [List.nil_append] at hcalls
  obtain rfl : calls = new := hcalls
  have hroot : w.files.locate (source.join ⟨""⟩) = .ok (w.files.aim source) := by
    cases hwalked with
    | cons hdir hat _ _ _ =>
      have haim := (FileTree.eq_aim_of_locate hdir).trans (w.files.aim_join_empty source)
      exact haim ▸ hdir
  have hfiles : Extends (AimedAt w.files (attempts calls)) w.files w₁.files :=
    hwalked.extends.mono fun loc hloc => hloc.aimedAt (.refl (fun _ => True) _)
  have hw₁ : w₁.files.WellFormed := hfiles.wellFormed hw
  have hmid : Midway w.files w₁.files (attempts calls) (attempts calls ++ []) w.files := by
    rw [List.append_nil]
    exact ⟨.refl _ _, List.Subset.refl _, hfiles⟩
  obtain ⟨⟨w₂, hagain, hdue⟩, hcreated⟩ := redo_walk (v := w₁) hrep hw hroot .empty
    (show [⟨""⟩] = [[]].map below from rfl) (by simp) hwalked (.old .nil) hmid
    ⟨hfiles, List.nil_subset _, .refl _ _⟩ ⟨.refl _, fun _ => Or.inl rfl, fun _ => rfl⟩
  have hloc : ∀ loc, w₂.files.at? loc = w₁.files.at? loc := by
    intro loc
    refine (hdue.same loc).resolve_right ?_
    rintro ⟨c, hc, -⟩
    exact absurd hc List.not_mem_nil
  have hcopy := (copyPending_eq_walk (steady_access s data) s source target hw₁ .empty [⟨""⟩]).trans
    hagain
  exact ⟨_, w₂, hcopy, hdue.alike.later.current, hloc,
    fun hoverwrite => ⟨hdue.kept hoverwrite, foldl_recordAgain_skipped hoverwrite _ _⟩,
    fun hoverwrite => foldl_recordAgain_created hoverwrite (hcreated hoverwrite) _⟩

/-! ## 2. Two files with one target -/

namespace Sample

/-- Two files whose names are filled in. -/
def twins : World :=
  ⟨⟨[(["from"], .dir), (["from", "\x7b\x7b a \x7d\x7d"], .file "one".toUTF8),
    (["from", "\x7b\x7b b \x7d\x7d"], .file "two".toUTF8)], []⟩, [], [], [], [], []⟩

/-- Values that make the names the same. -/
def equals : Store :=
  ⟨[("a", .str "x"), ("b", .str "x")]⟩

def replacing : Scaffold :=
  { Scaffold.plain .empty with overwrite := true }

theorem twins_wellFormed : twins.files.WellFormed := by
  decide

/-- What comes of the two files. -/
def both : Except Fault (CopyReport × List Path) × World × List (Call World) :=
  replacing.copyEntries (replacing.access equals).noting ⟨"to"⟩ ⟨""⟩ .empty []
    [⟨"from/\x7b\x7b a \x7d\x7d"⟩, ⟨"from/\x7b\x7b b \x7d\x7d"⟩] (twins, [.list twins ⟨"from/"⟩])

theorem both_leaves :
    both.1.toOption = some (⟨[⟨"to/x"⟩, ⟨"to/x"⟩], []⟩, []) ∧
    (∀ c ∈ attempts both.2.2, ¬ twins.files.aim ⟨"from"⟩ <+: twins.files.aim c.target) ∧
    (∀ e ∈ both.2.1.files.entries, twins.files.aim ⟨"from"⟩ <+: e.1 →
      (twins.files.at? e.1).isSome) ∧
    both.2.1.files.aim ⟨"to/x"⟩ = ["to", "x"] ∧
    both.2.1.files.read? ⟨"to/x"⟩ = some "two".toUTF8 := by
  decide +kernel

theorem run_twins : replacing.notedCopy equals ⟨"from"⟩ ⟨"to"⟩ (twins, []) =
    (.ok ⟨[⟨"to/x"⟩, ⟨"to/x"⟩], []⟩, both.2) := by
  refine notedCopy_of_level replacing equals _ _ (list_noted replacing equals
    (show _ = Except.ok ["from"] by decide) (by decide)
    (show _ = ["\x7b\x7b a \x7d\x7d", "\x7b\x7b b \x7d\x7d"] by decide) (by decide) []) ?_
  exact Step.eq_ok_of_toOption both_leaves.1

theorem repeats_twins :
    Repeats replacing equals ⟨"from"⟩ twins.files both.2.1.files (attempts both.2.2) where
  clear c hc hunder := both_leaves.2.1 c hc hunder.prefix
  renders c hc t ht := by
    have hblind : ∀ name, Registry.Blind .empty name := fun name rule hrule =>
      absurd hrule (by simp [Registry.empty, Fields.find?])
    exact ⟨fun names _ _ => Render.path_of_blind (fun _ _ name _ => hblind name) _ _,
      fun _ bytes _ => Render.content_of_blind (fun _ _ name _ => hblind name) _ _⟩
  listable names _ hfree hmade := by
    have hne : twins.files.aim ⟨"from"⟩ ++ names ≠ [] :=
      List.append_ne_nil_of_left_ne_nil (by decide) _
    rw [FileTree.at?, if_neg hne] at hmade
    have hsome := both_leaves.2.2.1 _ (FileTree.mem_of_lookup hmade) (List.prefix_append _ _)
    rw [hfree] at hsome
    exact absurd hsome (by simp)

end Sample

/-- The two files go to one target. Both runs write it twice, and it holds what is in the second one. -/
theorem copyDir_again_changes_nothing_twins :
    Sample.twins.files.WellFormed ∧
    Repeats Sample.replacing Sample.equals ⟨"from"⟩ Sample.twins.files Sample.both.2.1.files
      (attempts Sample.both.2.2) ∧
    ∃ w₂, Sample.replacing.copyDir Sample.equals ⟨"from"⟩ ⟨"to"⟩ Sample.both.2.1 =
        (.ok ⟨[⟨"to/x"⟩, ⟨"to/x"⟩], []⟩, w₂) ∧
      w₂.files.at? ["to", "x"] = some (.file "two".toUTF8) := by
  obtain ⟨-, report, w₂, hagain, -, hloc, -, hreport⟩ :=
    copyDir_again_changes_nothing Sample.replacing Sample.equals ⟨"from"⟩ ⟨"to"⟩
      Sample.twins_wellFormed Sample.run_twins Sample.repeats_twins
  rw [hreport rfl] at hagain
  refine ⟨Sample.twins_wellFormed, Sample.repeats_twins, w₂, hagain, ?_⟩
  obtain ⟨-, -, -, haim, hread⟩ := Sample.both_leaves
  obtain ⟨loc, hlocate, hat⟩ := FileTree.read?_eq_some.1 hread
  obtain rfl : loc = ["to", "x"] := (FileTree.eq_aim_of_locate hlocate).trans haim
  rw [hloc, hat]

/-! ## 3. Paths that end in slashes -/

section

variable {p : Path} {n : Nat}

/-- A path with slashes after it, which lead nowhere else. -/
def slashed (p : Path) (n : Nat) : Path :=
  ⟨p.text ++ "/" ++ String.ofList (List.replicate n '/')⟩

theorem toList_slashed : (slashed p n).text.toList = p.text.toList ++ List.replicate (n + 1) '/' := by
  simp [slashed, List.replicate_succ]

theorem size_slashed : (slashed p n).text.utf8ByteSize = p.text.utf8ByteSize + 1 + n := by
  have hslashes : (String.ofList (List.replicate n '/')).utf8ByteSize = n := by
    induction n with
    | zero => rfl
    | succ n ih =>
      rw [List.replicate_succ, String.ofList_cons, String.utf8ByteSize_append, ih, Nat.add_comm]
      rfl
  rw [slashed, String.utf8ByteSize_append, String.utf8ByteSize_append, hslashes]
  rfl

theorem text_joinText_slashed (name : String) (hname : Path.isAbsolute ⟨name⟩ = false) :
    ((slashed p n).joinText name).text = (slashed p n).text ++ name := by
  have hlast : (slashed p n).text.toList.getLast? = some '/' := by
    rw [toList_slashed, List.getLast?_append, List.getLast?_replicate]
    rfl
  have hseam : (slashed p n).seam = "" := by
    rw [Path.seam, hlast]
    simp
  rw [show ((slashed p n).joinText name).text = _ from Path.join_text_of_relative hname, hseam,
    String.append_empty]

theorem join_empty_slashed : (slashed p n).join ⟨""⟩ = slashed p n := by
  have htext := text_joinText_slashed (p := p) (n := n) "" rfl
  rw [String.append_empty] at htext
  exact congrArg Path.mk htext

theorem steps_slashes (n : Nat) :
    ∀ step ∈ Text.split '/' (String.ofList (List.replicate n '/')), step = "" := by
  induction n with
  | zero => simp [Text.split, Text.pieces]
  | succ n ih =>
    have hsplit : String.ofList (List.replicate (n + 1) '/') =
        "" ++ "/" ++ String.ofList (List.replicate n '/') := by
      rw [List.replicate_succ, String.ofList_cons]
      rfl
    rw [hsplit, Text.split_append_slash]
    exact List.forall_mem_cons.2 ⟨rfl, ih⟩

theorem admissible_slashed_iff (hp : FileTree.admissible p) (name : String)
    (hname : Path.isAbsolute ⟨name⟩ = false) (hzero : '\x00' ∉ name.toList) :
    FileTree.admissible ((slashed p n).joinText name) ↔
      p.text.utf8ByteSize + 1 + n + name.utf8ByteSize < FileTree.pathLimit := by
  have hclean : '\x00' ∉ ((slashed p n).joinText name).text.toList := by
    rw [text_joinText_slashed name hname, String.toList_append, toList_slashed, List.mem_append,
      List.mem_append, not_or, not_or]
    exact ⟨⟨(FileTree.admissible_iff.1 hp).2,
      fun h => absurd (List.eq_of_mem_replicate h) (by decide)⟩, hzero⟩
  rw [FileTree.admissible_iff, and_iff_left hclean, text_joinText_slashed name hname,
    String.utf8ByteSize_append, size_slashed]

theorem locate_slashed {t : FileTree} {loc : Location} (h : t.locate p = .ok loc)
    (hat : t.at? loc = some .dir) (hsize : p.text.utf8ByteSize + 1 + n < FileTree.pathLimit) :
    t.locate (slashed p n) = .ok loc := by
  obtain ⟨hadmissible, hne, hfollow⟩ := FileTree.locate_eq_ok.1 h
  obtain ⟨c, cs, hp⟩ := List.exists_cons_of_ne_nil (mt String.toList_eq_nil_iff.1 hne)
  have hne' : (slashed p n).text ≠ "" := fun hempty => by
    have hlist := toList_slashed (p := p) (n := n)
    rw [hempty, hp] at hlist
    exact absurd hlist (by simp)
  have hjoined := (admissible_slashed_iff (n := n) hadmissible "" rfl (by simp)).2 hsize
  rw [show (slashed p n).joinText "" = slashed p n from join_empty_slashed] at hjoined
  have habs : (slashed p n).isAbsolute = p.isAbsolute := by
    unfold Path.isAbsolute
    rw [toList_slashed, hp]
    rfl
  have hroute : (t.route (slashed p n)).1 = (t.route p).1 := by
    rw [FileTree.route_fst, FileTree.route_fst, habs]
  refine FileTree.locate_eq_ok.2 ⟨hjoined, hne', FileTree.follow_steps.1 ?_⟩
  rw [hroute, Path.steps, slashed, Text.split_append_slash]
  exact (FileTree.follow_append _ _).2 ⟨loc, FileTree.follow_steps.2 hfollow,
    FileTree.follow_empty (steps_slashes n) hat⟩

end

/-- A file is copied alike by any path that leads to it. -/
theorem copyFile_congr (s : Scaffold) (data : Store) {source source' : Path} {w : World}
    {bytes : ByteArray} (h : w.files.read? source = some bytes)
    (h' : w.files.read? source' = some bytes) (target : Path) :
    s.copyFile data source target w = s.copyFile data source' target w := by
  rw [copyFile_apply, copyFile_apply, Step.bind_of_ok (World.read_of_some h),
    Step.bind_of_ok (World.read_of_some h'), FileTree.exists_of_read? h, FileTree.exists_of_read? h',
    Bool.not_true, if_neg Bool.false_ne_true, if_neg Bool.false_ne_true]

/-! ## 4. What else a second run can find -/

namespace Sample

/-- A file whose content tells where a path leads. -/
def told : World :=
  ⟨⟨[(["src"], .dir), (["src", "a.txt"], .file "\x7b\x7b p | realpath \x7d\x7d".toUTF8)], []⟩,
    [], [], [], [], []⟩

/-- The path of the target, not in its shortest form. -/
def loose : Store :=
  ⟨[("p", .str "./out/a.txt")]⟩

def telling : Scaffold :=
  { copies with overwrite := true }

theorem told_wellFormed : told.files.WellFormed := by
  decide

/-- What comes of the file in a world. -/
def tells (w : World) : Except Fault (CopyReport × List Path) × World × List (Call World) :=
  telling.copyEntries (telling.access loose).noting ⟨"out"⟩ ⟨""⟩ .empty [] [⟨"src/a.txt"⟩]
    (w, [.list w ⟨"src/"⟩])

theorem run_tells {w : World} (hdir : w.files.locate ⟨"src/"⟩ = .ok ["src"])
    (hat : w.files.isDirAt ["src"])
    (hnames : w.files.entries.filterMap (FileTree.nameIn ["src"] ·.1) = ["a.txt"])
    (h : (tells w).1.toOption = some (⟨[⟨"out/a.txt"⟩], []⟩, [])) :
    telling.notedCopy loose ⟨"src"⟩ ⟨"out"⟩ (w, []) = (.ok ⟨[⟨"out/a.txt"⟩], []⟩, (tells w).2) := by
  refine notedCopy_of_level telling loose _ _
    (list_noted telling loose hdir hat hnames (by decide) []) ?_
  exact Step.eq_ok_of_toOption h

/-- A rule that looks at the files can see what the first run did: where nothing is, a path leads to
where it says, and where something is it leads there by the shortest way. -/
theorem told_differs : ∃ report w₁ w₂ calls,
    telling.notedCopy loose ⟨"src"⟩ ⟨"out"⟩ (told, []) = (.ok report, w₁, calls) ∧
    (∀ c ∈ attempts calls, ¬ LiesUnder told.files c.target ⟨"src"⟩) ∧
    telling.copyDir loose ⟨"src"⟩ ⟨"out"⟩ w₁ = (.ok report, w₂) ∧
    w₁.files.read? ⟨"out/a.txt"⟩ = some "/./out/a.txt".toUTF8 ∧
    w₂.files.read? ⟨"out/a.txt"⟩ = some "/out/a.txt".toUTF8 := by
  have hfirst := run_tells (w := told) (by decide) (by decide) (by decide) (by decide +kernel)
  have hsecond := run_tells (w := (tells told).2.1) (by decide +kernel) (by decide +kernel)
    (by decide +kernel) (by decide +kernel)
  have hclear : ∀ c ∈ attempts (tells told).2.2,
      ¬ told.files.aim ⟨"src"⟩ <+: told.files.aim c.target := by decide +kernel
  exact ⟨_, _, (tells (tells told).2.1).2.1, _, hfirst, fun c hc hunder => hclear c hc hunder.prefix,
    by rw [copyDir_eq_notedCopy, hsecond], by decide +kernel, by decide +kernel⟩

/-- A directory with a file, asked for by a path that leaves room for one more byte. -/
def roomy : World :=
  ⟨⟨[(["s"], .dir), (["s", "f"], .file "one".toUTF8)], []⟩, [], [], [], [], []⟩

-- its text is not unfolded: there is nothing in it but slashes
@[irreducible]
def far : Path :=
  slashed ⟨"/s"⟩ 4091

/-- The way to the target leads through the directory, and back. -/
def detour : Path :=
  ⟨"/s/dd/../../o"⟩

def detoured : World :=
  (copies.copyFile ⟨[]⟩ ⟨"/s/f"⟩ (detour.joinText "f") roomy).2

/-- The file is copied by its short path, and its directory has another one in it then. -/
theorem detoured_holds :
    (copies.copyFile ⟨[]⟩ ⟨"/s/f"⟩ (detour.joinText "f") roomy).1.toOption = some .created ∧
    Render.path (copies.context ⟨[]⟩ roomy) ((Path.mk "").joinText "f") = .ok ⟨"f"⟩ ∧
    detoured.files.locate ⟨"/s"⟩ = .ok ["s"] ∧ detoured.files.isDirAt ["s"] ∧
    detoured.files.entries.filterMap (FileTree.nameIn ["s"] ·.1) = ["dd", "f"] ∧
    detoured.files.exists (detour.joinText "dd") = false ∧
    Render.path (copies.context ⟨[]⟩ detoured) ((Path.mk "").joinText "dd") = .ok ⟨"dd"⟩ := by
  decide +kernel

theorem locate_far {t : FileTree} (h : t.locate ⟨"/s"⟩ = .ok ["s"]) (hat : t.isDirAt ["s"]) :
    t.locate far = .ok ["s"] := by
  rw [far]
  exact locate_slashed h (FileTree.isDirAt_iff.1 hat) (by decide)

theorem admissible_far_iff {name : String} (hname : Path.isAbsolute ⟨name⟩ = false)
    (hzero : '\x00' ∉ name.toList) :
    FileTree.admissible (far.joinText name) ↔ name.utf8ByteSize < 2 := by
  rw [far, admissible_slashed_iff (by decide) name hname hzero]
  show 2 + 1 + 4091 + _ < 4096 ↔ _
  omega

theorem read?_far : roomy.files.read? (far.joinText "f") = some "one".toUTF8 := by
  have hdir : roomy.files.locate far = .ok ["s"] := locate_far (by decide) (by decide)
  refine FileTree.read?_eq_some.2 ⟨["s", "f"], ?_, rfl⟩
  exact (FileTree.locate_joinText (FileTree.locate_eq_ok.1 hdir).2.1 (by decide)).2
    ⟨(admissible_far_iff rfl (by decide)).2 (by decide), ["s"], hdir, rfl, rfl⟩

theorem copyFile_far : copies.copyFile ⟨[]⟩ (far.joinText "f") (detour.joinText "f") roomy =
    (.ok .created, detoured) := by
  rw [copyFile_congr copies ⟨[]⟩ read?_far
    (show roomy.files.read? ⟨"/s/f"⟩ = some "one".toUTF8 by decide)]
  exact Step.eq_ok_of_toOption detoured_holds.1

theorem list_far {w : World} (hdir : w.files.locate ⟨"/s"⟩ = .ok ["s"]) (hat : w.files.isDirAt ["s"])
    {names : List String} (hnames : w.files.entries.filterMap (FileTree.nameIn ["s"] ·.1) = names)
    (hsorted : names.Pairwise fun a b => decide (a ≤ b)) :
    (copies.access ⟨[]⟩).noting.list (far.join ⟨""⟩) (w, []) =
      (.ok (names.map far.joinText), w, [.list w far]) := by
  have hself : far.join ⟨""⟩ = far := by
    rw [far]
    exact join_empty_slashed
  rw [hself]
  exact list_noted copies ⟨[]⟩ (locate_far hdir hat) hat hnames hsorted []

/-- What is found below the long path and is not a directory is taken for a file. -/
theorem copyEntries_far {w : World} (hdir : w.files.locate ⟨"/s"⟩ = .ok ["s"])
    (hat : w.files.isDirAt ["s"]) {name : String} (hname : Proper name)
    (hnot : ¬ (FileTree.admissible (far.joinText name) ∧ w.files.at? ["s", name] = some .dir))
    (hrender : Render.path (copies.context ⟨[]⟩ w) ((Path.mk "").joinText name) = .ok ⟨name⟩)
    (rest : List Path) (calls : List (Call World)) :
    copies.copyEntries (copies.access ⟨[]⟩).noting detour ⟨""⟩ .empty []
        (far.joinText name :: rest) (w, calls) =
      ((copies.access ⟨[]⟩).noting.copy (far.joinText name) (detour.joinText name) >>= fun outcome =>
        copies.copyEntries (copies.access ⟨[]⟩).noting detour ⟨""⟩
          (CopyReport.empty.record outcome (detour.joinText name)) [] rest) (w, calls) := by
  have hfile : (copies.access ⟨[]⟩).noting.isDir (far.joinText name) (w, calls) = false :=
    Bool.eq_false_iff.2 fun h => hnot ((FileTree.isDir_joinText (locate_far hdir hat)
      (FileTree.isDirAt_iff.1 hat) hname).1 h)
  have hrendered : (copies.access ⟨[]⟩).noting.render ((Path.mk "").joinText name) (w, calls) =
      (.ok ⟨name⟩, (w, calls)) := Prod.ext hrender rfl
  rw [copyEntries_keep _ _ _ _ _ _ (Path.fileName?_joinText hname.not_idle hname.ne_up hname.no_slash)
    rfl, hfile, if_neg Bool.false_ne_true, Step.bind_of_ok hrendered]
  rfl

theorem notedCopy_far : copies.notedCopy ⟨[]⟩ far detour (roomy, []) =
    (.ok ⟨[detour.joinText "f"], []⟩, detoured,
      [.list roomy far, .copy ⟨roomy, far.joinText "f", detour.joinText "f", .ok .created⟩]) := by
  have hdir : roomy.files.locate ⟨"/s"⟩ = .ok ["s"] := by decide
  have hat : roomy.files.isDirAt ["s"] := by decide
  have hnot : ¬ (FileTree.admissible (far.joinText "f") ∧
      roomy.files.at? ["s", "f"] = some .dir) := fun h => by
    have hfile : ¬ roomy.files.isDirAt ["s", "f"] := by decide
    exact hfile (FileTree.isDirAt_iff.2 h.2)
  refine notedCopy_of_level copies ⟨[]⟩ _ _ (list_far hdir hat
    (show _ = ["f"] by decide) (by decide)) ?_
  rw [List.map_singleton, copyEntries_far hdir hat (by decide) hnot detoured_holds.2.1,
    Step.bind_of_ok (Access.noting_copy copyFile_far _)]
  rfl

theorem copyDir_far : ∃ w, copies.copyDir ⟨[]⟩ far detour detoured =
    (.error (.fileMissing (far.joinText "dd")), w) := by
  obtain ⟨-, -, hdir, hat, hnames, htarget, hrender⟩ := detoured_holds
  have hlong : ¬ FileTree.admissible (far.joinText "dd") := fun h =>
    absurd ((admissible_far_iff rfl (by decide)).1 h) (by decide)
  have hmissing : copies.copyFile ⟨[]⟩ (far.joinText "dd") (detour.joinText "dd") detoured =
      (.error (.fileMissing (far.joinText "dd")), detoured) := by
    have hnone : detoured.files.exists (far.joinText "dd") = false := by
      refine Bool.eq_false_iff.2 fun h => ?_
      obtain ⟨loc, hloc, -⟩ := FileTree.exists_iff.1 h
      exact hlong (FileTree.locate_eq_ok.1 hloc).1
    rw [copyFile_apply, htarget, hnone]
    rfl
  have hlevel : copies.copyLevel (copies.access ⟨[]⟩).noting far detour ⟨""⟩ .empty (detoured, []) =
      _ := Step.bind_of_ok (list_far hdir hat hnames (by decide))
  rw [List.map_cons, copyEntries_far hdir hat (by decide) (fun h => hlong h.1) hrender,
    Step.bind_of_error (Access.noting_copy hmissing _)] at hlevel
  rw [copyDir_eq_notedCopy, notedCopy, copyPending_cons, Step.bind_of_error hlevel]
  exact ⟨_, rfl⟩

theorem roomy_wellFormed : roomy.files.WellFormed := by
  decide

/-- The first run has made a directory below the source, on its way. In the second one the path of that
directory is too long to be asked for: it is taken for a file, and the file is missing. -/
theorem roomy_fails : ∃ report w₁ calls e w₂,
    copies.notedCopy ⟨[]⟩ far detour (roomy, []) = (.ok report, w₁, calls) ∧
    (∀ c ∈ attempts calls, ¬ LiesUnder roomy.files c.target far) ∧
    copies.copyDir ⟨[]⟩ far detour w₁ = (.error e, w₂) := by
  obtain ⟨w₂, hagain⟩ := copyDir_far
  refine ⟨_, _, _, _, w₂, notedCopy_far, fun c hc => ?_, hagain⟩
  obtain rfl : c = _ := List.mem_singleton.1 hc
  have hdir : roomy.files.locate far = .ok ["s"] := locate_far (by decide) (by decide)
  rintro ⟨names, -, haim⟩
  rw [← FileTree.eq_aim_of_locate hdir,
    show roomy.files.aim (detour.joinText "f") = ["o", "f"] by decide] at haim
  simp at haim

end Sample

/-- No target has to lie under the source for a second copy to change a file, or to fail. -/
theorem copyDir_again_differs :
    (Sample.told.files.WellFormed ∧ ∃ report w₁ w₂ calls,
      Sample.telling.notedCopy Sample.loose ⟨"src"⟩ ⟨"out"⟩ (Sample.told, []) =
        (.ok report, w₁, calls) ∧
      (∀ c ∈ attempts calls, ¬ LiesUnder Sample.told.files c.target ⟨"src"⟩) ∧
      Sample.telling.copyDir Sample.loose ⟨"src"⟩ ⟨"out"⟩ w₁ = (.ok report, w₂) ∧
      w₁.files.read? ⟨"out/a.txt"⟩ = some "/./out/a.txt".toUTF8 ∧
      w₂.files.read? ⟨"out/a.txt"⟩ = some "/out/a.txt".toUTF8) ∧
    (Sample.roomy.files.WellFormed ∧ ∃ report w₁ calls e w₂,
      Sample.copies.notedCopy ⟨[]⟩ Sample.far Sample.detour (Sample.roomy, []) =
        (.ok report, w₁, calls) ∧
      (∀ c ∈ attempts calls, ¬ LiesUnder Sample.roomy.files c.target Sample.far) ∧
      Sample.copies.copyDir ⟨[]⟩ Sample.far Sample.detour w₁ = (.error e, w₂)) :=
  ⟨⟨Sample.told_wellFormed, Sample.told_differs⟩, Sample.roomy_wellFormed, Sample.roomy_fails⟩

end Stencil.Scaffold
