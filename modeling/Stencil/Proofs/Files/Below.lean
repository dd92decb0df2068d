import Mathlib.Data.List.Induction
import Stencil.Proofs.Files.Tree
import Stencil.Proofs.Text.Pieces

/-!
# Paths below a directory

A walk names what it finds by joining names to the path of the directory it looked into. Such a
path leads one place further than the directory's path, and nowhere else:

    t.locate (p.joinText name) = .ok loc ↔
      admissible (p.joinText name) ∧ ∃ dir, t.locate p = .ok dir ∧ t.at? dir = some .dir ∧
        loc = dir ++ [name]

(`locate_joinText`). The first conjunct is there because a joined path can be too long to be asked
for, even where there is something at its end.

`below names` is the path of a place by the names on the way to it. Joined to the path of a
directory it tells the places below the directory apart (`join_below_injective`).
-/

set_option autoImplicit false

namespace Stencil

namespace Path

/-! ## 1. The steps of a joined path -/

/-- The steps of a path that are in front when something is joined to it. -/
def stem (p : Path) : List String :=
  if p.text.toList.getLast? = some '/' then p.steps.dropLast else p.steps

/-- A path that ends in a slash has an empty last step. -/
theorem of_ends_in_slash {p : Path} (h : p.text.toList.getLast? = some '/') :
    ∃ q : String, p.text = q ++ "/" ∧ p.steps = Text.split '/' q ++ [""] := by
  obtain ⟨cs, hcs⟩ := List.getLast?_eq_some_iff.1 h
  have htext : p.text = String.ofList cs ++ "/" := by
    rw [← String.ofList_toList (s := p.text), hcs, String.ofList_append]
  refine ⟨String.ofList cs, htext, ?_⟩
  rw [steps, htext, ← String.append_empty (s := String.ofList cs ++ "/"), Text.split_append_slash]
  rfl

theorem steps_eq_stem (p : Path) : p.steps = p.stem ∨ p.steps = p.stem ++ [""] := by
  unfold stem
  split
  · rename_i h
    obtain ⟨q, -, hsteps⟩ := of_ends_in_slash h
    rw [hsteps, List.dropLast_concat]
    exact Or.inr rfl
  · exact Or.inl rfl

/-- The steps of what is joined come behind the stem. -/
theorem steps_join {p q : Path} (hp : p.text ≠ "") (hq : q.isAbsolute = false) :
    (p.join q).steps = p.stem ++ q.steps := by
  rw [steps, join_text_of_relative hq]
  unfold seam stem
  by_cases h : p.text.toList.getLast? = some '/'
  · obtain ⟨front, hfront, hsteps⟩ := of_ends_in_slash h
    rw [if_pos h, if_pos (by simp [h]), String.append_empty, hfront, Text.split_append_slash,
      hsteps, List.dropLast_concat]
    rfl
  · rw [if_neg h, if_neg (by simp [h, hp]), Text.split_append_slash]
    rfl

theorem steps_joinText {p : Path} {name : String} (hp : p.text ≠ "") (hname : '/' ∉ name.toList) :
    (p.joinText name).steps = p.stem ++ [name] := by
  rw [show (p.joinText name).steps = _ from steps_join hp (isAbsolute_eq_false hname)]
  exact congrArg (p.stem ++ ·) (Text.split_of_not_mem hname)

theorem stem_ne_nil (p : Path) : p.stem ≠ [] := by
  unfold stem
  split
  · rename_i h
    obtain ⟨q, -, hsteps⟩ := of_ends_in_slash h
    rw [hsteps, List.dropLast_concat]
    exact steps_ne_nil ⟨q⟩
  · exact p.steps_ne_nil

/-- A joined name ends the path: it is a step in front of whatever is joined next. -/
theorem stem_joinText {p : Path} {name : String} (hp : p.text ≠ "") (hne : name ≠ "")
    (hname : '/' ∉ name.toList) : (p.joinText name).stem = p.stem ++ [name] := by
  rcases steps_eq_stem (p.joinText name) with h | h
  · rw [← h, steps_joinText hp hname]
  · rw [steps_joinText hp hname] at h
    exact absurd (List.append_inj' h rfl).2 (by simp [hne])

theorem joinText_ne_empty (p : Path) {name : String} (hne : name ≠ "")
    (hname : '/' ∉ name.toList) : (p.joinText name).text ≠ "" := by
  rw [show (p.joinText name).text = _ from join_text_of_relative (isAbsolute_eq_false hname)]
  intro h
  have hlist := congrArg String.toList h
  simp [String.toList_append, String.toList_eq_nil_iff, hne] at hlist

theorem parts_of_isAbsolute {p : Path} (h : p.isAbsolute = true) :
    p.parts = (.root, p.steps.drop 1) := if_pos h

theorem parts_of_here {p : Path} {rest : List String} (habs : p.isAbsolute = false)
    (h : p.steps = "." :: rest) : p.parts = (.here, rest) := by
  unfold parts
  rw [habs, h]
  rfl

theorem parts_of_free {p : Path} (habs : p.isAbsolute = false)
    (h : p.steps.head? ≠ some ".") : p.parts = (.free, p.steps) := by
  unfold parts
  rw [habs, if_neg (by simp)]
  split
  · rename_i hhere
    rw [hhere] at h
    exact absurd rfl h
  · rfl

/-- A joined name is a step behind those of the path, an empty last one apart. -/
theorem parts_joinText {p : Path} {name : String} (hidle : isIdle name = false)
    (hname : '/' ∉ name.toList) :
    ∃ front, (p.joinText name).parts = (p.parts.1, front ++ [name]) ∧
      (p.parts.2 = front ∨ p.parts.2 = front ++ [""]) := by
  have hjoined := isAbsolute_joinText p (isAbsolute_eq_false hname)
  by_cases hp : p.text = ""
  · -- nothing is in front of the name, which is a start of its own
    obtain ⟨_⟩ := p
    cases hp
    have hsteps : (joinText ⟨""⟩ name).steps = [name] := by
      rw [steps, show (joinText ⟨""⟩ name).text = _ from
        join_text_of_relative (isAbsolute_eq_false hname)]
      exact Text.split_of_not_mem (by simpa [seam] using hname)
    refine ⟨[], ?_, Or.inr rfl⟩
    rw [parts_of_free hjoined ?_, hsteps]
    · rfl
    · rw [hsteps]
      rintro hhere
      rw [Option.some.inj hhere] at hidle
      exact absurd hidle (by decide)
  · obtain ⟨s, rest, hstem⟩ := List.exists_cons_of_ne_nil p.stem_ne_nil
    have hsteps := steps_joinText hp hname
    have hself := p.steps_eq_stem
    rw [hstem] at hsteps hself
    cases habs : p.isAbsolute with
    | true =>
      rw [parts_of_isAbsolute habs, parts_of_isAbsolute (hjoined.trans habs), hsteps]
      refine ⟨rest, rfl, ?_⟩
      exact hself.imp (fun h => by rw [h]; rfl) (fun h => by rw [h]; rfl)
    | false =>
      by_cases hs : s = "."
      · subst hs
        rw [parts_of_here (hjoined.trans habs) hsteps]
        rcases hself with h | h
        · rw [parts_of_here habs h]
          exact ⟨rest, rfl, Or.inl rfl⟩
        · rw [parts_of_here habs h]
          exact ⟨rest, rfl, Or.inr rfl⟩
      · have hfree : p.parts = (.free, p.steps) := parts_of_free habs <| by
          rcases hself with h | h
          · simpa [h] using hs
          · simpa [h] using hs
        rw [parts_of_free (hjoined.trans habs) (by simpa [hsteps] using hs), hsteps, hfree]
        exact ⟨s :: rest, rfl, hself⟩

/-- A joined name is the last component. -/
theorem fileName?_joinText {p : Path} {name : String} (hidle : isIdle name = false)
    (hup : name ≠ "..") (hname : '/' ∉ name.toList) :
    (p.joinText name).fileName? = some name := by
  obtain ⟨front, hfront, -⟩ := parts_joinText (p := p) hidle hname
  have hlast : (p.joinText name).components.getLast? = some (.name name) := by
    unfold components
    rw [hfront]
    dsimp only
    rw [List.filter_append, List.map_append]
    have hend : (([name].filter fun s => !isIdle s).map componentOf) = [.name name] := by
      simp [hidle, componentOf, hup]
    rw [hend]
    cases p.parts.1 with
    | root =>
      dsimp only
      rw [← List.cons_append, List.getLast?_concat]
    | here =>
      dsimp only
      rw [← List.cons_append, List.getLast?_concat]
    | free => exact List.getLast?_concat
  unfold fileName?
  rw [hlast]

/-! ## 2. The paths of places -/

/-- The path of a place by the names on the way to it. -/
def below (names : List String) : Path :=
  names.foldl joinText ⟨""⟩

theorem below_concat (names : List String) (name : String) :
    below (names ++ [name]) = (below names).joinText name := by
  rw [below, List.foldl_append]
  rfl

theorem seam_eq_empty {p : Path} (h : p.text = "" ∨ p.text.toList.getLast? = some '/') :
    p.seam = "" := by
  unfold seam
  rw [if_pos (by simpa using h)]

/-- Joining a name to a joined path. -/
theorem joinText_join (p : Path) {q : Path} {name : String} (hq : q.isAbsolute = false)
    (hname : isAbsolute ⟨name⟩ = false) :
    (p.join q).joinText name = p.join (q.joinText name) := by
  have htext : ((p.join q).joinText name).text = (p.join (q.joinText name)).text := by
    rw [show ((p.join q).joinText name).text = _ from join_text_of_relative hname,
      join_text_of_relative hq, join_text_of_relative (by rw [isAbsolute_joinText q hname, hq]),
      show (q.joinText name).text = _ from join_text_of_relative hname]
    by_cases hempty : q.text = ""
    · have hseam : (p.join q).seam = "" := by
        refine seam_eq_empty ?_
        rw [join_text_of_relative hq, hempty, String.append_empty]
        unfold seam
        split
        · rename_i h
          simpa using h
        · right
          simp [String.toList_append]
      rw [hseam, hempty, seam_eq_empty (Or.inl hempty)]
      simp
    · have hseam : (p.join q).seam = q.seam := by
        have hlist : q.text.toList ≠ [] := fun h => hempty (String.toList_eq_nil_iff.1 h)
        unfold seam
        rw [join_text_of_relative hq, String.toList_append, List.getLast?_append_of_ne_nil _ hlist]
        simp [hempty]
      rw [hseam]
      simp only [String.append_assoc]
  exact congrArg Path.mk htext

end Path

open FileTree (Proper)

namespace Path

theorem below_not_absolute {names : List String} (h : ∀ name ∈ names, Proper name) :
    (below names).isAbsolute = false := by
  induction names using List.reverseRecOn with
  | nil => rfl
  | append_singleton names name ih =>
    rw [below_concat, isAbsolute_joinText _ (h name (by simp)).not_absolute]
    exact ih fun n hn => h n (by simp [hn])

/-- The path of a place in a directory below `source`. -/
theorem join_below_concat (source : Path) {names : List String} {name : String}
    (h : ∀ n ∈ names, Proper n) (hname : Proper name) :
    source.join (below (names ++ [name])) = (source.join (below names)).joinText name := by
  rw [below_concat, joinText_join source (below_not_absolute h) hname.not_absolute]

theorem join_below_ne_empty {source : Path} (hsource : source.text ≠ "") {names : List String}
    (h : ∀ name ∈ names, Proper name) : (source.join (below names)).text ≠ "" := by
  rw [join_text_of_relative (below_not_absolute h)]
  intro he
  have hlist := congrArg String.toList he
  simp [String.toList_append, String.toList_eq_nil_iff, hsource] at hlist

theorem isAbsolute_join {p : Path} (hp : p.isAbsolute = true) (q : Path) :
    (p.join q).isAbsolute = true := by
  cases hq : q.isAbsolute with
  | true =>
    unfold join
    rw [if_pos hq, hq]
  | false =>
    unfold isAbsolute at hp ⊢
    rw [join_text_of_relative hq, String.toList_append, String.toList_append]
    cases htext : p.text.toList with
    | nil =>
      rw [htext] at hp
      exact absurd hp (by decide)
    | cons c cs =>
      rw [htext] at hp
      exact hp

/-- What is joined next does not see whether nothing was joined before. -/
theorem stem_join_empty {p : Path} (hp : p.text ≠ "") : (p.join ⟨""⟩).stem = p.stem := by
  have hnone : ∀ name ∈ ([] : List String), Proper name := by simp
  have hne : (p.join ⟨""⟩).text ≠ "" := join_below_ne_empty hp hnone
  have hname : '/' ∉ "x".toList := by decide
  have hjoin : (p.join ⟨""⟩).joinText "x" = p.joinText "x" := joinText_join p rfl rfl
  have hsteps := congrArg steps hjoin
  rw [steps_joinText hne hname, steps_joinText hp hname] at hsteps
  exact (List.append_inj' hsteps rfl).1

theorem stem_join_below {source : Path} (hsource : source.text ≠ "") {names : List String}
    (h : ∀ n ∈ names, Proper n) : (source.join (below names)).stem = source.stem ++ names := by
  induction names using List.reverseRecOn with
  | nil => rw [List.append_nil, below, List.foldl_nil, stem_join_empty hsource]
  | append_singleton names n ih =>
    have hnames : ∀ m ∈ names, Proper m := fun m hm => h m (by simp [hm])
    have hn : Proper n := h n (by simp)
    rw [join_below_concat source hnames hn,
      stem_joinText (join_below_ne_empty hsource hnames) hn.ne_empty hn.no_slash, ih hnames,
      List.append_assoc]

/-- Places below a directory have different paths. -/
theorem join_below_injective {source : Path} (hsource : source.text ≠ "")
    {names names' : List String} (h : ∀ n ∈ names, Proper n) (h' : ∀ n ∈ names', Proper n)
    (heq : source.join (below names) = source.join (below names')) : names = names' := by
  have hstem := congrArg stem heq
  rw [stem_join_below hsource h, stem_join_below hsource h'] at hstem
  exact List.append_cancel_left hstem

end Path

/-! ## 3. Where joined paths lead -/

namespace FileTree

open Stencil.Path (below join_below_concat join_below_ne_empty)

theorem admissible_iff {p : Path} :
    admissible p = true ↔ p.text.utf8ByteSize < pathLimit ∧ '\x00' ∉ p.text.toList := by
  simp [admissible]

/-- What can be asked for can be asked for up to anywhere. -/
theorem admissible_of_prefix {p q : Path} {rest : String} (hq : q.text = p.text ++ rest)
    (h : admissible q) : admissible p := by
  rw [admissible_iff, hq, String.utf8ByteSize_append, String.toList_append, List.mem_append,
    not_or] at h
  exact admissible_iff.2 ⟨by omega, h.2.1⟩

theorem admissible_of_joinText {p : Path} {name : String} (hname : Path.isAbsolute ⟨name⟩ = false)
    (h : admissible (p.joinText name)) : admissible p := by
  have htext : (p.joinText name).text = p.text ++ p.seam ++ name :=
    Path.join_text_of_relative hname
  exact admissible_of_prefix (htext.trans String.append_assoc) h

/-- A path and what is joined to it start alike. -/
theorem route_join (t : FileTree) {p q : Path} (hp : p.text ≠ "") (hq : q.isAbsolute = false) :
    ∃ front : List String, t.route (p.join q) = ((t.route p).1, front ++ q.steps) ∧
      ((t.route p).2 = front ∨ (t.route p).2 = front ++ [""]) := by
  have habs : (p.join q).isAbsolute = p.isAbsolute := Path.isAbsolute_joinText p hq
  obtain ⟨s, rest, hstem⟩ := List.exists_cons_of_ne_nil p.stem_ne_nil
  unfold route
  rw [habs, Path.steps_join hp hq]
  cases p.isAbsolute with
  | true =>
    refine ⟨p.stem.drop 1, ?_, ?_⟩
    · simp [hstem]
    · rcases p.steps_eq_stem with h | h
      · exact Or.inl (by simp [h])
      · exact Or.inr (by simp [h, hstem])
  | false => exact ⟨p.stem, rfl, p.steps_eq_stem⟩

theorem route_joinText (t : FileTree) {p : Path} {name : String} (hp : p.text ≠ "")
    (hname : '/' ∉ name.toList) :
    ∃ front : List String, t.route (p.joinText name) = ((t.route p).1, front ++ [name]) ∧
      ((t.route p).2 = front ∨ (t.route p).2 = front ++ [""]) := by
  have hsteps : Path.steps ⟨name⟩ = [name] := Text.split_of_not_mem hname
  obtain ⟨front, hroute, hfront⟩ := t.route_join hp (Path.isAbsolute_eq_false hname)
  rw [hsteps] at hroute
  exact ⟨front, hroute, hfront⟩

/-- What is joined is gone through behind steps that end where the path aims. -/
theorem route_join_front (t : FileTree) (p : Path) {q : Path} (hq : q.isAbsolute = false) :
    ∃ start front, t.route (p.join q) = (start, front ++ q.steps) ∧
      front.foldl turn start = t.aim p := by
  by_cases hp : p.text = ""
  · obtain ⟨_⟩ := p
    cases hp
    have hjoin : Path.join ⟨""⟩ q = q := by
      unfold Path.join
      rw [hq]
      exact congrArg Path.mk (String.empty_append (s := q.text))
    refine ⟨t.current, [], ?_, rfl⟩
    rw [hjoin, route, hq]
    rfl
  · obtain ⟨front, hroute, hfront⟩ := t.route_join hp hq
    refine ⟨_, front, hroute, ?_⟩
    unfold aim
    rcases hfront with h | h
    · rw [h]
    · rw [h, List.foldl_append]
      rfl

/-- What is joined leads on from where the path aims. -/
theorem aim_join (t : FileTree) (p : Path) {q : Path} (hq : q.isAbsolute = false) :
    t.aim (p.join q) = q.steps.foldl turn (t.aim p) := by
  obtain ⟨start, front, hroute, hfront⟩ := t.route_join_front p hq
  unfold aim at hfront ⊢
  rw [hroute, ← hfront, List.foldl_append]

/-- When a joined path leads anywhere, a directory stands where the first path aims. -/
theorem dir_of_locate_join {t : FileTree} {p q : Path} {loc : Location}
    (hq : q.isAbsolute = false) (h : t.locate (p.join q) = .ok loc) :
    t.at? (t.aim p) = some .dir := by
  obtain ⟨start, front, hroute, hfront⟩ := t.route_join_front p hq
  have hfollow := (locate_eq_ok.1 h).2.2
  rw [hroute] at hfollow
  obtain ⟨mid, hmid, hrest⟩ := (follow_append front q.steps).1 hfollow
  obtain ⟨s, rest, hsteps⟩ := List.exists_cons_of_ne_nil q.steps_ne_nil
  rw [hsteps] at hrest
  rw [← hfront, ← eq_foldl_of_follow hmid]
  exact (follow_cons_eq_ok.1 hrest).1

/-- A joined name is one turn on from where the path aims. -/
theorem aim_joinText {t : FileTree} {p : Path} {name : String} (hname : '/' ∉ name.toList) :
    t.aim (p.joinText name) = turn (t.aim p) name := by
  have hsteps : Path.steps ⟨name⟩ = [name] := Text.split_of_not_mem hname
  rw [show t.aim (p.joinText name) = _ from t.aim_join p (Path.isAbsolute_eq_false hname), hsteps]
  rfl

/-- Joining nothing to a path leaves where it aims. -/
theorem aim_join_empty (t : FileTree) (p : Path) : t.aim (p.join ⟨""⟩) = t.aim p :=
  t.aim_join p rfl

/-- A joined name leads from the directory to the place of that name in it. -/
theorem locate_joinText {t : FileTree} {p : Path} {name : String} {loc : Location}
    (hp : p.text ≠ "") (hname : Proper name) :
    t.locate (p.joinText name) = .ok loc ↔
      admissible (p.joinText name) ∧ ∃ dir, t.locate p = .ok dir ∧ t.at? dir = some .dir ∧
        loc = dir ++ [name] := by
  obtain ⟨front, hroute, hfront⟩ := t.route_joinText hp hname.no_slash
  have hlast : ∀ dir : Location, t.follow dir [name] = .ok loc ↔
      t.at? dir = some .dir ∧ loc = dir ++ [name] := by
    intro dir
    have hturn : turn dir name = dir ++ [name] := by
      simp [turn, hname.not_idle, hname.ne_up]
    rw [follow_cons_eq_ok, hturn, follow, Except.ok.injEq]
    exact ⟨fun h => ⟨h.1, h.2.2.symm⟩, fun h => ⟨h.1, Or.inr (Or.inr hname.size_le), h.2.symm⟩⟩
  -- The path of the directory may have an empty step more, which asks for a directory again.
  have hdir : ∀ dir : Location, t.at? dir = some .dir →
      (t.follow (t.route p).1 (t.route p).2 = .ok dir ↔ t.follow (t.route p).1 front = .ok dir) := by
    intro dir hdir
    rcases hfront with h | h
    · rw [h]
    · rw [h, follow_append]
      constructor
      · rintro ⟨mid, hmid, hstep⟩
        obtain ⟨-, -, hend⟩ := follow_cons_eq_ok.1 hstep
        rw [follow, Except.ok.injEq] at hend
        exact hend ▸ hmid
      · intro hmid
        exact ⟨dir, hmid, follow_cons_eq_ok.2 ⟨hdir, Or.inl rfl, rfl⟩⟩
  rw [locate_eq_ok, hroute]
  constructor
  · rintro ⟨hadmissible, -, hfollow⟩
    obtain ⟨dir, hmid, hstep⟩ := (follow_append front [name]).1 hfollow
    obtain ⟨hd, hloc⟩ := (hlast dir).1 hstep
    refine ⟨hadmissible, dir, locate_eq_ok.2 ⟨?_, hp, (hdir dir hd).2 hmid⟩, hd, hloc⟩
    exact admissible_of_joinText hname.not_absolute hadmissible
  · rintro ⟨hadmissible, dir, hlocate, hd, hloc⟩
    refine ⟨hadmissible, Path.joinText_ne_empty p hname.ne_empty hname.no_slash, ?_⟩
    refine (follow_append front [name]).2 ⟨dir, (hdir dir hd).1 (locate_eq_ok.1 hlocate).2.2, ?_⟩
    exact (hlast dir).2 ⟨hd, hloc⟩

theorem isDir_joinText {t : FileTree} {p : Path} {name : String} {dir : Location}
    (hp : t.locate p = .ok dir) (hdir : t.at? dir = some .dir) (hname : Proper name) :
    t.isDir (p.joinText name) ↔
      admissible (p.joinText name) ∧ t.at? (dir ++ [name]) = some .dir := by
  have hne : p.text ≠ "" := (locate_eq_ok.1 hp).2.1
  rw [isDir_iff]
  constructor
  · rintro ⟨loc, hloc, hat⟩
    obtain ⟨hadmissible, dir', hp', -, rfl⟩ := (locate_joinText hne hname).1 hloc
    rw [hp, Except.ok.injEq] at hp'
    rw [hp']
    exact ⟨hadmissible, hat⟩
  · rintro ⟨hadmissible, hat⟩
    exact ⟨dir ++ [name], (locate_joinText hne hname).2 ⟨hadmissible, dir, hp, hdir, rfl⟩, hat⟩

/-- The path of a place below a directory leads to the place, when it can be asked for and there are
directories all the way. -/
theorem locate_join_below {t : FileTree} {source : Path} {root : Location}
    (hroot : t.locate (source.join ⟨""⟩) = .ok root) {names : List String}
    (h : ∀ n ∈ names, Proper n) {loc : Location} :
    t.locate (source.join (below names)) = .ok loc ↔
      admissible (source.join (below names)) ∧ loc = root ++ names ∧
        ∀ front rest, names = front ++ rest → rest ≠ [] → t.at? (root ++ front) = some .dir := by
  have hsource : source.text ≠ "" := by
    intro hempty
    exact (locate_eq_ok.1 hroot).2.1 (by simp [Path.join, Path.isAbsolute, hempty])
  induction names using List.reverseRecOn generalizing loc with
  | nil =>
    rw [below, List.foldl_nil, List.append_nil, hroot, Except.ok.injEq]
    constructor
    · rintro rfl
      refine ⟨(locate_eq_ok.1 hroot).1, rfl, fun front rest hsplit hne => ?_⟩
      exact absurd (List.append_eq_nil_iff.1 hsplit.symm).2 hne
    · exact fun hloc => hloc.2.1.symm
  | append_singleton names name ih =>
    have hnames : ∀ n ∈ names, Proper n := fun n hn => h n (by simp [hn])
    have hname : Proper name := h name (by simp)
    rw [join_below_concat source hnames hname,
      locate_joinText (join_below_ne_empty hsource hnames) hname]
    constructor
    · rintro ⟨hadmissible, dir, hdir, hat, rfl⟩
      obtain ⟨-, rfl, hfronts⟩ := (ih hnames).1 hdir
      refine ⟨hadmissible, List.append_assoc _ _ _, fun front rest hsplit hne => ?_⟩
      obtain ⟨before, last, rfl⟩ := (List.eq_nil_or_concat rest).resolve_left hne
      rw [List.concat_eq_append, ← List.append_assoc] at hsplit
      have hfront : names = front ++ before := (List.append_inj' hsplit rfl).1
      rcases List.eq_nil_or_concat before with rfl | ⟨_, _, hbefore⟩
      · rw [List.append_nil] at hfront
        rw [← hfront]
        exact hat
      · exact hfronts front before hfront (by simp [hbefore])
    · rintro ⟨hadmissible, rfl, hfronts⟩
      have hat : t.at? (root ++ names) = some .dir := hfronts names [name] rfl (by simp)
      refine ⟨hadmissible, root ++ names, (ih hnames).2 ⟨?_, rfl, ?_⟩, hat, by simp⟩
      · exact admissible_of_joinText hname.not_absolute hadmissible
      · intro front rest hsplit hne
        exact hfronts front (rest ++ [name]) (by rw [hsplit, List.append_assoc]) (by simp)

theorem admissible_front {source : Path} {front rest : List String}
    (h : ∀ n ∈ front ++ rest, Proper n) (ha : admissible (source.join (below (front ++ rest)))) :
    admissible (source.join (below front)) := by
  induction rest using List.reverseRecOn with
  | nil => rwa [List.append_nil] at ha
  | append_singleton rest n ih =>
    rw [← List.append_assoc] at h ha
    have hn : Proper n := h n (by simp)
    have hfront : ∀ m ∈ front ++ rest, Proper m := fun m hm => h m (List.mem_append_left _ hm)
    rw [join_below_concat source hfront hn] at ha
    exact ih hfront (admissible_of_joinText hn.not_absolute ha)

/-- On the way to anything there are directories. -/
theorem isDir_front {t : FileTree} {source : Path} {root loc : Location}
    (hroot : t.locate (source.join ⟨""⟩) = .ok root) {front rest : List String}
    (h : ∀ n ∈ front ++ rest, Proper n) (hne : rest ≠ [])
    (hloc : t.locate (source.join (below (front ++ rest))) = .ok loc) :
    t.isDir (source.join (below front)) := by
  obtain ⟨hadmissible, -, hfronts⟩ := (locate_join_below hroot h).1 hloc
  have hfront : ∀ n ∈ front, Proper n := fun n hn => h n (List.mem_append_left _ hn)
  refine isDir_iff.2 ⟨root ++ front, (locate_join_below hroot hfront).2 ⟨?_, rfl, ?_⟩, ?_⟩
  · exact admissible_front h hadmissible
  · intro before after hsplit hafter
    exact hfronts before (after ++ rest) (by rw [hsplit, List.append_assoc]) (by simp [hafter])
  · exact hfronts front rest rfl hne

end FileTree

end Stencil
