import Mathlib.Data.List.DropRight
import Stencil.Proofs.Files.Apart

/-!
# The directories above a path

Going up from a path drops its last step and the idle steps in front of it. So above a name that was
joined to a directory's path stands that path without idle steps at its end, `p.trim`
(`parent?_joinText`): not the text that was joined to, but a path that is the same and leads to the
same place (`components_trim`, `locate_trim`). A search that goes up from a place below a directory
comes to the directory in this form (`find?_ancestors`).
-/

set_option autoImplicit false

namespace Stencil

namespace Path

/-! ## 1. Idle steps at the end -/

/-- A path is its start and its steps. -/
theorem ofParts_parts (p : Path) : ofParts p.parts.1 p.parts.2 = p := by
  have hjoin : "/".intercalate p.steps = p.text := Text.intercalate_split p.text
  cases habs : p.isAbsolute with
  | true =>
    obtain ⟨s, rest, hsteps⟩ := FileTree.head_steps_of_isAbsolute habs
    rw [hsteps] at hjoin
    rw [parts_of_isAbsolute habs, hsteps]
    refine congrArg Path.mk (Eq.trans ?_ hjoin)
    apply String.toList_injective
    simp [String.toList_intercalate, List.intercalate, String.toList_append]
  | false =>
    by_cases hhere : p.steps.head? = some "."
    · obtain ⟨rest, hrest⟩ := List.head?_eq_some_iff.1 hhere
      rw [hrest] at hjoin
      rw [parts_of_here habs hrest]
      exact congrArg Path.mk hjoin
    · rw [parts_of_free habs hhere]
      exact congrArg Path.mk hjoin

/-- The path without the idle steps at its end. -/
def trim (p : Path) : Path :=
  ofParts p.parts.1 (dropIdle p.parts.2)

theorem dropIdle_concat {name : String} (h : isIdle name = false) (steps : List String) :
    dropIdle (steps ++ [name]) = steps ++ [name] :=
  List.rdropWhile_concat_neg isIdle steps name (by simp [h])

theorem dropIdle_concat_idle {step : String} (h : isIdle step = true) (steps : List String) :
    dropIdle (steps ++ [step]) = dropIdle steps :=
  List.rdropWhile_concat_pos isIdle steps step h

/-- What is dropped from the end is idle. -/
theorem eq_dropIdle_append (steps : List String) :
    ∃ idle, steps = dropIdle steps ++ idle ∧ ∀ s ∈ idle, isIdle s = true := by
  refine ⟨(steps.reverse.takeWhile isIdle).reverse, ?_, fun s hs => ?_⟩
  · rw [dropIdle, ← List.reverse_append, List.takeWhile_append_dropWhile, List.reverse_reverse]
  · exact List.all_eq_true.1 List.all_takeWhile s (List.mem_reverse.1 hs)

theorem mem_of_mem_dropIdle {s : String} {steps : List String} (h : s ∈ dropIdle steps) :
    s ∈ steps :=
  (List.rdropWhile_prefix isIdle steps).subset h

theorem dropIdle_cons {s : String} (h : isIdle s = false) (steps : List String) :
    dropIdle (s :: steps) = s :: dropIdle steps := by
  unfold dropIdle
  rw [List.reverse_cons, List.dropWhile_append]
  split
  · rename_i hnil
    rw [List.dropWhile_cons_of_neg (by simp [h]), List.isEmpty_iff.1 hnil]
    rfl
  · rw [List.reverse_append]
    rfl

theorem dropIdle_dropIdle (steps : List String) : dropIdle (dropIdle steps) = dropIdle steps :=
  List.rdropWhile_idempotent isIdle steps

theorem isAbsolute_ofParts_root (steps : List String) :
    (ofParts .root steps).isAbsolute = true := by
  unfold isAbsolute ofParts
  rw [String.toList_append]
  rfl

theorem text_ne_empty_of_isAbsolute {p : Path} (h : p.isAbsolute = true) : p.text ≠ "" := by
  intro hempty
  rw [isAbsolute, hempty] at h
  exact absurd h (by decide)

theorem trim_of_empty {p : Path} (h : p.text = "") : p.trim = p := by
  obtain ⟨_⟩ := p
  cases h
  rfl

/-- A path whose first step says something does not start at the root. -/
theorem isAbsolute_eq_false_of_head {p : Path} (h : p.steps.head? ≠ some "") :
    p.isAbsolute = false := by
  cases habs : p.isAbsolute with
  | false => rfl
  | true =>
    rw [FileTree.steps_of_isAbsolute habs] at h
    exact absurd rfl h

theorem text_ne_empty_of_parts {p : Path} (h : p.parts ≠ (.free, [""])) : p.text ≠ "" := by
  obtain ⟨text⟩ := p
  intro hempty
  cases hempty
  exact h rfl

theorem parts_ofParts_root {ss : List String} (hne : ss ≠ []) (hslash : ∀ s ∈ ss, '/' ∉ s.toList) :
    (ofParts .root ss).parts = (.root, ss) := by
  rw [parts_of_isAbsolute (isAbsolute_ofParts_root ss),
    show (ofParts .root ss).steps = _ from FileTree.steps_absolute hne,
    Text.flatMap_split_of_not_mem hslash]
  rfl

theorem parts_ofParts_here {ss : List String} (hslash : ∀ s ∈ ss, '/' ∉ s.toList) :
    (ofParts .here ss).parts = (.here, ss) := by
  have hsteps : (ofParts .here ss).steps = "." :: ss :=
    Text.split_intercalate_of_not_mem (List.cons_ne_nil _ _)
      (List.forall_mem_cons.2 ⟨by decide, hslash⟩)
  have habs := isAbsolute_eq_false_of_head (p := ofParts .here ss) (by simp [hsteps])
  exact parts_of_here habs hsteps

theorem parts_ofParts_free {s : String} {ss : List String} (hs : isIdle s = false)
    (hslash : ∀ t ∈ s :: ss, '/' ∉ t.toList) :
    (ofParts .free (s :: ss)).parts = (.free, s :: ss) := by
  have hsteps : (ofParts .free (s :: ss)).steps = s :: ss :=
    Text.split_intercalate_of_not_mem (List.cons_ne_nil _ _) hslash
  obtain ⟨hempty, hdot⟩ : s ≠ "" ∧ s ≠ "." := by simpa [isIdle] using hs
  have habs := isAbsolute_eq_false_of_head (p := ofParts .free (s :: ss)) (by simp [hsteps, hempty])
  rw [parts_of_free habs (by simp [hsteps, hdot]), hsteps]

/-- The path without the idle steps at its end has the other steps, and the same start. At the root
nothing is left but the empty step behind the slash. -/
theorem parts_trim {p : Path} (hp : p.text ≠ "") :
    p.trim.parts = (p.parts.1, dropIdle p.parts.2) ∨
      p.parts.1 = .root ∧ dropIdle p.parts.2 = [] ∧ p.trim.parts = (.root, [""]) := by
  have hslash : ∀ s ∈ p.steps, '/' ∉ s.toList := fun s hs => Text.not_mem_of_mem_split hs
  unfold trim
  cases habs : p.isAbsolute with
  | true =>
    rw [parts_of_isAbsolute habs]
    dsimp only
    by_cases hnil : dropIdle (p.steps.drop 1) = []
    · rw [hnil]
      exact Or.inr ⟨rfl, rfl, rfl⟩
    · exact Or.inl (parts_ofParts_root hnil fun s hs =>
        hslash s (List.mem_of_mem_drop (mem_of_mem_dropIdle hs)))
  | false =>
    left
    by_cases hhere : p.steps.head? = some "."
    · obtain ⟨rest, hrest⟩ := List.head?_eq_some_iff.1 hhere
      rw [parts_of_here habs hrest]
      refine parts_ofParts_here fun s hs => hslash s ?_
      rw [hrest]
      exact List.mem_cons_of_mem _ (mem_of_mem_dropIdle hs)
    · -- the first step is a name, so it is not dropped
      obtain ⟨s, rest, hcons, hs⟩ := FileTree.head_steps_ne_empty habs hp
      have hidle : isIdle s = false := by
        rw [hcons, List.head?_cons] at hhere
        simpa [isIdle, hs] using hhere
      rw [parts_of_free habs hhere]
      dsimp only
      have hfront := fun t (ht : t ∈ dropIdle p.steps) => hslash t (mem_of_mem_dropIdle ht)
      rw [hcons, dropIdle_cons hidle] at hfront ⊢
      exact parts_ofParts_free hidle hfront

theorem text_trim_ne_empty {p : Path} (hp : p.text ≠ "") : p.trim.text ≠ "" := by
  refine text_ne_empty_of_parts fun hparts => ?_
  rcases parts_trim hp with h | ⟨-, -, h⟩
  · -- an empty step would have been dropped
    rw [h, Prod.mk.injEq] at hparts
    have hagain := dropIdle_dropIdle p.parts.2
    rw [hparts.2] at hagain
    exact absurd hagain (by decide)
  · rw [h] at hparts
    exact absurd hparts (by simp)

/-- The idle steps at the end are the end of the text. -/
theorem text_eq_trim (p : Path) : ∃ idle, p.text = p.trim.text ++ idle := by
  obtain ⟨idle, hsplit, -⟩ := eq_dropIdle_append p.parts.2
  have hprefix : p.trim.text.toList <+: (ofParts p.parts.1 p.parts.2).text.toList := by
    unfold trim
    conv_rhs => rw [hsplit]
    unfold ofParts
    cases p.parts.1 with
    | root =>
      dsimp only
      rw [String.toList_append, String.toList_append]
      exact (List.prefix_append_right_inj _).2 (Text.intercalate_prefix _ _ _)
    | here => exact Text.intercalate_prefix _ ("." :: _) _
    | free => exact Text.intercalate_prefix _ _ _
  rw [ofParts_parts] at hprefix
  obtain ⟨rest, hrest⟩ := hprefix
  refine ⟨String.ofList rest, String.toList_injective ?_⟩
  rw [String.toList_append, String.toList_ofList, hrest]

theorem components_congr {p q : Path} (hanchor : p.parts.1 = q.parts.1)
    (hsteps : (p.parts.2.filter fun s => !isIdle s) = q.parts.2.filter fun s => !isIdle s) :
    p.components = q.components := by
  unfold components
  rcases hp : p.parts with ⟨anchor, steps⟩
  rcases hq : q.parts with ⟨anchor', steps'⟩
  rw [hp, hq] at hanchor hsteps
  obtain rfl : anchor = anchor' := hanchor
  dsimp only at hsteps ⊢
  rw [hsteps]

/-- The idle steps say nothing. -/
theorem components_trim (p : Path) : p.trim.components = p.components := by
  by_cases hempty : p.text = ""
  · rw [trim_of_empty hempty]
  have hfilter : (dropIdle p.parts.2).filter (fun s => !isIdle s) =
      p.parts.2.filter fun s => !isIdle s := by
    obtain ⟨idle, hsplit, hidle⟩ := eq_dropIdle_append p.parts.2
    have hnone : idle.filter (fun s => !isIdle s) = [] :=
      List.filter_eq_nil_iff.2 fun s hs => by simp [hidle s hs]
    conv_rhs => rw [hsplit, List.filter_append, hnone, List.append_nil]
  rcases parts_trim hempty with h | ⟨hroot, hnil, h⟩
  · exact components_congr (by rw [h]) (by rw [h, hfilter])
  · refine components_congr (by rw [h, hroot]) ?_
    rw [h, ← hfilter, hnil]
    rfl

/-! ## 2. The search upwards -/

theorem isAbsolute_of_parent? {p q : Path} (hp : p.isAbsolute = true) (h : p.parent? = some q) :
    q.isAbsolute = true := by
  unfold parent? parts at h
  rw [if_pos hp] at h
  dsimp only at h
  split at h
  · rename_i hanchor
    exact absurd hanchor (by simp)
  · exact absurd h (by simp)
  · rw [← Option.some.inj h]
    exact isAbsolute_ofParts_root _

/-- Above an absolute path there are absolute paths. -/
theorem isAbsolute_of_mem_ancestors {p q : Path} (hp : p.isAbsolute = true) (h : q ∈ p.ancestors) :
    q.isAbsolute = true := by
  unfold ancestors at h
  generalize p.steps.length + 1 = count at h
  induction count generalizing p with
  | zero =>
    rw [List.mem_singleton.1 h]
    exact hp
  | succ count ih =>
    rcases List.mem_cons.1 h with rfl | h
    · exact hp
    · cases hparent : p.parent? with
      | none =>
        rw [hparent] at h
        exact absurd h List.not_mem_nil
      | some up =>
        rw [hparent] at h
        exact ih (isAbsolute_of_parent? hp hparent) h

/-- Above a joined name is the path that it was joined to. -/
theorem parent?_joinText {p : Path} {name : String} (hidle : isIdle name = false)
    (hname : '/' ∉ name.toList) : (p.joinText name).parent? = some p.trim := by
  obtain ⟨front, hparts, hfront⟩ := parts_joinText (p := p) hidle hname
  have htrim : p.trim = ofParts p.parts.1 (dropIdle front) := by
    unfold trim
    rcases hfront with h | h
    · rw [h]
    · rw [h, dropIdle_concat_idle (by decide)]
  unfold parent?
  rw [hparts]
  dsimp only
  obtain ⟨s, rest, hcons⟩ := List.exists_cons_of_ne_nil (List.append_ne_nil_of_right_ne_nil front
    (List.cons_ne_nil name []))
  rw [dropIdle_concat hidle, htrim, hcons]
  dsimp only
  rw [← hcons, List.dropLast_concat]

theorem trim_joinText {p : Path} {name : String} (hidle : isIdle name = false)
    (hname : '/' ∉ name.toList) : (p.joinText name).trim = p.joinText name := by
  obtain ⟨front, hparts, -⟩ := parts_joinText (p := p) hidle hname
  have hself := ofParts_parts (p.joinText name)
  rw [hparts] at hself
  unfold trim
  rw [hparts, dropIdle_concat hidle, hself]

/-- The directories on the way down from a path are above its end, and the path itself, without idle
steps at its end, is above those. -/
theorem find?_ancestorsUpTo {p : Path} {holds : Path → Bool} {names : List String}
    (hproper : ∀ name ∈ names, isIdle name = false ∧ '/' ∉ name.toList) (hne : names ≠ [])
    (hbetween : ∀ front rest, names = front ++ rest → front ≠ [] →
      holds (front.foldl joinText p) = false)
    (hroot : holds p.trim = true) {count : Nat} (hcount : names.length ≤ count) :
    (ancestorsUpTo count (names.foldl joinText p)).find? holds = some p.trim := by
  induction names using List.reverseRecOn generalizing count with
  | nil => exact absurd rfl hne
  | append_singleton front name ih =>
    obtain ⟨hidle, hslash⟩ := hproper name (by simp)
    have hend := hbetween (front ++ [name]) [] (by simp) (by simp)
    rw [List.foldl_append, List.foldl_cons, List.foldl_nil] at hend ⊢
    rw [List.length_append, List.length_singleton] at hcount
    obtain ⟨count, rfl⟩ : ∃ n, count = n + 1 := ⟨count - 1, by omega⟩
    rw [ancestorsUpTo, parent?_joinText hidle hslash, List.find?_cons_of_neg (by simp [hend])]
    dsimp only
    rcases List.eq_nil_or_concat front with rfl | ⟨before, last, hlast⟩
    · obtain ⟨more, hmore⟩ : ∃ more, ancestorsUpTo count p.trim = p.trim :: more := by
        cases count with
        | zero => exact ⟨[], rfl⟩
        | succ n => exact ⟨_, rfl⟩
      rw [List.foldl_nil, hmore, List.find?_cons_of_pos hroot]
    · have hfront : ∀ n ∈ front, isIdle n = false ∧ '/' ∉ n.toList :=
        fun n hn => hproper n (List.mem_append_left _ hn)
      have hsame : (front.foldl joinText p).trim = front.foldl joinText p := by
        rw [List.concat_eq_append] at hlast
        obtain ⟨hidle', hslash'⟩ := hfront last (by simp [hlast])
        rw [hlast, List.foldl_append, List.foldl_cons, List.foldl_nil,
          trim_joinText hidle' hslash']
      rw [hsame]
      refine ih hfront (by simp [hlast]) (fun before' rest hsplit => ?_) (by omega)
      exact hbetween before' (rest ++ [name]) (by rw [hsplit, List.append_assoc])

/-- Every name that is joined makes the path a step longer. -/
theorem length_le_stem {p : Path} {names : List String}
    (hproper : ∀ name ∈ names, isIdle name = false ∧ '/' ∉ name.toList) :
    names.length ≤ (names.foldl joinText p).stem.length := by
  have hne : ∀ name ∈ names, name ≠ "" := fun name hname heq => by
    have hidle := (hproper name hname).1
    rw [heq] at hidle
    exact absurd hidle (by decide)
  induction names using List.reverseRecOn with
  | nil => exact Nat.zero_le _
  | append_singleton front name ih =>
    have hname := List.mem_append_right front (List.mem_singleton_self name)
    have hfront := fun n (hn : n ∈ front) => List.mem_append_left [name] hn
    rw [List.foldl_append, List.foldl_cons, List.foldl_nil, List.length_append,
      List.length_singleton]
    rcases List.eq_nil_or_concat front with rfl | ⟨before, last, hlast⟩
    · exact List.length_pos_iff.2 (stem_ne_nil _)
    · have hlastMem : last ∈ front := by simp [hlast]
      have hp : (front.foldl joinText p).text ≠ "" := by
        rw [hlast, List.concat_eq_append, List.foldl_append]
        exact joinText_ne_empty _ (hne last (hfront last hlastMem))
          (hproper last (hfront last hlastMem)).2
      rw [stem_joinText hp (hne name hname) (hproper name hname).2, List.length_append,
        List.length_singleton]
      have := ih (fun n hn => hproper n (hfront n hn)) (fun n hn => hne n (hfront n hn))
      omega

/-- A search from below a directory ends at the directory, if it holds there and nowhere between. -/
theorem find?_ancestors {p : Path} {holds : Path → Bool} {names : List String}
    (hproper : ∀ name ∈ names, isIdle name = false ∧ '/' ∉ name.toList) (hne : names ≠ [])
    (hbetween : ∀ front rest, names = front ++ rest → front ≠ [] →
      holds (front.foldl joinText p) = false)
    (hroot : holds p.trim = true) :
    (names.foldl joinText p).ancestors.find? holds = some p.trim := by
  refine find?_ancestorsUpTo hproper hne hbetween hroot ?_
  have hstem := length_le_stem (p := p) hproper
  rcases steps_eq_stem (names.foldl joinText p) with h | h
  · rw [h]
    omega
  · rw [h, List.length_append]
    omega

end Path

/-! ## 3. Where they lead -/

namespace FileTree

/-- Where a path leads, by its parts. The current directory that a path starts from by name has to
be there. -/
theorem locate_iff_parts {t : FileTree} {p : Path} {loc : Location} :
    t.locate p = .ok loc ↔ admissible p ∧ p.text ≠ "" ∧
      (p.parts.1 = .here → t.at? t.current = some .dir) ∧
      t.follow (if p.parts.1 = .root then [] else t.current) p.parts.2 = .ok loc := by
  rw [locate_eq_ok]
  refine and_congr_right fun _ => and_congr_right fun _ => ?_
  unfold route
  cases habs : p.isAbsolute with
  | true =>
    rw [Path.parts_of_isAbsolute habs]
    simp
  | false =>
    by_cases hhere : p.steps.head? = some "."
    · obtain ⟨rest, hrest⟩ := List.head?_eq_some_iff.1 hhere
      have hturn : turn t.current "." = t.current := rfl
      rw [Path.parts_of_here habs hrest, if_neg (by simp), hrest, follow_cons_eq_ok, hturn]
      simp [Path.isIdle]
    · rw [Path.parts_of_free habs hhere]
      simp

/-- Where a path leads, the path without idle steps at its end leads. -/
theorem locate_trim {t : FileTree} {p : Path} {loc : Location} (h : t.locate p = .ok loc) :
    t.locate p.trim = .ok loc := by
  obtain ⟨hadmissible, hne, hhere, hfollow⟩ := locate_iff_parts.1 h
  refine locate_iff_parts.2 ⟨?_, Path.text_trim_ne_empty hne, ?_⟩
  · obtain ⟨idle, hidle⟩ := p.text_eq_trim
    exact admissible_of_prefix hidle hadmissible
  · obtain ⟨idle, hsplit, hidle⟩ := Path.eq_dropIdle_append p.parts.2
    rw [hsplit] at hfollow
    obtain ⟨mid, hmid, hrest⟩ := (follow_append _ _).1 hfollow
    rw [eq_of_follow_idle hidle hrest]
    rcases Path.parts_trim hne with hparts | ⟨hroot, hnil, hparts⟩
    · rw [hparts]
      exact ⟨hhere, hmid⟩
    · rw [hnil, FileTree.follow, Except.ok.injEq, hroot, if_pos rfl] at hmid
      rw [hparts, ← hmid]
      exact ⟨fun h => absurd h (by simp), rfl⟩

/-- A file in a directory can be asked for without the idle steps too. -/
theorem admissible_trim_joinText {p : Path} {name : String}
    (hname : Path.isAbsolute ⟨name⟩ = false) (h : admissible (p.joinText name)) :
    admissible (p.trim.joinText name) := by
  obtain ⟨idle, hidle⟩ := p.text_eq_trim
  by_cases hnil : idle = ""
  · rw [hnil, String.append_empty] at hidle
    rwa [show p.trim = p from congrArg Path.mk hidle.symm]
  · have hseam : p.trim.seam.utf8ByteSize ≤ 1 ∧ '\x00' ∉ p.trim.seam.toList := by
      unfold Path.seam
      split <;> decide
    have hpos : idle.utf8ByteSize ≠ 0 := fun hzero => hnil (String.utf8ByteSize_eq_zero_iff.1 hzero)
    rw [admissible_iff, show (p.joinText name).text = _ from Path.join_text_of_relative hname,
      hidle] at h
    rw [admissible_iff, show (p.trim.joinText name).text = _ from Path.join_text_of_relative hname]
    simp only [String.toList_append, String.utf8ByteSize_append, List.mem_append, not_or] at h ⊢
    exact ⟨by omega, ⟨h.2.1.1.1, hseam.2⟩, h.2.2⟩

/-- A file in a directory is found without the idle steps at the end of the directory's path. -/
theorem locate_trim_joinText {t : FileTree} {p : Path} {name : String} {loc : Location}
    (hname : Proper name) (h : t.locate (p.joinText name) = .ok loc) :
    t.locate (p.trim.joinText name) = .ok loc := by
  by_cases hempty : p.text = ""
  · rwa [Path.trim_of_empty hempty]
  · obtain ⟨hadmissible, dir, hdir, hat, rfl⟩ := (locate_joinText hempty hname).1 h
    have htrim := locate_trim hdir
    exact (locate_joinText (locate_eq_ok.1 htrim).2.1 hname).2
      ⟨admissible_trim_joinText hname.not_absolute hadmissible, dir, htrim, hat, rfl⟩

theorem read?_trim_joinText {t : FileTree} {p : Path} {name : String} {content : ByteArray}
    (hname : Proper name) (h : t.read? (p.joinText name) = some content) :
    t.read? (p.trim.joinText name) = some content := by
  obtain ⟨loc, hloc, hat⟩ := read?_eq_some.1 h
  exact read?_eq_some.2 ⟨loc, locate_trim_joinText hname hloc, hat⟩

end FileTree

end Stencil
