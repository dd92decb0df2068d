import Stencil.Proofs.Files.Below
import Stencil.Proofs.Files.Write

/-!
# Paths that stay inside

A path that is joined to the path of a directory can lead out of it in two ways: it is absolute and
takes the place of the whole, or it turns back more often than it has gone down.

    new/../a        stays inside
    new/../../a     does not, nor does /a

Any other path leads to the directory or to a place below it (`foldl_turn_below`), and a file is
never put at the directory itself: the steps behind it ask for a directory first. So a write whose
path stays inside touches a file strictly below the directory and no other (`extends_write_inside`).
-/

set_option autoImplicit false

namespace Stencil

namespace Path

/-! ## 1. Steps that go down before they turn back -/

/-- Steps taken `depth` places below a directory never lead out of it. -/
def staysWithin : (depth : Nat) → List String → Bool
  | _, [] => true
  | depth, step :: rest =>
    if isIdle step then staysWithin depth rest
    else if step = ".." then 0 < depth && staysWithin (depth - 1) rest
    else staysWithin (depth + 1) rest

/-- A path that does not lead out of the directory to which it is joined. -/
def staysInside (p : Path) : Bool :=
  !p.isAbsolute && staysWithin 0 p.steps

theorem staysInside_iff {p : Path} :
    p.staysInside ↔ p.isAbsolute = false ∧ staysWithin 0 p.steps := by
  simp [staysInside]

/-- Only a step that turns back can lead out, so another one at the end makes no difference. -/
theorem staysWithin_concat {step : String} (hup : step ≠ "..") (depth : Nat) (ss : List String) :
    staysWithin depth (ss ++ [step]) = staysWithin depth ss := by
  induction ss generalizing depth with
  | nil => simp [staysWithin, hup]
  | cons s ss ih => simp only [List.cons_append, staysWithin, ih]

/-- A name that is joined to a path that stays inside does not make it lead out. -/
theorem staysInside_joinText {p : Path} {name : String} (hp : p.staysInside)
    (hname : '/' ∉ name.toList) (hup : name ≠ "..") : (p.joinText name).staysInside := by
  obtain ⟨habs, hsteps⟩ := staysInside_iff.1 hp
  have hjoined := isAbsolute_joinText p (isAbsolute_eq_false hname)
  refine staysInside_iff.2 ⟨hjoined.trans habs, ?_⟩
  by_cases hempty : p.text = ""
  · have htext : (p.joinText name).text = name := by
      rw [show (p.joinText name).text = _ from join_text_of_relative (isAbsolute_eq_false hname),
        seam_eq_empty (Or.inl hempty), hempty, String.append_empty, String.empty_append]
    rw [steps, htext, Text.split_of_not_mem hname]
    exact staysWithin_concat hup 0 []
  · rw [steps_joinText hempty hname, staysWithin_concat hup]
    rcases p.steps_eq_stem with h | h
    · exact h ▸ hsteps
    · rwa [h, staysWithin_concat (by decide)] at hsteps

end Path

namespace FileTree

/-! ## 2. Where they lead -/

/-- A place strictly below a directory. -/
def StrictlyBelow (dir loc : Location) : Prop :=
  ∃ names, names ≠ [] ∧ loc = dir ++ names

theorem foldl_turn_below (base : Location) {ss : List String} (names : List String)
    (h : Path.staysWithin names.length ss) :
    ∃ names', ss.foldl turn (base ++ names) = base ++ names' := by
  induction ss generalizing names with
  | nil => exact ⟨names, rfl⟩
  | cons s ss ih =>
    rw [Path.staysWithin] at h
    rw [List.foldl_cons, turn]
    by_cases hidle : Path.isIdle s
    · rw [if_pos hidle] at h ⊢
      exact ih names h
    · rw [if_neg hidle] at h ⊢
      by_cases hup : s = ".."
      · rw [if_pos hup, Bool.and_eq_true, decide_eq_true_eq] at h
        obtain ⟨front, last, rfl⟩ :=
          (List.eq_nil_or_concat names).resolve_left (List.ne_nil_of_length_pos h.1)
        rw [if_pos hup, List.concat_eq_append, ← List.append_assoc, List.dropLast_concat]
        exact ih front (by simpa using h.2)
      · rw [if_neg hup] at h ⊢
        rw [List.append_assoc]
        exact ih (names ++ [s]) (by simpa using h)

/-- A file that can be put at a path that stays inside a directory lies strictly below it. -/
theorem Writable.strictlyBelow {t : FileTree} {p q : Path} {loc : Location}
    (h : t.Writable (p.join q) loc) (hq : q.staysInside) : StrictlyBelow (t.aim p) loc := by
  obtain ⟨habs, hsteps⟩ := Path.staysInside_iff.1 hq
  have hdir := dir_of_locate_join habs h.locate
  have haim : loc = q.steps.foldl turn (t.aim p) :=
    (eq_aim_of_locate h.locate).trans (t.aim_join p habs)
  obtain ⟨names, hnames⟩ := foldl_turn_below (t.aim p) [] hsteps
  rw [List.append_nil] at hnames
  refine ⟨names, ?_, haim.trans hnames⟩
  rintro rfl
  rw [List.append_nil] at hnames
  rw [← hnames, ← haim] at hdir
  exact h.no_dir hdir

end FileTree

namespace World

open FileTree (Extends StrictlyBelow)

/-- However a write ends, when its path stays inside a directory it has touched no file but one
strictly below the directory. -/
theorem extends_write_inside (p : Path) {q : Path} (hq : q.staysInside) (content : ByteArray)
    (w : World) :
    Extends (StrictlyBelow (w.files.aim p)) w.files (write (p.join q) content w).2.files := by
  obtain ⟨t, hdirs, hwrite⟩ := write_cases (p.join q) content w
  refine (hdirs.mono fun _ => False.elim).trans (hwrite.mono fun loc hloc => ?_)
  rw [← hdirs.aim_eq]
  exact hloc.strictlyBelow hq

end World

end Stencil
