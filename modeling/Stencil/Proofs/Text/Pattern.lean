import Mathlib.Data.List.DropRight
import Stencil.Text
import Stencil.Text.Pattern

/-!
# Which way a pattern matches

A pattern may match the front of a text in several ways, and the first one that leads to the end counts.
The laws here find it without a look at the others: a greedy repetition takes all it can if the rest of the
pattern matches what is left (`first?_greedy`, `first?_seq`), and a lazy one takes the shortest front
behind which the rest of the pattern matches (`first?_lazy`).
-/

set_option autoImplicit false

namespace Stencil.Text.Pattern

/-- One match and then another. -/
def Match.andThen (m n : Match) : Match :=
  ⟨m.parts ++ n.parts, m.taken ++ n.taken, n.rest⟩

/-- The preferred way to match a front of a text among those that leave a rest of some kind. -/
def first? (wanted : List Char → Bool) (p : Pattern) (cs : List Char) : Option Match :=
  (p.matches cs).find? fun m => wanted m.rest

/-- Any rest will do. -/
def anyRest : List Char → Bool := fun _ => true

variable {wanted : List Char → Bool} {p q : Pattern} {cs : List Char} {m n : Match}

theorem first?_eq (wanted : List Char → Bool) (p : Pattern) (cs : List Char) :
    p.first? wanted cs = (p.matches cs).find? fun m => wanted m.rest := rfl

theorem whole?_eq (p : Pattern) (cs : List Char) :
    p.whole? cs = (p.first? List.isEmpty cs).map Match.parts := rfl

/-! ## 1. Ways to match -/

section

variable (within : Char → Bool) (c : Char) (cs : List Char) (p q : Pattern)

theorem runs_cons : runs within (c :: cs) =
    ([], c :: cs) :: if within c then (runs within cs).map fun way => (c :: way.1, way.2) else [] := rfl

theorem matches_one_cons : (Pattern.one within).matches (c :: cs) =
    if within c then [⟨[], [c], cs⟩] else [] := rfl

theorem matches_greedy : (Pattern.many true within).matches cs =
    ((runs within cs).map fun way => ⟨[], way.1, way.2⟩).reverse := rfl

theorem matches_lazy : (Pattern.many false within).matches cs =
    (runs within cs).map fun way => ⟨[], way.1, way.2⟩ := rfl

theorem matches_seq : (Pattern.seq p q).matches cs =
    (p.matches cs).flatMap fun m => (q.matches m.rest).map m.andThen := rfl

theorem matches_optional : (Pattern.optional p).matches cs = p.matches cs ++ [⟨[], [], cs⟩] := rfl

theorem matches_part (name : String) : (Pattern.part name p).matches cs =
    (p.matches cs).map fun m => ⟨(name, m.taken) :: m.parts, m.taken, m.rest⟩ := rfl

end

theorem mem_runs {within : Char → Bool} {taken rest : List Char} (h : (taken, rest) ∈ runs within cs) :
    cs = taken ++ rest ∧ ∀ c ∈ taken, within c = true := by
  induction cs generalizing taken with
  | nil =>
    obtain ⟨rfl, rfl⟩ := Prod.mk.inj (List.mem_singleton.1 h)
    exact ⟨rfl, by simp⟩
  | cons c cs ih =>
    rw [runs_cons] at h
    rcases List.mem_cons.1 h with h | h
    · obtain ⟨rfl, rfl⟩ := Prod.mk.inj h
      exact ⟨rfl, by simp⟩
    · split at h
      · rename_i hc
        obtain ⟨⟨t, r⟩, hrun, heq⟩ := List.mem_map.1 h
        obtain ⟨rfl, rfl⟩ := Prod.mk.inj heq
        obtain ⟨rfl, ht⟩ := ih hrun
        exact ⟨rfl, List.forall_mem_cons.2 ⟨hc, ht⟩⟩
      · exact absurd h List.not_mem_nil

theorem mem_matches_many {greedy : Bool} {within : Char → Bool}
    (h : m ∈ (Pattern.many greedy within).matches cs) :
    cs = m.taken ++ m.rest ∧ ∀ c ∈ m.taken, within c = true := by
  have hrun : ∃ way ∈ runs within cs, (⟨[], way.1, way.2⟩ : Match) = m := by
    cases greedy with
    | true => exact List.mem_map.1 (List.mem_reverse.1 h)
    | false => exact List.mem_map.1 h
  obtain ⟨way, hway, rfl⟩ := hrun
  exact mem_runs hway

/-- What a match takes and what it leaves are the text. -/
theorem eq_of_mem_matches (h : m ∈ p.matches cs) : cs = m.taken ++ m.rest := by
  induction p generalizing cs m with
  | one within =>
    cases cs with
    | nil => exact absurd h List.not_mem_nil
    | cons c rest =>
      rw [matches_one_cons] at h
      split at h
      · rw [List.mem_singleton.1 h]
        rfl
      · exact absurd h List.not_mem_nil
  | many greedy within => exact (mem_matches_many h).1
  | seq first second ihfirst ihsecond =>
    rw [matches_seq] at h
    obtain ⟨front, hfront, h⟩ := List.mem_flatMap.1 h
    obtain ⟨behind, hbehind, rfl⟩ := List.mem_map.1 h
    rw [ihfirst hfront, ihsecond hbehind, Match.andThen, List.append_assoc]
  | optional inner ih =>
    rw [matches_optional] at h
    rcases List.mem_append.1 h with h | h
    · exact ih h
    · rw [List.mem_singleton.1 h]
      rfl
  | part name inner ih =>
    rw [matches_part] at h
    obtain ⟨way, hway, rfl⟩ := List.mem_map.1 h
    exact ih (m := way) hway

theorem matches_one_eq_nil {within : Char → Bool} (h : ∀ c ∈ cs.head?, within c = false) :
    (Pattern.one within).matches cs = [] := by
  cases cs with
  | nil => rfl
  | cons c rest => rw [matches_one_cons, if_neg (by simp [h c rfl])]

/-! ## 2. Preferred ways -/

theorem matches_of_first? (h : p.first? anyRest cs = some m) : ∃ ways, p.matches cs = m :: ways := by
  rw [first?_eq] at h
  cases hways : p.matches cs with
  | nil =>
    rw [hways] at h
    exact absurd h (by simp)
  | cons way ways =>
    rw [hways] at h
    obtain rfl : way = m := by simpa [anyRest] using h
    exact ⟨ways, rfl⟩

/-- The preferred way to match is the one if it leaves what is wanted. -/
theorem first?_of_wanted (h : p.first? anyRest cs = some m) (hm : wanted m.rest = true) :
    p.first? wanted cs = some m := by
  obtain ⟨ways, hways⟩ := matches_of_first? h
  rw [first?_eq, hways]
  exact List.find?_cons_of_pos hm

theorem first?_one {within : Char → Bool} {c : Char} (h : within c = true) (rest : List Char) :
    (Pattern.one within).first? anyRest (c :: rest) = some ⟨[], [c], rest⟩ := by
  rw [first?_eq, matches_one_cons, if_pos h]
  rfl

theorem first?_seq_eq (wanted : List Char → Bool) (p q : Pattern) (cs : List Char) :
    (Pattern.seq p q).first? wanted cs =
      (p.matches cs).findSome? fun m => (q.first? wanted m.rest).map m.andThen := by
  rw [first?_eq, matches_seq, List.find?_flatMap]
  congr 1
  funext m
  rw [List.find?_map]
  rfl

/-- The preferred way to match the first of two patterns counts if the second matches behind it. -/
theorem first?_seq (hp : p.first? anyRest cs = some m) (hq : q.first? wanted m.rest = some n) :
    (Pattern.seq p q).first? wanted cs = some (m.andThen n) := by
  obtain ⟨ways, hways⟩ := matches_of_first? hp
  rw [first?_seq_eq, hways, List.findSome?_cons, hq]
  rfl

theorem first?_seq_eq_none : (Pattern.seq p q).first? wanted cs = none ↔
    ∀ m ∈ p.matches cs, q.first? wanted m.rest = none := by
  rw [first?_seq_eq, List.findSome?_eq_none_iff]
  simp only [Option.map_eq_none_iff]

/-- A pattern that matches at all is not left out. -/
theorem first?_optional (hp : p.first? anyRest cs = some m) :
    (Pattern.optional p).first? anyRest cs = some m := by
  rw [first?_eq] at hp ⊢
  rw [matches_optional, List.find?_append, hp]
  rfl

theorem first?_optional_of_none (hp : p.first? anyRest cs = none) :
    (Pattern.optional p).first? anyRest cs = some ⟨[], [], cs⟩ := by
  rw [first?_eq] at hp ⊢
  rw [matches_optional, List.find?_append, hp]
  rfl

/-! ## 3. Repetitions -/

/-- The last way to take characters of a class takes all of them. -/
theorem getLast?_runs (within : Char → Bool) (cs : List Char) :
    (runs within cs).getLast? = some (cs.takeWhile within, cs.dropWhile within) := by
  induction cs with
  | nil => rfl
  | cons c cs ih =>
    rw [runs_cons]
    cases hc : within c with
    | false => simp [hc]
    | true => simp [hc, List.getLast?_cons, List.getLast?_map, ih]

theorem first?_greedy (within : Char → Bool) (cs : List Char) :
    (Pattern.many true within).first? anyRest cs =
      some ⟨[], cs.takeWhile within, cs.dropWhile within⟩ := by
  have hhead : ∀ ways : List Match, ways.find? (fun m => anyRest m.rest) = ways.head? := by
    intro ways
    cases ways with
    | nil => rfl
    | cons way ways => rfl
  rw [first?_eq, hhead, matches_greedy, List.head?_reverse, List.getLast?_map, getLast?_runs]
  rfl

/-- The runs of a class from the shortest on: the first behind which something matches is found, whatever is
made of it. -/
theorem findSome?_runs {within : Char → Bool} {front rest : List Char}
    (hwithin : ∀ c ∈ front, within c = true)
    (hshorter : ∀ before after, front = before ++ after → after ≠ [] →
      q.first? wanted (after ++ rest) = none)
    (hq : q.first? wanted rest = some n) (f : List Char → Match → Match) :
    (runs within (front ++ rest)).findSome? (fun way => (q.first? wanted way.2).map (f way.1)) =
      some (f front n) := by
  induction front generalizing f with
  | nil =>
    have hfirst : ∃ ways, runs within rest = ([], rest) :: ways := by
      cases rest with
      | nil => exact ⟨[], rfl⟩
      | cons c cs => exact ⟨_, rfl⟩
    obtain ⟨ways, hways⟩ := hfirst
    rw [List.nil_append, hways, List.findSome?_cons, hq]
    rfl
  | cons c front ih =>
    obtain ⟨hc, hwithin⟩ := List.forall_mem_cons.1 hwithin
    have hnone : q.first? wanted (c :: (front ++ rest)) = none :=
      hshorter [] (c :: front) rfl (by simp)
    rw [List.cons_append, runs_cons, if_pos hc, List.findSome?_cons, hnone]
    simp only [Option.map_none]
    rw [List.findSome?_map]
    refine ih hwithin (fun before after hfront => ?_) fun taken => f (c :: taken)
    exact hshorter (c :: before) after (by rw [hfront, List.cons_append])

/-- A lazy repetition takes the shortest front behind which the rest of the pattern matches. -/
theorem first?_lazy {within : Char → Bool} {front rest : List Char}
    (hwithin : ∀ c ∈ front, within c = true)
    (hshorter : ∀ before after, front = before ++ after → after ≠ [] →
      q.first? wanted (after ++ rest) = none)
    (hq : q.first? wanted rest = some n) (name : String) :
    (Pattern.seq (.part name (.many false within)) q).first? wanted (front ++ rest) =
      some ⟨(name, front) :: n.parts, front ++ n.taken, n.rest⟩ := by
  have hfound := findSome?_runs hwithin hshorter hq fun taken m =>
    ⟨(name, taken) :: m.parts, taken ++ m.taken, m.rest⟩
  rw [first?_seq_eq, matches_part, matches_lazy, List.findSome?_map, List.findSome?_map]
  exact hfound

end Stencil.Text.Pattern
