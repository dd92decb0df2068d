import Stencil.Inflection
import Stencil.Proofs.Unicode.Ascii

/-!
# The rules of inflection, case by case

What the tables and the rules by ending make of one word. The tables do not contradict each other, nor the
rules (`Irregular`): no word is in two of them, and no irregular singular looks like a plural. A word that
is in no table and does not look like a plural gets its plural in one of three ways (`regular_cases`):

* behind a hiss (`s`, `x`, `z`, `ch`, `sh`) `es` is added;
* `y` behind a consonant becomes `ies`;
* else `s` is added.

Of these plurals only the last can fail to look like one, when an `u` or an `i` comes to stand in front of
the `s` (`looksPlural_concat`).
-/

set_option autoImplicit false

namespace Stencil.Inflection

open Unicode

/-! ## 1. Endings -/

theorem ends_iff {ending : String} {w : List Char} :
    ends ending w = true ↔ ∃ stem, w = stem ++ ending.toList := by
  rw [ends, List.isSuffixOf_iff_suffix]
  constructor
  · rintro ⟨stem, rfl⟩
    exact ⟨stem, rfl⟩
  · rintro ⟨stem, rfl⟩
    exact ⟨stem, rfl⟩

theorem before?_append (stem ending : List Char) :
    Text.before? ending (stem ++ ending) = some stem := by
  rw [Text.before?, if_pos (List.isSuffixOf_iff_suffix.2 (List.suffix_append stem ending))]
  simp

theorem before?_eq_none {ending w : List Char} (h : ending.isSuffixOf w = false) :
    Text.before? ending w = none :=
  if_neg (by simp [h])

/-- An added `s` makes a plural by its looks, unless the letter in front of it tells otherwise. -/
theorem looksPlural_concat {w : List Char} (h : w ≠ []) :
    looksPlural (w ++ ['s']) = !(ends "s" w || ends "u" w || ends "i" w) := by
  have hlength : 1 < (w ++ ['s']).length := by
    rw [List.length_append]
    exact Nat.lt_add_of_pos_left (List.length_pos_iff.2 h)
  simp only [looksPlural, hlength, ends, List.isSuffixOf]
  simp [List.isPrefixOf, Bool.and_assoc]

theorem looksPlural_es (w : List Char) : looksPlural (w ++ ['e', 's']) = true := by
  simp [looksPlural, ends, List.isSuffixOf, List.isPrefixOf]

/-- What looks like a plural has an `s` behind something else. -/
theorem exists_of_looksPlural {w : List Char} (h : looksPlural w = true) :
    ∃ stem, stem ≠ [] ∧ w = stem ++ ['s'] := by
  simp only [looksPlural, Bool.and_eq_true, decide_eq_true_eq] at h
  obtain ⟨⟨⟨⟨hlength, hend⟩, -⟩, -⟩, -⟩ := h
  obtain ⟨stem, rfl⟩ := ends_iff.1 hend
  refine ⟨stem, ?_, rfl⟩
  rintro rfl
  exact absurd hlength (by decide)

/-- What ends in `s` looks like a plural, the three exceptions and the letter itself apart. -/
theorem ends_s_cases {w : List Char} (hs : ends "s" w = true) (h : looksPlural w = false) :
    w = ['s'] ∨ ends "ss" w = true ∨ ends "us" w = true ∨ ends "is" w = true := by
  obtain ⟨stem, rfl⟩ := ends_iff.1 hs
  cases stem with
  | nil => exact Or.inl rfl
  | cons c stem =>
    have hlength : decide ((c :: stem ++ "s".toList).length > 1) = true := by simp
    rw [looksPlural, hlength, hs] at h
    refine Or.inr ?_
    simpa only [Bool.true_and, Bool.and_eq_false_iff, Bool.not_eq_false', or_assoc] using h

/-! ## 2. Tables -/

/-- An entry of the table of irregular words. -/
def Irregular (singular plural : List Char) : Prop :=
  ∃ e ∈ irregular, e.1.toList = singular ∧ e.2.toList = plural

theorem irregular_of_plural? {w p : List Char} (h : irregularPlural? w = some p) : Irregular w p := by
  obtain ⟨e, he, hp⟩ := Option.map_eq_some_iff.1 h
  have hw := List.find?_some he
  exact ⟨e, List.mem_of_find?_eq_some he, eq_of_beq hw, hp⟩

theorem irregular_of_singular? {w s : List Char} (h : irregularSingular? w = some s) :
    Irregular s w := by
  obtain ⟨e, he, hs⟩ := Option.map_eq_some_iff.1 h
  have hw := List.find?_some he
  exact ⟨e, List.mem_of_find?_eq_some he, hs, eq_of_beq hw⟩

section Tables

set_option maxRecDepth 4000

/-- Singulars and plurals of the table find each other. -/
theorem irregular_find : ∀ e ∈ irregular, irregularPlural? e.1.toList = some e.2.toList ∧
    irregularSingular? e.2.toList = some e.1.toList := by
  decide +kernel

/-- No word is in two tables, or on both sides of one. -/
theorem irregular_apart : ∀ e ∈ irregular, irregularPlural? e.2.toList = none ∧
    isUncountable e.1.toList = false ∧ isUncountable e.2.toList = false := by
  decide +kernel

theorem irregular_looks : ∀ e ∈ irregular, looksPlural e.1.toList = false := by
  decide

/-- No word of the tables ends like one that takes an `s` and then does not look like a plural, nor any
plural of them like its outcome. -/
theorem irregular_ends : ∀ e ∈ irregular, ¬ (ends "u" e.1.toList = true ∨ ends "i" e.1.toList = true) ∧
    ¬ (ends "u" e.2.toList = true ∨ ends "i" e.2.toList = true) ∧
    ¬ (ends "us" e.2.toList = true ∨ ends "is" e.2.toList = true) := by
  decide +kernel

theorem uncountable_ends : ∀ u ∈ uncountable, ¬ (ends "u" u.toList = true ∨ ends "i" u.toList = true) ∧
    ¬ (ends "us" u.toList = true ∨ ends "is" u.toList = true) := by
  decide

theorem tables_letters : (∀ u ∈ uncountable, ∀ c ∈ u.toList, c.isLower = true) ∧
    ∀ e ∈ irregular, (∀ c ∈ e.1.toList, c.isLower = true) ∧ ∀ c ∈ e.2.toList, c.isLower = true := by
  simp [uncountable, irregular]

/-- Behind the first letter of a word of the tables there is another small one. -/
theorem tables_tail : (∀ u ∈ uncountable, u.toList.tail.any Char.isLower = true) ∧
    ∀ e ∈ irregular, e.2.toList.tail.any Char.isLower = true := by
  simp [uncountable, irregular]

end Tables

theorem exists_of_isUncountable {w : List Char} (h : isUncountable w = true) :
    ∃ u ∈ uncountable, u.toList = w := by
  obtain ⟨u, hu, huw⟩ := List.any_eq_true.1 h
  exact ⟨u, hu, eq_of_beq huw⟩

namespace Irregular

variable {s p : List Char}

theorem plural? (h : Irregular s p) : irregularPlural? s = some p := by
  obtain ⟨e, he, rfl, rfl⟩ := h
  exact (irregular_find e he).1

theorem singular? (h : Irregular s p) : irregularSingular? p = some s := by
  obtain ⟨e, he, rfl, rfl⟩ := h
  exact (irregular_find e he).2

theorem plural?_plural (h : Irregular s p) : irregularPlural? p = none := by
  obtain ⟨e, he, rfl, rfl⟩ := h
  exact (irregular_apart e he).1

theorem countable (h : Irregular s p) : isUncountable s = false ∧ isUncountable p = false := by
  obtain ⟨e, he, rfl, rfl⟩ := h
  exact (irregular_apart e he).2

theorem looksPlural_singular (h : Irregular s p) : looksPlural s = false := by
  obtain ⟨e, he, rfl, rfl⟩ := h
  exact irregular_looks e he

theorem ne (h : Irregular s p) : p ≠ s := by
  intro heq
  have hfound := h.plural?
  rw [← heq, h.plural?_plural] at hfound
  exact absurd hfound (by simp)

end Irregular

/-- No irregular singular looks like a plural. -/
theorem irregularPlural?_of_looksPlural {w : List Char} (h : looksPlural w = true) :
    irregularPlural? w = none := by
  cases hplural : irregularPlural? w with
  | none => rfl
  | some p =>
    rw [(irregular_of_plural? hplural).looksPlural_singular] at h
    exact absurd h Bool.false_ne_true

/-! ## 3. The plural of a word -/

/-- A hiss at the end of a word. -/
def hisses (w : List Char) : Bool :=
  ["s", "x", "z", "ch", "sh"].any (ends · w)

theorem hisses_eq (w : List Char) : hisses w =
    (ends "s" w || ends "x" w || ends "z" w || ends "ch" w || ends "sh" w) := by
  simp [hisses, Bool.or_assoc]

/-- Behind a vowel there is no hiss. -/
theorem ends_vowel_of_hisses {w : List Char} (h : hisses w = true) :
    ends "e" w = false ∧ ends "i" w = false ∧ ends "u" w = false := by
  simp only [hisses_eq, Bool.or_eq_true, or_assoc] at h
  rcases h with h | h | h | h | h
  all_goals
    obtain ⟨stem, rfl⟩ := ends_iff.1 h
    simp [ends, List.isSuffixOf, List.isPrefixOf]

/-- How the plural of a word comes about that is in no table and does not look like a plural. -/
inductive Regular (w : List Char) : List Char → Prop
  | hiss (h : hisses w = true) : Regular w (w ++ ['e', 's'])
  | consonant {stem : List Char} {c : Char} (hw : w = stem ++ [c, 'y']) (hc : isVowel c = false) :
    Regular w (stem ++ [c, 'i', 'e', 's'])
  | plain (h : hisses w = false) : Regular w (w ++ ['s'])

theorem regular_cases (w : List Char) : Regular w (regularPlural w) := by
  cases hhiss : hisses w with
  | true =>
    have hes : regularPlural w = w ++ ['e', 's'] := if_pos hhiss
    rw [hes]
    exact .hiss hhiss
  | false =>
    have hnot : ¬ ["s", "x", "z", "ch", "sh"].any (ends · w) = true := Bool.eq_false_iff.1 hhiss
    rw [regularPlural, if_neg hnot]
    cases hy : ['y'].isSuffixOf w with
    | false =>
      rw [before?_eq_none hy]
      exact .plain hhiss
    | true =>
      obtain ⟨stem, rfl⟩ := List.isSuffixOf_iff_suffix.1 hy
      rw [before?_append]
      dsimp only
      rcases List.eq_nil_or_concat' stem with rfl | ⟨front, c, rfl⟩
      · exact .plain hhiss
      · rw [List.getLast?_concat, Option.any_some]
        cases hc : isVowel c with
        | true =>
          simp only [Bool.not_true, Bool.false_eq_true, if_false]
          exact .plain hhiss
        | false =>
          simp only [Bool.not_false, if_true, List.append_assoc]
          exact .consonant rfl hc

theorem Regular.length_lt {w p : List Char} (h : Regular w p) : w.length < p.length := by
  cases h with
  | hiss => simp
  | consonant hw => simp [hw]
  | plain => simp

/-- The regular plural looks like a plural, unless the word ends in `u` or `i`. -/
theorem Regular.looksPlural_eq {w p : List Char} (h : Regular w p) (hne : w ≠ []) :
    looksPlural p = !(ends "u" w || ends "i" w) := by
  cases h with
  | hiss hhiss =>
    obtain ⟨-, hi, hu⟩ := ends_vowel_of_hisses hhiss
    rw [looksPlural_es, hi, hu]
    rfl
  | @consonant stem c hw =>
    have hes := looksPlural_es (stem ++ [c, 'i'])
    rw [List.append_assoc] at hes
    rw [hw]
    refine hes.trans ?_
    simp [ends, List.isSuffixOf, List.isPrefixOf]
  | plain hhiss =>
    have hs : ends "s" w = false := by
      simp only [hisses_eq, Bool.or_eq_false_iff] at hhiss
      exact hhiss.1.1.1.1
    rw [looksPlural_concat hne, hs, Bool.false_or]

theorem pluralWord_of_uncountable {w : List Char} (h : isUncountable w = true) : pluralWord w = w :=
  if_pos h

theorem pluralWord_of_irregular {s p : List Char} (h : Irregular s p) : pluralWord s = p := by
  rw [pluralWord, if_neg (Bool.eq_false_iff.1 h.countable.1), h.plural?]

theorem pluralWord_of_plural {s p : List Char} (h : Irregular s p) : pluralWord p = p := by
  rw [pluralWord, if_neg (Bool.eq_false_iff.1 h.countable.2), h.plural?_plural]
  exact if_pos (by rw [h.singular?]; rfl)

/-- What looks like a plural is left alone. -/
theorem pluralWord_of_looksPlural {w : List Char} (h : looksPlural w = true) : pluralWord w = w := by
  cases hcount : isUncountable w with
  | true => exact pluralWord_of_uncountable hcount
  | false =>
    rw [pluralWord, if_neg (Bool.eq_false_iff.1 hcount), irregularPlural?_of_looksPlural h]
    exact if_pos (by rw [h, Bool.or_true])

theorem pluralWord_of_regular {w : List Char} (hcount : isUncountable w = false)
    (hplural : irregularPlural? w = none) (hsingular : irregularSingular? w = none)
    (hlooks : looksPlural w = false) : pluralWord w = regularPlural w := by
  rw [pluralWord, if_neg (Bool.eq_false_iff.1 hcount), hplural]
  exact if_neg (by simp [hsingular, hlooks])

/-- A word is in a table, or looks like a plural, or its plural is regular. -/
theorem word_cases (w : List Char) :
    isUncountable w = true ∨ (∃ p, Irregular w p) ∨ (∃ s, Irregular s w) ∨ looksPlural w = true ∨
      (isUncountable w = false ∧ irregularPlural? w = none ∧ irregularSingular? w = none ∧
        looksPlural w = false) := by
  cases hcount : isUncountable w with
  | true => exact Or.inl rfl
  | false =>
    cases hplural : irregularPlural? w with
    | some p => exact Or.inr (Or.inl ⟨p, irregular_of_plural? hplural⟩)
    | none =>
      cases hsingular : irregularSingular? w with
      | some s => exact Or.inr (Or.inr (Or.inl ⟨s, irregular_of_singular? hsingular⟩))
      | none =>
        cases hlooks : looksPlural w with
        | true => simp
        | false => simp

/-! ## 4. The letters of a plural -/

/-- A plural keeps the front of the word, and what it puts behind it is small. -/
theorem pluralWord_front (w : List Char) : ∃ front rest ending,
    w = front ++ rest ∧ pluralWord w = front ++ ending ∧ ∀ c ∈ ending, c.isLower = true := by
  have hsame : pluralWord w = w → ∃ front rest ending,
      w = front ++ rest ∧ pluralWord w = front ++ ending ∧ ∀ c ∈ ending, c.isLower = true := by
    intro h
    exact ⟨w, [], [], (List.append_nil w).symm, h.trans (List.append_nil w).symm, by simp⟩
  rcases word_cases w with hw | ⟨p, hp⟩ | ⟨s, hs⟩ | hw | ⟨hcount, hplural, hsingular, hlooks⟩
  · exact hsame (pluralWord_of_uncountable hw)
  · refine ⟨[], w, p, rfl, pluralWord_of_irregular hp, ?_⟩
    obtain ⟨e, he, -, rfl⟩ := hp
    exact (tables_letters.2 e he).2
  · exact hsame (pluralWord_of_plural hs)
  · exact hsame (pluralWord_of_looksPlural hw)
  · rw [pluralWord_of_regular hcount hplural hsingular hlooks]
    have hregular := regular_cases w
    generalize regularPlural w = p at hregular
    cases hregular with
    | hiss => exact ⟨w, [], ['e', 's'], (List.append_nil w).symm, rfl, by simp⟩
    | @consonant stem c hw =>
      exact ⟨stem ++ [c], ['y'], ['i', 'e', 's'], by simp [hw], by simp, by simp⟩
    | plain => exact ⟨w, [], ['s'], (List.append_nil w).symm, rfl, by simp⟩

/-- The letters of a plural are those of the word, or small. -/
theorem mem_pluralWord {w : List Char} {c : Char} (h : c ∈ pluralWord w) :
    c ∈ w ∨ c.isLower = true := by
  obtain ⟨front, rest, ending, rfl, hp, hending⟩ := pluralWord_front w
  rw [hp] at h
  rcases List.mem_append.1 h with h | h
  · exact Or.inl (List.mem_append_left rest h)
  · exact Or.inr (hending c h)

/-- The first letter of a plural is that of the word, or small. -/
theorem head_pluralWord {w : List Char} {c : Char} (h : c ∈ (pluralWord w).head?) :
    c ∈ w.head? ∨ c.isLower = true := by
  obtain ⟨front, rest, ending, rfl, hp, hending⟩ := pluralWord_front w
  rw [hp] at h
  cases front with
  | nil => exact Or.inr (hending c (List.mem_of_mem_head? h))
  | cons d front => exact Or.inl h

/-- Behind the first letter of a plural there is a small one. -/
theorem tail_pluralWord {w : List Char} (hne : w ≠ []) :
    (pluralWord w).tail.any Char.isLower = true := by
  have hs : ∀ front : List Char, front ≠ [] →
      ((front ++ ['s']).tail.any Char.isLower) = true := by
    intro front hfront
    rw [List.tail_append_of_ne_nil hfront, List.any_append]
    exact Bool.or_true _
  rcases word_cases w with hw | ⟨p, hp⟩ | ⟨s, hs⟩ | hw | ⟨hcount, hplural, hsingular, hlooks⟩
  · rw [pluralWord_of_uncountable hw]
    obtain ⟨u, hu, rfl⟩ := exists_of_isUncountable hw
    exact tables_tail.1 u hu
  · rw [pluralWord_of_irregular hp]
    obtain ⟨e, he, -, rfl⟩ := hp
    exact tables_tail.2 e he
  · rw [pluralWord_of_plural hs]
    obtain ⟨e, he, -, rfl⟩ := hs
    exact tables_tail.2 e he
  · rw [pluralWord_of_looksPlural hw]
    obtain ⟨stem, hstem, rfl⟩ := exists_of_looksPlural hw
    exact hs stem hstem
  · rw [pluralWord_of_regular hcount hplural hsingular hlooks]
    generalize hp : regularPlural w = p
    have hw := hp ▸ regular_cases w
    cases hw with
    | hiss => simpa using hs (w ++ ['e']) (by simp)
    | @consonant stem c hstem => simpa using hs (stem ++ [c, 'i', 'e']) (by simp)
    | plain => exact hs w hne

end Stencil.Inflection
