import Stencil.Proofs.Inflection.Casing

/-!
# From a word to its plural and back

The two cascades undo each other on the words of the tables that have a plural. By the rules the way back
is the way there only as far as the plural tells how it came about. It does not (`Lost`)

* when it does not look like a plural, because of what stands in front of its `s`;
* when its `es` is cut off whole and only an `s` was added, or the other way round;
* when its `ies` is one of `ie` and not of `y`;
* when it happens to be a word of the tables.

`singularWord_regular_iff` goes through the three ways a plural comes about; `singular_plural_iff` is the
same for a text of one word in small letters.
-/

set_option autoImplicit false

namespace Stencil.Inflection

/-! ## 1. The way back -/

/-- The endings behind which an `es` is cut off whole: here they stand with the `e` of it. -/
def clips (w : List Char) : Bool :=
  ["sse", "she", "che", "xe", "ze"].any (ends · w)

theorem ends_concat_s (ending : String) (w : List Char) :
    (ending.toList ++ ['s']).isSuffixOf (w ++ ['s']) = ends ending w := by
  simp [ends, List.isSuffixOf]

theorem regularSingular_ies {stem : List Char} (h : stem ≠ []) :
    regularSingular (stem ++ ['i', 'e', 's']) = stem ++ ['y'] := by
  rw [regularSingular, before?_append]
  cases stem with
  | nil => exact absurd rfl h
  | cons c stem => rfl

/-- Where the `s` is not that of an `ies`, it is cut off, with the `e` in front of it or without. -/
theorem regularSingular_concat {w : List Char} (h : ends "ie" w = false ∨ w = ['i', 'e']) :
    regularSingular (w ++ ['s']) = if clips w then w.dropLast else w := by
  have hies : ∀ c stem, Text.before? ['i', 'e', 's'] (w ++ ['s']) ≠ some (c :: stem) := by
    intro c stem hsome
    have hends := ends_concat_s "ie" w
    rcases h with hie | rfl
    · rw [hie] at hends
      have hnone : Text.before? ['i', 'e', 's'] (w ++ ['s']) = none := before?_eq_none hends
      rw [hnone] at hsome
      exact absurd hsome (by simp)
    · exact absurd hsome (by simp [Text.before?, List.isSuffixOf, List.isPrefixOf])
  have hclips : ["sses", "shes", "ches", "xes", "zes"].any (ends · (w ++ ['s'])) = clips w := by
    simp [clips, ends, List.isSuffixOf]
  have htwo : (w ++ ['s']).take ((w ++ ['s']).length - 2) = w.dropLast := by
    rw [List.length_append, List.dropLast_eq_take]
    exact List.take_append_of_le_length (by simp)
  have hone : (w ++ ['s']).take ((w ++ ['s']).length - 1) = w := by simp
  rw [regularSingular]
  split
  · exact absurd ‹_› (hies _ _)
  · rw [hclips, htwo, hone]

theorem length_regularSingular_lt {w : List Char} (h : looksPlural w = true) :
    (regularSingular w).length < w.length := by
  obtain ⟨stem, -, rfl⟩ := exists_of_looksPlural h
  by_cases hie : ends "ie" stem = false ∨ stem = ['i', 'e']
  · rw [regularSingular_concat hie]
    split <;> simp
  · rw [not_or, Bool.not_eq_false] at hie
    obtain ⟨front, rfl⟩ := ends_iff.1 hie.1
    have hfront : front ≠ [] := by
      rintro rfl
      exact hie.2 rfl
    have hback := regularSingular_ies hfront
    rw [List.append_assoc]
    change (regularSingular (front ++ ['i', 'e', 's'])).length < (front ++ ['i', 'e', 's']).length
    rw [hback]
    simp

theorem singularWord_of_uncountable {w : List Char} (h : isUncountable w = true) :
    singularWord w = w :=
  if_pos h

theorem singularWord_of_plural {s p : List Char} (h : Irregular s p) : singularWord p = s := by
  rw [singularWord, if_neg (Bool.eq_false_iff.1 h.countable.2), h.singular?]

/-- In no table, a word in the plural by its looks goes by the rules, and any other is left alone. -/
theorem singularWord_of_regular {w : List Char} (hcount : isUncountable w = false)
    (hsingular : irregularSingular? w = none) :
    singularWord w = if looksPlural w then regularSingular w else w := by
  rw [singularWord, if_neg (Bool.eq_false_iff.1 hcount), hsingular]
  dsimp only
  cases hlooks : looksPlural w with
  | false => simp
  | true => simp [irregularPlural?_of_looksPlural hlooks]

/-- A word that is its own singular, and neither uncountable nor irregular, goes by the rules: were it a
plural, its singular would be another word. -/
theorem regular_of_singularWord {w : List Char} (h : singularWord w = w)
    (hcount : isUncountable w = false) (hplural : ¬ ∃ p, Irregular w p) :
    irregularPlural? w = none ∧ irregularSingular? w = none ∧ looksPlural w = false := by
  rcases word_cases w with hw | hw | ⟨s, hs⟩ | hw | ⟨-, hw⟩
  · rw [hcount] at hw
    exact absurd hw Bool.false_ne_true
  · exact absurd hw hplural
  · rw [singularWord_of_plural hs] at h
    exact absurd h.symm hs.ne
  · cases hsingular : irregularSingular? w with
    | some s =>
      have hs := irregular_of_singular? hsingular
      rw [singularWord_of_plural hs] at h
      exact absurd h.symm hs.ne
    | none =>
      rw [singularWord_of_regular hcount hsingular, if_pos hw] at h
      exact absurd (congrArg List.length h) (Nat.ne_of_lt (length_regularSingular_lt hw))
  · exact hw

/-! ## 2. What the plural does not tell -/

/-- The words of which the plural by the rules comes back as another word. -/
inductive Blurred (w : List Char) : Prop
  | ending (h : ["us", "is", "u", "i"].any (ends · w) = true)
  | letter (h : w = ['s'])
  | clipped (h : clips w = true)
  | ie (h : ends "ie" w = true) (hlength : 2 < w.length)

/-- The words of which the plural `p` comes back as another word: it is blurred, or a word of the tables. -/
def Lost (w p : List Char) : Prop :=
  Blurred w ∨ isUncountable p = true ∨ ∃ s, Irregular s p

theorem ends_e_of_clips {w : List Char} (h : clips w = true) : ends "e" w = true := by
  simp only [clips, List.any_cons, List.any_nil, Bool.or_eq_true, Bool.or_false] at h
  rcases h with h | h | h | h | h
  all_goals
    obtain ⟨stem, rfl⟩ := ends_iff.1 h
    simp [ends, List.isSuffixOf]

theorem ends_e_of_ie {w : List Char} (h : ends "ie" w = true) : ends "e" w = true := by
  obtain ⟨stem, rfl⟩ := ends_iff.1 h
  simp [ends, List.isSuffixOf]

/-- The `e` that a hiss takes is cut off again with the `s`, unless the hiss is an `s` alone. -/
theorem clips_e (w : List Char) : clips (w ++ ['e']) =
    (ends "ss" w || ends "sh" w || ends "ch" w || ends "x" w || ends "z" w) := by
  simp [clips, ends, List.isSuffixOf, Bool.or_assoc]

/-- Behind a hiss. -/
theorem regularSingular_hiss {w : List Char} (hhiss : hisses w = true)
    (hlooks : looksPlural w = false) :
    regularSingular (w ++ ['e', 's']) = w ↔ ¬ Blurred w := by
  obtain ⟨he, hi, hu⟩ := ends_vowel_of_hisses hhiss
  have hback : regularSingular (w ++ ['e', 's']) = if clips (w ++ ['e']) then w else w ++ ['e'] := by
    have hie : ends "ie" (w ++ ['e']) = false := by
      rw [← hi]
      simp [ends, List.isSuffixOf]
    have hconcat := regularSingular_concat (Or.inl hie)
    rwa [List.append_assoc, List.dropLast_concat] at hconcat
  rw [hback]
  cases hclips : clips (w ++ ['e']) with
  | true =>
    refine iff_of_true (if_pos rfl) ?_
    rintro (hend | rfl | hclip | ⟨hie, -⟩)
    · simp only [List.any_cons, List.any_nil, hu, hi, Bool.or_false, Bool.or_eq_true] at hend
      rcases hend with hend | hend
      all_goals
        obtain ⟨stem, rfl⟩ := ends_iff.1 hend
        simp [clips, ends, List.isSuffixOf, List.isPrefixOf] at hclips
    · exact absurd hclips (by decide)
    · rw [ends_e_of_clips hclip] at he
      exact absurd he.symm Bool.false_ne_true
    · rw [ends_e_of_ie hie] at he
      exact absurd he.symm Bool.false_ne_true
  | false =>
    refine iff_of_false ?_ (not_not_intro ?_)
    · intro heq
      exact absurd (congrArg List.length heq) (by simp)
    · rw [clips_e] at hclips
      rw [hisses_eq] at hhiss
      simp only [Bool.or_eq_false_iff] at hclips
      obtain ⟨⟨⟨⟨hss, hsh⟩, hch⟩, hx⟩, hz⟩ := hclips
      simp only [hsh, hch, hx, hz, Bool.or_false] at hhiss
      rcases ends_s_cases hhiss hlooks with hs | hs | hs | hs
      · exact .letter hs
      · rw [hss] at hs
        exact absurd hs Bool.false_ne_true
      · exact .ending (by simp [hs])
      · exact .ending (by simp [hs])

/-- Behind a consonant, `ies` comes back as the `y` it is made of. -/
theorem not_blurred_y (stem : List Char) : ¬ Blurred (stem ++ ['y']) := by
  rintro (h | h | h | ⟨h, -⟩)
  · simp [ends, List.isSuffixOf, List.isPrefixOf] at h
  · have hlast := congrArg List.getLast? h
    simp at hlast
  · simp [clips, ends, List.isSuffixOf, List.isPrefixOf] at h
  · simp [ends, List.isSuffixOf, List.isPrefixOf] at h

/-- Where only an `s` was added. -/
theorem regularSingular_plain {w : List Char} (hhiss : hisses w = false)
    (hu : ends "u" w = false) (hi : ends "i" w = false) :
    regularSingular (w ++ ['s']) = w ↔ ¬ Blurred w := by
  by_cases hie : ends "ie" w = true ∧ 2 < w.length
  · refine iff_of_false ?_ (not_not_intro (.ie hie.1 hie.2))
    obtain ⟨front, rfl⟩ := ends_iff.1 hie.1
    have hfront : front ≠ [] := by
      rintro rfl
      exact absurd hie.2 (by decide)
    have hback := regularSingular_ies hfront
    intro heq
    rw [List.append_assoc] at heq
    have hlength := congrArg List.length (hback.symm.trans heq)
    simp at hlength
  · have hcases : ends "ie" w = false ∨ w = ['i', 'e'] := by
      cases hends : ends "ie" w with
      | false => exact Or.inl rfl
      | true =>
        refine Or.inr ?_
        obtain ⟨front, rfl⟩ := ends_iff.1 hends
        have hshort : ¬ 2 < (front ++ "ie".toList).length := fun hlength => hie ⟨hends, hlength⟩
        cases front with
        | nil => rfl
        | cons c front => exact absurd (by simp) hshort
    rw [regularSingular_concat hcases]
    cases hclips : clips w with
    | true =>
      refine iff_of_false ?_ (not_not_intro (.clipped hclips))
      intro heq
      have hne : w ≠ [] := by
        rintro rfl
        exact absurd hclips (by decide)
      have hlength := congrArg List.length heq
      rw [if_pos rfl, List.length_dropLast] at hlength
      exact absurd hlength (Nat.ne_of_lt (Nat.sub_one_lt (List.length_pos_iff.2 hne).ne'))
    | false =>
      refine iff_of_true rfl ?_
      rw [hisses_eq] at hhiss
      simp only [Bool.or_eq_false_iff] at hhiss
      obtain ⟨⟨⟨⟨hs, -⟩, -⟩, -⟩, -⟩ := hhiss
      rintro (hend | rfl | hclip | ⟨hends, hlength⟩)
      · simp only [List.any_cons, List.any_nil, hu, hi, Bool.or_false, Bool.or_eq_true] at hend
        rcases hend with hend | hend
        all_goals
          obtain ⟨stem, rfl⟩ := ends_iff.1 hend
          simp [ends, List.isSuffixOf] at hs
      · exact absurd hs (by decide)
      · rw [hclips] at hclip
        exact absurd hclip Bool.false_ne_true
      · exact hie ⟨hends, hlength⟩

theorem regularSingular_eq_iff {w p : List Char} (h : Regular w p) (hne : w ≠ [])
    (hlooks : looksPlural w = false) (hp : looksPlural p = true) :
    regularSingular p = w ↔ ¬ Blurred w := by
  rw [h.looksPlural_eq hne, Bool.not_eq_true', Bool.or_eq_false_iff] at hp
  obtain ⟨hu, hi⟩ := hp
  cases h with
  | hiss hhiss => exact regularSingular_hiss hhiss hlooks
  | @consonant stem c hw =>
    subst hw
    have hback : regularSingular (stem ++ [c] ++ ['i', 'e', 's']) = stem ++ [c] ++ ['y'] :=
      regularSingular_ies (by simp)
    rw [List.append_assoc, List.append_assoc] at hback
    have hnot := not_blurred_y (stem ++ [c])
    rw [List.append_assoc] at hnot
    exact iff_of_true hback hnot
  | plain hhiss => exact regularSingular_plain hhiss hu hi

/-! ## 3. There and back -/

/-- A word that goes by the rules comes back from its plural, unless it is lost in it. -/
theorem singularWord_regular_iff {w p : List Char} (h : Regular w p) (hne : w ≠ [])
    (hplural : irregularPlural? w = none) (hlooks : looksPlural w = false) :
    singularWord p = w ↔ ¬ Lost w p := by
  have hpw : p ≠ w := by
    rintro rfl
    exact absurd h.length_lt (Nat.lt_irrefl _)
  cases hcount : isUncountable p with
  | true =>
    rw [singularWord_of_uncountable hcount]
    exact iff_of_false hpw (not_not_intro (Or.inr (Or.inl hcount)))
  | false =>
    cases hsingular : irregularSingular? p with
    | some s =>
      have hs := irregular_of_singular? hsingular
      rw [singularWord_of_plural hs]
      refine iff_of_false ?_ (not_not_intro (Or.inr (Or.inr ⟨s, hs⟩)))
      rintro rfl
      rw [hs.plural?] at hplural
      exact absurd hplural (by simp)
    | none =>
      have hlost : Lost w p ↔ Blurred w := by
        refine ⟨?_, Or.inl⟩
        rintro (hblurred | hbad | ⟨s, hs⟩)
        · exact hblurred
        · rw [hcount] at hbad
          exact absurd hbad Bool.false_ne_true
        · rw [hs.singular?] at hsingular
          exact absurd hsingular (by simp)
      rw [hlost, singularWord_of_regular hcount hsingular]
      cases hp : looksPlural p with
      | true =>
        rw [if_pos rfl]
        exact regularSingular_eq_iff h hne hlooks hp
      | false =>
        refine iff_of_false hpw (not_not_intro (.ending ?_))
        rw [h.looksPlural_eq hne, Bool.not_eq_false', Bool.or_eq_true] at hp
        rcases hp with hu | hi
        · simp [hu]
        · simp [hi]

/-- A word in small letters that is its own singular comes back from its plural if it is uncountable or
irregular; else, exactly if it is not lost in it. -/
theorem singular_plural_iff {w : List Char} (hne : w ≠ []) (hlower : ∀ c ∈ w, c.isLower = true)
    (hsingular : singular w = w) :
    (isUncountable w = true ∨ (∃ p, Irregular w p) → singular (plural w) = w) ∧
      (¬ (isUncountable w = true ∨ ∃ p, Irregular w p) →
        (singular (plural w) = w ↔ ¬ Lost w (plural w))) := by
  have hplural : plural w = pluralWord w := inflect_of_small pluralWord hne hlower
  have hback : singular (plural w) = singularWord (pluralWord w) := by
    rw [hplural]
    refine inflect_of_small singularWord ?_ ?_
    · intro hnil
      have htail := tail_pluralWord hne
      rw [hnil] at htail
      exact absurd htail Bool.false_ne_true
    · intro c hc
      exact (mem_pluralWord hc).elim (hlower c) id
  have hword : singularWord w = w := (inflect_of_small singularWord hne hlower).symm.trans hsingular
  rw [hback, hplural]
  constructor
  · rintro (hcount | ⟨p, hp⟩)
    · rw [pluralWord_of_uncountable hcount, singularWord_of_uncountable hcount]
    · rw [pluralWord_of_irregular hp, singularWord_of_plural hp]
  · intro hnot
    obtain ⟨hcount, hirregular⟩ := not_or.1 hnot
    rw [Bool.not_eq_true] at hcount
    obtain ⟨hnone, hnotPlural, hlooks⟩ := regular_of_singularWord hword hcount hirregular
    rw [pluralWord_of_regular hcount hnone hnotPlural hlooks]
    exact singularWord_regular_iff (regular_cases w) hne hnone hlooks

set_option maxRecDepth 4000 in
/-- An entry comes back from its plural, and of two axes an `ax` is left. -/
theorem singular_plural_entry_axe :
    (∀ w ∈ ["entry".toList, "axe".toList], w ≠ [] ∧ (∀ c ∈ w, c.isLower = true) ∧ singular w = w) ∧
      singular (plural "entry".toList) = "entry".toList ∧
      singular (plural "axe".toList) ≠ "axe".toList := by
  have hwords : ∀ w ∈ ["entry".toList, "axe".toList],
      w ≠ [] ∧ (∀ c ∈ w, c.isLower = true) ∧ singular w = w := by
    have hlower : ∀ w ∈ ["entry".toList, "axe".toList], ∀ c ∈ w, c.isLower = true := by simp
    have hsingular : ∀ w ∈ ["entry".toList, "axe".toList], w ≠ [] ∧ singular w = w := by decide
    intro w hw
    exact ⟨(hsingular w hw).1, hlower w hw, (hsingular w hw).2⟩
  have htables : ∀ w ∈ ["entry".toList, "axe".toList],
      ¬ (isUncountable w = true ∨ ∃ p, Irregular w p) := by
    have hnone : ∀ w ∈ ["entry".toList, "axe".toList],
        isUncountable w = false ∧ irregularPlural? w = none := by
      decide
    rintro w hw (hcount | ⟨p, hp⟩)
    · rw [(hnone w hw).1] at hcount
      exact absurd hcount Bool.false_ne_true
    · have hplural := hp.plural?
      rw [(hnone w hw).2] at hplural
      exact absurd hplural (by simp)
  refine ⟨hwords, ?_, ?_⟩
  · obtain ⟨hne, hlower, hsingular⟩ := hwords "entry".toList (by simp)
    refine ((singular_plural_iff hne hlower hsingular).2 (htables _ (by simp))).2 ?_
    have hplain : isUncountable (plural "entry".toList) = false ∧
        irregularSingular? (plural "entry".toList) = none := by
      decide
    rintro (hblurred | hcount | ⟨s, hs⟩)
    · exact not_blurred_y "entr".toList hblurred
    · rw [hplain.1] at hcount
      exact absurd hcount Bool.false_ne_true
    · have hfound := hs.singular?
      rw [hplain.2] at hfound
      exact absurd hfound (by simp)
  · obtain ⟨hne, hlower, hsingular⟩ := hwords "axe".toList (by simp)
    intro hback
    exact ((singular_plural_iff hne hlower hsingular).2 (htables _ (by simp))).1 hback
      (Or.inl (.clipped (by decide)))

end Stencil.Inflection
