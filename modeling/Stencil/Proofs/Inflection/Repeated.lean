import Stencil.Proofs.Inflection.Casing

/-!
# The plural of a plural

A plural that is inflected again should stay. One word does so exactly if it does not end in `u` or `i`
(`pluralWord_pluralWord_iff`): the plural of such a word ends in `us` or `is`, which does not look like a
plural, so it gets a second ending (`menu`, `menus`, `menuses`), or is taken for a singular of the tables.

In a text the plural also has to be read as the same word again, casing and all. `plural_plural_iff` says
the same of the last word of a text whose letters come back from its casing (`Takes`), as they do in ASCII.
-/

set_option autoImplicit false

namespace Stencil.Inflection

open Unicode

/-! ## 1. One word -/

theorem plain_of_ends {w p : List Char} (h : Regular w p)
    (hend : ends "u" w = true ∨ ends "i" w = true) : p = w ++ ['s'] := by
  cases h with
  | hiss hhiss =>
    obtain ⟨-, hi, hu⟩ := ends_vowel_of_hisses hhiss
    rw [hi, hu] at hend
    simp at hend
  | consonant hw =>
    subst hw
    simp [ends, List.isSuffixOf, List.isPrefixOf] at hend
  | plain => rfl

/-- What ends in `us` or `is` does not stay: it is in no table as a plural. -/
theorem pluralWord_ne {w : List Char} (h : ends "us" w = true ∨ ends "is" w = true) :
    pluralWord w ≠ w := by
  rcases word_cases w with hw | ⟨p, hp⟩ | ⟨s, hs⟩ | hw | ⟨hcount, hplural, hsingular, hlooks⟩
  · obtain ⟨u, hu, rfl⟩ := exists_of_isUncountable hw
    exact absurd h (uncountable_ends u hu).2
  · rw [pluralWord_of_irregular hp]
    exact hp.ne
  · obtain ⟨e, he, -, rfl⟩ := hs
    exact absurd h (irregular_ends e he).2.2
  · simp only [looksPlural, Bool.and_eq_true, Bool.not_eq_true'] at hw
    rw [hw.1.2, hw.2] at h
    simp at h
  · rw [pluralWord_of_regular hcount hplural hsingular hlooks]
    intro heq
    have hlength := (regular_cases w).length_lt
    rw [heq] at hlength
    exact absurd hlength (Nat.lt_irrefl _)

/-- A plural stays if its singular does not end in `u` or `i`, and only then. -/
theorem pluralWord_pluralWord_iff {w : List Char} (hne : w ≠ []) :
    pluralWord (pluralWord w) = pluralWord w ↔ ¬ (ends "u" w = true ∨ ends "i" w = true) := by
  rcases word_cases w with hw | ⟨p, hp⟩ | ⟨s, hs⟩ | hw | ⟨hcount, hplural, hsingular, hlooks⟩
  · rw [pluralWord_of_uncountable hw, pluralWord_of_uncountable hw]
    obtain ⟨u, hu, rfl⟩ := exists_of_isUncountable hw
    exact iff_of_true rfl (uncountable_ends u hu).1
  · rw [pluralWord_of_irregular hp, pluralWord_of_plural hp]
    obtain ⟨e, he, rfl, -⟩ := hp
    exact iff_of_true rfl (irregular_ends e he).1
  · rw [pluralWord_of_plural hs, pluralWord_of_plural hs]
    obtain ⟨e, he, -, rfl⟩ := hs
    exact iff_of_true rfl (irregular_ends e he).2.1
  · rw [pluralWord_of_looksPlural hw, pluralWord_of_looksPlural hw]
    refine iff_of_true rfl ?_
    obtain ⟨stem, -, rfl⟩ := exists_of_looksPlural hw
    simp [ends, List.isSuffixOf, List.isPrefixOf]
  · rw [pluralWord_of_regular hcount hplural hsingular hlooks]
    have hregular := regular_cases w
    generalize regularPlural w = p at hregular
    by_cases hend : ends "u" w = true ∨ ends "i" w = true
    · refine iff_of_false (pluralWord_ne ?_) (not_not_intro hend)
      rw [plain_of_ends hregular hend]
      simpa [ends, List.isSuffixOf, List.isPrefixOf] using hend
    · refine iff_of_true (pluralWord_of_looksPlural ?_) hend
      rw [hregular.looksPlural_eq hne, Bool.not_eq_true', Bool.or_eq_false_iff,
        ← Bool.not_eq_true, ← Bool.not_eq_true, ← not_or]
      exact hend

/-! ## 2. Letters that no rule sees

The tables and the endings are ASCII, so letters behind 128 can be exchanged for each other. -/

/-- A change of letters that ASCII takes no part in. -/
def KeepsAscii (g : Char → Char) : Prop :=
  ∀ c a, IsAscii a → (g c = a ↔ c = a)

namespace KeepsAscii

variable {g : Char → Char}

theorem map_eq_iff (hg : KeepsAscii g) {a : List Char} (ha : ∀ c ∈ a, IsAscii c) {x : List Char} :
    x.map g = a ↔ x = a := by
  induction a generalizing x with
  | nil => exact List.map_eq_nil_iff
  | cons c a ih =>
    obtain ⟨hc, ha⟩ := List.forall_mem_cons.1 ha
    cases x with
    | nil => simp
    | cons d x =>
      rw [List.map_cons, List.cons.injEq, List.cons.injEq, hg d c hc, ih ha]

theorem map_of_ascii (hg : KeepsAscii g) {x : List Char} (hx : ∀ c ∈ x, IsAscii c) : x.map g = x :=
  (hg.map_eq_iff hx).2 rfl

theorem ends_map (hg : KeepsAscii g) {ending : String} (he : ∀ c ∈ ending.toList, IsAscii c)
    (x : List Char) : ends ending (x.map g) = ends ending x := by
  rw [Bool.eq_iff_iff, ends_iff, ends_iff]
  constructor
  · rintro ⟨stem, hx⟩
    obtain ⟨front, back, rfl, -, hback⟩ := List.map_eq_append_iff.1 hx
    exact ⟨front, by rw [(hg.map_eq_iff he).1 hback]⟩
  · rintro ⟨stem, rfl⟩
    exact ⟨stem.map g, by rw [List.map_append, hg.map_of_ascii he]⟩

theorem looksPlural_map (hg : KeepsAscii g) (x : List Char) :
    looksPlural (x.map g) = looksPlural x := by
  have hends : ∀ e ∈ ["s", "ss", "us", "is"], ends e (x.map g) = ends e x := by
    have hascii : ∀ e ∈ ["s", "ss", "us", "is"], ∀ c ∈ e.toList, IsAscii c := by
      simp [IsAscii]
    intro e he
    exact hg.ends_map (hascii e he) x
  simp only [looksPlural, List.length_map, hends "s" (by simp), hends "ss" (by simp),
    hends "us" (by simp), hends "is" (by simp)]

theorem hisses_map (hg : KeepsAscii g) (x : List Char) : hisses (x.map g) = hisses x := by
  have hascii : ∀ e ∈ ["s", "x", "z", "ch", "sh"], ∀ c ∈ e.toList, IsAscii c := by
    simp [IsAscii]
  rw [Bool.eq_iff_iff, hisses, hisses, List.any_eq_true, List.any_eq_true]
  refine exists_congr fun e => and_congr_right fun he => ?_
  rw [hg.ends_map (hascii e he)]

theorem isVowel_map (hg : KeepsAscii g) (c : Char) : isVowel (g c) = isVowel c := by
  have hascii : ∀ a ∈ ['a', 'e', 'i', 'o', 'u'], IsAscii a := by
    simp [IsAscii]
  simp only [isVowel, hg c _ (hascii 'a' (by simp)), hg c _ (hascii 'e' (by simp)),
    hg c _ (hascii 'i' (by simp)), hg c _ (hascii 'o' (by simp)), hg c _ (hascii 'u' (by simp))]

theorem regularPlural_map (hg : KeepsAscii g) (x : List Char) :
    regularPlural (x.map g) = (regularPlural x).map g := by
  have hending : ∀ y ∈ [['s'], ['e', 's'], ['i', 'e', 's'], ['y']], y.map g = y := by
    have hascii : ∀ y ∈ [['s'], ['e', 's'], ['i', 'e', 's'], ['y']], ∀ c ∈ y, IsAscii c := by
      simp [IsAscii]
    intro y hy
    exact hg.map_of_ascii (hascii y hy)
  have hs := hending ['s'] (by simp)
  have hes := hending ['e', 's'] (by simp)
  have hies := hending ['i', 'e', 's'] (by simp)
  have hy := hending ['y'] (by simp)
  cases hhiss : hisses x with
  | true =>
    have hmap : regularPlural (x.map g) = x.map g ++ ['e', 's'] :=
      if_pos ((hg.hisses_map x).trans hhiss)
    have hplain : regularPlural x = x ++ ['e', 's'] := if_pos hhiss
    rw [hmap, hplain, List.map_append, hes]
  | false =>
    have hmap : ¬ hisses (x.map g) = true := by
      rw [hg.hisses_map, hhiss]
      exact Bool.false_ne_true
    have hplain : ¬ hisses x = true := Bool.eq_false_iff.1 hhiss
    unfold hisses at hmap hplain
    rw [regularPlural, if_neg hmap, regularPlural, if_neg hplain]
    cases hend : ['y'].isSuffixOf x with
    | false =>
      have hendMap : ['y'].isSuffixOf (x.map g) = false := by
        have hascii : ∀ c ∈ "y".toList, IsAscii c := by simp [IsAscii]
        exact (hg.ends_map hascii x).trans hend
      rw [before?_eq_none hend, before?_eq_none hendMap]
      dsimp only
      rw [List.map_append, hs]
    | true =>
      obtain ⟨stem, rfl⟩ := List.isSuffixOf_iff_suffix.1 hend
      rw [List.map_append, hy, before?_append, before?_append]
      dsimp only
      have hlast : (stem.map g).getLast?.any (fun c => !isVowel c) =
          stem.getLast?.any (fun c => !isVowel c) := by
        cases hc : stem.getLast? with
        | none => simp [hc]
        | some c => simp [hc, hg.isVowel_map]
      rw [hlast]
      split
      · rw [List.map_append, hies]
      · rw [List.map_append, List.map_append, hy, hs]

/-- No rule sees such a change. -/
theorem pluralWord_map (hg : KeepsAscii g) (x : List Char) :
    pluralWord (x.map g) = (pluralWord x).map g := by
  have hlower : ∀ {y : List Char}, (∀ c ∈ y, c.isLower = true) → y.map g = y :=
    fun hy => hg.map_of_ascii fun c hc => isAscii_of_isLower (hy c hc)
  rcases word_cases x with hw | ⟨p, hp⟩ | ⟨s, hs⟩ | hw | ⟨hcount, hplural, hsingular, hlooks⟩
  · obtain ⟨u, hu, rfl⟩ := exists_of_isUncountable hw
    rw [hlower (tables_letters.1 u hu), pluralWord_of_uncountable hw, hlower (tables_letters.1 u hu)]
  · rw [pluralWord_of_irregular hp]
    obtain ⟨e, he, rfl, rfl⟩ := hp
    rw [hlower (tables_letters.2 e he).1, hlower (tables_letters.2 e he).2]
    exact pluralWord_of_irregular ⟨e, he, rfl, rfl⟩
  · rw [pluralWord_of_plural hs]
    obtain ⟨e, he, rfl, rfl⟩ := hs
    rw [hlower (tables_letters.2 e he).2]
    exact pluralWord_of_plural ⟨e, he, rfl, rfl⟩
  · rw [pluralWord_of_looksPlural hw, pluralWord_of_looksPlural ((hg.looksPlural_map x).trans hw)]
  · rw [pluralWord_of_regular hcount hplural hsingular hlooks, ← hg.regularPlural_map]
    have hsame : (∀ c ∈ x.map g, c.isLower = true) → x.map g = x := fun hx =>
      ((hg.map_eq_iff fun c hc => isAscii_of_isLower (hx c hc)).1 rfl).symm
    refine pluralWord_of_regular ?_ ?_ ?_ ((hg.looksPlural_map x).trans hlooks)
    · cases hfound : isUncountable (x.map g) with
      | false => rfl
      | true =>
        obtain ⟨u, hu, hux⟩ := exists_of_isUncountable hfound
        rw [hsame (hux ▸ tables_letters.1 u hu), hcount] at hfound
        exact absurd hfound Bool.false_ne_true
    · cases hfound : irregularPlural? (x.map g) with
      | none => rfl
      | some p =>
        obtain ⟨e, he, hex, -⟩ := irregular_of_plural? hfound
        rw [hsame (hex ▸ (tables_letters.2 e he).1), hplural] at hfound
        exact absurd hfound (by simp)
    · cases hfound : irregularSingular? (x.map g) with
      | none => rfl
      | some s =>
        obtain ⟨e, he, -, hex⟩ := irregular_of_singular? hfound
        rw [hsame (hex ▸ (tables_letters.2 e he).2), hsingular] at hfound
        exact absurd hfound (by simp)

end KeepsAscii

theorem keepsAscii_unite : KeepsAscii unite := by
  intro c a ha
  have hsmall : a ≠ 'σ' ∧ a ≠ 'ς' := by
    constructor
    · rintro rfl
      exact absurd ha (show ¬ ('σ'.toNat < 128) by decide)
    · rintro rfl
      exact absurd ha (show ¬ ('ς'.toNat < 128) by decide)
  by_cases hc : c = 'ς'
  · subst hc
    exact iff_of_false hsmall.1.symm hsmall.2.symm
  · rw [unite, if_neg hc]

/-! ## 3. The plural in its casing -/

variable {word x : List Char}

theorem Takes.pluralWord (h : Takes word x) : Takes word (pluralWord x) where
  small c hc := (mem_pluralWord hc).elim (h.small c) small_of_isLower
  capitals hall c hc := (mem_pluralWord hc).elim (h.capitals hall c) comesBack_of_isLower
  first hfirst c hc := by
    rcases head_pluralWord hc with hc | hc
    · exact h.first hfirst c hc
    · refine ⟨comesBack_of_isLower hc, ?_⟩
      rintro rfl
      exact absurd hc (by decide)
  firstSmall hfirst c hc :=
    (head_pluralWord hc).elim (h.firstSmall hfirst c) isUppercase_of_isLower

/-- In the casing of a word, a plural of a plural is the plural under the same condition. -/
theorem recase_pluralWord_iff (h : Takes word x) (hne : x ≠ []) :
    recase word (pluralWord (pluralWord x)) = recase word (pluralWord x) ↔
      ¬ (ends "u" x = true ∨ ends "i" x = true) := by
  have hends : ∀ e ∈ ["u", "i"], ends e (x.map unite) = ends e x := by
    have hascii : ∀ e ∈ ["u", "i"], ∀ c ∈ e.toList, IsAscii c := by simp [IsAscii]
    intro e he
    exact keepsAscii_unite.ends_map (hascii e he) x
  constructor
  · intro heq
    -- what comes back from the casing is the same up to the two sigmas, which no rule tells apart
    have hback := congrArg (fun cs => (lowerAfter [] cs).map unite) heq
    rw [h.pluralWord.pluralWord.unite_lowerAfter_recase, h.pluralWord.unite_lowerAfter_recase,
      ← keepsAscii_unite.pluralWord_map, ← keepsAscii_unite.pluralWord_map] at hback
    have hneMap : x.map unite ≠ [] := fun hnil => hne (List.map_eq_nil_iff.1 hnil)
    rw [pluralWord_pluralWord_iff hneMap, hends "u" (by simp), hends "i" (by simp)] at hback
    exact hback
  · intro hend
    rw [(pluralWord_pluralWord_iff hne).2 hend]

/-- A plural read from its casing has the plural it would have had. -/
theorem recase_pluralWord_of_recase (h : Takes word x) :
    recase word (pluralWord (lowerAfter [] (recase word x))) = recase word (pluralWord x) := by
  cases hall : allCapitals word with
  | true =>
    rw [recase_of_allCapitals hall (pluralWord _), recase_of_allCapitals hall (pluralWord x)]
    apply upper_of_unite
    rw [← keepsAscii_unite.pluralWord_map, h.unite_lowerAfter_recase, keepsAscii_unite.pluralWord_map]
  | false => rw [h.lowerAfter_recase hall]

theorem lower_ne_nil (c : Char) : lower c ≠ [] := by
  have hexpansions : ∀ n images, lowerExpansions.lookup n = some images → images ≠ [] := by
    intro n images h
    simp only [lowerExpansions, List.lookup] at h
    split at h
    · obtain rfl := Option.some.inj h
      simp
    · simp at h
  unfold lower mapped
  split
  · simp
  · split
    · intro hnil
      exact hexpansions _ _ ‹_› (List.map_eq_nil_iff.1 hnil)
    · split <;> simp

theorem lowerAfter_ne_nil {cs : List Char} (h : cs ≠ []) (before : List Char) :
    lowerAfter before cs ≠ [] := by
  cases cs with
  | nil => exact absurd rfl h
  | cons c cs =>
    rw [lowerAfter]
    intro hnil
    have hhead := (List.append_eq_nil_iff.1 hnil).1
    split at hhead
    · simp at hhead
    · exact lower_ne_nil c hhead

/-! ## 4. The plural of a text -/

/-- The plural of the plural of a text keeps what is in front of the last word, and the casing of it. -/
theorem plural_plural {cs front word : List Char} (hlast : lastWord cs = (front, word)) (hne : word ≠ [])
    (h : Takes word (lowerAfter [] word)) :
    plural (plural cs) = front ++ recase word (pluralWord (pluralWord (lowerAfter [] word))) := by
  have htail := tail_pluralWord (lowerAfter_ne_nil hne [])
  have hp := h.pluralWord
  have honce : plural cs = front ++ recase word (pluralWord (lowerAfter [] word)) :=
    inflect_of_lastWord pluralWord hlast hne
  generalize pluralWord (lowerAfter [] word) = p at honce hp htail ⊢
  have hfront : (lastWord cs).1 = front := congrArg Prod.fst hlast
  have hagain : lastWord (plural cs) = (front, recase word p) := by
    rw [honce, ← hfront]
    exact lastWord_append cs hp.letters
  have hpne : p ≠ [] := by
    rintro rfl
    exact absurd htail (by decide)
  have hcased : recase word p ≠ [] := by
    intro hnil
    have hback := hp.unite_lowerAfter_recase
    rw [hnil] at hback
    exact hpne (List.map_eq_nil_iff.1 hback.symm)
  rw [plural, inflect_of_lastWord pluralWord hagain hcased]
  cases p with
  | nil => exact absurd rfl hpne
  | cons l y =>
    obtain ⟨k, hk, hlower⟩ := List.any_eq_true.1 htail
    rw [hp.recase_recase ⟨k, hk, isUppercase_of_isLower hlower⟩, recase_pluralWord_of_recase hp]

/-- A text of which the last word comes back from its casing stays in the plural exactly if that word, in
lower case, does not end in `u` or `i`. -/
theorem plural_plural_iff {cs : List Char} (h : Takes (lastWord cs).2 (lowerAfter [] (lastWord cs).2)) :
    plural (plural cs) = plural cs ↔
      ¬ (ends "u" (lowerAfter [] (lastWord cs).2) = true ∨
        ends "i" (lowerAfter [] (lastWord cs).2) = true) := by
  by_cases hne : (lastWord cs).2 = []
  · have hsame : plural cs = cs := inflect_of_no_word pluralWord hne
    rw [hsame, hne]
    exact iff_of_true hsame (by decide)
  · rw [plural_plural rfl hne h, plural, inflect_of_lastWord pluralWord rfl hne, List.append_cancel_left_eq]
    exact recase_pluralWord_iff h (lowerAfter_ne_nil hne [])

/-- A last word in ASCII comes back from its casing. -/
theorem takes_of_isAscii {cs : List Char} (h : ∀ c ∈ (lastWord cs).2, IsAscii c) :
    Takes (lastWord cs).2 (lowerAfter [] (lastWord cs).2) := by
  have hletters : ∀ c ∈ (lastWord cs).2, isAlphabetic c = true := by
    intro c hc
    exact List.mem_takeWhile_imp (List.mem_reverse.1 hc)
  generalize (lastWord cs).2 = word at h hletters ⊢
  have hlower : ∀ l ∈ word.map Char.toLower, l.isLower = true := by
    intro l hl
    obtain ⟨c, hc, rfl⟩ := List.mem_map.1 hl
    have halpha := hletters c hc
    rw [(h c hc).isAlphabetic_eq] at halpha
    rw [Char.isLower_toLower_eq_isAlpha, halpha]
  rw [lowerAfter_of_isAscii h]
  refine ⟨fun l hl => small_of_isLower (hlower l hl), fun _ l hl => comesBack_of_isLower (hlower l hl),
    fun _ l hl => ⟨comesBack_of_isLower (hlower l (List.mem_of_mem_head? hl)), ?_⟩,
    fun _ l hl => isUppercase_of_isLower (hlower l (List.mem_of_mem_head? hl))⟩
  rintro rfl
  exact absurd (hlower _ (List.mem_of_mem_head? hl)) (by decide)

set_option maxRecDepth 4000 in
/-- Posts stay, and the plural of an acronym in `I` does not. -/
theorem plural_plural_post_api :
    plural (plural "Blog Post".toList) = plural "Blog Post".toList ∧
      plural (plural "API".toList) ≠ plural "API".toList := by
  have htakes : ∀ cs ∈ ["Blog Post".toList, "API".toList],
      Takes (lastWord cs).2 (lowerAfter [] (lastWord cs).2) := by
    intro cs hcs
    refine takes_of_isAscii fun c hc => ?_
    have hmem : c ∈ cs := List.mem_reverse.1 ((List.takeWhile_sublist _).mem (List.mem_reverse.1 hc))
    have hascii : ∀ cs ∈ ["Blog Post".toList, "API".toList], ∀ c ∈ cs, IsAscii c := by simp [IsAscii]
    exact hascii cs hcs c hmem
  constructor
  · refine (plural_plural_iff (htakes _ (by simp))).2 ?_
    decide
  · intro hsame
    refine (plural_plural_iff (htakes "API".toList (by simp))).1 hsame ?_
    decide

set_option maxRecDepth 4000 in
/-- Two ways not to stay: an ending that does not look like a plural, and a casing that does not come
back. -/
theorem plural_plural_menu_sharp :
    plural (plural "menu".toList) ≠ plural "menu".toList ∧
      plural (plural "ẞ".toList) ≠ plural "ẞ".toList := by
  constructor
  · decide
  · decide +kernel

end Stencil.Inflection
