import Stencil.Proofs.Inflection.Rules

/-!
# The casing of an inflected word

Inflection works on the last word of a text in lower case and gives the outcome the casing of that word.
When the outcome is inflected again, its casing is what matters: that it is read as the same word
(`lastWord_append`, `Takes.lowerAfter_recase`) and gives the same casing on (`Takes.recase_recase`).

This holds as far as letters come back from the other case (`ComesBack`), which not all do: `ẞ` is `ß` in
lower case, of which the capitals are `SS`. A word in small letters need not come back from anything. The
two small sigmas have one capital, so what comes back from capitals is the same up to these (`unite`).
-/

set_option autoImplicit false

namespace Stencil.Inflection

open Unicode

/-! ## 1. The last word -/

/-- Letters behind what comes in front of the last word are the last word. -/
theorem lastWord_append (cs : List Char) {word : List Char} (h : ∀ c ∈ word, isAlphabetic c = true) :
    lastWord ((lastWord cs).1 ++ word) = ((lastWord cs).1, word) := by
  have hrev : ∀ c ∈ word.reverse, isAlphabetic c = true := by
    intro c hc
    exact h c (List.mem_reverse.1 hc)
  have hfront : (cs.reverse.dropWhile isAlphabetic).takeWhile isAlphabetic = [] := by
    rw [List.takeWhile_eq_nil_iff]
    intro hpos
    exact List.dropWhile_get_zero_not isAlphabetic cs.reverse hpos
  simp only [lastWord, List.reverse_append, List.reverse_reverse]
  rw [List.dropWhile_append_of_pos hrev, List.takeWhile_append_of_pos hrev, hfront,
    List.dropWhile_idempotent, List.append_nil, List.reverse_reverse]

theorem lastWord_of_letters {word : List Char} (h : ∀ c ∈ word, isAlphabetic c = true) :
    lastWord word = ([], word) :=
  lastWord_append [] h

theorem inflect_of_lastWord (rule : List Char → List Char) {cs front word : List Char}
    (h : lastWord cs = (front, word)) (hne : word ≠ []) :
    inflect rule cs = front ++ recase word (rule (lowerAfter [] word)) := by
  unfold inflect
  rw [h]
  cases word with
  | nil => exact absurd rfl hne
  | cons c word => rfl

theorem inflect_of_no_word (rule : List Char → List Char) {cs : List Char}
    (h : (lastWord cs).2 = []) : inflect rule cs = cs := by
  unfold inflect
  cases hlast : lastWord cs with
  | mk front word =>
    rw [hlast] at h
    cases h
    rfl

/-! ## 2. The three casings -/

/-- All letters are capitals, and they take more than one byte. -/
def allCapitals (word : List Char) : Bool :=
  (word.map Char.utf8Size).foldl (· + ·) 0 > 1 && word.all isUppercase

/-- The first letter is a capital. -/
def capitalFirst (word : List Char) : Bool :=
  word.head?.any isUppercase

theorem allCapitals_of_small {word : List Char} (h : capitalFirst word = false) :
    allCapitals word = false := by
  cases word with
  | nil => rfl
  | cons c word =>
    have hc : isUppercase c = false := h
    rw [allCapitals, List.all_cons, hc, Bool.false_and, Bool.and_false]

theorem recase_of_allCapitals {word : List Char} (h : allCapitals word = true)
    (inflected : List Char) : recase word inflected = inflected.flatMap upper :=
  if_pos h

theorem recase_of_capitalFirst {word : List Char} (h : allCapitals word = false)
    (hfirst : capitalFirst word = true) (c : Char) (rest : List Char) :
    recase word (c :: rest) = upper c ++ rest :=
  (if_neg (Bool.eq_false_iff.1 h)).trans (if_pos hfirst)

theorem recase_of_small {word : List Char} (h : capitalFirst word = false) (inflected : List Char) :
    recase word inflected = inflected :=
  (if_neg (Bool.eq_false_iff.1 (allCapitals_of_small h))).trans (if_neg (Bool.eq_false_iff.1 h))

theorem recase_nil (word : List Char) : recase word [] = [] := by
  cases hall : allCapitals word with
  | true => exact recase_of_allCapitals hall []
  | false =>
    cases hfirst : capitalFirst word with
    | true => exact (if_neg (Bool.eq_false_iff.1 hall)).trans (if_pos hfirst)
    | false => exact recase_of_small hfirst []

/-- Two letters take more than one byte. -/
theorem allCapitals_of_all {word : List Char} (hlength : 1 < word.length)
    (h : ∀ c ∈ word, isUppercase c = true) : allCapitals word = true := by
  have hsize : word.length ≤ (word.map Char.utf8Size).sum := by
    have hone : ∀ n ∈ word.map Char.utf8Size, 1 ≤ n := by
      intro n hn
      obtain ⟨c, -, rfl⟩ := List.mem_map.1 hn
      exact Char.utf8Size_pos c
    simpa using List.length_le_sum_of_one_le _ hone
  rw [List.sum_eq_foldl] at hsize
  rw [allCapitals, Bool.and_eq_true, decide_eq_true_eq]
  exact ⟨Nat.lt_of_lt_of_le hlength hsize, List.all_eq_true.2 h⟩

/-! ## 3. Letters in lower case -/

/-- A letter in lower case: it stays as it is, wherever it stands. -/
structure Small (l : Char) : Prop where
  letter : isAlphabetic l = true
  lower_eq : lower l = [l]
  not_sigma : l ≠ 'Σ'

/-- The two small sigmas as one. -/
def unite (c : Char) : Char :=
  if c = 'ς' then 'σ' else c

/-- A letter in lower case that comes back from its capital. -/
def ComesBack (l : Char) : Prop :=
  ∃ u, upper l = [u] ∧ isAlphabetic u = true ∧ isUppercase u = true ∧
    if u = 'Σ' then unite l = 'σ' else lower u = [l]

theorem isAscii_of_isLower {l : Char} (h : l.isLower = true) : IsAscii l := by
  have hle : l.toNat ≤ 122 := by
    simp only [Char.isLower, Bool.and_eq_true, decide_eq_true_eq, UInt32.le_iff_toNat_le] at h
    exact h.2
  exact Nat.lt_of_le_of_lt hle (by decide)

theorem small_of_isLower {l : Char} (h : l.isLower = true) : Small l := by
  have hascii := isAscii_of_isLower h
  refine ⟨?_, ?_, hascii.not_sigma⟩
  · rw [hascii.isAlphabetic_eq, Char.isAlpha, h, Bool.or_true]
  · rw [hascii.lower_eq, Char.toLower_eq_of_not_isUpper (Char.not_isUpper_of_isLower h)]

theorem isUppercase_of_isLower {l : Char} (h : l.isLower = true) : isUppercase l = false := by
  rw [(isAscii_of_isLower h).isUppercase_eq]
  exact Bool.eq_false_iff.2 (Char.not_isUpper_of_isLower h)

theorem comesBack_of_isLower {l : Char} (h : l.isLower = true) : ComesBack l := by
  have hascii := isAscii_of_isLower h
  have halpha : l.isAlpha = true := by rw [Char.isAlpha, h, Bool.or_true]
  refine ⟨l.toUpper, hascii.upper_eq, ?_, ?_, ?_⟩
  · rw [hascii.toUpper.isAlphabetic_eq, Char.isAlpha_toUpper_eq_isAlpha, halpha]
  · rw [hascii.toUpper.isUppercase_eq, Char.isUpper_toUpper_eq_isAlpha, halpha]
  · rw [if_neg hascii.toUpper.not_sigma, hascii.toUpper.lower_eq, Char.toLower_toUpper_eq_toLower,
      Char.toLower_eq_of_not_isUpper (Char.not_isUpper_of_isLower h)]

theorem lowerAfter_cons {c : Char} (h : c ≠ 'Σ') (before rest : List Char) :
    lowerAfter before (c :: rest) = lower c ++ lowerAfter (c :: before) rest := by
  rw [lowerAfter, if_neg h]

theorem lowerAfter_of_small {x : List Char} (h : ∀ l ∈ x, Small l) (before : List Char) :
    lowerAfter before x = x := by
  induction x generalizing before with
  | nil => rfl
  | cons l x ih =>
    obtain ⟨hl, hx⟩ := List.forall_mem_cons.1 h
    rw [lowerAfter_cons hl.not_sigma, hl.lower_eq, ih hx]
    rfl

/-- The capitals of letters that come back are capitals, one each. -/
theorem capitals_of_comesBack {x : List Char} (h : ∀ l ∈ x, ComesBack l) :
    (x.flatMap upper).length = x.length ∧ ∀ c ∈ x.flatMap upper, isUppercase c = true := by
  induction x with
  | nil => simp
  | cons l x ih =>
    obtain ⟨⟨u, hu, -, hupper, -⟩, hx⟩ := List.forall_mem_cons.1 h
    obtain ⟨hlength, hall⟩ := ih hx
    rw [List.flatMap_cons, hu, List.singleton_append, List.length_cons, List.length_cons, hlength]
    exact ⟨rfl, List.forall_mem_cons.2 ⟨hupper, hall⟩⟩

theorem upper_unite (c : Char) : upper (unite c) = upper c := by
  by_cases hc : c = 'ς'
  · subst hc
    decide
  · rw [unite, if_neg hc]

theorem upper_of_unite {x y : List Char} (h : x.map unite = y.map unite) :
    x.flatMap upper = y.flatMap upper := by
  have hunite : ∀ z : List Char, (z.map unite).flatMap upper = z.flatMap upper := by
    intro z
    simp only [List.flatMap_map, upper_unite]
  rw [← hunite x, h, hunite y]

theorem lowerAfter_of_comesBack {x : List Char} (h : ∀ l ∈ x, ComesBack l) (before : List Char) :
    (lowerAfter before (x.flatMap upper)).map unite = x.map unite := by
  induction x generalizing before with
  | nil => rfl
  | cons l x ih =>
    obtain ⟨⟨u, hu, -, -, hl⟩, hx⟩ := List.forall_mem_cons.1 h
    rw [List.flatMap_cons, hu, List.singleton_append]
    by_cases hsigma : u = 'Σ'
    · rw [if_pos hsigma] at hl
      rw [lowerAfter, if_pos hsigma, List.map_append, ih hx, List.map_cons, List.map_cons, hl]
      split <;> rfl
    · rw [if_neg hsigma] at hl
      rw [lowerAfter_cons hsigma, hl, List.map_append, ih hx]
      rfl

/-! ## 4. Giving a word its casing -/

/-- A word in lower case whose letters come back from the casing of another word. -/
structure Takes (word x : List Char) : Prop where
  small : ∀ l ∈ x, Small l
  capitals : allCapitals word = true → ∀ l ∈ x, ComesBack l
  first : capitalFirst word = true → ∀ l ∈ x.head?, ComesBack l ∧ l ≠ 'ς'
  firstSmall : capitalFirst word = false → ∀ l ∈ x.head?, isUppercase l = false

namespace Takes

variable {word x : List Char}

theorem letters (h : Takes word x) : ∀ c ∈ recase word x, isAlphabetic c = true := by
  intro c hc
  cases hall : allCapitals word with
  | true =>
    rw [recase_of_allCapitals hall] at hc
    obtain ⟨l, hl, hcl⟩ := List.mem_flatMap.1 hc
    obtain ⟨u, hu, hletter, -⟩ := h.capitals hall l hl
    rw [hu, List.mem_singleton] at hcl
    exact hcl ▸ hletter
  | false =>
    cases hfirst : capitalFirst word with
    | false =>
      rw [recase_of_small hfirst] at hc
      exact (h.small c hc).letter
    | true =>
      cases x with
      | nil =>
        rw [recase_nil] at hc
        exact absurd hc List.not_mem_nil
      | cons l x =>
        obtain ⟨⟨u, hu, hletter, -⟩, -⟩ := h.first hfirst l rfl
        rw [recase_of_capitalFirst hall hfirst, hu, List.singleton_append] at hc
        rcases List.mem_cons.1 hc with rfl | hc
        · exact hletter
        · exact (h.small c (List.mem_cons_of_mem l hc)).letter

/-- The word in its casing is read as the word. -/
theorem lowerAfter_recase (h : Takes word x) (hall : allCapitals word = false) :
    lowerAfter [] (recase word x) = x := by
  cases hfirst : capitalFirst word with
  | false =>
    rw [recase_of_small hfirst]
    exact lowerAfter_of_small h.small []
  | true =>
    cases x with
    | nil =>
      rw [recase_nil]
      rfl
    | cons l x =>
      obtain ⟨⟨u, hu, -, -, hl⟩, hfinal⟩ := h.first hfirst l rfl
      have hx := (List.forall_mem_cons.1 h.small).2
      rw [recase_of_capitalFirst hall hfirst, hu, List.singleton_append]
      by_cases hsigma : u = 'Σ'
      · rw [if_pos hsigma, unite, if_neg hfinal] at hl
        rw [lowerAfter, if_pos hsigma, lowerAfter_of_small hx, hl]
        rfl
      · rw [if_neg hsigma] at hl
        rw [lowerAfter_cons hsigma, hl, lowerAfter_of_small hx]
        rfl

theorem unite_lowerAfter_recase (h : Takes word x) :
    (lowerAfter [] (recase word x)).map unite = x.map unite := by
  cases hall : allCapitals word with
  | true =>
    rw [recase_of_allCapitals hall]
    exact lowerAfter_of_comesBack (h.capitals hall) []
  | false => rw [h.lowerAfter_recase hall]

/-- The casing that was given is given on, if it can be told: behind the first letter there is one that
is no capital of itself. -/
theorem recase_recase {l : Char} (h : Takes word (l :: x))
    (hsmall : ∃ k ∈ x, isUppercase k = false) (y : List Char) :
    recase (recase word (l :: x)) y = recase word y := by
  obtain ⟨k, hk, hkSmall⟩ := hsmall
  cases hall : allCapitals word with
  | true =>
    have hcapitals : allCapitals ((l :: x).flatMap upper) = true := by
      obtain ⟨hlength, hupper⟩ := capitals_of_comesBack (h.capitals hall)
      refine allCapitals_of_all ?_ hupper
      rw [hlength]
      exact Nat.succ_lt_succ (List.length_pos_of_mem hk)
    rw [recase_of_allCapitals hall (l :: x), recase_of_allCapitals hcapitals,
      recase_of_allCapitals hall]
  | false =>
    cases hfirst : capitalFirst word with
    | false =>
      have hx : capitalFirst (l :: x) = false := h.firstSmall hfirst l rfl
      rw [recase_of_small hfirst (l :: x), recase_of_small hx, recase_of_small hfirst]
    | true =>
      obtain ⟨⟨u, hu, -, hupper, -⟩, -⟩ := h.first hfirst l rfl
      have hnotAll : allCapitals (u :: x) = false := by
        refine Bool.eq_false_iff.2 fun hcapitals => ?_
        have hmem := List.all_eq_true.1 (Bool.and_eq_true_iff.1 hcapitals).2 k
          (List.mem_cons_of_mem u hk)
        rw [hkSmall] at hmem
        exact absurd hmem Bool.false_ne_true
      have hcapital : capitalFirst (u :: x) = true := hupper
      rw [recase_of_capitalFirst hall hfirst, hu, List.singleton_append]
      cases y with
      | nil => rw [recase_nil, recase_nil]
      | cons m y =>
        rw [recase_of_capitalFirst hnotAll hcapital, recase_of_capitalFirst hall hfirst]

end Takes

/-! ## 5. Words in small letters -/

/-- The inflection of a word in small letters is what the rule makes of it. -/
theorem inflect_of_small (rule : List Char → List Char) {word : List Char} (hne : word ≠ [])
    (h : ∀ c ∈ word, c.isLower = true) : inflect rule word = rule word := by
  have hsmall : ∀ c ∈ word, Small c := fun c hc => small_of_isLower (h c hc)
  rw [inflect_of_lastWord rule (lastWord_of_letters fun c hc => (hsmall c hc).letter) hne,
    lowerAfter_of_small hsmall, List.nil_append]
  cases word with
  | nil => exact absurd rfl hne
  | cons c word =>
    have hfirst : capitalFirst (c :: word) = false := isUppercase_of_isLower (h c List.mem_cons_self)
    rw [recase_of_small hfirst]

end Stencil.Inflection
