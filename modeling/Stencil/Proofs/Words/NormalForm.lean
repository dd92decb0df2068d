import Stencil.Proofs.Unicode.Ascii
import Stencil.Proofs.Words.Boundary

/-!
# Conventions as normal forms

A naming convention writes words down so that they can be read again:

> in ASCII, the words of `my_cool_plugin`, of `my-cool-plugin` and of `My Cool Plugin` are the words
> they were written from, up to case, so that **each convention is a normal form, and the same one from
> whatever convention the text is in** (`conventions_are_normal_forms`).

Two facts carry the conventions that keep a separator. A word of a text is `Whole`: read on its own, it is
cut nowhere (`whole_of_mem_split`); it stays so in lower case, and with a capital first letter. And whole
words with separators between them are read back (`split_intercalate`).

`MyCoolPlugin` has no separators, and its words may be others: `a b` is written `AB`, which is one word.
There the law rests on something else: in a text of letters and digits every word but the first begins
with a capital (`capital_of_mem_split`), so writing the words again can only change the first letter
(`pascalCase_of_letters`).
-/

set_option autoImplicit false

namespace Stencil.Words

open Unicode

/-! ## 1. Whole words -/

/-- Letters and digits that are cut nowhere, `prev` being the letter right in front of them. -/
def Unbroken : (prev : Char) → List Char → Prop
  | _, [] => True
  | prev, c :: rest =>
    isAlphanumeric c = true ∧ startsWord prev c rest.head? = false ∧ Unbroken c rest

/-- One word and nothing else. -/
def Whole : List Char → Prop
  | [] => False
  | c :: rest => isAlphanumeric c = true ∧ Unbroken c rest

/-- What is no beginning of a word in a text is none at the end of it. -/
theorem startsWord_none {prev c : Char} {next : Option Char} (h : startsWord prev c next = false) :
    startsWord prev c none = false := by
  rw [Bool.eq_false_iff] at h ⊢
  intro hnone
  refine h (startsWord_iff.2 ?_)
  obtain ⟨hc, hprev⟩ := startsWord_iff.1 hnone
  rcases hprev with hprev | hprev | ⟨-, c, hnext, -⟩
  · exact ⟨hc, Or.inl hprev⟩
  · exact ⟨hc, Or.inr (Or.inl hprev)⟩
  · exact absurd hnext.symm (Option.some_ne_none c)

/-- The beginning of a word looks no further than to a small letter. -/
theorem startsWord_of_not_small {prev c : Char} {next : Option Char}
    (hnext : next.any isLowercase = false) : startsWord prev c next = startsWord prev c none := by
  simp only [startsWord, hnext, Option.any_none]

theorem Unbroken.letters {prev : Char} {w : List Char} (h : Unbroken prev w) :
    ∀ c ∈ w, isAlphanumeric c = true := by
  induction w generalizing prev with
  | nil => simp
  | cons c w ih => exact List.forall_mem_cons.2 ⟨h.1, ih h.2.2⟩

theorem Whole.letters {w : List Char} (h : Whole w) : ∀ c ∈ w, isAlphanumeric c = true := by
  cases w with
  | nil => simp
  | cons c w => exact List.forall_mem_cons.2 ⟨h.1, h.2.letters⟩

theorem splitFrom_nil {current : List Char} (h : current ≠ []) :
    splitFrom current [] = [current.reverse] := by
  cases current with
  | nil => exact absurd rfl h
  | cons prev more => rfl

theorem splitFrom_separator {current : List Char} {sep : Char} (h : current ≠ [])
    (hsep : isAlphanumeric sep = false) (rest : List Char) :
    splitFrom current (sep :: rest) = current.reverse :: split rest := by
  cases current with
  | nil => exact absurd rfl h
  | cons prev more =>
    rw [splitFrom, if_pos (by simp [hsep])]
    rfl

theorem split_cons_letter {c : Char} (h : isAlphanumeric c = true) (cs : List Char) :
    split (c :: cs) = splitFrom [c] cs :=
  if_pos h

theorem split_cons_separator {c : Char} (h : isAlphanumeric c = false) (cs : List Char) :
    split (c :: cs) = split cs :=
  if_neg (by simp [h])

theorem splitFrom_begin {prev c : Char} {cs : List Char} (more : List Char)
    (hc : isAlphanumeric c = true) (hstart : startsWord prev c cs.head? = true) :
    splitFrom (prev :: more) (c :: cs) = (prev :: more).reverse :: split (c :: cs) := by
  rw [splitFrom, if_neg (by simp [hc]), if_pos hstart, split_cons_letter hc]

theorem splitFrom_gather {prev c : Char} {cs : List Char} (more : List Char)
    (hc : isAlphanumeric c = true) (hstart : startsWord prev c cs.head? = false) :
    splitFrom (prev :: more) (c :: cs) = splitFrom (c :: prev :: more) cs := by
  rw [splitFrom, if_neg (by simp [hc]), if_neg (Bool.eq_false_iff.1 hstart)]

/-- A word that is being gathered takes in what is cut nowhere. -/
theorem splitFrom_append {prev : Char} {w rest : List Char} (more : List Char) (hw : Unbroken prev w)
    (hrest : rest.head?.any isLowercase = false) :
    splitFrom (prev :: more) (w ++ rest) = splitFrom (w.reverse ++ prev :: more) rest := by
  induction w generalizing prev more with
  | nil => rfl
  | cons c w ih =>
    obtain ⟨hc, hstart, hw⟩ := hw
    have hnext : startsWord prev c (w ++ rest).head? = false := by
      cases w with
      | nil => exact (startsWord_of_not_small hrest).trans hstart
      | cons d w => exact hstart
    rw [List.cons_append, splitFrom_gather more hc hnext, ih _ hw, List.reverse_cons,
      List.append_assoc]
    rfl

theorem split_of_whole {w : List Char} (h : Whole w) : split w = [w] := by
  cases w with
  | nil => exact absurd h id
  | cons c w =>
    have htake : splitFrom [c] (w ++ []) = splitFrom (w.reverse ++ [c]) [] :=
      splitFrom_append [] h.2 rfl
    rw [List.append_nil] at htake
    rw [split_cons_letter h.1, htake, splitFrom_nil (by simp)]
    simp

/-- A separator ends a word. -/
theorem split_append_separator {w : List Char} {sep : Char} (h : Whole w)
    (hsep : isAlphanumeric sep = false) (hsmall : isLowercase sep = false) (rest : List Char) :
    split (w ++ sep :: rest) = w :: split rest := by
  cases w with
  | nil => exact absurd h id
  | cons c w =>
    have htake : splitFrom [c] (w ++ sep :: rest) = splitFrom (w.reverse ++ [c]) (sep :: rest) :=
      splitFrom_append [] h.2 hsmall
    rw [List.cons_append, split_cons_letter h.1, htake, splitFrom_separator (by simp) hsep]
    simp

/-- **Whole words are read back** from a text that has a separator between neighbours. -/
theorem split_intercalate {sep : Char} {words : List (List Char)} (hsep : isAlphanumeric sep = false)
    (hsmall : isLowercase sep = false) (h : ∀ w ∈ words, Whole w) :
    split ([sep].intercalate words) = words := by
  induction words with
  | nil => rfl
  | cons w words ih =>
    obtain ⟨hw, hwords⟩ := List.forall_mem_cons.1 h
    cases words with
    | nil =>
      rw [List.intercalate_singleton]
      exact split_of_whole hw
    | cons v words =>
      rw [List.intercalate_cons_cons, List.append_assoc]
      exact (split_append_separator hw hsep hsmall _).trans (congrArg (w :: ·) (ih hwords))

/-! ## 2. The words of a text -/

/-- The word that is being gathered goes on with what is cut nowhere, and then the next one begins: at a
capital, if no separator comes first. -/
theorem splitFrom_eq_cons (prev : Char) (more cs : List Char) :
    ∃ w rest, cs = w ++ rest ∧ Unbroken prev w ∧
      splitFrom (prev :: more) cs = ((prev :: more).reverse ++ w) :: split rest ∧
      ∀ c ∈ rest.head?, isAlphanumeric c = true → isUppercase c = true := by
  induction cs generalizing prev more with
  | nil => exact ⟨[], [], rfl, trivial, by simp [splitFrom, split], by simp⟩
  | cons c cs ih =>
    cases hc : isAlphanumeric c with
    | false =>
      refine ⟨[], c :: cs, rfl, trivial, ?_, ?_⟩
      · rw [splitFrom_separator (by simp) hc, split_cons_separator hc, List.append_nil]
      · intro d hd hletter
        obtain rfl : c = d := by simpa using hd
        rw [hc] at hletter
        exact absurd hletter (by simp)
    | true =>
      cases hstart : startsWord prev c cs.head? with
      | true =>
        refine ⟨[], c :: cs, rfl, trivial, ?_, ?_⟩
        · rw [splitFrom_begin more hc hstart, List.append_nil]
        · intro d hd _
          obtain rfl : c = d := by simpa using hd
          exact (startsWord_iff.1 hstart).1
      | false =>
        obtain ⟨w, rest, rfl, hw, hsplit, hrest⟩ := ih c (prev :: more)
        refine ⟨c :: w, rest, rfl, ⟨hc, ?_, hw⟩, ?_, hrest⟩
        · cases w with
          | nil => exact startsWord_none hstart
          | cons d w => exact hstart
        · rw [splitFrom_gather more hc hstart, hsplit]
          simp

theorem split_eq_cons {c : Char} (hc : isAlphanumeric c = true) (cs : List Char) :
    ∃ w rest, cs = w ++ rest ∧ Unbroken c w ∧ split (c :: cs) = (c :: w) :: split rest ∧
      ∀ d ∈ rest.head?, isAlphanumeric d = true → isUppercase d = true := by
  obtain ⟨w, rest, hcs, hw, hsplit, hrest⟩ := splitFrom_eq_cons c [] cs
  exact ⟨w, rest, hcs, hw, (split_cons_letter hc cs).trans hsplit, hrest⟩

/-- **A word of a text is one word** when it is read on its own. -/
theorem whole_of_mem_split (cs : List Char) : ∀ w ∈ split cs, Whole w := by
  -- the induction is on the length: what follows the first word is a text again
  induction hn : cs.length using Nat.strongRecOn generalizing cs with
  | _ n ih =>
    cases cs with
    | nil => simp [split, splitFrom]
    | cons c cs =>
      rw [List.length_cons] at hn
      cases hc : isAlphanumeric c with
      | false =>
        rw [split_cons_separator hc]
        exact ih cs.length (by omega) cs rfl
      | true =>
        obtain ⟨w, rest, rfl, hw, hsplit, -⟩ := split_eq_cons hc cs
        rw [List.length_append] at hn
        rw [hsplit]
        exact List.forall_mem_cons.2 ⟨⟨hc, hw⟩, ih rest.length (by omega) rest rfl⟩

/-- The text begins with a capital. -/
def Capital : List Char → Prop
  | [] => False
  | c :: _ => isUppercase c = true

/-- Letters and digits that begin with a capital are words that begin with capitals. -/
theorem capital_of_mem_split {cs : List Char} (hletters : ∀ c ∈ cs, isAlphanumeric c = true)
    (hcapital : ∀ c ∈ cs.head?, isUppercase c = true) : ∀ w ∈ split cs, Capital w := by
  induction hn : cs.length using Nat.strongRecOn generalizing cs with
  | _ n ih =>
    cases cs with
    | nil => simp [split, splitFrom]
    | cons c cs =>
      obtain ⟨w, rest, rfl, -, hsplit, hrest⟩ := split_eq_cons (hletters c List.mem_cons_self) cs
      have hletters' : ∀ d ∈ rest, isAlphanumeric d = true := by
        intro d hd
        exact hletters d (List.mem_cons_of_mem _ (List.mem_append_right w hd))
      rw [hsplit]
      refine List.forall_mem_cons.2 ⟨hcapital c rfl, ?_⟩
      refine ih rest.length ?_ hletters' ?_ rfl
      · simp only [List.length_cons, List.length_append] at hn
        omega
      · intro d hd
        exact hrest d hd (hletters' d (List.mem_of_mem_head? hd))

/-! ## 3. Words in another case -/

theorem isAlphanumeric_toLower {c : Char} (h : IsAscii c) :
    isAlphanumeric c.toLower = isAlphanumeric c := by
  by_cases hupper : c.isUpper
  · have hdigit : ∀ d : Char, d.isAlpha = true → (d.isAlpha || d.isDigit) = true := by
      intro d hd
      rw [hd, Bool.true_or]
    have halpha : c.isAlpha = true := by simp [Char.isAlpha, hupper]
    rw [h.isAlphanumeric_eq, h.toLower.isAlphanumeric_eq, hdigit c halpha, hdigit]
    simpa using halpha
  · rw [Char.toLower_eq_of_not_isUpper hupper]

theorem isAlphanumeric_toUpper {c : Char} (h : IsAscii c) :
    isAlphanumeric c.toUpper = isAlphanumeric c := by
  rw [← isAlphanumeric_toLower h.toUpper, Char.toLower_toUpper_eq_toLower, isAlphanumeric_toLower h]

/-- Letters and digits without a capital are cut nowhere. -/
theorem unbroken_of_no_capital {w : List Char} (hletters : ∀ c ∈ w, isAlphanumeric c = true)
    (hsmall : ∀ c ∈ w, isUppercase c = false) (prev : Char) : Unbroken prev w := by
  induction w generalizing prev with
  | nil => trivial
  | cons c w ih =>
    obtain ⟨hc, hw⟩ := List.forall_mem_cons.1 hletters
    obtain ⟨hcSmall, hwSmall⟩ := List.forall_mem_cons.1 hsmall
    refine ⟨hc, ?_, ih hw hwSmall c⟩
    rw [startsWord, hcSmall, Bool.false_and]

theorem Whole.toLower {w : List Char} (h : Whole w) (hascii : ∀ c ∈ w, IsAscii c) :
    Whole (w.map Char.toLower) := by
  have hletters : ∀ c ∈ w.map Char.toLower, isAlphanumeric c = true := by
    intro c hc
    obtain ⟨d, hd, rfl⟩ := List.mem_map.1 hc
    rw [isAlphanumeric_toLower (hascii d hd)]
    exact h.letters d hd
  have hsmall : ∀ c ∈ w.map Char.toLower, isUppercase c = false := by
    intro c hc
    obtain ⟨d, hd, rfl⟩ := List.mem_map.1 hc
    rw [(hascii d hd).toLower.isUppercase_eq, Char.isUpper_toLower_eq_false]
  cases w with
  | nil => exact absurd h id
  | cons c w =>
    obtain ⟨hc, hw⟩ := List.forall_mem_cons.1 hletters
    exact ⟨hc, unbroken_of_no_capital hw (List.forall_mem_cons.1 hsmall).2 _⟩

theorem upperFirst_cons {c : Char} (h : IsAscii c) (w : List Char) :
    upperFirst (c :: w) = c.toUpper :: w := by
  rw [upperFirst, h.upper_eq]
  rfl

theorem lowerFirst_cons {c : Char} (h : IsAscii c) (w : List Char) :
    lowerFirst (c :: w) = c.toLower :: w := by
  rw [lowerFirst, h.lower_eq]
  rfl

/-- A capital in front makes no new word: behind a small letter there was no capital already. -/
theorem Whole.upperFirst {w : List Char} (h : Whole w) (hascii : ∀ c ∈ w, IsAscii c) :
    Whole (upperFirst w) := by
  cases w with
  | nil => exact absurd h id
  | cons c w =>
    obtain ⟨hc, hw⟩ := List.forall_mem_cons.1 hascii
    rw [upperFirst_cons hc]
    refine ⟨(isAlphanumeric_toUpper hc).trans h.1, ?_⟩
    by_cases hlower : c.isLower
    · cases w with
      | nil => trivial
      | cons d w =>
        obtain ⟨-, hletter, hstart, hrest⟩ := h
        refine ⟨hletter, ?_, hrest⟩
        have hsmall : isUppercase d = false := by
          rw [startsWord, hc.isLowercase_eq, hlower] at hstart
          simpa using hstart
        rw [startsWord, hsmall, Bool.false_and]
    · rw [Char.toUpper_eq_of_not_isLower hlower]
      exact h.2

theorem upperFirst_upperFirst {w : List Char} (hascii : ∀ c ∈ w, IsAscii c) :
    upperFirst (upperFirst w) = upperFirst w := by
  cases w with
  | nil => rfl
  | cons c w =>
    have hc := hascii c List.mem_cons_self
    rw [upperFirst_cons hc, upperFirst_cons hc.toUpper, Char.toUpper_toUpper_eq_toUpper]

theorem upperFirst_lowerFirst {w : List Char} (hascii : ∀ c ∈ w, IsAscii c) :
    upperFirst (lowerFirst w) = upperFirst w := by
  cases w with
  | nil => rfl
  | cons c w =>
    have hc := hascii c List.mem_cons_self
    rw [lowerFirst_cons hc, upperFirst_cons hc.toLower, upperFirst_cons hc,
      Char.toUpper_toLower_eq_toUpper]

theorem upperFirst_of_capital {w : List Char} (h : Capital w) (hascii : ∀ c ∈ w, IsAscii c) :
    upperFirst w = w := by
  cases w with
  | nil => rfl
  | cons c w =>
    have hc := hascii c List.mem_cons_self
    have hupper : c.isUpper = true := (hc.isUppercase_eq).symm.trans h
    rw [upperFirst_cons hc, Char.toUpper_eq_of_not_isLower (Char.not_isLower_of_isUpper hupper)]

/-! ## 4. Conventions with a separator -/

section Separated

variable {cs : List Char} {sep : Char}

theorem isAscii_of_mem_split (h : ∀ c ∈ cs, IsAscii c) {w : List Char} (hw : w ∈ split cs) :
    ∀ c ∈ w, IsAscii c := by
  intro c hc
  have hmem : c ∈ (split cs).flatten := List.mem_flatten.2 ⟨w, hw, hc⟩
  rw [flatten_split] at hmem
  exact h c (List.mem_of_mem_filter hmem)

/-- In ASCII the words in lower case are the words letter by letter. -/
theorem map_lowerAfter_split (h : ∀ c ∈ cs, IsAscii c) :
    (split cs).map (lowerAfter []) = (split cs).map (List.map Char.toLower) :=
  List.map_congr_left fun _ hw => lowerAfter_of_isAscii (isAscii_of_mem_split h hw) []

theorem split_lowerJoined (h : ∀ c ∈ cs, IsAscii c) (hsep : isAlphanumeric sep = false)
    (hsmall : isLowercase sep = false) :
    split (lowerJoined sep cs) = (split cs).map (lowerAfter []) := by
  rw [lowerJoined, map_lowerAfter_split h]
  refine split_intercalate hsep hsmall fun w hw => ?_
  obtain ⟨v, hv, rfl⟩ := List.mem_map.1 hw
  exact (whole_of_mem_split cs v hv).toLower (isAscii_of_mem_split h hv)

theorem split_spaced (h : ∀ c ∈ cs, IsAscii c) : split (spaced cs) = (split cs).map upperFirst := by
  refine split_intercalate (by decide) (by decide) fun w hw => ?_
  obtain ⟨v, hv, rfl⟩ := List.mem_map.1 hw
  exact (whole_of_mem_split cs v hv).upperFirst (isAscii_of_mem_split h hv)

/-- Lower case does not see in which case the words were. -/
theorem lowerJoined_of_split {ds : List Char} {f : List Char → List Char} (h : ∀ c ∈ cs, IsAscii c)
    (hsplit : split ds = (split cs).map f)
    (hf : ∀ w, (∀ c ∈ w, IsAscii c) → lowerAfter [] (f w) = lowerAfter [] w) :
    lowerJoined sep ds = lowerJoined sep cs := by
  rw [lowerJoined, lowerJoined, hsplit, List.map_map]
  refine congrArg _ (List.map_congr_left fun w hw => ?_)
  exact hf w (isAscii_of_mem_split h hw)

theorem lowerAfter_lowerAfter {w : List Char} (h : ∀ c ∈ w, IsAscii c) :
    lowerAfter [] (lowerAfter [] w) = lowerAfter [] w := by
  have hlower : ∀ c ∈ w.map Char.toLower, IsAscii c := by
    intro c hc
    obtain ⟨d, hd, rfl⟩ := List.mem_map.1 hc
    exact (h d hd).toLower
  rw [lowerAfter_of_isAscii h, lowerAfter_of_isAscii hlower, List.map_map]
  refine List.map_congr_left fun c _ => ?_
  exact Char.toLower_toLower_eq_toLower c

theorem isAscii_upperFirst {w : List Char} (h : ∀ c ∈ w, IsAscii c) :
    ∀ c ∈ upperFirst w, IsAscii c := by
  cases w with
  | nil => exact h
  | cons c w =>
    obtain ⟨hc, hw⟩ := List.forall_mem_cons.1 h
    rw [upperFirst_cons hc]
    exact List.forall_mem_cons.2 ⟨hc.toUpper, hw⟩

theorem lowerAfter_upperFirst {w : List Char} (h : ∀ c ∈ w, IsAscii c) :
    lowerAfter [] (upperFirst w) = lowerAfter [] w := by
  rw [lowerAfter_of_isAscii (isAscii_upperFirst h), lowerAfter_of_isAscii h]
  cases w with
  | nil => rfl
  | cons c w =>
    rw [upperFirst_cons (h c List.mem_cons_self), List.map_cons, Char.toLower_toUpper_eq_toLower]
    rfl

theorem spaced_spaced (h : ∀ c ∈ cs, IsAscii c) : spaced (spaced cs) = spaced cs := by
  rw [spaced, split_spaced h, List.map_map, spaced]
  refine congrArg _ (List.map_congr_left fun w hw => ?_)
  exact upperFirst_upperFirst (isAscii_of_mem_split h hw)

theorem initials_spaced (h : ∀ c ∈ cs, IsAscii c) : initials (spaced cs) = initials cs := by
  rw [initials, split_spaced h, List.flatMap_map, initials]
  refine List.flatMap_congr fun w hw => ?_
  cases w with
  | nil => rfl
  | cons c w =>
    have hc := isAscii_of_mem_split h hw c List.mem_cons_self
    simp only [upperFirst_cons hc, List.take_succ_cons, List.take_zero, List.flatMap_singleton,
      hc.upper_eq, hc.toUpper.upper_eq, Char.toUpper_toUpper_eq_toUpper]

end Separated

/-! ## 5. Conventions without a separator -/

section Joined

variable {cs : List Char}

/-- Letters and digits that are written as words again differ in the first letter at most. -/
theorem pascalCase_of_letters (hletters : ∀ c ∈ cs, isAlphanumeric c = true)
    (h : ∀ c ∈ cs, IsAscii c) : pascalCase cs = upperFirst cs := by
  cases cs with
  | nil => rfl
  | cons c cs =>
    obtain ⟨w, rest, rfl, -, hsplit, hrest⟩ := split_eq_cons (hletters c List.mem_cons_self) cs
    have hc : IsAscii c := h c List.mem_cons_self
    have hletters' : ∀ d ∈ rest, isAlphanumeric d = true := by
      intro d hd
      exact hletters d (List.mem_cons_of_mem _ (List.mem_append_right w hd))
    have hascii : ∀ d ∈ rest, IsAscii d := by
      intro d hd
      exact h d (List.mem_cons_of_mem _ (List.mem_append_right w hd))
    have hcapital := capital_of_mem_split hletters' fun d hd =>
      hrest d hd (hletters' d (List.mem_of_mem_head? hd))
    have hothers : (split rest).flatMap upperFirst = rest := by
      have hsame : (split rest).flatMap upperFirst = (split rest).flatMap id := by
        refine List.flatMap_congr fun v hv => ?_
        exact upperFirst_of_capital (hcapital v hv) (isAscii_of_mem_split hascii hv)
      rw [hsame, List.flatMap_id, flatten_split, List.filter_eq_self.2 hletters']
    rw [pascalCase, hsplit, List.flatMap_cons, hothers, upperFirst_cons hc, upperFirst_cons hc]
    rfl

theorem mem_pascalCase (h : ∀ c ∈ cs, IsAscii c) :
    ∀ c ∈ pascalCase cs, isAlphanumeric c = true ∧ IsAscii c := by
  intro c hc
  obtain ⟨w, hw, hcw⟩ := List.mem_flatMap.1 hc
  have hascii := isAscii_of_mem_split h hw
  exact ⟨((whole_of_mem_split cs w hw).upperFirst hascii).letters c hcw,
    isAscii_upperFirst hascii c hcw⟩

theorem upperFirst_pascalCase (h : ∀ c ∈ cs, IsAscii c) :
    upperFirst (pascalCase cs) = pascalCase cs := by
  unfold pascalCase
  cases hsplit : split cs with
  | nil => rfl
  | cons w words =>
    have hw : w ∈ split cs := hsplit ▸ List.mem_cons_self
    cases w with
    | nil => exact absurd rfl (ne_nil_of_mem_split cs _ hw)
    | cons c w =>
      have hc := isAscii_of_mem_split h hw c List.mem_cons_self
      rw [List.flatMap_cons, upperFirst_cons hc, List.cons_append, upperFirst_cons hc.toUpper,
        Char.toUpper_toUpper_eq_toUpper]

theorem pascalCase_pascalCase (h : ∀ c ∈ cs, IsAscii c) :
    pascalCase (pascalCase cs) = pascalCase cs := by
  have hmem := mem_pascalCase h
  rw [pascalCase_of_letters (fun c hc => (hmem c hc).1) fun c hc => (hmem c hc).2,
    upperFirst_pascalCase h]

theorem pascalCase_camelCase (h : ∀ c ∈ cs, IsAscii c) :
    pascalCase (camelCase cs) = pascalCase cs := by
  have hmem := mem_pascalCase h
  have hascii : ∀ c ∈ pascalCase cs, IsAscii c := fun c hc => (hmem c hc).2
  have hcamel : ∀ c ∈ camelCase cs, isAlphanumeric c = true ∧ IsAscii c := by
    unfold camelCase
    cases hp : pascalCase cs with
    | nil => simp [lowerFirst]
    | cons c rest =>
      rw [hp] at hmem
      obtain ⟨⟨hletter, hc⟩, hrest⟩ := List.forall_mem_cons.1 hmem
      rw [lowerFirst_cons hc]
      exact List.forall_mem_cons.2 ⟨⟨(isAlphanumeric_toLower hc).trans hletter, hc.toLower⟩, hrest⟩
  rw [pascalCase_of_letters (fun c hc => (hcamel c hc).1) fun c hc => (hcamel c hc).2, camelCase,
    upperFirst_lowerFirst hascii, upperFirst_pascalCase h]

end Joined

/-- **The conventions are normal forms.** The words of an ASCII text are read back from the text in snake
case, in kebab case and in spaced words, up to case; so each of these conventions gives the same from
every other, and the initials stay. Pascal case and camel case are normal forms of one another as well,
although they may put words together. -/
theorem conventions_are_normal_forms {cs : List Char} (h : ∀ c ∈ cs, c.toNat < 128) :
    split (snakeCase cs) = (split cs).map (lowerAfter []) ∧
    split (kebabCase cs) = (split cs).map (lowerAfter []) ∧
    split (spaced cs) = (split cs).map upperFirst ∧
    (snakeCase (snakeCase cs) = snakeCase cs ∧ snakeCase (kebabCase cs) = snakeCase cs ∧
      snakeCase (spaced cs) = snakeCase cs) ∧
    (kebabCase (kebabCase cs) = kebabCase cs ∧ kebabCase (snakeCase cs) = kebabCase cs) ∧
    spaced (spaced cs) = spaced cs ∧
    initials (spaced cs) = initials cs ∧
    (pascalCase (pascalCase cs) = pascalCase cs ∧ pascalCase (camelCase cs) = pascalCase cs) ∧
    (camelCase (camelCase cs) = camelCase cs ∧ camelCase (pascalCase cs) = camelCase cs) ∧
    (split (pascalCase "a b".toList) = ["AB".toList] ∧
      split (camelCase "a b c".toList) = ["a".toList, "BC".toList]) := by
  have hsnake : split (snakeCase cs) = (split cs).map (lowerAfter []) :=
    split_lowerJoined h (by decide) (by decide)
  have hkebab : split (kebabCase cs) = (split cs).map (lowerAfter []) :=
    split_lowerJoined h (by decide) (by decide)
  have hspaced := split_spaced h
  have hpascal := pascalCase_pascalCase h
  have hcamel := pascalCase_camelCase h
  refine ⟨hsnake, hkebab, hspaced, ⟨?_, ?_, ?_⟩, ⟨?_, ?_⟩, spaced_spaced h, initials_spaced h,
    ⟨hpascal, hcamel⟩, ⟨?_, ?_⟩, ?_⟩
  · exact lowerJoined_of_split h hsnake fun w => lowerAfter_lowerAfter
  · exact lowerJoined_of_split h hkebab fun w => lowerAfter_lowerAfter
  · exact lowerJoined_of_split h hspaced fun w => lowerAfter_upperFirst
  · exact lowerJoined_of_split h hkebab fun w => lowerAfter_lowerAfter
  · exact lowerJoined_of_split h hsnake fun w => lowerAfter_lowerAfter
  · rw [camelCase, hcamel, camelCase]
  · rw [camelCase, hpascal, camelCase]
  · decide

/-- An acronym, a number, two separators and a single letter. -/
theorem conventions_are_normal_forms_acronym :
    (∀ c ∈ "XMLTag2--v B".toList, c.toNat < 128) ∧
      split (snakeCase "XMLTag2--v B".toList) =
        ["xml".toList, "tag2".toList, "v".toList, "b".toList] ∧
      pascalCase (camelCase "XMLTag2--v B".toList) = "XMLTag2VB".toList := by
  have hascii : ∀ c ∈ "XMLTag2--v B".toList, c.toNat < 128 := by simp
  obtain ⟨hsnake, -, -, -, -, -, -, ⟨-, hpascal⟩, -⟩ := conventions_are_normal_forms hascii
  rw [hsnake, hpascal]
  exact ⟨hascii, by decide, by decide⟩

end Stencil.Words
