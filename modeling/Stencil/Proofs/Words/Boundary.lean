import Mathlib.Data.List.Basic
import Stencil.Words

/-!
# Where words begin

`split` gathers a word character by character and looks one character back, into the word, and one
ahead, into the text. What comes of it can be said without the gathering, by looking at neighbours:

> the words of a text are its letters and digits in order, without an empty word, and a new word
> begins behind every other character and wherever the rule of `startsWord` holds of two neighbours
> and the character after them. **No other words are cut like that** (`split_iff_local`).

A character is followed from the text to its word by counting: as many letters stand before it in the
text as in the words, put together (`lettersBefore`), and that number names a word (`wordAt`). Two
lists of flags connect the two sides. `starts` says of each letter of a text whether it begins a word,
by its neighbours; `heads` says it of each character of some words, by its place. They are the same
for the words of a text (`heads_split`), and the number of a word is the number of flags up to it
(`wordAt_add_one`).
-/

set_option autoImplicit false

namespace Stencil.Words

open Unicode

/-! ## 1. The word of a character -/

/-- The number of the word in which the character at `k` stands, when the words are put together. -/
def wordAt : List (List Char) → Nat → Nat
  | [], _ => 0
  | w :: rest, k => if k < w.length then 0 else wordAt rest (k - w.length) + 1

/-- How many letters and digits stand in front of a position. -/
def lettersBefore (cs : List Char) (i : Nat) : Nat :=
  (cs.take i).countP isAlphanumeric

/-- The number of the word that the letter at a position of the text is in. -/
def wordOf (cs : List Char) (words : List (List Char)) (i : Nat) : Nat :=
  wordAt words (lettersBefore cs i)

/-- The words are cut where neighbours in the text say so. -/
structure CutLocally (cs : List Char) (words : List (List Char)) : Prop where
  flatten : words.flatten = cs.filter isAlphanumeric
  ne_nil : ∀ w ∈ words, w ≠ []
  /-- Letters with something else between them are in different words. -/
  apart : ∀ {i s j : Nat} {a c b : Char}, i < s → s < j →
    cs[i]? = some a → cs[s]? = some c → cs[j]? = some b →
    isAlphanumeric a = true → isAlphanumeric c = false → isAlphanumeric b = true →
    wordOf cs words i ≠ wordOf cs words j
  /-- Neighbours are in different words when the second one is a capital behind a small letter or a
  number, or the last capital before a small letter. -/
  neighbours : ∀ {i : Nat} {a b : Char}, cs[i]? = some a → cs[i + 1]? = some b →
    isAlphanumeric a = true → isAlphanumeric b = true →
    (wordOf cs words i ≠ wordOf cs words (i + 1) ↔
      isUppercase b = true ∧ (isLowercase a = true ∨ isNumeric a = true ∨
        isUppercase a = true ∧ ∃ c, cs[i + 2]? = some c ∧ isLowercase c = true))

theorem startsWord_iff {a b : Char} {next : Option Char} :
    startsWord a b next = true ↔
      isUppercase b = true ∧ (isLowercase a = true ∨ isNumeric a = true ∨
        isUppercase a = true ∧ ∃ c, next = some c ∧ isLowercase c = true) := by
  simp only [startsWord, Bool.and_eq_true, Bool.or_eq_true, Option.any_eq_true, or_assoc]

/-! ## 2. Numbers of words -/

theorem wordAt_cons (w : List Char) (rest : List (List Char)) (k : Nat) :
    wordAt (w :: rest) k = if k < w.length then 0 else wordAt rest (k - w.length) + 1 := rfl

/-- As many words as the number says are in front of the word that holds the character. -/
theorem exists_wordAt {words : List (List Char)} {k : Nat} {c : Char}
    (h : words.flatten[k]? = some c) :
    ∃ front w back n, words = front ++ w :: back ∧ front.length = wordAt words k ∧
      front.flatten.length + n = k ∧ w[n]? = some c := by
  induction words generalizing k with
  | nil => exact absurd h (by simp)
  | cons w rest ih =>
    rw [List.flatten_cons] at h
    rw [wordAt_cons]
    by_cases hk : k < w.length
    · rw [List.getElem?_append_left hk] at h
      rw [if_pos hk]
      exact ⟨[], w, rest, k, rfl, rfl, Nat.zero_add k, h⟩
    · rw [List.getElem?_append_right (Nat.le_of_not_lt hk)] at h
      rw [if_neg hk]
      obtain ⟨front, v, back, n, rfl, hnumber, hn, hv⟩ := ih h
      refine ⟨w :: front, v, back, n, rfl, by rw [List.length_cons, hnumber], ?_, hv⟩
      rw [List.flatten_cons, List.length_append]
      omega

/-- Words that are not empty are told by their characters and the numbers that these have. -/
theorem eq_of_wordAt {words words' : List (List Char)} (hne : ∀ w ∈ words, w ≠ [])
    (hne' : ∀ w ∈ words', w ≠ []) (hflat : words.flatten = words'.flatten)
    (h : ∀ k < words.flatten.length, wordAt words k = wordAt words' k) : words = words' := by
  induction words generalizing words' with
  | nil =>
    cases words' with
    | nil => rfl
    | cons w' rest' =>
      exact absurd (List.append_eq_nil_iff.1 hflat.symm).1 (hne' w' List.mem_cons_self)
  | cons w rest ih =>
    cases words' with
    | nil => exact absurd (List.append_eq_nil_iff.1 hflat).1 (hne w List.mem_cons_self)
    | cons w' rest' =>
      rw [List.flatten_cons, List.flatten_cons] at hflat
      have htotal := congrArg List.length hflat
      simp only [List.flatten_cons, List.length_append] at htotal h
      -- the first word ends where the number is another one
      have hlength : w.length = w'.length := by
        rcases Nat.lt_trichotomy w.length w'.length with hlt | heq | hlt
        · have hat := h w.length (by omega)
          rw [wordAt_cons, wordAt_cons, if_neg (Nat.lt_irrefl _), if_pos hlt] at hat
          exact absurd hat (Nat.succ_ne_zero _)
        · exact heq
        · have hat := h w'.length (by omega)
          rw [wordAt_cons, wordAt_cons, if_pos hlt, if_neg (Nat.lt_irrefl _)] at hat
          exact absurd hat.symm (Nat.succ_ne_zero _)
      obtain ⟨rfl, hrest⟩ := List.append_inj hflat hlength
      rw [ih (fun v hv => hne v (List.mem_cons_of_mem _ hv))
        (fun v hv => hne' v (List.mem_cons_of_mem _ hv)) hrest fun k hk => ?_]
      have hat := h (w.length + k) (by omega)
      rw [wordAt_cons, wordAt_cons, if_neg (by omega), if_neg (by omega),
        Nat.add_sub_cancel_left] at hat
      exact Nat.succ.inj hat

/-! ## 3. Flags -/

/-- Whether a word begins at each letter of a text, `prev` being the letter right in front of it. -/
def starts : (prev : Option Char) → List Char → List Bool
  | _, [] => []
  | prev, c :: rest =>
    if isAlphanumeric c then
      (prev.all fun a => startsWord a c rest.head?) :: starts (some c) rest
    else starts none rest

/-- Whether each character of some words is the first one of its word. -/
def heads : List (List Char) → List Bool
  | [] => []
  | [] :: rest => heads rest
  | (_ :: more) :: rest => true :: (more.map fun _ => false) ++ heads rest

theorem heads_cons (w : List Char) (rest : List (List Char)) :
    heads (w :: rest) = heads [w] ++ heads rest := by
  cases w with
  | nil => rfl
  | cons c more => simp [heads]

theorem heads_singleton_concat {w : List Char} (h : w ≠ []) (c : Char) :
    heads [w ++ [c]] = heads [w] ++ [false] := by
  cases w with
  | nil => exact absurd rfl h
  | cons b more => simp [heads]

theorem length_heads (words : List (List Char)) : (heads words).length = words.flatten.length := by
  induction words with
  | nil => rfl
  | cons w rest ih =>
    rw [heads_cons, List.length_append, ih, List.flatten_cons, List.length_append]
    cases w with
    | nil => rfl
    | cons c more => simp [heads]

/-- The number of a word is the number of flags that are up, the first one apart. -/
theorem wordAt_add_one {words : List (List Char)} (hne : ∀ w ∈ words, w ≠ []) {k : Nat}
    (hk : k < words.flatten.length) :
    wordAt words k + 1 = ((heads words).take (k + 1)).count true := by
  induction words generalizing k with
  | nil => exact absurd hk (Nat.not_lt_zero k)
  | cons w rest ih =>
    obtain ⟨c, more, rfl⟩ := List.exists_cons_of_ne_nil (hne w List.mem_cons_self)
    have hfalse : ∀ n, (List.take n (more.map fun _ => false)).count true = 0 := by
      intro n
      rw [List.count_eq_zero]
      intro hmem
      simpa using (List.take_subset _ _) hmem
    rw [wordAt_cons, heads, List.cons_append, List.take_succ_cons, List.count_cons_self,
      List.take_append, List.count_append, hfalse, List.length_map]
    rw [List.flatten_cons, List.length_append, List.length_cons] at hk
    rw [show (c :: more).length = more.length + 1 from rfl]
    by_cases hin : k < more.length + 1
    · rw [if_pos hin, Nat.sub_eq_zero_of_le (Nat.le_of_lt_succ hin)]
      simp
    · rw [if_neg hin, ih (fun v hv => hne v (List.mem_cons_of_mem _ hv)) (by omega),
        show k - (more.length + 1) + 1 = k - more.length by omega, Nat.zero_add]

/-- A flag between two characters puts them into different words. -/
theorem wordAt_lt_of_head {words : List (List Char)} (hne : ∀ w ∈ words, w ≠ []) {k n l : Nat}
    (hkn : k < n) (hnl : n ≤ l) (hl : l < words.flatten.length)
    (hflag : (heads words)[n]? = some true) : wordAt words k < wordAt words l := by
  have hk := wordAt_add_one hne (k := k) (by omega)
  have hl' := wordAt_add_one hne hl
  have hfront : ((heads words).take (k + 1)).count true ≤ ((heads words).take n).count true :=
    (List.take_sublist_take_left hkn).count_le _
  have hrest : ((heads words).take (n + 1)).count true ≤ ((heads words).take (l + 1)).count true :=
    (List.take_sublist_take_left (Nat.succ_le_succ hnl)).count_le _
  have hmid : ((heads words).take (n + 1)).count true = ((heads words).take n).count true + 1 := by
    rw [List.take_add_one, hflag, List.count_append]
    rfl
  omega

/-- The next character is in the next word if its flag is up, and else in the same word. -/
theorem wordAt_succ {words : List (List Char)} (hne : ∀ w ∈ words, w ≠ []) {k : Nat} {flag : Bool}
    (hflag : (heads words)[k + 1]? = some flag) :
    wordAt words (k + 1) = wordAt words k + flag.toNat := by
  have hlength : k + 1 < words.flatten.length := by
    rw [← length_heads]
    exact (List.getElem?_eq_some_iff.1 hflag).1
  have hk := wordAt_add_one hne (k := k) (by omega)
  have hl := wordAt_add_one hne hlength
  have hmid : ((heads words).take (k + 1 + 1)).count true =
      ((heads words).take (k + 1)).count true + flag.toNat := by
    rw [List.take_add_one, hflag, List.count_append]
    cases flag <;> rfl
  omega

/-! ## 4. Letters of a text -/

theorem lettersBefore_cons_succ (c : Char) (cs : List Char) (i : Nat) :
    lettersBefore (c :: cs) (i + 1) =
      lettersBefore cs i + if isAlphanumeric c = true then 1 else 0 := by
  rw [lettersBefore, List.take_succ_cons, List.countP_cons]
  rfl

theorem lettersBefore_succ {cs : List Char} {i : Nat} {c : Char} (h : cs[i]? = some c) :
    lettersBefore cs (i + 1) = lettersBefore cs i + if isAlphanumeric c = true then 1 else 0 := by
  rw [lettersBefore, List.take_add_one, h, List.countP_append]
  by_cases hc : isAlphanumeric c = true
  · simp [lettersBefore, hc]
  · simp [lettersBefore, hc]

theorem lettersBefore_mono (cs : List Char) {i j : Nat} (h : i ≤ j) :
    lettersBefore cs i ≤ lettersBefore cs j :=
  (List.take_sublist_take_left h).countP_le

/-- A letter of a text is found among all its letters. -/
theorem getElem?_filter {cs : List Char} {i : Nat} {c : Char} (h : cs[i]? = some c)
    (hc : isAlphanumeric c = true) :
    (cs.filter isAlphanumeric)[lettersBefore cs i]? = some c := by
  induction cs generalizing i with
  | nil => exact absurd h (by simp)
  | cons d cs ih =>
    cases i with
    | zero =>
      obtain rfl : d = c := by simpa using h
      rw [List.filter_cons_of_pos hc]
      rfl
    | succ i =>
      rw [lettersBefore_cons_succ]
      by_cases hd : isAlphanumeric d = true
      · rw [List.filter_cons_of_pos hd, if_pos hd, List.getElem?_cons_succ]
        exact ih h
      · rw [List.filter_cons_of_neg hd, if_neg hd, Nat.add_zero]
        exact ih h

/-- The letters of a text stand somewhere in it. -/
theorem exists_position {cs : List Char} {k : Nat} (h : k < (cs.filter isAlphanumeric).length) :
    ∃ i c, cs[i]? = some c ∧ isAlphanumeric c = true ∧ lettersBefore cs i = k := by
  induction cs generalizing k with
  | nil => exact absurd h (Nat.not_lt_zero k)
  | cons d cs ih =>
    by_cases hd : isAlphanumeric d = true
    · cases k with
      | zero => exact ⟨0, d, rfl, hd, rfl⟩
      | succ k =>
        rw [List.filter_cons_of_pos hd, List.length_cons] at h
        obtain ⟨i, c, hi, hc, hk⟩ := ih (Nat.lt_of_succ_lt_succ h)
        exact ⟨i + 1, c, hi, hc, by rw [lettersBefore_cons_succ, hk, if_pos hd]⟩
    · rw [List.filter_cons_of_neg hd] at h
      obtain ⟨i, c, hi, hc, hk⟩ := ih h
      exact ⟨i + 1, c, hi, hc, by rw [lettersBefore_cons_succ, hk, if_neg hd, Nat.add_zero]⟩

/-- Two letters in a row are neighbours, or something else stands between them. -/
theorem exists_positions {cs : List Char} {k : Nat}
    (h : k + 1 < (cs.filter isAlphanumeric).length) :
    ∃ i j a b, cs[i]? = some a ∧ cs[j]? = some b ∧ isAlphanumeric a = true ∧
      isAlphanumeric b = true ∧ lettersBefore cs i = k ∧ lettersBefore cs j = k + 1 ∧
      (j = i + 1 ∨ ∃ s c, i < s ∧ s < j ∧ cs[s]? = some c ∧ isAlphanumeric c = false) := by
  obtain ⟨i, a, hi, ha, hki⟩ := exists_position (Nat.lt_of_succ_lt h)
  obtain ⟨j, b, hj, hb, hkj⟩ := exists_position h
  refine ⟨i, j, a, b, hi, hj, ha, hb, hki, hkj, ?_⟩
  have hlt : i < j := by
    by_contra hle
    have hmono := lettersBefore_mono cs (Nat.le_of_not_lt hle)
    omega
  by_cases hnext : j = i + 1
  · exact Or.inl hnext
  · have hlength := (List.getElem?_eq_some_iff.1 hj).1
    have hs : cs[i + 1]? = some (cs.get ⟨i + 1, by omega⟩) := List.getElem?_eq_getElem _
    refine Or.inr ⟨i + 1, _, by omega, by omega, hs, ?_⟩
    -- a letter there would be one of the two, or stand between them
    by_contra hletter
    have hcount := lettersBefore_succ hs
    rw [if_pos (by simpa using hletter), lettersBefore_succ hi, if_pos ha] at hcount
    have hmono := lettersBefore_mono cs (show i + 1 + 1 ≤ j by omega)
    omega

/-! ## 5. Flags of a text -/

/-- The first letter of a text begins a word, when no letter is in front of the text. -/
theorem getElem?_starts_none {cs : List Char} {j : Nat} {b : Char} (hj : cs[j]? = some b)
    (hb : isAlphanumeric b = true) : (starts none cs)[0]? = some true := by
  induction cs generalizing j with
  | nil => exact absurd hj (by simp)
  | cons d cs ih =>
    rw [starts]
    by_cases hd : isAlphanumeric d = true
    · rw [if_pos hd]
      rfl
    · rw [if_neg hd]
      cases j with
      | zero =>
        obtain rfl : d = b := by simpa using hj
        exact absurd hb hd
      | succ j => exact ih hj

/-- The first letter behind something else begins a word. -/
theorem getElem?_starts_behind {cs : List Char} {prev : Option Char} {s j : Nat} {c b : Char}
    (hsj : s < j) (hs : cs[s]? = some c) (hj : cs[j]? = some b) (hc : isAlphanumeric c = false)
    (hb : isAlphanumeric b = true) : (starts prev cs)[lettersBefore cs s]? = some true := by
  induction cs generalizing prev s j with
  | nil => exact absurd hj (by simp)
  | cons d cs ih =>
    obtain ⟨j, rfl⟩ := Nat.exists_eq_add_one_of_ne_zero (Nat.ne_zero_of_lt hsj)
    rw [starts]
    cases s with
    | zero =>
      obtain rfl : d = c := by simpa using hs
      rw [if_neg (by simp [hc])]
      exact getElem?_starts_none hj hb
    | succ s =>
      rw [lettersBefore_cons_succ]
      by_cases hd : isAlphanumeric d = true
      · rw [if_pos hd, if_pos hd, List.getElem?_cons_succ]
        exact ih (Nat.lt_of_succ_lt_succ hsj) hs hj
      · rw [if_neg hd, if_neg hd, Nat.add_zero]
        exact ih (Nat.lt_of_succ_lt_succ hsj) hs hj

/-- The flag of a letter right behind another one goes by the two and what comes next. -/
theorem getElem?_starts_neighbour {cs : List Char} (prev : Option Char) {i : Nat} {a b : Char}
    (hi : cs[i]? = some a) (hj : cs[i + 1]? = some b) (ha : isAlphanumeric a = true)
    (hb : isAlphanumeric b = true) :
    (starts prev cs)[lettersBefore cs (i + 1)]? = some (startsWord a b cs[i + 2]?) := by
  induction cs generalizing prev i with
  | nil => exact absurd hi (by simp)
  | cons d cs ih =>
    rw [starts, lettersBefore_cons_succ]
    cases i with
    | zero =>
      obtain rfl : d = a := by simpa using hi
      cases cs with
      | nil => exact absurd hj (by simp)
      | cons e cs =>
        obtain rfl : e = b := by simpa using hj
        rw [if_pos ha, if_pos ha, starts, if_pos hb]
        simp [lettersBefore, List.head?_eq_getElem?]
    | succ i =>
      by_cases hd : isAlphanumeric d = true
      · rw [if_pos hd, if_pos hd, List.getElem?_cons_succ]
        exact ih _ hi hj
      · rw [if_neg hd, if_neg hd, Nat.add_zero]
        exact ih _ hi hj

/-! ## 6. The words that are found -/

theorem flatten_splitFrom (current cs : List Char) :
    (splitFrom current cs).flatten = current.reverse ++ cs.filter isAlphanumeric := by
  fun_induction splitFrom current cs <;> simp_all

theorem ne_nil_of_mem_splitFrom (current cs : List Char) : ∀ w ∈ splitFrom current cs, w ≠ [] := by
  fun_induction splitFrom current cs <;> simp_all

/-- The word that is being gathered goes on to the first letter whose flag is up. -/
theorem heads_splitFrom (current cs : List Char) :
    heads (splitFrom current cs) = heads [current.reverse] ++ starts current.head? cs := by
  fun_induction splitFrom current cs with
  | case1 => rfl
  | case2 current h => simp [starts]
  | case3 c rest hc ih =>
    rw [ih, starts, if_pos hc]
    rfl
  | case4 c rest hc ih =>
    rw [ih, starts, if_neg hc]
    rfl
  | case5 prev more c rest hc ih =>
    rw [heads_cons, ih, starts, if_neg (by simpa using hc)]
    rfl
  | case6 prev more c rest hc hstart ih =>
    rw [heads_cons, ih, starts, if_pos (by simpa using hc)]
    simp [heads, hstart]
  | case7 prev more c rest hc hstart ih =>
    rw [ih, starts, if_pos (by simpa using hc), List.reverse_cons,
      heads_singleton_concat (by simp)]
    simp [hstart]

theorem heads_split (cs : List Char) : heads (split cs) = starts none cs :=
  heads_splitFrom [] cs

theorem flatten_split (cs : List Char) : (split cs).flatten = cs.filter isAlphanumeric :=
  flatten_splitFrom [] cs

theorem ne_nil_of_mem_split (cs : List Char) : ∀ w ∈ split cs, w ≠ [] :=
  ne_nil_of_mem_splitFrom [] cs

theorem lettersBefore_lt_length {cs : List Char} {i : Nat} {c : Char} (h : cs[i]? = some c)
    (hc : isAlphanumeric c = true) : lettersBefore cs i < (split cs).flatten.length := by
  rw [flatten_split]
  exact (List.getElem?_eq_some_iff.1 (getElem?_filter h hc)).1

theorem cutLocally_split (cs : List Char) : CutLocally cs (split cs) where
  flatten := flatten_split cs
  ne_nil := ne_nil_of_mem_split cs
  apart := by
    intro i s j a c b his hsj hi hs hj ha hc hb
    have hflag := heads_split cs ▸ getElem?_starts_behind hsj hs hj hc hb
    have hbefore : lettersBefore cs i < lettersBefore cs s := by
      have hmono := lettersBefore_mono cs his
      rw [Nat.succ_eq_add_one, lettersBefore_succ hi, if_pos ha] at hmono
      exact hmono
    exact Nat.ne_of_lt (wordAt_lt_of_head (ne_nil_of_mem_split cs) hbefore
      (lettersBefore_mono cs (Nat.le_of_lt hsj)) (lettersBefore_lt_length hj hb) hflag)
  neighbours := by
    intro i a b hi hj ha hb
    have hflag := heads_split cs ▸ getElem?_starts_neighbour none hi hj ha hb
    have hnext : lettersBefore cs (i + 1) = lettersBefore cs i + 1 := by
      rw [lettersBefore_succ hi, if_pos ha]
    rw [← startsWord_iff, wordOf, wordOf, hnext]
    rw [hnext] at hflag
    rw [wordAt_succ (ne_nil_of_mem_split cs) hflag]
    cases startsWord a b cs[i + 2]? <;> simp

/-! ## 7. No other words -/

theorem wordAt_zero {words : List (List Char)} (hne : ∀ w ∈ words, w ≠ []) : wordAt words 0 = 0 := by
  cases words with
  | nil => rfl
  | cons w rest => exact if_pos (List.length_pos_iff.2 (hne w List.mem_cons_self))

/-- Neighbours say of two letters in a row whether they are in one word. -/
theorem CutLocally.wordAt_eq_iff {cs : List Char} {words words' : List (List Char)}
    (h : CutLocally cs words) (h' : CutLocally cs words') {k : Nat}
    (hk : k + 1 < (cs.filter isAlphanumeric).length) :
    wordAt words k = wordAt words (k + 1) ↔ wordAt words' k = wordAt words' (k + 1) := by
  obtain ⟨i, j, a, b, hi, hj, ha, hb, hki, hkj, hbetween⟩ := exists_positions hk
  rw [← hkj, ← hki, ← not_iff_not]
  rcases hbetween with rfl | ⟨s, c, his, hsj, hs, hc⟩
  · exact (h.neighbours hi hj ha hb).trans (h'.neighbours hi hj ha hb).symm
  · exact ⟨fun _ => h'.apart his hsj hi hs hj ha hc hb, fun _ => h.apart his hsj hi hs hj ha hc hb⟩

theorem CutLocally.unique {cs : List Char} {words words' : List (List Char)}
    (h : CutLocally cs words) (h' : CutLocally cs words') : words = words' := by
  refine eq_of_wordAt h.ne_nil h'.ne_nil (h.flatten.trans h'.flatten.symm) fun k hk => ?_
  have hlength' : words'.flatten.length = words.flatten.length := by rw [h.flatten, h'.flatten]
  induction k with
  | zero => rw [wordAt_zero h.ne_nil, wordAt_zero h'.ne_nil]
  | succ k ih =>
    have hiff := h.wordAt_eq_iff h' (k := k) (by rw [← h.flatten]; exact hk)
    obtain ⟨flag, hflag⟩ := Option.isSome_iff_exists.1
      (show ((heads words)[k + 1]?).isSome by simpa [length_heads] using hk)
    obtain ⟨flag', hflag'⟩ := Option.isSome_iff_exists.1
      (show ((heads words')[k + 1]?).isSome by simpa [length_heads, hlength'] using hk)
    rw [wordAt_succ h.ne_nil hflag, wordAt_succ h'.ne_nil hflag'] at hiff ⊢
    rw [ih (Nat.lt_of_succ_lt hk)]
    cases flag <;> cases flag' <;> simp_all

/-- **The words of a text are known by their neighbours.** They are its letters and digits in order,
none of them is empty, letters with something else between them are in different words, and neighbours
are in different words exactly by the rule. Nothing but the words of the text is like that, and the
number of a word is the number of words in front of the one that holds the character. -/
theorem split_iff_local (cs : List Char) :
    (∀ words, words = split cs ↔ CutLocally cs words) ∧
    ∀ i c, cs[i]? = some c → isAlphanumeric c = true →
      ∃ front w back n, split cs = front ++ w :: back ∧
        front.length = wordOf cs (split cs) i ∧
        front.flatten.length + n = lettersBefore cs i ∧ w[n]? = some c := by
  refine ⟨fun words => ⟨?_, fun h => h.unique (cutLocally_split cs)⟩, fun i c hi hc => ?_⟩
  · rintro rfl
    exact cutLocally_split cs
  · refine exists_wordAt ?_
    rw [flatten_split]
    exact getElem?_filter hi hc

/-- Separators, a number, an acronym and a capital at the end. -/
example : split "a-b2C HTTPServerX".toList =
    ["a".toList, "b2".toList, "C".toList, "HTTP".toList, "Server".toList, "X".toList] := by
  decide +kernel

end Stencil.Words
