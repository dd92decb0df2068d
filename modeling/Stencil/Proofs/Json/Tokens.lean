import Mathlib.Data.List.Basic
import Stencil.Json.Print
import Stencil.Json.Read

/-!
# Tokens are read as they were written

A reader of JSON takes a token off the front of a text and leaves the rest. For strings nothing else
is to be said than that the rest is what was behind the closing quote (`stringBody?_literal`), since
a quote inside is always escaped.

A number has no end of its own: it goes on for as long as there are characters that a number can
have. So integers are read back in front of a text that starts with no such character
(`number?_toDigits`, `EndsNumber`), which is what stands behind every value that is written: a
comma, a line start, or nothing.

Not every double is read back, but where the reader stops is known for them too. A reader of a
number takes nothing but number characters (`takesNumber_number?`), and a number is written with
nothing else (`isNumberText_double`). So it stops within the number or right behind it, and never
goes on into what follows (`TakesNumber.stops`).
-/

set_option autoImplicit false

namespace Stencil.Json

/-! ## 1. Blanks -/

theorem skipBlanks_append {bs : List Char} (h : ∀ c ∈ bs, isBlank c = true) (cs : List Char) :
    skipBlanks (bs ++ cs) = skipBlanks cs :=
  List.dropWhile_append_of_pos h

theorem skipBlanks_cons {c : Char} (h : isBlank c = false) (cs : List Char) :
    skipBlanks (c :: cs) = c :: cs :=
  List.dropWhile_cons_of_neg (by rw [h]; exact Bool.false_ne_true)

theorem skipBlanks_space (cs : List Char) : skipBlanks (' ' :: cs) = skipBlanks cs :=
  rfl

theorem isBlank_of_mem_indent {level : Nat} {c : Char} (h : c ∈ indent level) :
    isBlank c = true := by
  rcases List.mem_cons.1 h with rfl | h
  · rfl
  · rw [List.eq_of_mem_replicate h]
    rfl

theorem skipBlanks_indent (level : Nat) (cs : List Char) :
    skipBlanks (indent level ++ cs) = skipBlanks cs :=
  skipBlanks_append (fun _ => isBlank_of_mem_indent) cs

theorem skipBlanks_skipBlanks (cs : List Char) : skipBlanks (skipBlanks cs) = skipBlanks cs := by
  induction cs with
  | nil => rfl
  | cons c cs ih =>
    cases hc : isBlank c with
    | false => rw [skipBlanks_cons hc, skipBlanks_cons hc]
    | true =>
      have hskip : skipBlanks (c :: cs) = skipBlanks cs := List.dropWhile_cons_of_pos hc
      rw [hskip, ih]

/-! ## 2. Strings -/

theorem hexValue?_digitChar (n : Nat) (h : n < 16) : hexValue? (Nat.digitChar n) = some n := by
  revert n
  decide

theorem stringBody?_escape {cs rest : List Char} {c : Char} (h : escape? cs = some (c, rest))
    (fuel : Nat) :
    stringBody? (fuel + 1) ('\\' :: cs) =
      (stringBody? fuel rest).map fun found => (c :: found.1, found.2) := by
  rw [stringBody?, if_neg (by decide), if_pos rfl, h]
  simp only [Option.bind_eq_bind, Option.bind_some]
  cases stringBody? fuel rest with
  | none => rfl
  | some found => rfl

theorem stringBody?_cons {c : Char} (hquote : c ≠ '"') (hslash : c ≠ '\\') (hlow : ¬ c.toNat < 32)
    (fuel : Nat) (rest : List Char) :
    stringBody? (fuel + 1) (c :: rest) =
      (stringBody? fuel rest).map fun found => (c :: found.1, found.2) := by
  rw [stringBody?, if_neg hquote, if_neg hslash, if_neg hlow]
  cases stringBody? fuel rest with
  | none => rfl
  | some found => rfl

/-- A control character is written as two zeros and the two digits of its number. -/
theorem unicodeEscape?_escapeDigits {c : Char} (h : c.toNat < 32) (rest : List Char) :
    unicodeEscape? (escapeDigits c.toNat ++ rest) = some (c, rest) := by
  have hhigh := hexValue?_digitChar (c.toNat / 16) (by omega)
  have hlow := hexValue?_digitChar (c.toNat % 16) (by omega)
  have hzero : hexValue? '0' = some 0 := rfl
  have hnumber : ((0 * 16 + 0) * 16 + c.toNat / 16) * 16 + c.toNat % 16 = c.toNat := by omega
  have hdigits : hex4? (escapeDigits c.toNat ++ rest) = some (c.toNat, rest) := by
    simp only [escapeDigits, List.cons_append, List.nil_append, hex4?, hzero, hhigh, hlow,
      Option.bind_eq_bind, Option.bind_some, hnumber, pure]
  rw [unicodeEscape?, hdigits]
  simp only [Option.bind_eq_bind, Option.bind_some]
  rw [if_neg (by omega), if_neg (by omega), Char.ofNat_toNat]

/-- An escaped character is read back, for one unit of fuel. -/
theorem stringBody?_charEscape (fuel : Nat) (c : Char) (rest : List Char) :
    stringBody? (fuel + 1) (charEscape c ++ rest) =
      (stringBody? fuel rest).map fun found => (c :: found.1, found.2) := by
  unfold charEscape
  split
  case isTrue h => exact stringBody?_escape (by rw [h]; rfl) fuel
  split
  case isTrue h => exact stringBody?_escape (by rw [h]; rfl) fuel
  split
  case isTrue h => exact stringBody?_escape (by rw [h]; rfl) fuel
  split
  case isTrue h => exact stringBody?_escape (by rw [h]; rfl) fuel
  split
  case isTrue h => exact stringBody?_escape (by rw [h]; rfl) fuel
  split
  case isTrue h => exact stringBody?_escape (by rw [h]; rfl) fuel
  split
  case isTrue h => exact stringBody?_escape (by rw [h]; rfl) fuel
  split
  case isTrue h =>
    have hescape : escape? ('u' :: (escapeDigits c.toNat ++ rest)) = some (c, rest) :=
      unicodeEscape?_escapeDigits h rest
    exact stringBody?_escape hescape fuel
  case isFalse hquote hslash _ _ _ _ _ hlow => exact stringBody?_cons hquote hslash hlow fuel rest

/-- A string literal is read back, if there is fuel for each of its characters. -/
theorem stringBody?_literal (fuel : Nat) (cs rest : List Char) :
    stringBody? fuel (cs.flatMap charEscape ++ '"' :: rest) =
      if cs.length < fuel then some (cs, rest) else none := by
  induction cs generalizing fuel with
  | nil =>
    cases fuel with
    | zero => rfl
    | succ fuel => rfl
  | cons c cs ih =>
    cases fuel with
    | zero => rw [stringBody?, if_neg (Nat.not_lt_zero _)]
    | succ fuel =>
      rw [List.flatMap_cons, List.append_assoc, stringBody?_charEscape, ih, List.length_cons]
      by_cases h : cs.length < fuel
      · rw [if_pos h, if_pos (Nat.succ_lt_succ h)]
        rfl
      · rw [if_neg h, if_neg (fun hlt => h (Nat.lt_of_succ_lt_succ hlt))]
        rfl

/-! ## 3. Numbers -/

/-- A character that a number can have. -/
def isNumberChar (c : Char) : Bool :=
  c.isDigit || c = '.' || c = 'e' || c = 'E' || c = '+' || c = '-'

/-- A text in front of which a number ends. -/
def EndsNumber (rest : List Char) : Prop :=
  ∀ c cs, rest = c :: cs → isNumberChar c = false

theorem endsNumber_cons {c : Char} (h : isNumberChar c = false) (cs : List Char) :
    EndsNumber (c :: cs) := by
  intro c' cs' heq
  cases heq
  exact h

theorem isNumberChar_of_isDigit {c : Char} (h : c.isDigit = true) : isNumberChar c = true := by
  simp [isNumberChar, h]

theorem digits_append {ds rest : List Char} (hds : ∀ c ∈ ds, c.isDigit = true)
    (hrest : EndsNumber rest) : digits (ds ++ rest) = (ds, rest) := by
  have hhead : ∀ c cs, rest = c :: cs → c.isDigit = false := by
    intro c cs h
    have hnot := hrest c cs h
    cases hc : c.isDigit with
    | false => rfl
    | true =>
      rw [isNumberChar_of_isDigit hc] at hnot
      exact hnot
  unfold digits
  rw [List.takeWhile_append_of_pos hds, List.dropWhile_append_of_pos hds]
  cases rest with
  | nil => rw [List.takeWhile_nil, List.dropWhile_nil, List.append_nil]
  | cons c cs =>
    have hc := hhead c cs rfl
    simp [hc]

theorem digitsValue_toDigits (n : Nat) : Number.digitsValue (Nat.toDigits 10 n) = n := by
  have h : Nat.ofDigitChars 10 (Nat.toDigits 10 n) 0 = n := Nat.ofDigitChars_ten_toDigits
  rw [Nat.ofDigitChars_eq_foldl] at h
  exact h

/-- The first digit of a number is zero only in zero itself. -/
theorem toDigits_head {n : Nat} (h : n ≠ 0) : (Nat.toDigits 10 n).head? ≠ some '0' := by
  induction n using Nat.strongRecOn with
  | _ n ih =>
    by_cases hlt : n < 10
    · rw [Nat.toDigits_of_lt_base hlt]
      intro hzero
      have hdigit : Nat.digitChar n = '0' := by simpa using hzero
      exact h (by simpa using hdigit)
    · rw [Nat.toDigits_of_base_le (by decide) (Nat.le_of_not_lt hlt),
        List.head?_append_of_ne_nil _ Nat.toDigits_ne_nil]
      exact ih (n / 10) (by omega) (by omega)

theorem wholePart?_toDigits (n : Nat) {rest : List Char} (hrest : EndsNumber rest) :
    wholePart? (Nat.toDigits 10 n ++ rest) = some (Nat.toDigits 10 n, rest) := by
  have hdigits : ∀ c ∈ Nat.toDigits 10 n, c.isDigit = true :=
    fun c hc => Nat.isDigit_of_mem_toDigits (by decide) (by decide) hc
  unfold wholePart?
  rw [digits_append hdigits hrest]
  by_cases hzero : n = 0
  · subst hzero
    rfl
  · have hhead := toDigits_head hzero
    split
    · rename_i heq
      exact absurd (Prod.mk.inj heq).1 Nat.toDigits_ne_nil
    · rename_i heq
      rw [(Prod.mk.inj heq).1] at hhead
      exact absurd rfl hhead
    · rename_i heq
      rw [(Prod.mk.inj heq).1] at hhead
      exact absurd rfl hhead
    · rfl

theorem fractionPart?_of_endsNumber {rest : List Char} (hrest : EndsNumber rest) :
    fractionPart? rest = some ([], rest) := by
  unfold fractionPart?
  split
  · rename_i cs
    exact absurd (hrest '.' cs rfl) (by decide)
  · rfl

theorem exponentPart?_of_endsNumber {rest : List Char} (hrest : EndsNumber rest) :
    exponentPart? rest = some (none, rest) := by
  unfold exponentPart?
  cases rest with
  | nil => rfl
  | cons c cs =>
    have hc := hrest c cs rfl
    have hnot : ¬ (c = 'e' ∨ c = 'E') := by
      rintro (rfl | rfl)
      · exact absurd hc (by decide)
      · exact absurd hc (by decide)
    dsimp only
    rw [if_neg hnot]

theorem number?_toDigits {negative : Bool} {n : Nat} {m : Int} {rest : List Char}
    (hrest : EndsNumber rest)
    (hvalue : Number.Literal.value? ⟨negative, Nat.toDigits 10 n, [], none⟩ = some (.int m)) :
    number? negative (Nat.toDigits 10 n ++ rest) = some (.int m, rest) := by
  unfold number?
  rw [wholePart?_toDigits n hrest]
  simp only [Option.bind_eq_bind, Option.bind_some, fractionPart?_of_endsNumber hrest,
    exponentPart?_of_endsNumber hrest, hvalue]

theorem value?_of_nonneg {n : Nat} (h : n < Nat.pow 2 64) :
    Number.Literal.value? ⟨false, Nat.toDigits 10 n, [], none⟩ = some (.int n) := by
  unfold Number.Literal.value?
  rw [digitsValue_toDigits]
  exact if_pos h

theorem value?_of_neg {n : Nat} (hpos : 0 < n) (h : n ≤ Nat.pow 2 63) :
    Number.Literal.value? ⟨true, Nat.toDigits 10 n, [], none⟩ = some (.int (-(n : Int))) := by
  have hsmall : (decide (0 < n) && decide (n ≤ Nat.pow 2 63)) = true := by
    rw [Bool.and_eq_true, decide_eq_true_eq, decide_eq_true_eq]
    exact ⟨hpos, h⟩
  unfold Number.Literal.value?
  rw [digitsValue_toDigits]
  exact if_pos hsmall

/-! ## 4. Texts of number characters -/

theorem digits_split {cs ds rest : List Char} (h : digits cs = (ds, rest)) :
    cs = ds ++ rest ∧ ∀ c ∈ ds, isNumberChar c = true := by
  unfold digits at h
  rw [Prod.mk.injEq] at h
  obtain ⟨rfl, rfl⟩ := h
  refine ⟨List.takeWhile_append_dropWhile.symm, fun c hc => ?_⟩
  exact isNumberChar_of_isDigit (List.all_eq_true.1 List.all_takeWhile c hc)

/-- What a reader of a part of a number took off the front. -/
def TakesNumber (cs rest : List Char) : Prop :=
  ∃ front, cs = front ++ rest ∧ ∀ c ∈ front, isNumberChar c = true

theorem TakesNumber.refl (cs : List Char) : TakesNumber cs cs :=
  ⟨[], rfl, fun _ h => absurd h List.not_mem_nil⟩

theorem TakesNumber.trans {cs cs' rest : List Char} (h : TakesNumber cs cs')
    (h' : TakesNumber cs' rest) : TakesNumber cs rest := by
  obtain ⟨front, rfl, hfront⟩ := h
  obtain ⟨front', rfl, hfront'⟩ := h'
  refine ⟨front ++ front', (List.append_assoc _ _ _).symm, fun c hc => ?_⟩
  rcases List.mem_append.1 hc with hc | hc
  · exact hfront c hc
  · exact hfront' c hc

theorem TakesNumber.cons {c : Char} {cs rest : List Char} (hc : isNumberChar c = true)
    (h : TakesNumber cs rest) : TakesNumber (c :: cs) rest := by
  refine TakesNumber.trans ⟨[c], rfl, fun c' hc' => ?_⟩ h
  rw [List.mem_singleton.1 hc']
  exact hc

theorem takesNumber_digits {cs ds rest : List Char} (h : digits cs = (ds, rest)) :
    TakesNumber cs rest :=
  ⟨ds, digits_split h⟩

theorem takesNumber_wholePart? {cs ds rest : List Char} (h : wholePart? cs = some (ds, rest)) :
    TakesNumber cs rest := by
  unfold wholePart? at h
  split at h
  · exact absurd h (by simp)
  · rename_i heq
    rw [Option.some.injEq, Prod.mk.injEq] at h
    exact h.2 ▸ takesNumber_digits heq
  · exact absurd h (by simp)
  · rename_i heq
    rw [Option.some.injEq] at h
    exact takesNumber_digits h

theorem takesNumber_fractionPart? {cs ds rest : List Char}
    (h : fractionPart? cs = some (ds, rest)) : TakesNumber cs rest := by
  unfold fractionPart? at h
  split at h
  · split at h
    · exact absurd h (by simp)
    · rw [Option.some.injEq] at h
      exact (takesNumber_digits h).cons (by decide)
  · rw [Option.some.injEq, Prod.mk.injEq] at h
    exact h.2 ▸ .refl _

theorem takesNumber_of_digits {α : Type} {cs ds rest rest' : List Char} {a b : α}
    (hdigits : digits cs = (ds, rest)) (h : some (a, rest) = some (b, rest')) :
    TakesNumber cs rest' := by
  rw [Option.some.injEq, Prod.mk.injEq] at h
  exact h.2 ▸ takesNumber_digits hdigits

theorem takesNumber_exponentPart? {cs rest : List Char} {exponent : Option Int}
    (h : exponentPart? cs = some (exponent, rest)) : TakesNumber cs rest := by
  unfold exponentPart? at h
  cases cs with
  | nil =>
    simp only [Option.some.injEq, Prod.mk.injEq] at h
    exact h.2 ▸ .refl _
  | cons c cs =>
    dsimp only at h
    by_cases hc : c = 'e' ∨ c = 'E'
    · rw [if_pos hc] at h
      have hletter : isNumberChar c = true := by
        rcases hc with rfl | rfl
        · rfl
        · rfl
      refine TakesNumber.cons hletter ?_
      split at h
      · split at h
        · exact absurd h (by simp)
        · rename_i hdigits
          exact (takesNumber_of_digits hdigits h).cons (by decide)
      · split at h
        · exact absurd h (by simp)
        · rename_i hdigits
          exact (takesNumber_of_digits hdigits h).cons (by decide)
      · split at h
        · exact absurd h (by simp)
        · rename_i hdigits
          exact takesNumber_of_digits hdigits h
    · rw [if_neg hc, Option.some.injEq, Prod.mk.injEq] at h
      exact h.2 ▸ .refl _

theorem takesNumber_number? {negative : Bool} {cs rest : List Char} {v : Value}
    (h : number? negative cs = some (v, rest)) : TakesNumber cs rest := by
  unfold number? at h
  simp only [Option.bind_eq_bind, Option.bind_eq_some_iff] at h
  obtain ⟨⟨whole, cs₁⟩, hwhole, ⟨fraction, cs₂⟩, hfraction, ⟨exponent, cs₃⟩, hexponent, h⟩ := h
  have hall : TakesNumber cs cs₃ :=
    (takesNumber_wholePart? hwhole).trans
      ((takesNumber_fractionPart? hfraction).trans (takesNumber_exponentPart? hexponent))
  dsimp only at h
  split at h
  · rw [Option.some.injEq, Prod.mk.injEq] at h
    exact h.2 ▸ hall
  · rw [Option.some.injEq, Prod.mk.injEq] at h
    exact h.2 ▸ hall
  · exact absurd h (by simp)

/-! ## 5. The texts that numbers are written as -/

/-- There is something to read, and nothing but number characters. -/
structure IsNumberText (cs : List Char) : Prop where
  ne_nil : cs ≠ []
  chars : ∀ c ∈ cs, isNumberChar c = true

theorem isNumberChar_of_mem_toDigits {n : Nat} {c : Char} (h : c ∈ Nat.toDigits 10 n) :
    isNumberChar c = true :=
  isNumberChar_of_isDigit (Nat.isDigit_of_mem_toDigits (by decide) (by decide) h)

theorem isNumberText_intChars (n : Int) : IsNumberText (intChars n) := by
  cases n with
  | ofNat n => exact ⟨Nat.toDigits_ne_nil, fun _ => isNumberChar_of_mem_toDigits⟩
  | negSucc n =>
    refine ⟨List.cons_ne_nil _ _, fun c hc => ?_⟩
    rcases List.mem_cons.1 hc with rfl | hc
    · rfl
    · exact isNumberChar_of_mem_toDigits hc

theorem isNumberChar_of_mem_scientific {d : Number.Decimal} {c : Char}
    (h : c ∈ d.scientific.1) : isNumberChar c = true := by
  have hreverse := List.mem_reverse.1 h
  have hdigits := (List.dropWhile_sublist _).subset hreverse
  exact isNumberChar_of_mem_toDigits (List.mem_reverse.1 hdigits)

theorem isNumberChar_of_mem_replicate {n : Nat} {c : Char} (h : c ∈ List.replicate n '0') :
    isNumberChar c = true := by
  rw [List.eq_of_mem_replicate h]
  rfl

theorem isNumberText_decimal (d : Number.Decimal) : IsNumberText (doubleLayout.decimal d) := by
  have hdigits : ∀ c ∈ d.scientific.1, isNumberChar c = true :=
    fun _ => isNumberChar_of_mem_scientific
  unfold Number.Layout.decimal
  rcases hscientific : d.scientific with ⟨digits, top⟩
  rw [hscientific] at hdigits
  dsimp only at hdigits ⊢
  split
  · split
    -- a point in front
    · refine ⟨List.cons_ne_nil _ _, ?_⟩
      simp only [List.cons_append, List.forall_mem_cons, List.forall_mem_append]
      exact ⟨rfl, rfl, fun _ => isNumberChar_of_mem_replicate, hdigits⟩
    split
    -- a whole number
    · refine ⟨by simp [doubleLayout], ?_⟩
      simp only [doubleLayout, List.forall_mem_append]
      exact ⟨⟨hdigits, fun _ => isNumberChar_of_mem_replicate⟩, List.all_eq_true.1 (by decide)⟩
    -- a point between digits
    · refine ⟨by simp, ?_⟩
      simp only [List.forall_mem_append, List.forall_mem_cons]
      exact ⟨fun c hc => hdigits c (List.mem_of_mem_take hc), rfl,
        fun c hc => hdigits c (List.mem_of_mem_drop hc)⟩
  -- an exponent
  · refine ⟨by simp, ?_⟩
    simp only [List.forall_mem_append, List.forall_mem_cons]
    refine ⟨⟨?_, rfl, ?_⟩, fun _ => isNumberChar_of_mem_toDigits⟩
    · split
      · simp only [List.forall_mem_cons] at hdigits ⊢
        exact ⟨hdigits.1, rfl, hdigits.2⟩
      · exact hdigits
    · split
      · exact List.all_eq_true.1 (by decide)
      · exact List.all_eq_true.1 (by decide)

theorem IsNumberText.append {front cs : List Char} (hfront : ∀ c ∈ front, isNumberChar c = true)
    (h : IsNumberText cs) : IsNumberText (front ++ cs) := by
  refine ⟨fun hnil => h.ne_nil (List.append_eq_nil_iff.1 hnil).2, fun c hc => ?_⟩
  rcases List.mem_append.1 hc with hc | hc
  · exact hfront c hc
  · exact h.chars c hc

theorem isNumberText_double (x : Double) : IsNumberText (doubleLayout.double x) := by
  have hsign : ∀ c ∈ (if x.isNegative then ['-'] else []), isNumberChar c = true := by
    split
    · exact List.all_eq_true.1 (by decide)
    · exact List.all_eq_true.1 (by decide)
  unfold Number.Layout.double
  dsimp only
  split
  · exact IsNumberText.append hsign ⟨List.cons_ne_nil _ _, List.all_eq_true.1 (by decide)⟩
  · exact IsNumberText.append hsign (isNumberText_decimal _)

/-! ## 6. Where a reader stops -/

/-- A text ends where `rest` starts, or in front of it within a number. -/
def Stops (found rest : List Char) : Prop :=
  found = rest ∨ ∃ c cs, found = c :: cs ∧ isNumberChar c = true

theorem TakesNumber.stops {text found rest : List Char} (h : TakesNumber (text ++ rest) found)
    (htext : ∀ c ∈ text, isNumberChar c = true) (hrest : EndsNumber rest) : Stops found rest := by
  obtain ⟨front, hsplit, hfront⟩ := h
  rcases List.append_eq_append_iff.1 hsplit with ⟨extra, hextra, htail⟩ | ⟨back, hback, htail⟩
  · -- a character taken from what follows would be one that no number has
    cases extra with
    | nil => exact Or.inl htail.symm
    | cons c extra =>
      have hc : isNumberChar c = true := by
        apply hfront
        rw [hextra]
        simp
      rw [hrest c (extra ++ found) htail] at hc
      exact absurd hc (by simp)
  · cases back with
    | nil => exact Or.inl htail
    | cons c back =>
      refine Or.inr ⟨c, back ++ rest, htail, htext c ?_⟩
      rw [hback]
      simp

theorem isBlank_of_isNumberChar {c : Char} (h : isNumberChar c = true) : isBlank c = false := by
  cases hblank : isBlank c with
  | false => rfl
  | true =>
    simp only [isBlank, Bool.or_eq_true, decide_eq_true_eq] at hblank
    rcases hblank with ((rfl | rfl) | rfl) | rfl
    all_goals exact absurd h (by decide)

/-- A mark that no number has, found behind a value, is the one that was written behind it. -/
theorem Stops.mark_eq {found rest tail more : List Char} {mark c : Char} (h : Stops found rest)
    (hrest : skipBlanks rest = mark :: tail) (hc : isNumberChar c = false)
    (hfound : skipBlanks found = c :: more) : c = mark ∧ more = tail := by
  rcases h with rfl | ⟨c', cs, rfl, hc'⟩
  · rw [hrest] at hfound
    exact ⟨(List.cons.inj hfound).1.symm, (List.cons.inj hfound).2.symm⟩
  · rw [skipBlanks_cons (isBlank_of_isNumberChar hc')] at hfound
    rw [(List.cons.inj hfound).1, hc] at hc'
    exact absurd hc' (by simp)

end Stencil.Json
