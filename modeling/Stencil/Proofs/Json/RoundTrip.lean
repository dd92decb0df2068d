import Stencil.Proofs.Json.Tokens
import Stencil.Proofs.Value

/-!
# Reading what was written

A value in its indented form is read back (`readsBack`), in front of any text that does not go on
like a number, by a reader that allows for its depth and has a call for each of its characters. It
is the same value as long as it is one that a text can hold, `Value.isWhole`.

A reader that does not allow for the depth reads nothing. That holds of every value, doubles among
them, and is proved the other way round (`readsThrough`): whatever the reader may give, it gave
it for the whole text, and so it has been through all of the levels.
-/

set_option autoImplicit false

namespace Stencil

namespace Json

/-! ## 1. The reader, one character at a time -/

variable {fuel depth level : Nat} {cs tail rest : List Char} {v : Value}

/-- A reader sees nothing of the blanks in front. -/
theorem value?_skipBlanks : value? fuel depth (skipBlanks cs) = value? fuel depth cs := by
  cases fuel with
  | zero => rfl
  | succ fuel => rw [value?, value?, skipBlanks_skipBlanks]

theorem value?_congr {cs' : List Char} (h : skipBlanks cs = skipBlanks cs') :
    value? fuel depth cs = value? fuel depth cs' := by
  rw [← value?_skipBlanks, h, value?_skipBlanks]

theorem value?_zero : value? 0 depth cs = none := rfl

theorem value?_quote : value? (fuel + 1) depth ('"' :: cs) =
    (stringBody? fuel cs).map fun found => (.str (String.ofList found.1), found.2) := rfl

theorem value?_minus : value? (fuel + 1) depth ('-' :: cs) = number? true cs := rfl

theorem value?_bracket_zero : value? (fuel + 1) 0 ('[' :: cs) = none := rfl

theorem value?_brace_zero : value? (fuel + 1) 0 ('\x7b' :: cs) = none := rfl

theorem value?_number {c : Char} (hc : isNumberChar c = true) (hminus : c ≠ '-') :
    value? (fuel + 1) depth (c :: cs) = number? false (c :: cs) := by
  rw [value?, skipBlanks_cons (isBlank_of_isNumberChar hc)]
  split
  -- every case but the last has its own first character, the minus or one that no number has
  case h_8 => rfl
  case h_5 heq => exact absurd (List.cons.inj heq).1 hminus
  all_goals
    rename_i heq
    rw [(List.cons.inj heq).1] at hc
    exact absurd hc (by decide)

theorem items?_zero : items? 0 depth cs = none := rfl

theorem items?_succ : items? (fuel + 1) depth cs =
    (value? fuel depth cs).bind fun (v, rest) =>
      match skipBlanks rest with
      | ']' :: rest => some ([v], rest)
      | ',' :: rest => (items? fuel depth rest).map fun (vs, rest) => (v :: vs, rest)
      | _ => none := rfl

theorem items?_congr {cs' : List Char} (h : skipBlanks cs = skipBlanks cs') :
    items? fuel depth cs = items? fuel depth cs' := by
  cases fuel with
  | zero => rfl
  | succ fuel => rw [items?_succ, items?_succ, value?_congr h]

theorem fields?_zero : fields? 0 depth cs = none := rfl

theorem fields?_congr {cs' : List Char} (h : skipBlanks cs = skipBlanks cs') :
    fields? fuel depth cs = fields? fuel depth cs' := by
  cases fuel with
  | zero => rfl
  | succ fuel => rw [fields?, fields?, h]

theorem fields?_quote : fields? (fuel + 1) depth ('"' :: cs) =
    (stringBody? fuel cs).bind fun (key, rest) =>
      match skipBlanks rest with
      | ':' :: rest =>
        (value? fuel depth rest).bind fun (v, rest) =>
          match skipBlanks rest with
          | '\x7d' :: rest => some ([(String.ofList key, v)], rest)
          | ',' :: rest =>
            (fields? fuel depth rest).map fun (es, rest) => ((String.ofList key, v) :: es, rest)
          | _ => none
      | _ => none := rfl

theorem value?_bracket (h : ∀ tail, skipBlanks cs ≠ ']' :: tail) :
    value? (fuel + 1) (depth + 1) ('[' :: cs) =
      (items? fuel depth cs).map fun found => (.list found.1, found.2) := by
  rw [← items?_congr (skipBlanks_skipBlanks cs), value?, skipBlanks_cons rfl]
  simp only

theorem value?_brace (h : ∀ tail, skipBlanks cs ≠ '\x7d' :: tail) :
    value? (fuel + 1) (depth + 1) ('\x7b' :: cs) =
      (fields? fuel depth cs).map fun found => (.map (Fields.ofList found.1), found.2) := by
  rw [← fields?_congr (skipBlanks_skipBlanks cs), value?, skipBlanks_cons rfl]
  simp only

/-! ## 2. Elements and entries -/

theorem literal_append (s : String) (tail : List Char) :
    literal s ++ tail = '"' :: (s.toList.flatMap charEscape ++ '"' :: tail) := by
  simp [literal]

theorem length_literal (s : String) : s.toList.length + 2 ≤ (literal s).length := by
  have hbody : ∀ cs : List Char, cs.length ≤ (cs.flatMap charEscape).length := by
    intro cs
    induction cs with
    | nil => exact Nat.le_refl _
    | cons c cs ih =>
      have hc : 1 ≤ (charEscape c).length := by
        unfold charEscape
        repeat' split
        all_goals simp
      rw [List.flatMap_cons, List.length_append, List.length_cons]
      omega
  have h := hbody s.toList
  simp only [literal, List.length_append, List.length_cons, List.length_nil]
  omega

section Rows

variable {found : List Char}

theorem items?_last (hv : value? fuel depth cs = some (v, found))
    (hfound : skipBlanks found = ']' :: rest) :
    items? (fuel + 1) depth cs = some ([v], rest) := by
  simp only [items?_succ, hv, Option.bind_some, hfound]

theorem items?_next (hv : value? fuel depth cs = some (v, found))
    (hfound : skipBlanks found = ',' :: tail) :
    items? (fuel + 1) depth cs =
      (items? fuel depth tail).map fun more => (v :: more.1, more.2) := by
  simp only [items?_succ, hv, Option.bind_some, hfound]

theorem items?_cases {vs : List Value} (h : items? (fuel + 1) depth cs = some (vs, rest)) :
    ∃ v found, value? fuel depth cs = some (v, found) ∧
      (skipBlanks found = ']' :: rest ∨
        ∃ tail, skipBlanks found = ',' :: tail ∧
          ∃ more, items? fuel depth tail = some (more, rest)) := by
  rw [items?_succ, Option.bind_eq_some_iff] at h
  obtain ⟨⟨v, found⟩, hv, h⟩ := h
  refine ⟨v, found, hv, ?_⟩
  dsimp only at h
  split at h
  · rename_i hfound
    simp only [Option.some.injEq, Prod.mk.injEq] at h
    exact Or.inl (h.2 ▸ hfound)
  · rename_i tail hfound
    obtain ⟨⟨more, rest'⟩, hmore, heq⟩ := Option.map_eq_some_iff.1 h
    rw [Prod.mk.injEq] at heq
    exact Or.inr ⟨tail, hfound, more, heq.2 ▸ hmore⟩
  · exact absurd h (by simp)

theorem fields?_last {key : String} (hkey : key.toList.length < fuel)
    (hv : value? fuel depth tail = some (v, found)) (hfound : skipBlanks found = '\x7d' :: rest) :
    fields? (fuel + 1) depth (literal key ++ ':' :: tail) = some ([(key, v)], rest) := by
  simp only [literal_append, fields?_quote, stringBody?_literal, if_pos hkey, Option.bind_some,
    skipBlanks_cons (c := ':') rfl, hv, hfound, String.ofList_toList]

theorem fields?_next {key : String} {next : List Char} (hkey : key.toList.length < fuel)
    (hv : value? fuel depth tail = some (v, found)) (hfound : skipBlanks found = ',' :: next) :
    fields? (fuel + 1) depth (literal key ++ ':' :: tail) =
      (fields? fuel depth next).map fun more => ((key, v) :: more.1, more.2) := by
  simp only [literal_append, fields?_quote, stringBody?_literal, if_pos hkey, Option.bind_some,
    skipBlanks_cons (c := ':') rfl, hv, hfound, String.ofList_toList]

theorem fields?_cases {key : String} {es : List (String × Value)}
    (h : fields? (fuel + 1) depth (literal key ++ ':' :: tail) = some (es, rest)) :
    ∃ v found, value? fuel depth tail = some (v, found) ∧
      (skipBlanks found = '\x7d' :: rest ∨
        ∃ next, skipBlanks found = ',' :: next ∧
          ∃ more, fields? fuel depth next = some (more, rest)) := by
  rw [literal_append, fields?_quote, stringBody?_literal] at h
  by_cases hkey : key.toList.length < fuel
  · simp only [if_pos hkey, Option.bind_some, skipBlanks_cons (c := ':') rfl,
      Option.bind_eq_some_iff] at h
    obtain ⟨⟨v, found⟩, hv, h⟩ := h
    refine ⟨v, found, hv, ?_⟩
    dsimp only at h
    split at h
    · rename_i hfound
      simp only [Option.some.injEq, Prod.mk.injEq] at h
      exact Or.inl (h.2 ▸ hfound)
    · rename_i next hfound
      obtain ⟨⟨more, rest'⟩, hmore, heq⟩ := Option.map_eq_some_iff.1 h
      rw [Prod.mk.injEq] at heq
      exact Or.inr ⟨next, hfound, more, heq.2 ▸ hmore⟩
    · exact absurd h (by simp)
  · rw [if_neg hkey] at h
    exact absurd h (by simp)

end Rows

/-! ## 3. Scalars -/

theorem value?_literal {s : String} (h : s.toList.length < fuel) :
    value? (fuel + 1) depth (literal s ++ rest) = some (.str s, rest) := by
  rw [literal_append, value?_quote, stringBody?_literal, if_pos h]
  simp

theorem value?_intChars {n : Int} (hlow : -(Nat.pow 2 63 : Int) ≤ n)
    (hhigh : n < (Nat.pow 2 64 : Int)) (hrest : EndsNumber rest) :
    value? (fuel + 1) depth (intChars n ++ rest) = some (.int n, rest) := by
  cases n with
  | ofNat n =>
    have hn : n < Nat.pow 2 64 := Int.ofNat_lt.1 hhigh
    have hread : number? false (Nat.toDigits 10 n ++ rest) = some (.int n, rest) :=
      number?_toDigits hrest (value?_of_nonneg hn)
    show value? (fuel + 1) depth (Nat.toDigits 10 n ++ rest) = _
    cases hdigits : Nat.toDigits 10 n with
    | nil => exact absurd hdigits Nat.toDigits_ne_nil
    | cons c cs =>
      have hc : c.isDigit = true :=
        Nat.isDigit_of_mem_toDigits (by decide) (by decide) (hdigits ▸ List.mem_cons_self)
      rw [hdigits] at hread
      rw [List.cons_append, value?_number (isNumberChar_of_isDigit hc) ?_]
      · exact hread
      · rintro rfl
        exact absurd hc (by decide)
  | negSucc n =>
    have hn : n + 1 ≤ Nat.pow 2 63 := by
      rw [Int.negSucc_eq] at hlow
      exact Int.ofNat_le.1 (Int.neg_le_neg_iff.1 hlow)
    rw [intChars, List.cons_append, value?_minus]
    exact number?_toDigits hrest (value?_of_neg (Nat.succ_pos n) hn)

/-! ## 4. The text of a value -/

theorem pretty_list_append (level : Nat) (v : Value) (items : List Value) (rest : List Char) :
    pretty level (.list (v :: items)) ++ rest =
      '[' :: (prettyItems (level + 1) (v :: items) ++ (indent level ++ ']' :: rest)) := by
  show '[' :: prettyItems (level + 1) (v :: items) ++ indent level ++ [']'] ++ rest = _
  simp only [List.cons_append, List.append_assoc, List.nil_append]

theorem pretty_map_append (level : Nat) (e : String × Value) (fields : List (String × Value))
    (rest : List Char) :
    pretty level (.map (e :: fields)) ++ rest =
      '\x7b' :: (prettyFields (level + 1) (e :: fields) ++ (indent level ++ '\x7d' :: rest)) := by
  show '\x7b' :: prettyFields (level + 1) (e :: fields) ++ indent level ++ ['\x7d'] ++ rest = _
  simp only [List.cons_append, List.append_assoc, List.nil_append]

theorem prettyItems_one (level : Nat) (v : Value) :
    prettyItems level [v] = indent level ++ pretty level v := rfl

theorem prettyItems_more (level : Nat) (v w : Value) (items : List Value) :
    prettyItems level (v :: w :: items) =
      indent level ++ pretty level v ++ ',' :: prettyItems level (w :: items) := rfl

theorem prettyFields_one (level : Nat) (k : String) (v : Value) :
    prettyFields level [(k, v)] = indent level ++ literal k ++ ':' :: ' ' :: pretty level v := rfl

theorem prettyFields_more (level : Nat) (k : String) (v : Value) (e : String × Value)
    (fields : List (String × Value)) :
    prettyFields level ((k, v) :: e :: fields) =
      indent level ++ literal k ++ ':' :: ' ' :: pretty level v ++
        ',' :: prettyFields level (e :: fields) := rfl

theorem IsNumberText.head {text : List Char} (h : IsNumberText text) :
    ∃ c cs, text = c :: cs ∧ isNumberChar c = true := by
  cases text with
  | nil => exact absurd rfl h.ne_nil
  | cons c cs => exact ⟨c, cs, rfl, h.chars c List.mem_cons_self⟩

/-- A value that starts neither with a blank nor with a bracket that closes. -/
theorem pretty_head (level : Nat) (v : Value) :
    ∃ c cs, pretty level v = c :: cs ∧ isBlank c = false ∧ c ≠ ']' := by
  have hnumber : ∀ {text : List Char}, IsNumberText text →
      ∃ c cs, text = c :: cs ∧ isBlank c = false ∧ c ≠ ']' := by
    intro text htext
    obtain ⟨c, cs, htext, hc⟩ := htext.head
    refine ⟨c, cs, htext, isBlank_of_isNumberChar hc, ?_⟩
    rintro rfl
    exact absurd hc (by decide)
  cases v with
  | null => exact ⟨_, _, rfl, rfl, by decide⟩
  | bool b =>
    cases b with
    | false => exact ⟨_, _, rfl, rfl, by decide⟩
    | true => exact ⟨_, _, rfl, rfl, by decide⟩
  | int n => exact hnumber (isNumberText_intChars n)
  | float x =>
    show ∃ c cs, doubleChars x = c :: cs ∧ isBlank c = false ∧ c ≠ ']'
    unfold doubleChars
    split
    · exact hnumber (isNumberText_double x)
    · exact ⟨_, _, rfl, rfl, by decide⟩
  | str s => exact ⟨_, _, rfl, rfl, by decide⟩
  | list items =>
    cases items with
    | nil => exact ⟨_, _, rfl, rfl, by decide⟩
    | cons v rest => exact ⟨_, _, rfl, rfl, by decide⟩
  | map fields =>
    cases fields with
    | nil => exact ⟨_, _, rfl, rfl, by decide⟩
    | cons e rest => exact ⟨_, _, rfl, rfl, by decide⟩

theorem prettyItems_open (level : Nat) (v : Value) (items : List Value) (cs tail : List Char) :
    skipBlanks (prettyItems level (v :: items) ++ cs) ≠ ']' :: tail := by
  obtain ⟨c, vs, hv, hblank, hc⟩ := pretty_head level v
  have hskip : ∀ more, skipBlanks (indent level ++ (pretty level v ++ more)) ≠ ']' :: tail := by
    intro more
    rw [skipBlanks_indent, hv, List.cons_append, skipBlanks_cons hblank]
    intro heq
    exact hc (List.cons.inj heq).1
  cases items with
  | nil =>
    rw [prettyItems_one, List.append_assoc]
    exact hskip _
  | cons w items =>
    rw [prettyItems_more, List.append_assoc, List.append_assoc]
    exact hskip _

theorem prettyFields_open (level : Nat) (e : String × Value) (fields : List (String × Value))
    (cs tail : List Char) :
    skipBlanks (prettyFields level (e :: fields) ++ cs) ≠ '\x7d' :: tail := by
  obtain ⟨k, v⟩ := e
  have hskip : ∀ more, skipBlanks (indent level ++ (literal k ++ more)) ≠ '\x7d' :: tail := by
    intro more
    rw [skipBlanks_indent, literal_append, skipBlanks_cons rfl]
    intro heq
    exact absurd (List.cons.inj heq).1 (by decide)
  cases fields with
  | nil =>
    rw [prettyFields_one, List.append_assoc, List.append_assoc]
    exact hskip _
  | cons e' fields =>
    rw [prettyFields_more, List.append_assoc, List.append_assoc, List.append_assoc]
    exact hskip _

/-! ## 5. A value is read back -/

/-- A value at a level of nesting is read back by a reader with `depth` levels left. -/
def ReadsBack (depth level : Nat) (v : Value) : Prop :=
  ∀ fuel rest, (pretty level v).length ≤ fuel → EndsNumber rest →
    value? fuel depth (pretty level v ++ rest) = some (v, rest)

/-- Behind a colon and a blank it is read back as well. -/
theorem ReadsBack.behind_colon (h : ReadsBack depth level v)
    (hfuel : (pretty level v).length ≤ fuel) (hrest : EndsNumber rest) :
    value? fuel depth (' ' :: (pretty level v ++ rest)) = some (v, rest) := by
  rw [value?_congr (skipBlanks_space _)]
  exact h fuel rest hfuel hrest

theorem endsNumber_indent (level : Nat) (cs : List Char) : EndsNumber (indent level ++ cs) :=
  endsNumber_cons (by decide) _

theorem skipBlanks_mark (level : Nat) {mark : Char} (h : isBlank mark = false) (cs : List Char) :
    skipBlanks (indent level ++ mark :: cs) = mark :: cs := by
  rw [skipBlanks_indent, skipBlanks_cons h]

theorem items?_prettyItems {items : List Value} (hne : items ≠ [])
    (h : ∀ v ∈ items, ReadsBack depth level v) (outer : Nat)
    (hfuel : (prettyItems level items).length ≤ fuel) :
    items? fuel depth (prettyItems level items ++ (indent outer ++ ']' :: rest)) =
      some (items, rest) := by
  -- the line start in front of each element pays for the call that reads it
  induction items generalizing fuel with
  | nil => exact absurd rfl hne
  | cons v items ih =>
    obtain ⟨hv, hitems⟩ := List.forall_mem_cons.1 h
    cases items with
    | nil =>
      simp only [prettyItems_one, List.length_append, indent, List.length_cons] at hfuel
      obtain ⟨fuel, rfl⟩ : ∃ n, fuel = n + 1 := ⟨fuel - 1, by omega⟩
      rw [prettyItems_one, List.append_assoc, items?_congr (skipBlanks_indent level _)]
      exact items?_last (hv fuel _ (by omega) (endsNumber_indent outer _))
        (skipBlanks_mark outer rfl rest)
    | cons w items =>
      simp only [prettyItems_more, List.length_append, indent, List.length_cons] at hfuel
      obtain ⟨fuel, rfl⟩ : ∃ n, fuel = n + 1 := ⟨fuel - 1, by omega⟩
      have hread := hv fuel
        (',' :: (prettyItems level (w :: items) ++ (indent outer ++ ']' :: rest)))
        (by omega) (endsNumber_cons (by decide) _)
      rw [prettyItems_more, List.append_assoc, List.append_assoc,
        items?_congr (skipBlanks_indent level _), List.cons_append]
      rw [items?_next hread (skipBlanks_cons rfl _)]
      rw [ih (List.cons_ne_nil _ _) hitems (by omega)]
      rfl

theorem fields?_prettyFields {fields : List (String × Value)} (hne : fields ≠ [])
    (h : ∀ e ∈ fields, ReadsBack depth level e.2) (outer : Nat)
    (hfuel : (prettyFields level fields).length ≤ fuel) :
    fields? fuel depth (prettyFields level fields ++ (indent outer ++ '\x7d' :: rest)) =
      some (fields, rest) := by
  induction fields generalizing fuel with
  | nil => exact absurd rfl hne
  | cons e fields ih =>
    obtain ⟨k, v⟩ := e
    obtain ⟨hv, hfields⟩ := List.forall_mem_cons.1 h
    have hv : ReadsBack depth level v := hv
    have hkey := length_literal k
    cases fields with
    | nil =>
      simp only [prettyFields_one, List.length_append, indent, List.length_cons] at hfuel
      obtain ⟨fuel, rfl⟩ : ∃ n, fuel = n + 1 := ⟨fuel - 1, by omega⟩
      rw [prettyFields_one, List.append_assoc, List.append_assoc,
        fields?_congr (skipBlanks_indent level _), List.cons_append, List.cons_append]
      exact fields?_last (by omega) (hv.behind_colon (by omega) (endsNumber_indent outer _))
        (skipBlanks_mark outer rfl rest)
    | cons e' fields =>
      simp only [prettyFields_more, List.length_append, indent, List.length_cons] at hfuel
      obtain ⟨fuel, rfl⟩ : ∃ n, fuel = n + 1 := ⟨fuel - 1, by omega⟩
      rw [prettyFields_more]
      simp only [List.append_assoc, List.cons_append]
      rw [fields?_congr (skipBlanks_indent level _)]
      rw [fields?_next (by omega)
        (hv.behind_colon (by omega) (endsNumber_cons (by decide) _)) (skipBlanks_cons rfl _)]
      rw [ih (List.cons_ne_nil _ _) hfields (by omega)]
      rfl

theorem readsBack_of_succ
    (h : ∀ fuel rest, (pretty level v).length ≤ fuel + 1 → EndsNumber rest →
      value? (fuel + 1) depth (pretty level v ++ rest) = some (v, rest)) :
    ReadsBack depth level v := by
  intro fuel rest hfuel hrest
  obtain ⟨c, cs, hv, -, -⟩ := pretty_head level v
  have hpos : 0 < (pretty level v).length := by
    rw [hv]
    exact Nat.succ_pos _
  obtain ⟨fuel, rfl⟩ : ∃ n, fuel = n + 1 := ⟨fuel - 1, by omega⟩
  exact h fuel rest hfuel hrest

/-- A whole value is read back wherever there are levels enough for it. -/
theorem readsBack (v : Value) :
    ∀ depth level, v.isWhole = true → v.depth ≤ depth → ReadsBack depth level v := by
  induction v using Value.induction with
  | null =>
    intro depth level _ _
    exact readsBack_of_succ fun fuel rest _ _ => rfl
  | bool b =>
    intro depth level _ _
    refine readsBack_of_succ fun fuel rest _ _ => ?_
    cases b with
    | false => rfl
    | true => rfl
  | int n =>
    intro depth level hwhole _
    refine readsBack_of_succ fun fuel rest _ hrest => ?_
    obtain ⟨hlow, hhigh⟩ := Value.isWhole_int_iff.1 hwhole
    exact value?_intChars hlow hhigh hrest
  | float x =>
    intro depth level hwhole _
    exact absurd hwhole Bool.false_ne_true
  | str s =>
    intro depth level _ _
    refine readsBack_of_succ fun fuel rest hfuel _ => ?_
    have hlength := length_literal s
    have hfuel : (literal s).length ≤ fuel + 1 := hfuel
    exact value?_literal (by omega)
  | list items ih =>
    -- the bracket takes one level and one call, and the elements have the rest of both
    intro depth level hwhole hdepth
    have hwhole := Value.isWholeList_iff.1 hwhole
    obtain ⟨depth, rfl, hitems⟩ := Value.depth_list_le_iff.1 hdepth
    refine readsBack_of_succ fun fuel rest hfuel _ => ?_
    cases items with
    | nil => rfl
    | cons v items =>
      have hread : ∀ w ∈ v :: items, ReadsBack depth (level + 1) w :=
        fun w hw => ih w hw depth (level + 1) (hwhole w hw) (hitems w hw)
      have hlength : (prettyItems (level + 1) (v :: items)).length ≤ fuel := by
        have htext := congrArg List.length (pretty_list_append level v items [])
        simp only [List.length_append, List.length_cons, List.length_nil] at htext
        omega
      rw [pretty_list_append, value?_bracket (prettyItems_open _ v items _),
        items?_prettyItems (List.cons_ne_nil v items) hread level hlength]
      rfl
  | map fields ih =>
    intro depth level hwhole hdepth
    obtain ⟨hdistinct, hwhole⟩ := Value.isWhole_map_iff.1 hwhole
    obtain ⟨depth, rfl, hfields⟩ := Value.depth_map_le_iff.1 hdepth
    refine readsBack_of_succ fun fuel rest hfuel _ => ?_
    cases fields with
    | nil => rfl
    | cons e fields =>
      have hread : ∀ e' ∈ e :: fields, ReadsBack depth (level + 1) e'.2 :=
        fun e' he => ih e' he depth (level + 1) (hwhole e' he) (hfields e' he)
      have hlength : (prettyFields (level + 1) (e :: fields)).length ≤ fuel := by
        have htext := congrArg List.length (pretty_map_append level e fields [])
        simp only [List.length_append, List.length_cons, List.length_nil] at htext
        omega
      rw [pretty_map_append, value?_brace (prettyFields_open _ e fields _),
        fields?_prettyFields (List.cons_ne_nil e fields) hread level hlength, Option.map_some,
        Fields.ofList_eq_self hdistinct]

/-! ## 6. A value that is too deep -/

/-- Whatever a reader gives for the text of a value, it has been through all of its levels, and has
not gone beyond the text. -/
def ReadsThrough (depth level : Nat) (v : Value) : Prop :=
  ∀ fuel rest w found, EndsNumber rest →
    value? fuel depth (pretty level v ++ rest) = some (w, found) →
      v.depth ≤ depth ∧ Stops found rest

theorem stops_of_number {text found : List Char} {w : Value} (htext : IsNumberText text)
    (hrest : EndsNumber rest) (h : value? fuel depth (text ++ rest) = some (w, found)) :
    Stops found rest := by
  cases fuel with
  | zero => exact absurd h (by simp [value?_zero])
  | succ fuel =>
    obtain ⟨c, cs, rfl, hc⟩ := htext.head
    by_cases hminus : c = '-'
    · subst hminus
      rw [List.cons_append, value?_minus] at h
      have hchars : ∀ c ∈ cs, isNumberChar c = true :=
        fun c hc => htext.chars c (List.mem_cons_of_mem _ hc)
      exact (takesNumber_number? h).stops hchars hrest
    · rw [List.cons_append, value?_number hc hminus] at h
      exact (takesNumber_number? h).stops htext.chars hrest

/-- Behind the last value of a row a reader finds the mark that closes the row, and no comma. -/
theorem Stops.closes {behind after found : List Char} {mark : Char} {more : List Char → Prop}
    (h : Stops behind after) (hafter : skipBlanks after = mark :: rest)
    (hmark : isNumberChar mark = false) (hcomma : mark ≠ ',')
    (hfound : skipBlanks behind = mark :: found ∨
      ∃ tail, skipBlanks behind = ',' :: tail ∧ more tail) : found = rest := by
  rcases hfound with hclose | ⟨tail, hnext, -⟩
  · exact (h.mark_eq hafter hmark hclose).2
  · exact absurd (h.mark_eq hafter (by decide) hnext).1.symm hcomma

/-- Behind the other values of a row it finds the comma, and what is behind that. -/
theorem Stops.goes_on {behind after next found : List Char} {mark : Char}
    {more : List Char → Prop} (h : Stops behind after) (hafter : skipBlanks after = ',' :: next)
    (hmark : isNumberChar mark = false) (hcomma : mark ≠ ',')
    (hfound : skipBlanks behind = mark :: found ∨
      ∃ tail, skipBlanks behind = ',' :: tail ∧ more tail) : more next := by
  rcases hfound with hclose | ⟨tail, hnext, hmore⟩
  · exact absurd (h.mark_eq hafter hmark hclose).1 hcomma
  · rwa [(h.mark_eq hafter (by decide) hnext).2] at hmore

theorem depth_le_of_items? {items vs : List Value} {found : List Char} (hne : items ≠ [])
    (h : ∀ v ∈ items, ReadsThrough depth level v) (outer : Nat)
    (hread : items? fuel depth (prettyItems level items ++ (indent outer ++ ']' :: rest)) =
      some (vs, found)) :
    (∀ v ∈ items, v.depth ≤ depth) ∧ found = rest := by
  induction items generalizing fuel vs with
  | nil => exact absurd rfl hne
  | cons v items ih =>
    obtain ⟨hv, hitems⟩ := List.forall_mem_cons.1 h
    cases fuel with
    | zero => exact absurd hread (by simp [items?_zero])
    | succ fuel =>
      cases items with
      | nil =>
        rw [prettyItems_one, List.append_assoc, items?_congr (skipBlanks_indent level _)] at hread
        obtain ⟨w, behind, hw, hbehind⟩ := items?_cases hread
        obtain ⟨hdepth, hstops⟩ := hv _ _ _ _ (endsNumber_indent outer _) hw
        -- the reader may have stopped within a number, but then it finds no bracket and no comma
        have hfound :=
          hstops.closes (skipBlanks_mark outer rfl rest) (by decide) (by decide) hbehind
        exact ⟨by simpa using hdepth, hfound⟩
      | cons w items =>
        rw [prettyItems_more, List.append_assoc, List.append_assoc,
          items?_congr (skipBlanks_indent level _), List.cons_append] at hread
        obtain ⟨w', behind, hw, hbehind⟩ := items?_cases hread
        obtain ⟨hdepth, hstops⟩ := hv _ _ _ _ (endsNumber_cons (by decide) _) hw
        obtain ⟨more, hmore⟩ :=
          hstops.goes_on (skipBlanks_cons rfl _) (by decide) (by decide) hbehind
        obtain ⟨hdepths, hfound⟩ := ih (List.cons_ne_nil _ _) hitems hmore
        exact ⟨List.forall_mem_cons.2 ⟨hdepth, hdepths⟩, hfound⟩

theorem depth_le_of_fields? {fields es : List (String × Value)} {found : List Char}
    (hne : fields ≠ []) (h : ∀ e ∈ fields, ReadsThrough depth level e.2) (outer : Nat)
    (hread : fields? fuel depth (prettyFields level fields ++ (indent outer ++ '\x7d' :: rest)) =
      some (es, found)) :
    (∀ e ∈ fields, e.2.depth ≤ depth) ∧ found = rest := by
  induction fields generalizing fuel es with
  | nil => exact absurd rfl hne
  | cons e fields ih =>
    obtain ⟨k, v⟩ := e
    obtain ⟨hv, hfields⟩ := List.forall_mem_cons.1 h
    have hv : ReadsThrough depth level v := hv
    cases fuel with
    | zero => exact absurd hread (by simp [fields?_zero])
    | succ fuel =>
      cases fields with
      | nil =>
        rw [prettyFields_one, List.append_assoc, List.append_assoc,
          fields?_congr (skipBlanks_indent level _), List.cons_append, List.cons_append] at hread
        obtain ⟨w, behind, hw, hbehind⟩ := fields?_cases hread
        rw [value?_congr (skipBlanks_space _)] at hw
        obtain ⟨hdepth, hstops⟩ := hv _ _ _ _ (endsNumber_indent outer _) hw
        have hfound :=
          hstops.closes (skipBlanks_mark outer rfl rest) (by decide) (by decide) hbehind
        exact ⟨by simpa using hdepth, hfound⟩
      | cons e' fields =>
        rw [prettyFields_more] at hread
        simp only [List.append_assoc, List.cons_append] at hread
        rw [fields?_congr (skipBlanks_indent level _)] at hread
        obtain ⟨w, behind, hw, hbehind⟩ := fields?_cases hread
        rw [value?_congr (skipBlanks_space _)] at hw
        obtain ⟨hdepth, hstops⟩ := hv _ _ _ _ (endsNumber_cons (by decide) _) hw
        obtain ⟨more, hmore⟩ :=
          hstops.goes_on (skipBlanks_cons rfl _) (by decide) (by decide) hbehind
        obtain ⟨hdepths, hfound⟩ := ih (List.cons_ne_nil _ _) hfields hmore
        exact ⟨List.forall_mem_cons.2 ⟨hdepth, hdepths⟩, hfound⟩

theorem readsThrough_of_succ
    (h : ∀ fuel rest w found, EndsNumber rest →
      value? (fuel + 1) depth (pretty level v ++ rest) = some (w, found) →
        v.depth ≤ depth ∧ Stops found rest) :
    ReadsThrough depth level v := by
  intro fuel rest w found hrest hread
  cases fuel with
  | zero => exact absurd hread (by simp [value?_zero])
  | succ fuel => exact h fuel rest w found hrest hread

/-- Without a level left a reader gives nothing, not even for an empty list. -/
theorem value?_list_eq_none (level : Nat) (items : List Value) :
    value? (fuel + 1) 0 (pretty level (.list items) ++ rest) = none := by
  cases items with
  | nil => rfl
  | cons v items => rw [pretty_list_append, value?_bracket_zero]

theorem value?_map_eq_none (level : Nat) (fields : List (String × Value)) :
    value? (fuel + 1) 0 (pretty level (.map fields) ++ rest) = none := by
  cases fields with
  | nil => rfl
  | cons e fields => rw [pretty_map_append, value?_brace_zero]

theorem readsThrough (v : Value) : ∀ depth level, ReadsThrough depth level v := by
  induction v using Value.induction with
  | null =>
    intro depth level
    refine readsThrough_of_succ fun fuel rest w found _ hread => ⟨Nat.zero_le _, Or.inl ?_⟩
    cases hread
    rfl
  | bool b =>
    intro depth level
    refine readsThrough_of_succ fun fuel rest w found _ hread => ⟨Nat.zero_le _, Or.inl ?_⟩
    cases b with
    | false =>
      cases hread
      rfl
    | true =>
      cases hread
      rfl
  | int n =>
    intro depth level fuel rest w found hrest hread
    exact ⟨Nat.zero_le _, stops_of_number (isNumberText_intChars n) hrest hread⟩
  | float x =>
    intro depth level
    refine readsThrough_of_succ fun fuel rest w found hrest hread => ⟨Nat.zero_le _, ?_⟩
    have hread : value? (fuel + 1) depth (doubleChars x ++ rest) = some (w, found) := hread
    unfold doubleChars at hread
    split at hread
    · exact stops_of_number (isNumberText_double x) hrest hread
    · cases hread
      exact Or.inl rfl
  | str s =>
    intro depth level
    refine readsThrough_of_succ fun fuel rest w found _ hread => ⟨Nat.zero_le _, Or.inl ?_⟩
    have hread : value? (fuel + 1) depth (literal s ++ rest) = some (w, found) := hread
    rw [literal_append, value?_quote, stringBody?_literal] at hread
    split at hread
    · cases hread
      rfl
    · exact absurd hread (by simp)
  | list items ih =>
    intro depth level
    refine readsThrough_of_succ fun fuel rest w found _ hread => ?_
    cases depth with
    | zero =>
      rw [value?_list_eq_none] at hread
      exact absurd hread (by simp)
    | succ depth =>
      cases items with
      | nil =>
        cases hread
        exact ⟨Nat.le_add_left 1 depth, Or.inl rfl⟩
      | cons v items =>
        rw [pretty_list_append, value?_bracket (prettyItems_open _ v items _)] at hread
        obtain ⟨⟨vs, found'⟩, hitems, heq⟩ := Option.map_eq_some_iff.1 hread
        obtain ⟨hdepths, hfound⟩ := depth_le_of_items? (List.cons_ne_nil v items)
          (fun w hw => ih w hw depth (level + 1)) level hitems
        refine ⟨Value.depth_list_le_iff.2 ⟨depth, rfl, hdepths⟩, Or.inl ?_⟩
        rw [← hfound]
        exact (Prod.mk.inj heq).2.symm
  | map fields ih =>
    intro depth level
    refine readsThrough_of_succ fun fuel rest w found _ hread => ?_
    cases depth with
    | zero =>
      rw [value?_map_eq_none] at hread
      exact absurd hread (by simp)
    | succ depth =>
      cases fields with
      | nil =>
        cases hread
        exact ⟨Nat.le_add_left 1 depth, Or.inl rfl⟩
      | cons e fields =>
        rw [pretty_map_append, value?_brace (prettyFields_open _ e fields _)] at hread
        obtain ⟨⟨es, found'⟩, hfields, heq⟩ := Option.map_eq_some_iff.1 hread
        obtain ⟨hdepths, hfound⟩ := depth_le_of_fields? (List.cons_ne_nil e fields)
          (fun e' he => ih e' he depth (level + 1)) level hfields
        refine ⟨Value.depth_map_le_iff.2 ⟨depth, rfl, hdepths⟩, Or.inl ?_⟩
        rw [← hfound]
        exact (Prod.mk.inj heq).2.symm

/-! ## 7. Whole texts -/

/-- A whole value that is not too deep is what its text holds. -/
theorem readChars?_pretty {v : Value} (hwhole : v.isWhole = true) (hdepth : v.depth ≤ depthLimit) :
    readChars? (pretty 0 v ++ ['\n']) = some v := by
  have hfuel : (pretty 0 v).length ≤ 2 * (pretty 0 v ++ ['\n']).length + 1 := by
    rw [List.length_append]
    omega
  have hread := readsBack v depthLimit 0 hwhole hdepth _ ['\n'] hfuel
    (endsNumber_cons (by decide) _)
  unfold readChars?
  rw [hread]
  rfl

/-- The text of a value that is too deep holds none. -/
theorem readChars?_too_deep {v : Value} (hdepth : depthLimit < v.depth) :
    readChars? (pretty 0 v ++ ['\n']) = none := by
  unfold readChars?
  cases hread : value? (2 * (pretty 0 v ++ ['\n']).length + 1) depthLimit
      (pretty 0 v ++ ['\n']) with
  | none => rfl
  | some found =>
    have hle := (readsThrough v depthLimit 0 _ _ _ _ (endsNumber_cons (by decide) _) hread).1
    exact absurd hdepth (Nat.not_lt.2 hle)

end Json

end Stencil
