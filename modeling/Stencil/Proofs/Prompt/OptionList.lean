import Stencil.Prompt.OptionList
import Stencil.Proofs.Text.Mark
import Stencil.Proofs.Text.Pattern
import Stencil.Proofs.Text.Pieces
import Stencil.Proofs.Value

/-!
# Option lists, read plainly

An item of an option list is read by a pattern with greedy, lazy and optional parts. On one line it comes
to cutting at the first `>` and trimming (`entry?_eq`): blanks are taken greedily, so what follows them
starts with something else or not at all; the key and the label are taken lazily, so they end with
something else.

A repeated key keeps its first place and its last label. So a list of options that is written out entry by
entry gives the options back (`read_plainly`).
-/

set_option autoImplicit false

namespace Stencil

/-! ## 1. Repeated keys -/

namespace Fields

variable {α : Type}

/-- Each key once, in its first place and with its last value. -/
def lastOfEach (entries : List (String × α)) : Fields α :=
  (keys entries).eraseDups.filterMap fun key => (find? key entries.reverse).map (key, ·)

theorem ofList_concat (entries : List (String × α)) (e : String × α) :
    ofList (entries ++ [e]) = put e.1 e.2 (ofList entries) := by
  unfold ofList
  rw [List.foldl_append]
  rfl

theorem distinct_ofList (entries : List (String × α)) : Distinct (ofList entries) := by
  induction entries using List.reverseRecOn with
  | nil => exact List.nodup_nil
  | append_singleton entries e ih =>
    rw [ofList_concat]
    exact ih.put _ _

theorem keys_ofList (entries : List (String × α)) : keys (ofList entries) = (keys entries).eraseDups := by
  induction entries using List.reverseRecOn with
  | nil => rfl
  | append_singleton entries e ih =>
    have hkeys : keys (entries ++ [e]) = keys entries ++ [e.1] := List.map_append
    rw [ofList_concat, put, keys_alter, ih, hkeys, List.eraseDups_append]
    simp only [List.mem_eraseDups]
    by_cases h : e.1 ∈ keys entries
    · simp [h, List.removeAll]
    · simp [h, List.removeAll, List.eraseDups_cons]

theorem find?_ofList (key : String) (entries : List (String × α)) :
    find? key (ofList entries) = find? key entries.reverse := by
  induction entries using List.reverseRecOn with
  | nil => rfl
  | append_singleton entries e ih =>
    rw [ofList_concat, List.reverse_append, List.reverse_singleton, List.singleton_append, find?]
    split
    · rename_i h
      rw [← h, find?_put_same]
    · rename_i h
      rw [find?_put_other h, ih]

/-- Entries are their keys with what stands under them. -/
theorem filterMap_keys {fields : Fields α} (h : Distinct fields) :
    (keys fields).filterMap (fun key => (find? key fields).map (key, ·)) = fields := by
  induction fields with
  | nil => rfl
  | cons e rest ih =>
    obtain ⟨k, v⟩ := e
    obtain ⟨hnew, hrest⟩ := List.nodup_cons.1 h
    have hkeys : keys ((k, v) :: rest) = k :: keys rest := rfl
    have hsame : (keys rest).filterMap (fun key => (find? key ((k, v) :: rest)).map (key, ·)) =
        (keys rest).filterMap (fun key => (find? key rest).map (key, ·)) := by
      refine List.filterMap_congr fun key hkey => ?_
      have hne : k ≠ key := fun heq => hnew (heq ▸ hkey)
      rw [find?, if_neg hne]
    rw [hkeys, List.filterMap_cons, hsame, ih hrest]
    simp

theorem ofList_eq_lastOfEach (entries : List (String × α)) : ofList entries = lastOfEach entries := by
  have h := filterMap_keys (distinct_ofList entries)
  simp only [keys_ofList, find?_ofList] at h
  exact h.symm

end Fields

/-! ## 2. Ends of a text -/

namespace OptionList

open Text (Pattern)
open Text.Pattern (anyRest eq_of_mem_matches first?_greedy first?_lazy first?_of_wanted first?_one
  first?_optional first?_optional_of_none first?_seq first?_seq_eq_none matches_one_eq_nil
  mem_matches_many whole?_eq)

variable {cs : List Char}

theorem mark_not_blank : ¬ isBlank '>' = true := by
  decide

/-- What is left of a text whose blanks at the end were dropped ends with something else. -/
theorem exists_not_blank {before after : List Char} (h : cs.rdropWhile isBlank = before ++ after)
    (hne : after ≠ []) : ∃ c ∈ after, isBlank c = false := by
  have hlast := List.rdropWhile_last_not isBlank cs
  rw [h] at hlast
  refine ⟨after.getLast hne, List.getLast_mem hne, ?_⟩
  have hall : before ++ after ≠ [] := by simp [hne]
  simpa [List.getLast_append_of_ne_nil hall hne] using hlast hall

theorem trim_eq (cs : List Char) : Text.trim isBlank cs = (cs.dropWhile isBlank).rdropWhile isBlank :=
  rfl

theorem trim_cons {c : Char} (h : isBlank c = true) (cs : List Char) :
    Text.trim isBlank (c :: cs) = Text.trim isBlank cs := by
  rw [trim_eq, trim_eq, List.dropWhile_cons_of_pos h]

theorem trim_concat {c : Char} (h : isBlank c = true) (cs : List Char) :
    Text.trim isBlank (cs ++ [c]) = Text.trim isBlank cs := by
  rw [trim_eq, trim_eq, List.dropWhile_append]
  split
  · rename_i hempty
    rw [List.isEmpty_iff.1 hempty, List.dropWhile_cons_of_pos h, List.dropWhile_nil]
  · exact List.rdropWhile_concat_pos _ _ _ h

/-! ## 3. How an item matches -/

/-- Blanks at the end are taken to the last. -/
theorem blanks_end (h : ∀ c ∈ cs, isBlank c = true) :
    blanks.first? List.isEmpty cs = some ⟨[], cs, []⟩ := by
  have hdrop : cs.dropWhile isBlank = [] := List.dropWhile_eq_nil_iff.2 h
  have htake : cs.takeWhile isBlank = cs := List.takeWhile_eq_self_iff.2 h
  have hfirst := first?_greedy isBlank cs
  rw [hdrop, htake] at hfirst
  exact first?_of_wanted hfirst rfl

/-- Where something else is left there is no way to take blanks to the end. -/
theorem blanks_not_end (h : ∃ c ∈ cs, isBlank c = false) : blanks.first? List.isEmpty cs = none := by
  refine List.find?_eq_none.2 fun m hm hempty => ?_
  obtain ⟨hcs, htaken⟩ := mem_matches_many hm
  obtain ⟨c, hc, hblank⟩ := h
  rw [List.isEmpty_iff.1 hempty, List.append_nil] at hcs
  rw [htaken c (hcs ▸ hc)] at hblank
  exact absurd hblank (by simp)

/-- A lazy part with blanks behind it goes to its last character that is no blank, if what follows takes
the blanks and does not match in front of such a character. -/
theorem first?_trimmed {wanted : List Char → Bool} {within : Char → Bool} {q : Pattern}
    {n : Pattern.Match} {text rest : List Char} (hwithin : ∀ c ∈ text, within c = true)
    (hearlier : ∀ left, left ⊆ text → (∃ c ∈ left, isBlank c = false) → ∀ behind,
      q.first? wanted (left ++ behind) = none)
    (hq : q.first? wanted (text.rtakeWhile isBlank ++ rest) = some n) (name : String) :
    (Pattern.seq (.part name (.many false within)) q).first? wanted (text ++ rest) =
      some ⟨(name, text.rdropWhile isBlank) :: n.parts, text.rdropWhile isBlank ++ n.taken, n.rest⟩ := by
  have hsplit : text.rdropWhile isBlank ++ text.rtakeWhile isBlank = text :=
    List.rdropWhile_append_rtakeWhile
  have hsub : text.rdropWhile isBlank ⊆ text := (List.rdropWhile_prefix isBlank text).subset
  have hfound := first?_lazy (fun c hc => hwithin c (hsub hc)) (fun before left hfront hne => ?_) hq name
  · rwa [← List.append_assoc, hsplit] at hfound
  · rw [hfront] at hsub
    exact hearlier left (List.append_subset.1 hsub).2 (exists_not_blank hfront hne) _

/-- A label on one line goes to the last character that is no blank. -/
theorem first?_label (hline : '\n' ∉ cs) :
    (Pattern.seq (.part "label" (.many false (· != '\n'))) blanks).first? List.isEmpty cs =
      some ⟨[("label", cs.rdropWhile isBlank)], cs, []⟩ := by
  have hwithin : ∀ c ∈ cs, (c != '\n') = true := fun c hc => bne_iff_ne.2 fun heq => hline (heq ▸ hc)
  have hend := blanks_end fun c (hc : c ∈ cs.rtakeWhile isBlank) => List.mem_rtakeWhile_imp hc
  rw [← List.append_nil (cs.rtakeWhile isBlank)] at hend
  have hfound := first?_trimmed hwithin (fun left _ hleft behind => ?_) hend "label"
  · rwa [List.append_nil, List.append_nil, List.rdropWhile_append_rtakeWhile] at hfound
  · obtain ⟨c, hc, hblank⟩ := hleft
    exact blanks_not_end ⟨c, List.mem_append_left _ hc, hblank⟩

/-- The mark between a key and its label, with the blanks around it. -/
def markPattern : Pattern :=
  .seq blanks (.seq (.one (· == '>')) blanks)

theorem first?_mark {front : List Char} (h : ∀ c ∈ front, isBlank c = true) (rest : List Char) :
    markPattern.first? anyRest (front ++ '>' :: rest) =
      some ⟨[], front ++ '>' :: rest.takeWhile isBlank, rest.dropWhile isBlank⟩ := by
  have hfront := first?_greedy isBlank (front ++ '>' :: rest)
  rw [List.takeWhile_append_of_pos h, List.dropWhile_append_of_pos h,
    List.takeWhile_cons_of_neg mark_not_blank, List.dropWhile_cons_of_neg mark_not_blank,
    List.append_nil] at hfront
  have hmark : (Pattern.one (· == '>')).first? anyRest ('>' :: rest) = some ⟨[], ['>'], rest⟩ :=
    first?_one rfl rest
  exact first?_seq hfront (first?_seq hmark (first?_greedy isBlank rest))

/-- There is no mark in front unless it is the first character that is no blank. -/
theorem first?_mark_eq_none (h : (cs.dropWhile isBlank).head? ≠ some '>') :
    markPattern.first? anyRest cs = none := by
  refine first?_seq_eq_none.2 fun m hm => ?_
  obtain ⟨hcs, hblank⟩ := mem_matches_many hm
  rw [hcs, List.dropWhile_append_of_pos hblank] at h
  have hone : (Pattern.one (· == '>')).matches m.rest = [] := by
    refine matches_one_eq_nil fun c hc => beq_eq_false_iff_ne.2 fun heq => h ?_
    obtain ⟨rest, hrest⟩ := List.head?_eq_some_iff.1 (heq ▸ hc)
    rw [hrest, List.dropWhile_cons_of_neg mark_not_blank, List.head?_cons]
  rw [first?_seq_eq_none, hone]
  exact fun n hn => absurd hn List.not_mem_nil

/-- A key goes to the last character in front of the mark that is no blank. -/
theorem first?_key {front : List Char} (hmark : '>' ∉ front) (rest : List Char) :
    ∃ taken, keyPattern.first? anyRest (front ++ '>' :: rest) =
      some ⟨[("key", front.rdropWhile isBlank)], taken, rest.dropWhile isBlank⟩ := by
  have hwithin : ∀ c ∈ front, (c != '>') = true := fun c hc =>
    bne_iff_ne.2 fun heq => hmark (heq ▸ hc)
  have hbehind := first?_mark (fun c (hc : c ∈ front.rtakeWhile isBlank) => List.mem_rtakeWhile_imp hc) rest
  refine ⟨_, first?_trimmed hwithin (fun left hsub hleft behind => ?_) hbehind "key"⟩
  -- what follows starts, blanks apart, with a character of the key
  obtain ⟨c, hc, hblank⟩ := hleft
  have hne : left.dropWhile isBlank ≠ [] := fun hnil => by
    rw [List.dropWhile_eq_nil_iff.1 hnil c hc] at hblank
    exact absurd hblank (by simp)
  refine first?_mark_eq_none fun hhead => hmark (hsub ?_)
  rw [List.dropWhile_append, if_neg (by simpa using hne), List.head?_append_of_ne_nil _ hne] at hhead
  exact List.dropWhile_subset isBlank (List.mem_of_head? hhead)

theorem first?_key_eq_none (hmark : '>' ∉ cs) : keyPattern.first? anyRest cs = none := by
  refine first?_seq_eq_none.2 fun m hm => first?_mark_eq_none fun hhead => hmark ?_
  rw [eq_of_mem_matches hm]
  exact List.mem_append_right _ (List.dropWhile_subset isBlank (List.mem_of_head? hhead))

theorem dropWhile_append_mark (front rest : List Char) :
    (front ++ '>' :: rest).dropWhile isBlank = front.dropWhile isBlank ++ '>' :: rest := by
  rw [List.dropWhile_append, List.dropWhile_cons_of_neg mark_not_blank]
  split
  · rename_i hempty
    rw [List.isEmpty_iff.1 hempty, List.nil_append]
  · rfl

/-- An item with a mark matches as the texts on both sides of the first one. -/
theorem whole?_of_mark {front rest : List Char} (hmark : '>' ∉ front) (hline : '\n' ∉ rest) :
    itemPattern.whole? (front ++ '>' :: rest) =
      some [("key", Text.trim isBlank front), ("label", Text.trim isBlank rest)] := by
  have hmark' : '>' ∉ front.dropWhile isBlank := fun h => hmark (List.dropWhile_subset isBlank h)
  have hline' : '\n' ∉ rest.dropWhile isBlank := fun h => hline (List.dropWhile_subset isBlank h)
  obtain ⟨taken, hkey⟩ := first?_key hmark' rest
  have hblanks := first?_greedy isBlank (front ++ '>' :: rest)
  rw [dropWhile_append_mark] at hblanks
  have hitem := first?_seq hblanks (first?_seq (first?_optional hkey) (first?_label hline'))
  rw [whole?_eq]
  exact congrArg (Option.map Pattern.Match.parts) hitem

/-- An item without a mark matches as a label. -/
theorem whole?_of_no_mark (hmark : '>' ∉ cs) (hline : '\n' ∉ cs) :
    itemPattern.whole? cs = some [("label", Text.trim isBlank cs)] := by
  have hmark' : '>' ∉ cs.dropWhile isBlank := fun h => hmark (List.dropWhile_subset isBlank h)
  have hline' : '\n' ∉ cs.dropWhile isBlank := fun h => hline (List.dropWhile_subset isBlank h)
  have hlabel := first?_seq (first?_optional_of_none (first?_key_eq_none hmark')) (first?_label hline')
  rw [whole?_eq]
  exact congrArg (Option.map Pattern.Match.parts) (first?_seq (first?_greedy isBlank cs) hlabel)

/-! ## 4. The plain reading -/

/-- The two sides of the first `>` of an item; an item without one is both. -/
def sides (item : List Char) : List Char × List Char :=
  (Text.breakOn ['>'] item).getD (item, item)

/-- The key and the label of an item: its sides, trimmed. An item without a label is no option, and a label
without a key is its own key. -/
def plainPair? (item : List Char) : Option (List Char × List Char) :=
  let key := Text.trim isBlank (sides item).1
  let label := Text.trim isBlank (sides item).2
  if label = [] then none
  else if key = [] then some (label, label)
  else some (key, label)

/-- The options of a list, with its items cut at commas. -/
def plain (list : String) : Fields Value :=
  Fields.lastOfEach <| ((Text.pieces ',' list.toList).filterMap plainPair?).map fun (key, label) =>
    (String.ofList key, .str (String.ofList label))

theorem sides_of_mark {front : List Char} (hmark : '>' ∉ front) (rest : List Char) :
    sides (front ++ '>' :: rest) = (front, rest) := by
  have hbreak := Text.breakOn_of_firstAtEnd (by simp) (Text.firstAtEnd_singleton hmark) rest
  rw [List.append_assoc, List.singleton_append] at hbreak
  rw [sides, hbreak]
  rfl

theorem sides_of_no_mark {item : List Char} (hmark : '>' ∉ item) : sides item = (item, item) := by
  have hbreak : Text.breakOn ['>'] item = none :=
    (Text.breakOn_eq_none_iff (by simp)).2 fun hin => hmark (hin.subset (by simp))
  rw [sides, hbreak]
  rfl

/-- On one line the pattern finds the two sides. -/
theorem entry?_eq {item : List Char} (hline : '\n' ∉ item) : entry? item = plainPair? item := by
  by_cases hmark : '>' ∈ item
  · obtain ⟨front, rest, rfl, hfront⟩ := List.eq_append_cons_of_mem hmark
    have hrest : '\n' ∉ rest := fun hmem => hline (by simp [hmem])
    unfold entry? plainPair?
    rw [whole?_of_mark hfront hrest, sides_of_mark hfront]
    have hlabel : List.lookup "label" [("key", Text.trim isBlank front), ("label", Text.trim isBlank rest)] =
        some (Text.trim isBlank rest) := rfl
    have hkey : List.lookup "key" [("key", Text.trim isBlank front), ("label", Text.trim isBlank rest)] =
        some (Text.trim isBlank front) := rfl
    simp only [hlabel, hkey, Option.getD_some, List.isEmpty_iff, Option.filter_some]
    by_cases hempty : Text.trim isBlank front = []
    · simp [hempty]
    · simp [hempty]
  · unfold entry? plainPair?
    rw [whole?_of_no_mark hmark hline, sides_of_no_mark hmark]
    have hlabel : List.lookup "label" [("label", Text.trim isBlank item)] =
        some (Text.trim isBlank item) := rfl
    have hkey : List.lookup "key" [("label", Text.trim isBlank item)] = none := rfl
    simp [hlabel, hkey]

/-! ## 5. Lists that are written out -/

/-- A text that can stand as a key or a label: something on one line without a comma, with no blank
around it. -/
structure Writable (text : String) : Prop where
  filled : text ≠ ""
  trimmed : Text.trim isBlank text.toList = text.toList
  no_comma : ',' ∉ text.toList
  no_newline : '\n' ∉ text.toList

instance (text : String) : Decidable (Writable text) :=
  decidable_of_iff (text ≠ "" ∧ Text.trim isBlank text.toList = text.toList ∧ ',' ∉ text.toList ∧
      '\n' ∉ text.toList)
    ⟨fun h => ⟨h.1, h.2.1, h.2.2.1, h.2.2.2⟩,
      fun h => ⟨h.filled, h.trimmed, h.no_comma, h.no_newline⟩⟩

/-- An option, written with its key. -/
def writtenEntry (option : String × String) : String :=
  option.1 ++ " > " ++ option.2

/-- Options in their one-line form. -/
def written (options : Fields String) : String :=
  ", ".intercalate (options.map writtenEntry)

variable {key label : String}

theorem Writable.toList_ne_nil {text : String} (h : Writable text) : text.toList ≠ [] := fun hnil =>
  h.filled (String.toList_eq_nil_iff.1 hnil)

theorem toList_writtenEntry (key label : String) :
    (writtenEntry (key, label)).toList = (key.toList ++ [' ']) ++ '>' :: ' ' :: label.toList := by
  simp [writtenEntry, String.toList_append]

/-- An option that was written is read again. -/
theorem plainPair?_written (hkey : Writable key) (hlabel : Writable label) (hmark : '>' ∉ key.toList) :
    plainPair? (writtenEntry (key, label)).toList = some (key.toList, label.toList) := by
  have hsides : sides (writtenEntry (key, label)).toList = (key.toList ++ [' '], ' ' :: label.toList) := by
    rw [toList_writtenEntry]
    exact sides_of_mark (by simp [hmark]) _
  rw [plainPair?, hsides]
  simp only [trim_cons (c := ' ') rfl, trim_concat (c := ' ') rfl, hkey.trimmed, hlabel.trimmed,
    if_neg hkey.toList_ne_nil, if_neg hlabel.toList_ne_nil]

theorem not_mem_writtenEntry {c : Char} (hkey : c ∉ key.toList) (hlabel : c ∉ label.toList)
    (hplain : c ≠ ' ' ∧ c ≠ '>') : c ∉ (writtenEntry (key, label)).toList := by
  rw [toList_writtenEntry]
  simp [hkey, hlabel, hplain.1, hplain.2]

/-- The blank in front of an item counts for nothing. -/
theorem plainPair?_cons_blank (item : List Char) : plainPair? (' ' :: item) = plainPair? item := by
  by_cases hmark : '>' ∈ item
  · obtain ⟨front, rest, rfl, hfront⟩ := List.eq_append_cons_of_mem hmark
    have hfront' : '>' ∉ ' ' :: front := by simp [hfront]
    rw [plainPair?, plainPair?, ← List.cons_append, sides_of_mark hfront, sides_of_mark hfront']
    simp only [trim_cons (c := ' ') rfl]
  · have hmark' : '>' ∉ ' ' :: item := by simp [hmark]
    rw [plainPair?, plainPair?, sides_of_no_mark hmark, sides_of_no_mark hmark']
    simp only [trim_cons (c := ' ') rfl]

theorem filterMap_pieces_cons_blank (cs : List Char) :
    (Text.pieces ',' (' ' :: cs)).filterMap plainPair? = (Text.pieces ',' cs).filterMap plainPair? := by
  obtain ⟨item, items, hpieces⟩ := List.exists_cons_of_ne_nil (Text.pieces_ne_nil ',' cs)
  rw [Text.pieces, if_neg (by decide), hpieces]
  simp only [List.filterMap_cons, plainPair?_cons_blank]

theorem written_singleton (option : String × String) : written [option] = writtenEntry option := by
  simp [written]

theorem toList_written_cons (option next : String × String) (options : Fields String) :
    (written (option :: next :: options)).toList =
      (writtenEntry option).toList ++ ',' :: ' ' :: (written (next :: options)).toList := by
  simp [written, String.toList_append]

/-- Options that were written are read again. -/
theorem filterMap_pieces_written {options : Fields String}
    (h : ∀ e ∈ options, Writable e.1 ∧ Writable e.2 ∧ '>' ∉ e.1.toList) :
    (Text.pieces ',' (written options).toList).filterMap plainPair? =
      options.map fun e => (e.1.toList, e.2.toList) := by
  induction options with
  | nil => rfl
  | cons option options ih =>
    obtain ⟨hoption, hoptions⟩ := List.forall_mem_cons.1 h
    obtain ⟨hkey, hlabel, hmark⟩ := hoption
    have hcomma : ',' ∉ (writtenEntry option).toList :=
      not_mem_writtenEntry hkey.no_comma hlabel.no_comma (by decide)
    have hread : plainPair? (writtenEntry option).toList = some (option.1.toList, option.2.toList) :=
      plainPair?_written hkey hlabel hmark
    cases options with
    | nil =>
      rw [written_singleton, Text.pieces_of_not_mem hcomma, List.filterMap_cons, hread]
      rfl
    | cons next options =>
      -- the blank behind the comma belongs to the next item
      rw [toList_written_cons, Text.pieces_append_sep, Text.pieces_of_not_mem hcomma, List.filterMap_append,
        filterMap_pieces_cons_blank, ih hoptions, List.filterMap_cons, hread]
      rfl

theorem newline_not_mem_written {options : Fields String}
    (h : ∀ e ∈ options, Writable e.1 ∧ Writable e.2) : '\n' ∉ (written options).toList := by
  induction options with
  | nil => simp [written]
  | cons option options ih =>
    obtain ⟨⟨hkey, hlabel⟩, hoptions⟩ := List.forall_mem_cons.1 h
    have hentry : '\n' ∉ (writtenEntry option).toList :=
      not_mem_writtenEntry hkey.no_newline hlabel.no_newline (by decide)
    cases options with
    | nil =>
      rwa [written_singleton]
    | cons next options =>
      rw [toList_written_cons]
      simpa [hentry] using ih hoptions

/-! ## 6. Reading -/

/-- The items of a list on one line are read plainly. -/
theorem filterMap_entry?_pieces {list : List Char} (hline : '\n' ∉ list) :
    (Text.pieces ',' list).filterMap entry? = (Text.pieces ',' list).filterMap plainPair? :=
  List.filterMap_congr fun _ hitem => entry?_eq fun hmem => hline (Text.mem_of_mem_pieces hitem hmem)

/-- **Option lists, read plainly.** A list on one line is cut at commas and its items at the first `>`;
keys and labels are trimmed, and a repeated key keeps its first place with its last label. So options that
are written out entry by entry are read again in their order. -/
theorem read_plainly :
    (∀ list : String, '\n' ∉ list.toList → read list = plain list) ∧
    (∀ options : Fields String, options.Distinct →
      (∀ e ∈ options, Writable e.1 ∧ Writable e.2 ∧ '>' ∉ e.1.toList) →
      read (written options) = Fields.mapValues Value.str options) := by
  constructor
  · intro list hline
    rw [read, plain, filterMap_entry?_pieces hline, Fields.ofList_eq_lastOfEach]
  · intro options hdistinct hwritable
    have hline := newline_not_mem_written fun e he => ⟨(hwritable e he).1, (hwritable e he).2.1⟩
    rw [read, filterMap_entry?_pieces hline, filterMap_pieces_written hwritable, List.map_map]
    have hentries : options.map ((fun entry => (String.ofList entry.1, Value.str (String.ofList entry.2))) ∘
        fun e => (e.1.toList, e.2.toList)) = Fields.mapValues Value.str options :=
      List.map_congr_left fun e _ => by simp
    rw [hentries]
    refine Fields.ofList_eq_self ?_
    rw [Fields.Distinct, Fields.keys_mapValues]
    exact hdistinct

namespace Sample

/-- Items with a key, without one, without a label, with two marks, and a key that comes again. -/
def list : String :=
  " a > Apple ,, >Plum,b>B > C, a>Avocado"

def options : Fields String :=
  [("a", "Apple"), ("b c", "B > C")]

theorem writable : ∀ e ∈ options, Writable e.1 ∧ Writable e.2 ∧ '>' ∉ e.1.toList := by
  decide

theorem read_plainly_sample :
    ('\n' ∉ list.toList ∧
      read list = [("a", .str "Avocado"), ("Plum", .str "Plum"), ("b", .str "B > C")]) ∧
    (options.Distinct ∧ (∀ e ∈ options, Writable e.1 ∧ Writable e.2 ∧ '>' ∉ e.1.toList) ∧
      written options = "a > Apple, b c > B > C" ∧
      read (written options) = [("a", .str "Apple"), ("b c", .str "B > C")]) := by
  have hplain : plain list = [("a", .str "Avocado"), ("Plum", .str "Plum"), ("b", .str "B > C")] := by
    rfl
  have hline : '\n' ∉ list.toList := by decide
  have hdistinct : options.Distinct := by
    rw [Fields.Distinct]
    decide
  exact ⟨⟨hline, (read_plainly.1 list hline).trans hplain⟩, hdistinct, writable, by decide +kernel,
    read_plainly.2 options hdistinct writable⟩

end Sample

end OptionList

end Stencil
