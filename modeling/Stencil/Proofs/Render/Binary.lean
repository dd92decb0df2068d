import Stencil.Proofs.Render.Failure
import Stencil.Proofs.Store.Entries
import Stencil.Proofs.Text.Bytes
import Stencil.Render.Content

/-!
# Contents that are left as they are

A file whose content is no text is copied byte by byte, also where its bytes spell a placeholder. What
tells that a content is no text is looked for in three places: in all of it, since it may not be UTF-8;
among its first bytes, where a zero byte stands in no text; and at its very start, where some formats
have a signature. A byte order mark vouches for what comes after it.

A content that passes for text is rendered. It stays as it is in every context only when it holds no
placeholder, for in a context without data and transforms a placeholder fails or leaves nothing
(`text_fixed_iff`). So the contents that are never touched are known exactly (`content_untouched_iff`).

How far zero bytes are looked for makes a difference. A zero byte just inside the window saves a content
with a placeholder, and one byte further on it does not.
-/

set_option autoImplicit false

namespace Stencil.Render

/-! ## 1. What tells that a content is no text -/

/-- The bytes of no text. -/
def NoText (content : ByteArray) : Prop :=
  ∀ s : String, s.toUTF8 ≠ content

/-- No byte order mark stands in front. -/
def Unmarked (content : ByteArray) : Prop :=
  ∀ mark ∈ byteOrderMarks, ¬ mark <+: content.data.toList

/-- A zero byte stands among the first ones. -/
def ZeroWithin (window : Nat) (content : ByteArray) : Prop :=
  ∃ i < window, content.data.toList[i]? = some 0

/-- The signature of a binary format stands in front. -/
def Signed (content : ByteArray) : Prop :=
  ∃ signature ∈ binarySignatures, signature <+: content.data.toList

variable {bytes : ByteArray}

theorem mem_take_iff {α : Type} {a : α} {n : Nat} {l : List α} :
    a ∈ l.take n ↔ ∃ i < n, l[i]? = some a := by
  rw [List.mem_iff_getElem?]
  constructor
  · rintro ⟨i, hi⟩
    rw [List.getElem?_take] at hi
    split at hi
    · exact ⟨i, ‹_›, hi⟩
    · exact absurd hi (by simp)
  · rintro ⟨i, hlt, hi⟩
    exact ⟨i, by rw [List.getElem?_take, if_pos hlt, hi]⟩

theorem isBinary_iff :
    isBinary bytes = true ↔ Unmarked bytes ∧ (ZeroWithin zeroWindow bytes ∨ Signed bytes) := by
  unfold isBinary Unmarked ZeroWithin Signed
  rw [← mem_take_iff]
  simp

/-! ## 2. What is rendered -/

theorem content_of_noText (h : NoText bytes) (c : Context) : content c bytes = .ok bytes := by
  unfold content
  split
  · rfl
  · cases hs : String.fromUTF8? bytes with
    | none => rfl
    | some s => exact absurd (Text.fromUTF8?_eq_some_iff.1 hs) (h s)

theorem content_of_isBinary (h : isBinary bytes = true) (c : Context) :
    content c bytes = .ok bytes :=
  if_pos h

/-- What passes for text is rendered. -/
theorem content_of_text {s : String} (h : isBinary s.toUTF8 = false) (c : Context) :
    content c s.toUTF8 = (text c s).map String.toUTF8 := by
  unfold content
  rw [h, if_neg Bool.false_ne_true, Text.fromUTF8?_eq_some_iff.2 rfl]

/-! ## 3. Texts that stay as they are -/

/-- A context without data, transforms and files. -/
def blank : Context :=
  ⟨.empty, .empty, ⟨[], []⟩⟩

theorem value_of_blank {expr : List Char} {s : String} (h : Evaluates blank expr s) : s = "" := by
  cases h with
  | comment h => rfl
  | missing hspells hkey hknown => rfl
  | value hspells hkey hchain =>
    have hnone : ∀ path : String, blank.data.get? path = none := fun path => by
      cases hp : Stencil.segments path with
      | nil => exact absurd hp (Store.segments_ne_nil path)
      | cons key rest => exact Store.get?_eq_bind hp .empty
    exact absurd (hkey.symm.trans (hnone _)) (by simp)

/-- Without data and transforms a segment gives no more than it is. -/
theorem length_of_blank {segs : List Segment} {parts : List (List Char)}
    (h : List.Forall₂ (Gives blank) segs parts) :
    parts.flatten.length ≤ (segs.flatMap Segment.chars).length := by
  induction h with
  | nil => exact Nat.le_refl _
  | @cons seg part segs parts hgives _ ih =>
    have hpart : part.length ≤ seg.chars.length := by
      cases hgives with
      | literal cs => exact Nat.le_refl _
      | placeholder h =>
        rw [value_of_blank h]
        exact Nat.zero_le _
      | tail cs => exact Nat.le_refl _
    rw [List.flatten_cons, List.flatMap_cons, List.length_append, List.length_append]
    exact Nat.add_le_add hpart ih

/-- **A text that renders to itself whatever the data** is one without placeholders. -/
theorem text_fixed_iff {s : String} : (∀ c, text c s = .ok s) ↔ Settled s.toList := by
  refine ⟨fun h => ?_, fun h c => text_of_settled c h⟩
  have hsegs := segmentation_segments s.toList
  obtain ⟨parts, hparts, hout⟩ := (text_eq_ok_iff hsegs).1 (h blank)
  generalize segments s.toList = segs at hsegs hparts
  generalize s.toList = cs at hsegs hout
  cases hsegs with
  | literal hplain => exact .literal hplain
  | tail hlit hunclosed => exact .tail hlit hunclosed
  | @placeholder lit expr rest wide segs hlit hexpr hrest =>
    -- the placeholder would leave nothing, and there is nothing to make up for its markers
    obtain ⟨p, ps, hp, hps, rfl⟩ := List.forall₂_cons_left_iff.1 hparts
    obtain ⟨q, qs, hq, hqs, rfl⟩ := List.forall₂_cons_left_iff.1 hps
    cases hp
    obtain @⟨⟩ | @⟨_, _, v, hv⟩ | @⟨⟩ := hq
    have hlength := length_of_blank hqs
    rw [hrest.flatMap_chars] at hlength
    have htotal := congrArg List.length hout
    have hmark := List.length_pos_iff.2 (openMark_ne_nil wide)
    have hempty : ("" : String).toList.length = 0 := rfl
    simp only [value_of_blank hv, List.flatten_cons, List.length_append, hempty] at htotal
    omega

/-! ## 4. Plain text in front -/

/-- Plain text in front of a text joins its first segment, which is a literal. -/
theorem Segmentation.prepend {front cs : List Char} {segs : List Segment} (hfront : PlainBeforeMark front)
    (h : Segmentation segs cs) :
    ∃ lit rest, segs = .literal lit :: rest ∧
      Segmentation (.literal (front ++ lit) :: rest) (front ++ cs) := by
  cases h with
  | literal hplain => exact ⟨_, _, rfl, .literal (plain_append hfront hplain)⟩
  | tail hlit hunclosed =>
    refine ⟨_, _, rfl, ?_⟩
    rw [← List.append_assoc]
    exact .tail (plainBeforeMark_append hfront hlit) hunclosed
  | placeholder hlit hexpr hrest =>
    refine ⟨_, _, rfl, ?_⟩
    rw [← List.append_assoc, ← List.append_assoc]
    exact .placeholder (plainBeforeMark_append hfront hlit) hexpr hrest

/-- A text with plain text in front fails as it does alone. -/
theorem text_error_of_append {c : Context} {front s : String} {e : Fault}
    (hfront : PlainBeforeMark front.toList) (h : text c s = .error e) :
    text c (front ++ s) = .error e := by
  have hsegs := segmentation_segments s.toList
  obtain ⟨lit, rest, heq, hjoined⟩ := hsegs.prepend hfront
  rw [← String.toList_append] at hjoined
  rw [text_error_iff_chars, heq, renderSegments_error_iff] at h
  obtain ⟨name, hfirst, rfl⟩ := h
  refine (text_error_iff hjoined).2 ⟨name, ?_, rfl⟩
  cases hfirst with
  | later _ h => exact .later (fun _ _ _ _ hliteral => nomatch hliteral) h

theorem plainBeforeMark_of_not_mem {cs : List Char} (h : '{' ∉ cs) : PlainBeforeMark cs :=
  ⟨fun hmark => h (hmark.subset (by simp [openMark])), fun hlast => h (List.mem_of_getLast? hlast)⟩

/-! ## 5. Contents that stay as they are -/

/-- **The contents that are never touched**, whatever data and transforms there are: the bytes of no
text; those with no byte order mark that have a zero byte at one of the first `zeroWindow` places, or the
signature of a binary format in front; and texts without a placeholder. -/
theorem content_untouched_iff (bytes : ByteArray) :
    (∀ c, content c bytes = .ok bytes) ↔
      NoText bytes ∨ Unmarked bytes ∧ (ZeroWithin zeroWindow bytes ∨ Signed bytes) ∨
        ∃ s : String, s.toUTF8 = bytes ∧ Settled s.toList := by
  constructor
  · intro h
    by_cases hbinary : isBinary bytes = true
    · exact Or.inr (Or.inl (isBinary_iff.1 hbinary))
    · by_cases htext : NoText bytes
      · exact Or.inl htext
      · obtain ⟨s, rfl⟩ : ∃ s : String, s.toUTF8 = bytes := by
          simpa [NoText] using htext
        refine Or.inr (Or.inr ⟨s, rfl, text_fixed_iff.1 fun c => ?_⟩)
        have hc := h c
        rw [content_of_text (Bool.eq_false_iff.2 hbinary)] at hc
        cases hrendered : text c s with
        | error e =>
          rw [hrendered] at hc
          exact absurd hc (by simp [Except.map])
        | ok out =>
          rw [hrendered] at hc
          rw [String.toByteArray_inj.1 (Except.ok.inj hc)]
  · rintro (htext | hbinary | ⟨s, rfl, hsettled⟩) c
    · exact content_of_noText htext c
    · exact content_of_isBinary (isBinary_iff.2 hbinary) c
    · by_cases hbinary : isBinary s.toUTF8 = true
      · exact content_of_isBinary hbinary c
      · rw [content_of_text (Bool.eq_false_iff.2 hbinary), text_of_settled c hsettled]
        rfl

namespace Sample

/-- A text with a placeholder that names an unknown transform, behind a zero and as many letters. -/
def zeroAfter (letters : Nat) : String :=
  String.ofList (List.replicate letters 'a' ++ ['\x00']) ++ "\x7b\x7b a | nope \x7d\x7d"

theorem bytes_zeroAfter (letters : Nat) : (zeroAfter letters).toUTF8.data.toList =
    List.replicate letters 97 ++ 0 :: Text.bytes "\x7b\x7b a | nope \x7d\x7d" := by
  have hletter : String.utf8EncodeChar 'a' = [97] := by decide
  have hzero : String.utf8EncodeChar '\x00' = [0] := by decide
  show Text.bytes _ = _
  rw [zeroAfter, Text.bytes_eq_flatMap, String.toList_append, List.flatMap_append,
    String.toList_ofList, List.flatMap_append, List.flatMap_replicate, hletter,
    List.flatten_replicate_singleton, List.flatMap_singleton, hzero, List.append_assoc,
    ← Text.bytes_eq_flatMap]
  rfl

theorem zeroWithin_zeroAfter {letters window : Nat} (h : letters < window) :
    ZeroWithin window (zeroAfter letters).toUTF8 := by
  refine ⟨letters, h, ?_⟩
  rw [bytes_zeroAfter, List.getElem?_append_right (by simp)]
  simp

theorem front_zeroAfter (letters : Nat) {b : UInt8} {front : List UInt8} (hb : b ≠ 97) :
    ¬ b :: front <+: (zeroAfter (letters + 1)).toUTF8.data.toList := by
  rw [bytes_zeroAfter, List.replicate_succ, List.cons_append, List.cons_prefix_cons]
  exact fun h => hb h.1

theorem unmarked_zeroAfter (letters : Nat) : Unmarked (zeroAfter (letters + 1)).toUTF8 := by
  simp only [Unmarked, byteOrderMarks, List.forall_mem_cons]
  exact ⟨front_zeroAfter _ (by decide), front_zeroAfter _ (by decide), front_zeroAfter _ (by decide),
    front_zeroAfter _ (by decide), front_zeroAfter _ (by decide), List.forall_mem_nil _⟩

/-- With the zero behind the window, the text passes for one. -/
theorem isBinary_zeroAfter (letters : Nat) (h : zeroWindow ≤ letters + 1) :
    isBinary (zeroAfter (letters + 1)).toUTF8 = false := by
  rw [Bool.eq_false_iff]
  intro hbinary
  rcases (isBinary_iff.1 hbinary).2 with ⟨i, hi, hzero⟩ | ⟨signature, hmem, hfront⟩
  · have hletter : i < letters + 1 := Nat.lt_of_lt_of_le hi h
    rw [bytes_zeroAfter, List.getElem?_append_left (by rw [List.length_replicate]; exact hletter),
      List.getElem?_replicate, if_pos hletter] at hzero
    exact absurd hzero (by decide)
  · revert signature
    simp only [binarySignatures, List.forall_mem_cons]
    exact ⟨front_zeroAfter letters (by decide), front_zeroAfter letters (by decide),
      List.forall_mem_nil _⟩

theorem text_zeroAfter (letters : Nat) :
    text ⟨.empty, .builtins, ⟨[], []⟩⟩ (zeroAfter letters) = .error (.unknownTransform "nope") := by
  have hfail : text ⟨.empty, .builtins, ⟨[], []⟩⟩ "\x7b\x7b a | nope \x7d\x7d" =
      .error (.unknownTransform "nope") := by decide +kernel
  refine text_error_of_append (plainBeforeMark_of_not_mem ?_) hfail
  rw [String.toList_ofList]
  simp

end Sample

/-- The zero stands at the last place that is looked at. -/
theorem content_untouched_iff_last_place :
    content ⟨.empty, .builtins, ⟨[], []⟩⟩ (Sample.zeroAfter 1023).toUTF8 =
      .ok (Sample.zeroAfter 1023).toUTF8 :=
  (content_untouched_iff _).2 (Or.inr (Or.inl ⟨Sample.unmarked_zeroAfter 1022,
    Or.inl (Sample.zeroWithin_zeroAfter (by decide))⟩)) _

/-- The zero stands one place further on, well among the first 8192 bytes, and the content is rendered. -/
theorem zero_behind_window_is_rendered :
    Unmarked (Sample.zeroAfter 1024).toUTF8 ∧ ZeroWithin 8192 (Sample.zeroAfter 1024).toUTF8 ∧
      content ⟨.empty, .builtins, ⟨[], []⟩⟩ (Sample.zeroAfter 1024).toUTF8 =
        .error (.unknownTransform "nope") := by
  refine ⟨Sample.unmarked_zeroAfter 1023, Sample.zeroWithin_zeroAfter (by decide), ?_⟩
  rw [content_of_text (Sample.isBinary_zeroAfter 1023 (by decide)),
    Sample.text_zeroAfter]
  rfl

end Stencil.Render
