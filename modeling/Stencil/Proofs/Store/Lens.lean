import Mathlib.Data.List.Basic
import Stencil.Store

/-!
# Reading and writing the store

`get?` and `set` are two recursions over a tree with three kinds of nodes: maps, lists, and scalars
that a write replaces. This file shows that they agree on every path:

> what is written is read back, writing what is there changes nothing, the second of two writes
> wins, **and a write leaves alone whatever its path does not lead to**.

The first three need no assumption. They all rest on `child?_assign`: whatever a node was before, a
write makes the child that its first segment leads to be the old child, or null, with the write
carried on in it.

## The frame

A write that does not fit a list (`list.x`, `list.7` in a list of two) puts a map in the list's
place, and everything in the list is lost. So the frame law is about paths that are `Addressed`:
every list on the way is entered at an index that it has, or at its length. Two paths part where
their segments lead to different children, and in a list that is a matter of the index, not of the
text: `0`, `00` and `+0` are one element. `Diverges` and `Within` walk both paths along the value
and compare segments by `sameChild`.
-/

set_option autoImplicit false

namespace Stencil

namespace Value

/-! ## 1. One step of a write -/

/-- The child under one segment, or the null that a write starts from when there is none. -/
def childOrNull (segment : String) (x : Value) : Value :=
  (x.child? segment).getD .null

theorem assign_nil (new x : Value) : assign new [] x = new := rfl

theorem assign_cons_map (new : Value) (s : String) (rest : List String) (fields : Fields Value) :
    assign new (s :: rest) (.map fields) =
      .map (Fields.alter s (fun old => assign new rest (old.getD .null)) fields) := rfl

theorem assign_cons_list (new : Value) (s : String) (rest : List String) (items : List Value) :
    assign new (s :: rest) (.list items) =
      match index? s with
      | some i =>
        if i < items.length then .list (items.modify i (assign new rest))
        else if i = items.length then .list (items ++ [assign new rest .null])
        else .map [(s, assign new rest .null)]
      | none => .map [(s, assign new rest .null)] := rfl

theorem assign_cons_list_lt (new : Value) {s : String} (rest : List String) {items : List Value}
    {i : Nat} (hs : index? s = some i) (hi : i < items.length) :
    assign new (s :: rest) (.list items) = .list (items.modify i (assign new rest)) := by
  rw [assign_cons_list]
  simp [hs, hi]

theorem assign_cons_list_length (new : Value) {s : String} (rest : List String)
    {items : List Value} (hs : index? s = some items.length) :
    assign new (s :: rest) (.list items) = .list (items ++ [assign new rest .null]) := by
  rw [assign_cons_list]
  simp [hs]

/-- A list gives way to a map when the segment is no index, or one beyond its length. -/
theorem assign_cons_list_misfit (new : Value) {s : String} (rest : List String)
    {items : List Value} (hs : ∀ i, index? s = some i → items.length < i) :
    assign new (s :: rest) (.list items) = .map [(s, assign new rest .null)] := by
  rw [assign_cons_list]
  cases hi : index? s with
  | none => rfl
  | some i =>
    have hlt := hs i hi
    simp [Nat.not_lt.mpr (Nat.le_of_lt hlt), Nat.ne_of_gt hlt]

theorem assign_cons_scalar (new : Value) (s : String) (rest : List String) {x : Value}
    (hx : x.isScalar = true) : assign new (s :: rest) x = .map [(s, assign new rest .null)] := by
  cases x with
  | list _ => exact absurd hx (by simp [isScalar])
  | map _ => exact absurd hx (by simp [isScalar])
  | _ => rfl

/-- The three ways in which a segment can lie to a list. -/
theorem list_cases (s : String) (items : List Value) :
    (∃ i, index? s = some i ∧ i < items.length) ∨ index? s = some items.length ∨
      ∀ i, index? s = some i → items.length < i := by
  cases hi : index? s with
  | none => exact Or.inr (Or.inr fun i h => absurd h (by simp))
  | some i =>
    rcases Nat.lt_trichotomy i items.length with hlt | heq | hgt
    · exact Or.inl ⟨i, rfl, hlt⟩
    · exact Or.inr (Or.inl (by rw [heq]))
    · refine Or.inr (Or.inr fun j hj => ?_)
      simp only [Option.some.injEq] at hj
      omega

/-- A scalar has no children. -/
theorem child?_scalar (s : String) {x : Value} (hx : x.isScalar = true) : x.child? s = none := by
  cases x with
  | list _ => exact absurd hx (by simp [isScalar])
  | map _ => exact absurd hx (by simp [isScalar])
  | _ => rfl

/-- **One step of a write**: the child it leads to is the old one with the write carried on. -/
theorem child?_assign (new : Value) (s : String) (rest : List String) (x : Value) :
    (assign new (s :: rest) x).child? s = some (assign new rest (x.childOrNull s)) := by
  cases hx : x.isScalar with
  | true =>
    rw [assign_cons_scalar new s rest hx, childOrNull, child?_scalar s hx]
    simp [child?, Fields.find?]
  | false =>
    cases x with
    | map fields =>
      rw [assign_cons_map]
      simp [child?, childOrNull, Fields.find?_alter_same]
    | list items =>
      rcases list_cases s items with ⟨i, hs, hi⟩ | hs | hs
      · rw [assign_cons_list_lt new rest hs hi]
        simp [child?, childOrNull, hs, hi]
      · rw [assign_cons_list_length new rest hs]
        simp [child?, childOrNull, hs]
      · have hnone : Value.child? s (.list items) = none := by
          cases hi : index? s with
          | none => simp [child?, hi]
          | some i => simp [child?, hi, Nat.le_of_lt (hs i hi)]
        rw [assign_cons_list_misfit new rest hs, childOrNull, hnone]
        simp [child?, Fields.find?]
    | _ => exact absurd hx (by simp [isScalar])

/-! ## 2. The lens laws -/

/-- What is written is read back. -/
theorem at?_assign (new : Value) (p : List String) (x : Value) :
    at? p (assign new p x) = some new := by
  induction p generalizing x with
  | nil => rfl
  | cons s rest ih =>
    rw [at?, child?_assign, Option.bind_some]
    exact ih _

/-- A write that leaves the child it leads to as it is leaves the whole. -/
theorem assign_cons_eq_self {new : Value} {s : String} {rest : List String} {x c : Value}
    (hc : x.child? s = some c) (h : assign new rest c = c) : assign new (s :: rest) x = x := by
  cases x with
  | map fields =>
    rw [assign_cons_map]
    exact congrArg Value.map (Fields.alter_eq_self hc (by simpa using h))
  | list items =>
    obtain ⟨i, hs, hi⟩ : ∃ i, index? s = some i ∧ items[i]? = some c := by
      simpa [child?, Option.bind_eq_some_iff] using hc
    have hlt : i < items.length := (List.getElem?_eq_some_iff.1 hi).1
    rw [assign_cons_list_lt new rest hs hlt]
    refine congrArg Value.list (List.ext_getElem? fun j => ?_)
    rw [List.getElem?_modify]
    by_cases hij : i = j
    · subst hij
      simp [hi, h]
    · simp [hij]
  | _ => exact absurd hc (by simp [child?])

/-- Writing what is there changes nothing. -/
theorem assign_of_at? {new : Value} {p : List String} {x : Value} (h : at? p x = some new) :
    assign new p x = x := by
  induction p generalizing x with
  | nil =>
    simp only [at?, Option.some.injEq] at h
    rw [assign_nil, h]
  | cons s rest ih =>
    obtain ⟨c, hc, hr⟩ := Option.bind_eq_some_iff.1 h
    exact assign_cons_eq_self hc (ih hr)

/-- The second of two writes wins. -/
theorem assign_assign (first second : Value) (p : List String) (x : Value) :
    assign second p (assign first p x) = assign second p x := by
  induction p generalizing x with
  | nil => rfl
  | cons s rest ih =>
    cases hx : x.isScalar with
    | true =>
      rw [assign_cons_scalar first s rest hx, assign_cons_scalar second s rest hx, assign_cons_map]
      simp [Fields.alter, ih]
    | false =>
      cases x with
      | map fields =>
        rw [assign_cons_map, assign_cons_map, assign_cons_map, Fields.alter_alter]
        simp [ih]
      | list items =>
        rcases list_cases s items with ⟨i, hs, hi⟩ | hs | hs
        · rw [assign_cons_list_lt first rest hs hi, assign_cons_list_lt second rest hs hi,
            assign_cons_list_lt second rest hs (by simpa using hi), List.modify_modify_eq]
          exact congrArg (fun f => Value.list (items.modify i f)) (funext ih)
        · rw [assign_cons_list_length first rest hs, assign_cons_list_length second rest hs,
            assign_cons_list_lt second rest hs (by simp), List.modify_eq_take_cons_drop (by simp)]
          simp [ih]
        · rw [assign_cons_list_misfit first rest hs, assign_cons_list_misfit second rest hs,
            assign_cons_map]
          simp [Fields.alter, ih]
      | _ => exact absurd hx (by simp [isScalar])

/-! ## 3. Two paths side by side -/

/-- Two segments lead to the same child: to one index in a list, to one key anywhere else, since a
scalar gives way to a map. -/
def sameChild : Value → String → String → Prop
  | .list _, s, t => index? s = index? t
  | _, s, t => s = t

/-- Some pair of segments at the same depth leads to different children. -/
def Diverges : List String → List String → Value → Prop
  | s :: p, t :: q, x => ¬ x.sameChild s t ∨ Diverges p q (x.childOrNull s)
  | _, _, _ => False

/-- The second path leads to where the first one leads, or below. -/
def Within : List String → List String → Value → Prop
  | [], _, _ => True
  | _ :: _, [], _ => False
  | s :: p, t :: q, x => x.sameChild s t ∧ Within p q (x.childOrNull s)

/-- Every list on the way, its end apart, is entered at an index that it has or at its length. -/
def Addressed (p : List String) (x : Value) : Prop :=
  ∀ before s after items, p = before ++ s :: after → x.at? before = some (.list items) →
    ∃ i, index? s = some i ∧ i ≤ items.length

theorem child?_of_sameChild {x : Value} {s t : String} (h : x.sameChild s t) :
    x.child? s = x.child? t := by
  cases x with
  | list items =>
    have hi : index? s = index? t := h
    rw [child?, child?, hi]
  | _ => rw [show s = t from h]

/-- A list below the child, or below the null in its place, is a list below the value. -/
theorem at?_cons_of_childOrNull {s : String} {before : List String} {x : Value}
    {items : List Value} (h : at? before (x.childOrNull s) = some (.list items)) :
    at? (s :: before) x = some (.list items) := by
  rw [childOrNull] at h
  cases hc : x.child? s with
  | some c =>
    rw [hc] at h
    rw [at?, hc]
    exact h
  | none =>
    -- below a null there is no list
    rw [hc] at h
    cases before with
    | nil => exact absurd h (by simp [at?])
    | cons u before => exact absurd h (by simp [at?, child?])

/-- What an addressed path says of the list it starts in. -/
theorem Addressed.head {s : String} {rest : List String} {items : List Value}
    (h : Addressed (s :: rest) (.list items)) : ∃ i, index? s = some i ∧ i ≤ items.length :=
  h [] s rest items rfl rfl

theorem Addressed.tail {s : String} {rest : List String} {x : Value}
    (h : Addressed (s :: rest) x) : Addressed rest (x.childOrNull s) := by
  intro before t after items hp hat
  exact h (s :: before) t after items (by rw [hp]; rfl) (at?_cons_of_childOrNull hat)

theorem addressed_nil (x : Value) : Addressed [] x := by
  intro before s after items hp _
  exact absurd hp (by simp)

/-- An addressed path enters a list at an index that it has or at its length, and goes on as an
addressed path below. -/
theorem addressed_cons_iff {s : String} {rest : List String} {x : Value} :
    Addressed (s :: rest) x ↔
      (∀ items, x = .list items → ∃ i, index? s = some i ∧ i ≤ items.length) ∧
        Addressed rest (x.childOrNull s) := by
  constructor
  · intro h
    exact ⟨fun items hx => (hx ▸ h).head, h.tail⟩
  · rintro ⟨hhead, htail⟩ before t after items hp hat
    cases before with
    | nil =>
      simp only [List.nil_append, List.cons.injEq] at hp
      simp only [at?, Option.some.injEq] at hat
      exact hp.1 ▸ hhead items hat
    | cons u before =>
      simp only [List.cons_append, List.cons.injEq] at hp
      obtain ⟨c, hc, hat⟩ := Option.bind_eq_some_iff.1 hat
      refine htail before t after items hp.2 ?_
      rw [childOrNull, hp.1, hc]
      exact hat

/-- Nothing is read below a child that is not there. -/
theorem at?_null_of_diverges {p q : List String} (h : Diverges p q .null) : at? q .null = none := by
  cases p with
  | nil => exact absurd h (by simp [Diverges])
  | cons s p =>
    cases q with
    | nil => exact absurd h (by simp [Diverges])
    | cons t q => rfl

/-! ## 4. The frame law -/

/-- A write leaves the children beside the one it leads to. -/
theorem child?_assign_other (new : Value) {s t : String} {rest : List String} {x : Value}
    (ha : Addressed (s :: rest) x) (h : ¬ x.sameChild s t) :
    (assign new (s :: rest) x).child? t = x.child? t := by
  cases hx : x.isScalar with
  | true =>
    have hst : s ≠ t := by
      cases x with
      | list _ => exact absurd hx (by simp [isScalar])
      | _ => exact h
    rw [assign_cons_scalar new s rest hx, child?_scalar t hx]
    simp [child?, Fields.find?, hst]
  | false =>
    cases x with
    | map fields =>
      rw [assign_cons_map]
      exact Fields.find?_alter_other h _ fields
    | list items =>
      obtain ⟨i, hs, hle⟩ := ha.head
      have hne : ∀ j, index? t = some j → i ≠ j := fun j hj hij => h (by rw [sameChild, hs, hj, hij])
      rcases Nat.lt_or_eq_of_le hle with hlt | heq
      · rw [assign_cons_list_lt new rest hs hlt]
        cases ht : index? t with
        | none => simp [child?, ht]
        | some j => simp [child?, ht, hne j ht]
      · subst heq
        rw [assign_cons_list_length new rest hs]
        cases ht : index? t with
        | none => simp [child?, ht]
        | some j =>
          rcases Nat.lt_or_gt_of_ne (hne j ht) with hgt | hlt
          · have hold : items[j]? = none := List.getElem?_eq_none (Nat.le_of_lt hgt)
            have hnew : ∀ v, (items ++ [v])[j]? = none := fun v =>
              List.getElem?_eq_none (by rw [List.length_append]; exact hgt)
            simp only [child?, ht, Option.bind_some, hold, hnew]
          · simp [child?, ht, List.getElem?_append_left hlt]
    | _ => exact absurd hx (by simp [isScalar])

/-- A segment that leads to the same child as the first one of a write finds what was written. -/
theorem child?_assign_sameChild (new : Value) {s t : String} {rest : List String} {x : Value}
    (ha : Addressed (s :: rest) x) (h : x.sameChild s t) :
    (assign new (s :: rest) x).child? t = some (assign new rest (x.childOrNull s)) := by
  cases x with
  | list items =>
    obtain ⟨i, hs, hle⟩ := ha.head
    have ht : index? t = some i := by rw [← show index? s = index? t from h, hs]
    rw [← child?_assign new s rest (.list items)]
    rcases Nat.lt_or_eq_of_le hle with hlt | heq
    · rw [assign_cons_list_lt new rest hs hlt, child?, child?, hs, ht]
    · subst heq
      rw [assign_cons_list_length new rest hs, child?, child?, hs, ht]
  | _ =>
    rw [← show s = t from h]
    exact child?_assign new s rest _

/-- **The frame law**: a write changes nothing on a path that diverges from its own. -/
theorem at?_assign_of_diverges (new : Value) {p q : List String} {x : Value}
    (ha : Addressed p x) (h : Diverges p q x) : at? q (assign new p x) = at? q x := by
  induction p generalizing q x with
  | nil => exact absurd h (by simp [Diverges])
  | cons s p ih =>
    cases q with
    | nil => exact absurd h (by simp [Diverges])
    | cons t q =>
      by_cases hst : x.sameChild s t
      · have hd : Diverges p q (x.childOrNull s) := by
          rcases h with hn | hd
          · exact absurd hst hn
          · exact hd
        rw [at?, child?_assign_sameChild new ha hst, Option.bind_some, ih ha.tail hd, at?,
          ← child?_of_sameChild hst, childOrNull]
        cases hc : x.child? s with
        | some c => rfl
        | none =>
          rw [childOrNull, hc] at hd
          exact at?_null_of_diverges hd
      · rw [at?, at?, child?_assign_other new ha hst]

/-- A write that does not overwrite a value goes by it, or what is left of its path is written into it. -/
theorem at?_assign_of_not_within (new : Value) {p q : List String} {x y : Value}
    (ha : Addressed p x) (h : ¬ Within p q x) (hq : at? q x = some y) :
    at? q (assign new p x) = some y ∨
      ∃ s rest, Addressed (s :: rest) y ∧ at? (s :: rest) y = at? p x ∧
        at? q (assign new p x) = some (assign new (s :: rest) y) := by
  induction p generalizing q x with
  | nil => exact absurd trivial h
  | cons s p ih =>
    cases q with
    | nil =>
      obtain rfl : x = y := Option.some.inj hq
      exact Or.inr ⟨s, p, ha, rfl, rfl⟩
    | cons t q =>
      by_cases hst : x.sameChild s t
      · obtain ⟨c, hc, hqc⟩ := Option.bind_eq_some_iff.1 hq
        have hchild : x.child? s = some c := (child?_of_sameChild hst).trans hc
        have hcs : x.childOrNull s = c := by rw [childOrNull, hchild]; rfl
        have hw : ¬ Within p q (x.childOrNull s) := fun hw => h ⟨hst, hw⟩
        rw [at?, child?_assign_sameChild new ha hst, Option.bind_some, at?, hchild, Option.bind_some,
          ← hcs]
        exact ih ha.tail hw (by rw [hcs, hqc])
      · rw [at?, child?_assign_other new ha hst]
        exact Or.inl hq

/-- What a write leaves of a map: its keys in their order, and perhaps a new one after them. -/
theorem keys_assign (new : Value) {p q : List String} {x : Value} {fields : Fields Value}
    (ha : Addressed p x) (h : ¬ Within p q x) (hq : at? q x = some (.map fields)) :
    ∃ fields' added, at? q (assign new p x) = some (.map fields') ∧
      Fields.keys fields' = Fields.keys fields ++ added ∧ added.length ≤ 1 ∧
      ∀ k ∈ added, k ∉ Fields.keys fields := by
  rcases at?_assign_of_not_within new ha h hq with hsame | ⟨s, rest, -, -, hwrite⟩
  · exact ⟨fields, [], hsame, by simp, by simp, by simp⟩
  · have hk := Fields.keys_alter s (fun old => assign new rest (old.getD .null)) fields
    rw [assign_cons_map] at hwrite
    by_cases hs : s ∈ Fields.keys fields
    · rw [if_pos hs] at hk
      exact ⟨_, [], hwrite, by rw [hk, List.append_nil], by simp, by simp⟩
    · rw [if_neg hs] at hk
      exact ⟨_, [s], hwrite, hk, by simp, by simpa using hs⟩

/-- What a write leaves of a list: its elements in their places, one of them perhaps changed, or one
more after them. -/
theorem items_assign (new : Value) {p q : List String} {x : Value} {items : List Value}
    (ha : Addressed p x) (h : ¬ Within p q x) (hq : at? q x = some (.list items)) :
    ∃ items', at? q (assign new p x) = some (.list items') ∧
      (items' = items ∨ (∃ i v, items' = items.set i v) ∨ ∃ v, items' = items ++ [v]) := by
  rcases at?_assign_of_not_within new ha h hq with hsame | ⟨s, rest, haddressed, -, hwrite⟩
  · exact ⟨items, hsame, Or.inl rfl⟩
  · obtain ⟨i, hs, hle⟩ := haddressed.head
    rcases Nat.lt_or_eq_of_le hle with hlt | heq
    · rw [assign_cons_list_lt new rest hs hlt, List.modify_eq_set_get _ hlt] at hwrite
      exact ⟨_, hwrite, Or.inr (Or.inl ⟨i, _, rfl⟩)⟩
    · subst heq
      rw [assign_cons_list_length new rest hs] at hwrite
      exact ⟨_, hwrite, Or.inr (Or.inr ⟨_, rfl⟩)⟩

end Value

namespace Store

/-! ## 5. The laws of the store -/

theorem segments_ne_nil (path : String) : segments path ≠ [] := by
  have hne := Text.pieces_ne_nil '.' path.toList
  simpa [segments, Text.split] using hne

/-- A write into a store is a write into its map. -/
theorem toValue_set (s : Store) (path : String) (v : Value) :
    (s.set path v).toValue = Value.assign v (segments path) s.toValue := by
  cases hp : segments path with
  | nil => exact absurd hp (segments_ne_nil path)
  | cons head rest =>
    show Value.map (ofValue (Value.assign v (segments path) (.map s.fields))).fields =
      Value.assign v (head :: rest) (.map s.fields)
    rw [hp, Value.assign_cons_map]
    rfl

theorem toValue_injective {s t : Store} (h : s.toValue = t.toValue) : s = t := by
  obtain ⟨fields⟩ := s
  obtain ⟨fields'⟩ := t
  simp only [toValue, Value.map.injEq] at h
  rw [h]

theorem get?_set (s : Store) (path : String) (v : Value) : (s.set path v).get? path = some v := by
  rw [get?, toValue_set]
  exact Value.at?_assign v _ _

theorem set_of_get? {s : Store} {path : String} {v : Value} (h : s.get? path = some v) :
    s.set path v = s := by
  apply toValue_injective
  rw [toValue_set]
  exact Value.assign_of_at? h

theorem set_set (s : Store) (path : String) (v w : Value) :
    (s.set path v).set path w = s.set path w := by
  apply toValue_injective
  rw [toValue_set, toValue_set, toValue_set]
  exact Value.assign_assign v w _ _

theorem get?_set_of_diverges {s : Store} {path other : String} (v : Value)
    (ha : Value.Addressed (segments path) s.toValue)
    (h : Value.Diverges (segments path) (segments other) s.toValue) :
    (s.set path v).get? other = s.get? other := by
  rw [get?, toValue_set]
  exact Value.at?_assign_of_diverges v ha h

/-- At the top of a store only the first segments count. -/
theorem get?_set_of_head_ne {s : Store} {path other : String} (v : Value)
    (h : (segments path).head? ≠ (segments other).head?) :
    (s.set path v).get? other = s.get? other := by
  cases hp : segments path with
  | nil => exact absurd hp (segments_ne_nil path)
  | cons a rest =>
    cases hq : segments other with
    | nil => exact absurd hq (segments_ne_nil other)
    | cons b rest' =>
      rw [hp, hq, List.head?_cons, List.head?_cons] at h
      have hab : a ≠ b := fun hab => h (by rw [hab])
      rw [get?, get?, toValue_set, hp, hq, toValue, Value.assign_cons_map, Value.at?, Value.at?,
        Value.child?, Value.child?, Fields.find?_alter_other hab]

theorem get?_putAll_of_head_ne {s : Store} {entries : Fields Value} {other : String}
    (h : ∀ entry ∈ entries, (segments entry.1).head? ≠ (segments other).head?) :
    (s.putAll entries).get? other = s.get? other := by
  induction entries generalizing s with
  | nil => rfl
  | cons entry rest ih =>
    have hrest : (s.putAll (entry :: rest)).get? other =
        ((s.set entry.1 entry.2).putAll rest).get? other := rfl
    rw [hrest, ih fun e he => h e (List.mem_cons_of_mem entry he),
      get?_set_of_head_ne entry.2 (h entry List.mem_cons_self)]

/-- **Reading and writing are a lens, and a write stays on its path.** The first three laws hold of
every path. Where the path is addressed, what lies on diverging paths is as it was; a map that is
not overwritten has its keys in their order, a new one last; a list that is not overwritten has its
elements in their places, a new one last. -/
theorem set_is_lens_with_frame (s : Store) (path : String) (v w : Value) :
    (s.set path v).get? path = some v ∧
    (s.get? path = some v → s.set path v = s) ∧
    (s.set path v).set path w = s.set path w ∧
    (Value.Addressed (segments path) s.toValue →
      (∀ other, Value.Diverges (segments path) (segments other) s.toValue →
        (s.set path v).get? other = s.get? other) ∧
      (∀ q fields, ¬ Value.Within (segments path) q s.toValue →
        s.toValue.at? q = some (.map fields) →
        ∃ fields' added, (s.set path v).toValue.at? q = some (.map fields') ∧
          Fields.keys fields' = Fields.keys fields ++ added ∧ added.length ≤ 1 ∧
          ∀ k ∈ added, k ∉ Fields.keys fields) ∧
      (∀ q items, ¬ Value.Within (segments path) q s.toValue →
        s.toValue.at? q = some (.list items) →
        ∃ items', (s.set path v).toValue.at? q = some (.list items') ∧
          (items' = items ∨ (∃ i x, items' = items.set i x) ∨ ∃ x, items' = items ++ [x]))) := by
  refine ⟨get?_set s path v, set_of_get?, set_set s path v w, fun ha => ⟨?_, ?_, ?_⟩⟩
  · intro other h
    exact get?_set_of_diverges v ha h
  · intro q fields hw hq
    rw [toValue_set]
    exact Value.keys_assign v ha hw hq
  · intro q items hw hq
    rw [toValue_set]
    exact Value.items_assign v ha hw hq

/-- Data with a map in a list, for the laws at work. -/
def nestedSample : Store :=
  ⟨[("list", .list [.map [("a", .int 1)], .int 5]), ("b", .str "x")]⟩

/-- Written through `list.+0.c`, the sample keeps the neighbour at `list.01`, the new key comes after
`a`, and the list keeps its length. -/
theorem set_is_lens_with_frame_in_list :
    Value.Addressed (segments "list.+0.c") nestedSample.toValue ∧
    Value.Diverges (segments "list.+0.c") (segments "list.01") nestedSample.toValue ∧
    (nestedSample.set "list.+0.c" .null).get? "list.01" = nestedSample.get? "list.01" ∧
    (∃ fields' added,
      (nestedSample.set "list.+0.c" .null).toValue.at? ["list", "0"] = some (.map fields') ∧
      Fields.keys fields' = Fields.keys [("a", Value.int 1)] ++ added ∧ added.length ≤ 1 ∧
      ∀ k ∈ added, k ∉ Fields.keys [("a", Value.int 1)]) := by
  have hp : segments "list.+0.c" = ["list", "+0", "c"] := by decide
  have hq : segments "list.01" = ["list", "01"] := by decide
  have h0 : index? "+0" = some 0 := by decide
  have h00 : index? "0" = some 0 := by decide
  have h1 : index? "01" = some 1 := by decide
  have ha : Value.Addressed (segments "list.+0.c") nestedSample.toValue := by
    rw [hp]
    simp [Value.addressed_cons_iff, Value.addressed_nil, Value.childOrNull, Value.child?,
      nestedSample, toValue, Fields.find?, h0]
  have hd : Value.Diverges (segments "list.+0.c") (segments "list.01") nestedSample.toValue := by
    rw [hp, hq]
    simp [Value.Diverges, Value.sameChild, Value.childOrNull, Value.child?, nestedSample, toValue,
      Fields.find?, h0, h1]
  have hw : ¬ Value.Within (segments "list.+0.c") ["list", "0"] nestedSample.toValue := by
    rw [hp]
    simp [Value.Within]
  have hmap : nestedSample.toValue.at? ["list", "0"] = some (.map [("a", .int 1)]) := by
    simp [Value.at?, Value.child?, nestedSample, toValue, Fields.find?, h00]
  obtain ⟨-, -, -, hframe⟩ := set_is_lens_with_frame nestedSample "list.+0.c" .null .null
  obtain ⟨hother, hmaps, -⟩ := hframe ha
  exact ⟨ha, hd, hother "list.01" hd, hmaps _ _ hw hmap⟩

end Store

end Stencil
