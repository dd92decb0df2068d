import Stencil.Proofs.Store.Entries

/-!
# What taking something out of the store leaves

A removal goes down its path as a read does, takes a child out of the value that it comes to, and puts
the values on its way back where they were. So it is a write in disguise:

> taking out at `parent.last` is **writing, at `parent`, the value there without its child `last`**
> (`takeAt?_concat`).

With that the laws of writing do the rest. What is taken is what was read. What lies beside `parent` is as
it was by the frame law, and what lies in it is as it is in the value without the child. And what was
written into a free place is taken out again without a trace, since a write at `parent` hides the one
before.

A map without a child keeps its other children under their keys. A list without a child does not: the
elements behind it move up. So there is more to say for a path that ends in a map.
-/

set_option autoImplicit false

namespace Stencil

namespace Value

/-! ## 1. Paths in two parts -/

theorem at?_append (p q : List String) (x : Value) : at? (p ++ q) x = (at? p x).bind (at? q) := by
  induction p generalizing x with
  | nil => rfl
  | cons s p ih =>
    rw [List.cons_append, at?, at?, Option.bind_assoc]
    exact congrArg _ (funext ih)

/-- A write below a child is a write of the child. -/
theorem assign_cons_of_child? (new : Value) {s : String} {p : List String} {x c : Value}
    (hc : x.child? s = some c) : assign new (s :: p) x = assign (assign new p c) [s] x := by
  cases x with
  | map fields =>
    have hfind : Fields.find? s fields = some c := hc
    rw [assign_cons_map, assign_cons_map, Fields.alter_congr]
    rw [hfind]
    rfl
  | list items =>
    obtain ⟨i, hs, hi⟩ := Option.bind_eq_some_iff.1 hc
    have hlt : i < items.length := (List.getElem?_eq_some_iff.1 hi).1
    rw [assign_cons_list_lt new p hs hlt, assign_cons_list_lt _ [] hs hlt]
    refine congrArg Value.list (List.ext_getElem? fun j => ?_)
    rw [List.getElem?_modify, List.getElem?_modify]
    by_cases hij : i = j
    · subst hij
      rw [hi]
      simp [assign_nil]
    · simp [hij]
  | _ => exact absurd hc (by simp [child?])

theorem assign_append_of_at? (new : Value) {p q : List String} {x c : Value}
    (hc : at? p x = some c) : assign new (p ++ q) x = assign (assign new q c) p x := by
  induction p generalizing x with
  | nil => rw [Option.some.inj hc, List.nil_append, assign_nil]
  | cons s p ih =>
    obtain ⟨d, hd, hrest⟩ := Option.bind_eq_some_iff.1 hc
    rw [List.cons_append, assign_cons_of_child? new hd, ih hrest, ← assign_cons_of_child? _ hd]

/-- A path that leads somewhere enters every list at an index that it has. -/
theorem addressed_of_at? {p : List String} {x c : Value} (hc : at? p x = some c) : Addressed p x := by
  intro before s after items hp hat
  rw [hp, at?_append, hat, Option.bind_some, at?] at hc
  obtain ⟨d, hd, -⟩ := Option.bind_eq_some_iff.1 hc
  obtain ⟨i, hs, hi⟩ := Option.bind_eq_some_iff.1 hd
  exact ⟨i, hs, Nat.le_of_lt (List.getElem?_eq_some_iff.1 hi).1⟩

/-! ## 2. A removal as a write -/

/-- What is taken out is the child. -/
theorem fst_take? (s : String) (x : Value) : (x.take? s).map Prod.fst = x.child? s := by
  cases x with
  | map fields =>
    rw [take?, Option.map_map]
    exact Option.map_id'
  | list items =>
    rw [take?, child?]
    cases index? s with
    | none => rfl
    | some i =>
      rw [Option.bind_some, Option.bind_some, Option.map_map]
      exact Option.map_id'
  | _ => rfl

/-- A removal in more than one step is a removal from the child, which is put back. -/
theorem takeAt?_cons (s t : String) (rest : List String) (x : Value) :
    takeAt? (s :: t :: rest) x = (x.child? s).bind fun c =>
      (takeAt? (t :: rest) c).map fun out => (out.1, assign out.2 [s] x) := by
  cases x with
  | map fields =>
    rw [takeAt?, child?]
    cases Fields.find? s fields with
    | none => rfl
    | some c => rfl
  | list items =>
    rw [takeAt?, child?]
    cases hs : index? s with
    | none => rfl
    | some i =>
      dsimp only
      rw [Option.bind_some]
      cases hi : items[i]? with
      | none => rfl
      | some c =>
        have hlt : i < items.length := (List.getElem?_eq_some_iff.1 hi).1
        have hput : ∀ w, Value.list (items.set i w) = assign w [s] (.list items) := by
          intro w
          rw [assign_cons_list_lt w [] hs hlt, List.set_eq_modify]
          rfl
        simp only [hput, Option.bind_some]
  | _ => rfl

/-- **A removal is a write**: of the value at the parent, without its child. -/
theorem takeAt?_concat (parent : List String) (last : String) (x : Value) :
    takeAt? (parent ++ [last]) x = (at? parent x).bind fun c =>
      (c.take? last).map fun out => (out.1, assign out.2 parent x) := by
  induction parent generalizing x with
  | nil =>
    rw [List.nil_append, takeAt?, at?, Option.bind_some]
    exact Option.map_id'.symm
  | cons s parent ih =>
    obtain ⟨t, rest, hrest⟩ : ∃ t rest, parent ++ [last] = t :: rest :=
      List.exists_cons_of_ne_nil (by simp)
    rw [List.cons_append, hrest, takeAt?_cons, ← hrest, at?]
    cases hs : x.child? s with
    | none => rfl
    | some d =>
      rw [Option.bind_some, Option.bind_some, ih]
      cases hd : at? parent d with
      | none => rfl
      | some c =>
        rw [Option.bind_some, Option.bind_some, Option.map_map]
        refine congrArg (Option.map · (c.take? last)) (funext fun out => ?_)
        rw [Function.comp_apply, assign_cons_of_child? out.2 hs]

/-! ## 3. Beside, above and below a path -/

section

variable {p q r : List String} {s t : String} {x c : Value}

theorem sameChild_symm (h : x.sameChild s t) : x.sameChild t s := by
  cases x with
  | list items => exact Eq.symm h
  | _ => exact Eq.symm h

theorem childOrNull_of_sameChild (h : x.sameChild s t) : x.childOrNull s = x.childOrNull t := by
  rw [childOrNull, childOrNull, child?_of_sameChild h]

theorem childOrNull_of_child? (h : x.child? s = some c) : x.childOrNull s = c := by
  rw [childOrNull, h]
  rfl

/-- Paths of which neither leads to or below the end of the other part somewhere. -/
theorem diverges_of_not_within (hpq : ¬ Within p q x) (hqp : ¬ Within q p x) : Diverges p q x := by
  induction p generalizing q x with
  | nil => exact absurd trivial hpq
  | cons s p ih =>
    cases q with
    | nil => exact absurd trivial hqp
    | cons t q =>
      by_cases hst : x.sameChild s t
      · refine Or.inr (ih (fun h => hpq ⟨hst, h⟩) fun h => hqp ⟨sameChild_symm hst, ?_⟩)
        rw [← childOrNull_of_sameChild hst]
        exact h
      · exact Or.inl hst

/-- A path that is continued stays where it leads, or below. -/
theorem Within.append (h : Within p q x) (r : List String) : Within p (q ++ r) x := by
  induction p generalizing q x with
  | nil => trivial
  | cons s p ih =>
    cases q with
    | nil => exact h.elim
    | cons t q => exact ⟨h.1, ih h.2⟩

/-- A path that ends where the other one leads is led to by the other one. -/
theorem Within.swap (h : Within p q x) (hend : q.drop p.length = []) : Within q p x := by
  induction p generalizing q x with
  | nil =>
    rw [List.length_nil, List.drop_zero] at hend
    rw [hend]
    trivial
  | cons s p ih =>
    cases q with
    | nil => exact h.elim
    | cons t q =>
      refine ⟨sameChild_symm h.1, ?_⟩
      rw [← childOrNull_of_sameChild h.1]
      exact ih h.2 (by simpa using hend)

theorem within_append_iff (hc : at? p x = some c) :
    Within (p ++ r) q x ↔ Within p q x ∧ Within r (q.drop p.length) c := by
  induction p generalizing q x with
  | nil =>
    obtain rfl := Option.some.inj hc
    exact ⟨fun h => ⟨trivial, h⟩, And.right⟩
  | cons s p ih =>
    cases q with
    | nil => exact ⟨False.elim, fun h => h.1.elim⟩
    | cons t q =>
      obtain ⟨d, hd, hrest⟩ := Option.bind_eq_some_iff.1 hc
      have hbelow := ih (q := q) (childOrNull_of_child? hd ▸ hrest)
      exact (and_congr_right' hbelow).trans and_assoc.symm

/-- Within the end of a write stands what is in the value that was written. -/
theorem at?_assign_of_within (new : Value) (hc : at? p x = some c) (h : Within p q x) :
    at? q (assign new p x) = at? (q.drop p.length) new := by
  induction p generalizing q x with
  | nil => rfl
  | cons s p ih =>
    cases q with
    | nil => exact h.elim
    | cons t q =>
      obtain ⟨d, hd, hrest⟩ := Option.bind_eq_some_iff.1 hc
      rw [at?, child?_assign_sameChild new (addressed_of_at? hc) h.1, Option.bind_some]
      exact ih (childOrNull_of_child? hd ▸ hrest) h.2

theorem at?_of_within (hc : at? p x = some c) (h : Within p q x) :
    at? q x = at? (q.drop p.length) c := by
  rw [← at?_assign_of_within c hc h, assign_of_at? hc]

/-- A write over something that is there leaves the keys of every map that is not overwritten. -/
theorem keys_assign_of_at? (new : Value) {fields : Fields Value} (hc : at? p x = some c)
    (h : ¬ Within p q x) (hq : at? q x = some (.map fields)) :
    ∃ kept, at? q (assign new p x) = some (.map kept) ∧ Fields.keys kept = Fields.keys fields := by
  rcases at?_assign_of_not_within new (addressed_of_at? hc) h hq with
    hsame | ⟨s, rest, -, hleft, hwrite⟩
  · exact ⟨fields, hsame, rfl⟩
  · rw [hc] at hleft
    obtain ⟨d, hd, -⟩ := Option.bind_eq_some_iff.1 hleft
    have hmem : s ∈ Fields.keys fields := List.mem_map_of_mem (Fields.mem_of_find? hd)
    rw [assign_cons_map] at hwrite
    exact ⟨_, hwrite, by rw [Fields.keys_alter, if_pos hmem]⟩

end

/-! ## 4. A map without one of its keys -/

section

variable {parent q : List String} {last : String} {x : Value} {fields : Fields Value}
  (hc : at? parent x = some (.map fields))

include hc

/-- Below the map, beside the key, nothing changes. -/
theorem at?_dropped_of_below (hbelow : Within parent q x) (hne : q.drop parent.length ≠ [])
    (hbeside : ¬ Within (parent ++ [last]) q x) :
    at? q (assign (.map (Fields.drop last fields)) parent x) = at? q x := by
  rw [at?_assign_of_within _ hc hbelow, at?_of_within hc hbelow]
  obtain ⟨t, rest, hrest⟩ := List.exists_cons_of_ne_nil hne
  have hlast : last ≠ t := by
    intro heq
    refine hbeside ((within_append_iff hc).2 ⟨hbelow, ?_⟩)
    rw [hrest]
    exact ⟨heq, trivial⟩
  rw [hrest, at?, at?, child?, child?, Fields.find?_drop_other hlast]

/-- What is neither at or below the key nor above it is as it was. -/
theorem at?_dropped_of_apart (hpq : ¬ Within (parent ++ [last]) q x)
    (hqp : ¬ Within q (parent ++ [last]) x) :
    at? q (assign (.map (Fields.drop last fields)) parent x) = at? q x := by
  have habove : ¬ Within q parent x := fun h => hqp (h.append [last])
  by_cases hbelow : Within parent q x
  · exact at?_dropped_of_below hc hbelow (fun hend => habove (hbelow.swap hend)) hpq
  · exact at?_assign_of_diverges _ (addressed_of_at? hc) (diverges_of_not_within hbelow habove)

/-- Every map that is not taken out keeps its keys in their order, and only the one map loses one. -/
theorem keys_dropped {old : Fields Value} (hpq : ¬ Within (parent ++ [last]) q x)
    (hq : at? q x = some (.map old)) :
    ∃ kept, at? q (assign (.map (Fields.drop last fields)) parent x) = some (.map kept) ∧
      (Fields.keys kept).Sublist (Fields.keys old) ∧
      ∀ key ∈ Fields.keys old, key ∉ Fields.keys kept →
        key = last ∧ Within parent q x ∧ Within q parent x := by
  by_cases hbelow : Within parent q x
  · by_cases hend : q.drop parent.length = []
    · rw [at?_of_within hc hbelow, hend, at?, Option.some.injEq, Value.map.injEq] at hq
      subst hq
      rw [at?_assign_of_within _ hc hbelow, hend, at?]
      refine ⟨_, rfl, List.filter_sublist.map _, fun key hkey hlost => ?_⟩
      refine ⟨Classical.byContradiction fun hne => hlost ?_, hbelow, hbelow.swap hend⟩
      obtain ⟨e, he, rfl⟩ := List.mem_map.1 hkey
      exact List.mem_map_of_mem (List.mem_filter.2 ⟨he, bne_iff_ne.2 hne⟩)
    · rw [at?_dropped_of_below hc hbelow hend hpq]
      exact ⟨old, hq, List.Sublist.refl _, fun key hkey hlost => absurd hkey hlost⟩
  · obtain ⟨kept, hkept, hkeys⟩ := keys_assign_of_at? (.map (Fields.drop last fields)) hc hbelow hq
    refine ⟨kept, hkept, hkeys ▸ List.Sublist.refl _, fun key hkey hlost => ?_⟩
    exact absurd (hkeys ▸ hkey) hlost

end

/-! ## 5. Taking out what was put in -/

/-- The place that a segment names in a value is free: a key that the map has not, or the end of the
list. -/
inductive Free (segment : String) : Value → Prop where
  | key {fields : Fields Value} (h : Fields.find? segment fields = none) : Free segment (.map fields)
  | index {items : List Value} (h : index? segment = some items.length) : Free segment (.list items)

theorem take?_assign {segment : String} {c : Value} (h : c.Free segment) (new : Value) :
    (assign new [segment] c).take? segment = some (new, c) := by
  cases h with
  | @key fields hnone =>
    have hput : assign new [segment] (.map fields) = .map (Fields.put segment new fields) := rfl
    rw [hput, take?, Fields.find?_put_same, Fields.drop_put, Fields.drop_of_not_held hnone]
    rfl
  | @index items hindex =>
    rw [assign_cons_list_length new [] hindex, assign_nil, take?, hindex, Option.bind_some,
      List.getElem?_concat_length, Option.map_some, List.eraseIdx_append_of_length_le (Nat.le_refl _)]
    simp

/-- What was put into a free place is taken out again, and all is as it was. -/
theorem takeAt?_assign (new : Value) {parent : List String} {last : String} {x c : Value}
    (hc : at? parent x = some c) (hfree : c.Free last) :
    takeAt? (parent ++ [last]) (assign new (parent ++ [last]) x) = some (new, x) := by
  rw [assign_append_of_at? new hc, takeAt?_concat, at?_assign, Option.bind_some, take?_assign hfree,
    Option.map_some, assign_assign, assign_of_at? hc]

end Value

namespace Store

open Value (Within)

/-! ## 6. The laws of the store -/

section

variable {s : Store} {path : String} {parent : List String} {last : String} {c rest taken : Value}

theorem take_of_takeAt? {out : Value × Value} (h : s.toValue.takeAt? (segments path) = some out) :
    s.take path = (some out.1, ofValue out.2) := by
  unfold take
  rw [h]

theorem get?_eq_map_takeAt? (s : Store) (path : String) :
    s.get? path = (s.toValue.takeAt? (segments path)).map Prod.fst := by
  obtain ⟨parent, last, hpath⟩ : ∃ parent last, segments path = parent ++ [last] :=
    List.eq_nil_or_concat' _ |>.resolve_left (segments_ne_nil path)
  rw [get?, hpath, Value.takeAt?_concat, Value.at?_append]
  cases s.toValue.at? parent with
  | none => rfl
  | some c =>
    rw [Option.bind_some, Option.bind_some, Option.map_map, Value.at?, ← Value.fst_take?]
    cases c.take? last with
    | none => rfl
    | some out => rfl

theorem fst_take (s : Store) (path : String) : (s.take path).1 = s.get? path := by
  rw [get?_eq_map_takeAt?, take]
  cases s.toValue.takeAt? (segments path) with
  | none => rfl
  | some out => rfl

theorem forget_of_get?_none (h : s.get? path = none) : s.forget path = s := by
  rw [get?_eq_map_takeAt?, Option.map_eq_none_iff] at h
  rw [forget, take, h]

/-- What is left when something has been taken out: a write of the rest at the parent. -/
theorem toValue_forget (hpath : segments path = parent ++ [last])
    (hc : s.toValue.at? parent = some c) (htake : c.take? last = some (taken, rest)) :
    (s.forget path).toValue = Value.assign rest parent s.toValue := by
  have hout : s.toValue.takeAt? (segments path) =
      some (taken, Value.assign rest parent s.toValue) := by
    rw [hpath, Value.takeAt?_concat, hc, Option.bind_some, htake]
    rfl
  rw [forget, take_of_takeAt? hout]
  cases parent with
  | nil =>
    -- the top of a store is a map, and so is what is left of it
    obtain rfl := Option.some.inj hc
    obtain ⟨v, -, hv⟩ := Option.map_eq_some_iff.1 htake
    rw [← (Prod.mk.inj hv).2]
    rfl
  | cons head below => rfl

theorem toValue_forget_key {fields : Fields Value} (hpath : segments path = parent ++ [last])
    (hc : s.toValue.at? parent = some (.map fields)) :
    (s.forget path).toValue =
      Value.assign (.map (Fields.drop last fields)) parent s.toValue := by
  cases hlast : Fields.find? last fields with
  | some v =>
    have htake : (Value.map fields).take? last = some (v, .map (Fields.drop last fields)) := by
      rw [Value.take?, hlast]
      rfl
    exact toValue_forget hpath hc htake
  | none =>
    have hnone : s.get? path = none := by
      rw [get?, hpath, Value.at?_append, hc, Option.bind_some, Value.at?, Value.child?, hlast]
      rfl
    rw [forget_of_get?_none hnone, Fields.drop_of_not_held hlast, Value.assign_of_at? hc]

theorem take_set (v : Value) (hpath : segments path = parent ++ [last])
    (hc : s.toValue.at? parent = some c) (hfree : c.Free last) :
    (s.set path v).take path = (some v, s) := by
  have hout : (s.set path v).toValue.takeAt? (segments path) = some (v, s.toValue) := by
    rw [toValue_set, hpath]
    exact Value.takeAt?_assign v hc hfree
  exact take_of_takeAt? hout

end

/-- **Taking out is exact.** What is taken is what was read, and nothing changes where nothing was read.
At a path that ends in a map, the key is gone from it; what is neither at or below the key nor above it is
as it was; and every map keeps its keys in their order, apart from that one key. At a path that ends in a
list, the element is gone and those behind it have moved up. What was put under a new key of a map or at
the end of a list is taken out again without a trace. -/
theorem take_is_exact (s : Store) (path : String) :
    (s.take path).1 = s.get? path ∧
    (s.get? path = none → s.forget path = s) ∧
    ∀ parent last, segments path = parent ++ [last] →
      (∀ fields, s.toValue.at? parent = some (.map fields) →
        (s.forget path).get? path = none ∧
        (∀ other, ¬ Within (segments path) (segments other) s.toValue →
          ¬ Within (segments other) (segments path) s.toValue →
          (s.forget path).get? other = s.get? other) ∧
        ∀ q old, ¬ Within (segments path) q s.toValue → s.toValue.at? q = some (.map old) →
          ∃ kept, (s.forget path).toValue.at? q = some (.map kept) ∧
            (Fields.keys kept).Sublist (Fields.keys old) ∧
            ∀ key ∈ Fields.keys old, key ∉ Fields.keys kept →
              key = last ∧ Within parent q s.toValue ∧ Within q parent s.toValue) ∧
      (∀ items i, s.toValue.at? parent = some (.list items) → index? last = some i →
        i < items.length →
        (s.forget path).toValue.at? parent = some (.list (items.eraseIdx i)) ∧
        ∀ other, ¬ Within parent (segments other) s.toValue →
          ¬ Within (segments other) parent s.toValue →
          (s.forget path).get? other = s.get? other) ∧
      (s.get? path = none → (∃ fields, s.toValue.at? parent = some (.map fields)) ∨
        (∃ items, s.toValue.at? parent = some (.list items) ∧ index? last = some items.length) →
        ∀ v, (s.set path v).take path = (some v, s)) := by
  refine ⟨fst_take s path, forget_of_get?_none, fun parent last hpath => ⟨?_, ?_, ?_⟩⟩
  · intro fields hc
    have hleft := toValue_forget_key hpath hc
    refine ⟨?_, fun other hpq hqp => ?_, fun q old hpq hq => ?_⟩
    · rw [get?, hleft, hpath, Value.at?_append, Value.at?_assign, Option.bind_some, Value.at?,
        Value.child?, Fields.find?_drop_same]
      rfl
    · rw [get?, hleft]
      rw [hpath] at hpq hqp
      exact Value.at?_dropped_of_apart hc hpq hqp
    · rw [hleft]
      rw [hpath] at hpq
      exact Value.keys_dropped hc hpq hq
  · intro items i hc hlast hi
    have htake : (Value.list items).take? last = some (items[i], .list (items.eraseIdx i)) := by
      rw [Value.take?, hlast, Option.bind_some, List.getElem?_eq_getElem hi]
      rfl
    have hleft := toValue_forget hpath hc htake
    refine ⟨by rw [hleft, Value.at?_assign], fun other hpq hqp => ?_⟩
    rw [get?, hleft]
    exact Value.at?_assign_of_diverges _ (Value.addressed_of_at? hc)
      (Value.diverges_of_not_within hpq hqp)
  · rintro hnone (⟨fields, hc⟩ | ⟨items, hc, hlast⟩) v
    · refine take_set v hpath hc (.key ?_)
      rw [get?, hpath, Value.at?_append, hc, Option.bind_some] at hnone
      cases hfind : Fields.find? last fields with
      | none => rfl
      | some w => simp [Value.at?, Value.child?, hfind] at hnone
    · exact take_set v hpath hc (.index hlast)

/-- From the sample the one key of the map in the list is taken, and the element beside the map stays;
the map itself is taken, and that element moves up to its place; and a null that was put behind the two
elements is taken again. -/
theorem take_is_exact_in_list :
    (nestedSample.take "list.+0.a").1 = some (.int 1) ∧
    (nestedSample.forget "list.+0.a").get? "list.+0.a" = none ∧
    (nestedSample.forget "list.+0.a").get? "list.01" = some (.int 5) ∧
    (nestedSample.forget "list.0").toValue.at? ["list"] = some (.list [.int 5]) ∧
    (nestedSample.set "list.2" .null).take "list.2" = (some .null, nestedSample) := by
  have hp : segments "list.+0.a" = ["list", "+0"] ++ ["a"] := by decide
  have hp0 : segments "list.0" = ["list"] ++ ["0"] := by decide
  have hp2 : segments "list.2" = ["list"] ++ ["2"] := by decide
  have hq : segments "list.01" = ["list", "01"] := by decide
  have hplus : index? "+0" = some 0 := by decide
  have h0 : index? "0" = some 0 := by decide
  have h1 : index? "01" = some 1 := by decide
  have h2 : index? "2" = some 2 := by decide
  have hlist : nestedSample.toValue.at? ["list"] =
      some (.list [.map [("a", .int 1)], .int 5]) := rfl
  have hmap : nestedSample.toValue.at? ["list", "+0"] = some (.map [("a", .int 1)]) := by
    simp [Value.at?, Value.child?, nestedSample, toValue, hplus]
  have hone : nestedSample.get? "list.+0.a" = some (.int 1) := by
    rw [get?, hp, Value.at?_append, hmap]
    rfl
  have hfive : nestedSample.get? "list.01" = some (.int 5) := by
    rw [get?, hq]
    simp [Value.at?, Value.child?, nestedSample, toValue, h1]
  have hnone : nestedSample.get? "list.2" = none := by
    rw [get?, hp2, Value.at?_append, hlist]
    simp [Value.at?, Value.child?, h2]
  have hpq : ¬ Within (segments "list.+0.a") (segments "list.01") nestedSample.toValue := by
    rw [hp, hq]
    simp [Within]
  have hqp : ¬ Within (segments "list.01") (segments "list.+0.a") nestedSample.toValue := by
    rw [hp, hq]
    simp [Within, Value.sameChild, Value.childOrNull, Value.child?, nestedSample, toValue, hplus, h1]
  obtain ⟨hfst, -, hkey⟩ := take_is_exact nestedSample "list.+0.a"
  obtain ⟨hgone, hbeside, -⟩ := (hkey _ _ hp).1 _ hmap
  obtain ⟨-, -, hindex⟩ := take_is_exact nestedSample "list.0"
  obtain ⟨hmoved, -⟩ := (hindex _ _ hp0).2.1 _ 0 hlist h0 (by decide)
  obtain ⟨-, -, hundo⟩ := take_is_exact nestedSample "list.2"
  exact ⟨hfst.trans hone, hgone, (hbeside _ hpq hqp).trans hfive, hmoved,
    (hundo _ _ hp2).2.2 hnone (Or.inr ⟨_, hlist, h2⟩) .null⟩

end Store

end Stencil
