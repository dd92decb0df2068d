import Stencil.Proofs.Store.Entries
import Stencil.Proofs.Store.Maps

/-!
# Merged stores

A merge writes the entries of one store into another, each at the path that its key spells. A key with a
dot in it is then no key of the result, so there is nothing to say in general. Without such keys (`Plain`)
a merge puts every entry under its own key, and two facts describe it:

> **its keys** are those of the first store and then the new ones of the second (`keys_merge`);
> **under each key** stands what the second store has there, or else what the first has (`find?_merge`).

Entries are known by these two (`Fields.eq_of_find?`), so the laws of merging are laws about lists of keys
without their doubles, and about the first of some options.
-/

set_option autoImplicit false

namespace Stencil

namespace Store

/-! ## 1. What a merge writes -/

/-- No key at the top comes twice, and none has a dot in it. -/
structure Plain (s : Store) : Prop where
  distinct : Fields.Distinct s.fields
  no_dot : ∀ key ∈ s.keys, '.' ∉ key.toList

theorem plain_empty : Plain .empty :=
  ⟨List.nodup_nil, fun _ h => absurd h List.not_mem_nil⟩

section

variable {s t : Store} {e : String × Value} {entries rest : Fields Value}

theorem Plain.head (h : Plain ⟨e :: rest⟩) : segments e.1 = [e.1] ∧ e.1 ∉ Fields.keys rest :=
  ⟨segments_of_no_dot (h.no_dot e.1 List.mem_cons_self), (List.nodup_cons.1 h.distinct).1⟩

theorem Plain.tail (h : Plain ⟨e :: rest⟩) : Plain ⟨rest⟩ :=
  ⟨(List.nodup_cons.1 h.distinct).2, fun key hkey => h.no_dot key (List.mem_cons_of_mem _ hkey)⟩

/-- Writing the first of some plain entries puts it under its key. -/
theorem Plain.putAll_cons (h : Plain ⟨e :: rest⟩) (s : Store) :
    s.putAll (e :: rest) = (Store.mk (Fields.put e.1 e.2 s.fields)).putAll rest := by
  rw [← set_key h.head.1]
  rfl

theorem find?_putAll (h : Plain ⟨entries⟩) (s : Store) (key : String) :
    Fields.find? key (s.putAll entries).fields =
      (Fields.find? key entries).or (Fields.find? key s.fields) := by
  induction entries generalizing s with
  | nil => rfl
  | cons e rest ih =>
    obtain ⟨k, v⟩ := e
    rw [h.putAll_cons, ih h.tail, Fields.find?]
    by_cases hk : k = key
    · -- what comes after it has another key
      subst hk
      rw [Fields.find?_of_not_mem h.head.2, Fields.find?_put_same, if_pos rfl]
      rfl
    · rw [Fields.find?_put_other hk, if_neg hk]

theorem keys_putAll (h : Plain ⟨entries⟩) (s : Store) :
    (s.putAll entries).keys =
      s.keys ++ (Fields.keys entries).filter fun key => key ∉ s.keys := by
  induction entries generalizing s with
  | nil => exact (List.append_nil _).symm
  | cons e rest ih =>
    have hput : (Store.mk (Fields.put e.1 e.2 s.fields)).keys =
        if e.1 ∈ s.keys then s.keys else s.keys ++ [e.1] := Fields.keys_alter _ _ _
    have hkeys : Fields.keys (e :: rest) = e.1 :: Fields.keys rest := rfl
    rw [h.putAll_cons, ih h.tail, hput, hkeys]
    by_cases hold : e.1 ∈ s.keys
    · rw [if_pos hold, List.filter_cons_of_neg (by simpa using hold)]
    · -- the new key is not among those that are still to come
      have hrest : (Fields.keys rest).filter (fun key => key ∉ s.keys ++ [e.1]) =
          (Fields.keys rest).filter fun key => key ∉ s.keys := by
        refine List.filter_congr fun key hkey => ?_
        have hne : key ≠ e.1 := fun heq => h.head.2 (heq ▸ hkey)
        simp [hne]
      rw [if_neg hold, hrest, List.filter_cons_of_pos (by simpa using hold), List.append_assoc]
      rfl

theorem find?_merge (ht : t.Plain) (s : Store) (key : String) :
    Fields.find? key (s.merge t).fields =
      (Fields.find? key t.fields).or (Fields.find? key s.fields) :=
  find?_putAll ht s key

theorem keys_merge (ht : t.Plain) (s : Store) :
    (s.merge t).keys = s.keys ++ t.keys.filter fun key => key ∉ s.keys :=
  keys_putAll ht s

theorem Plain.merge (hs : s.Plain) (ht : t.Plain) : (s.merge t).Plain := by
  constructor
  · rw [Fields.Distinct, ← keys, keys_merge ht]
    refine List.nodup_append.2 ⟨hs.distinct, ht.distinct.filter _, fun old hold new hnew heq => ?_⟩
    have hfresh := (List.mem_filter.1 hnew).2
    exact of_decide_eq_true hfresh (heq ▸ hold)
  · rw [keys_merge ht]
    intro key hkey
    rcases List.mem_append.1 hkey with hkey | hkey
    · exact hs.no_dot key hkey
    · exact ht.no_dot key (List.mem_filter.1 hkey).1

/-- What is read from a merged store is read from the second one, if that has the key where the path
starts, and from the first one otherwise. -/
theorem get?_merge_eq (ht : t.Plain) (s : Store) {path key : String} {below : List String}
    (hp : segments path = key :: below) :
    (s.merge t).get? path = if key ∈ t.keys then t.get? path else s.get? path := by
  rw [get?_eq_bind hp, get?_eq_bind hp, get?_eq_bind hp, find?_merge ht]
  split
  · rename_i hkey
    obtain ⟨v, hv⟩ := Fields.exists_find?_of_mem hkey
    rw [hv]
    rfl
  · rename_i hkey
    rw [Fields.find?_of_not_mem hkey]
    rfl

/-- What is in a store is in it after a merge into another. -/
theorem get?_merge (ht : t.Plain) {path : String} (h : t.has path = true) :
    (s.merge t).get? path = t.get? path := by
  cases hp : segments path with
  | nil => exact absurd hp (segments_ne_nil path)
  | cons key below =>
    rw [get?_merge_eq ht s hp, if_pos]
    refine Classical.byContradiction fun hkey => ?_
    rw [has, get?_eq_bind hp, Fields.find?_of_not_mem hkey] at h
    exact absurd h (by simp)

end

/-! ## 2. The laws of merging -/

section

variable {a b c s t : Store}

/-- Two plain stores with the same keys in order and the same values under them are one. -/
theorem Plain.eq_of_find? (hs : s.Plain) (hkeys : s.keys = t.keys)
    (hfind : ∀ key, Fields.find? key s.fields = Fields.find? key t.fields) : s = t :=
  congrArg Store.mk (Fields.eq_of_find? hs.distinct hkeys hfind)

theorem empty_merge (ha : a.Plain) : empty.merge a = a := by
  refine (plain_empty.merge ha).eq_of_find? ?_ fun key => ?_
  · rw [keys_merge ha]
    exact List.filter_eq_self.2 fun key _ => decide_eq_true List.not_mem_nil
  · rw [find?_merge ha]
    exact Option.or_none

theorem merge_self (ha : a.Plain) : a.merge a = a := by
  refine (ha.merge ha).eq_of_find? ?_ fun key => ?_
  · have hnone : a.keys.filter (fun key => key ∉ a.keys) = [] :=
      List.filter_eq_nil_iff.2 fun key hkey => by simpa using hkey
    rw [keys_merge ha, hnone, List.append_nil]
  · rw [find?_merge ha, Option.or_self]

theorem merge_assoc (ha : a.Plain) (hb : b.Plain) (hc : c.Plain) :
    (a.merge b).merge c = a.merge (b.merge c) := by
  have hbc := hb.merge hc
  refine ((ha.merge hb).merge hc).eq_of_find? ?_ fun key => ?_
  · -- a key of the third store is new to both when it is new to the second and then to the first
    have hnew : c.keys.filter (fun key => key ∉ (a.merge b).keys) =
        (c.keys.filter fun key => key ∉ b.keys).filter fun key => key ∉ a.keys := by
      rw [List.filter_filter]
      refine List.filter_congr fun key _ => ?_
      by_cases hold : key ∈ a.keys
      · simp [keys_merge hb, hold]
      · simp [keys_merge hb, hold]
    rw [keys_merge hc, keys_merge hbc, keys_merge hc, hnew, keys_merge hb, List.filter_append,
      List.append_assoc]
  · rw [find?_merge hc, find?_merge hbc, find?_merge hc, find?_merge hb, Option.or_assoc]

/-- **Merging plain stores is a monoid** with the empty store, and every store is idempotent. The keys of
a merge are those of the first store and then the new ones of the second, in their orders; and a read is
answered by the second store whenever that has the key where the path starts, whatever lies below. -/
theorem merge_is_monoid (ha : a.Plain) (hb : b.Plain) (hc : c.Plain) :
    (a.merge b).Plain ∧
    (a.merge b).merge c = a.merge (b.merge c) ∧
    empty.merge a = a ∧ a.merge empty = a ∧ a.merge a = a ∧
    (a.merge b).keys = a.keys ++ b.keys.filter (fun key => key ∉ a.keys) ∧
    ∀ path key below, segments path = key :: below →
      (a.merge b).get? path = if key ∈ b.keys then b.get? path else a.get? path :=
  ⟨ha.merge hb, merge_assoc ha hb hc, empty_merge ha, rfl, merge_self ha, keys_merge hb a,
    fun _ _ _ => get?_merge_eq hb a⟩

/-- Data with a key of the nested sample and a new one. -/
def patchSample : Store :=
  ⟨[("list", .map [("b", .null)]), ("c", .bool true)]⟩

/-- Merged into the nested sample, the patch puts its map in the list's place, so that nothing of the list
can be read any more, and its new key comes last. -/
theorem merge_is_monoid_replaces_list :
    nestedSample.Plain ∧ patchSample.Plain ∧
    (nestedSample.merge patchSample).keys = ["list", "b", "c"] ∧
    nestedSample.get? "list.0.a" = some (.int 1) ∧
    (nestedSample.merge patchSample).get? "list.0.a" = none ∧
    (nestedSample.merge patchSample).get? "b" = some (.str "x") ∧
    (nestedSample.merge patchSample).merge nestedSample =
      nestedSample.merge (patchSample.merge nestedSample) := by
  have hn : nestedSample.Plain := ⟨by decide, by decide⟩
  have hp : patchSample.Plain := ⟨by decide, by decide⟩
  obtain ⟨-, hassoc, -, -, -, hkeys, hread⟩ := merge_is_monoid hn hp hn
  refine ⟨hn, hp, ?_, rfl, ?_, ?_, hassoc⟩
  · rw [hkeys]
    decide
  · rw [hread "list.0.a" "list" ["0", "a"] (by decide), if_pos (by decide)]
    rfl
  · rw [hread "b" "b" [] (by decide), if_neg (by decide)]
    rfl

end

end Store

end Stencil
