import Stencil.Proofs.Sorted
import Stencil.Store

/-!
# Replaced entries

`Store.replaceOrdered` gives a store the entries of a map. It is a stable replacement:

    (s.replaceOrdered m).keys = (keys of s that m has) ++ (keys of m that s has not)

with the first in the order of the store and the second in the order of the map. Keys are compared as
they are: a dot in a key is a character like any other.

The definition says where every entry stands. That the entries are those of the map, none lost and none
twice, is seen on the replacement done key by key (`Transfer`): a move takes an entry out of what is
left of the map and puts it behind what has been placed, so the two together stay the same entries
(`Transfer.entries_move`), and so they do over a run of moves. The run for the keys of the store comes to
the same store (`Store.replaceOrdered_eq_finish`).
-/

set_option autoImplicit false

namespace Stencil

/-! ## 1. Entries taken out -/

namespace Fields

variable {α : Type}

theorem holds_iff {key : String} {fields : Fields α} :
    holds key fields = true ↔ key ∈ keys fields := by
  rw [holds, Option.isSome_iff_exists]
  constructor
  · rintro ⟨v, hv⟩
    exact List.mem_map_of_mem (mem_of_find? hv)
  · exact exists_find?_of_mem

/-- An entry and the others are all entries. -/
theorem cons_drop_perm {fields : Fields α} (h : Distinct fields) {key : String} {v : α}
    (hv : find? key fields = some v) : ((key, v) :: drop key fields).Perm fields := by
  induction fields with
  | nil => exact absurd hv (by simp)
  | cons e rest ih =>
    obtain ⟨k, w⟩ := e
    obtain ⟨hnew, hrest⟩ : k ∉ keys rest ∧ Distinct rest := List.nodup_cons.1 h
    by_cases hk : k = key
    · subst hk
      rw [find?, if_pos rfl, Option.some.injEq] at hv
      have hdrop : drop k ((k, w) :: rest) = drop k rest :=
        List.filter_cons_of_neg (by simp)
      rw [hdrop, drop_of_not_held (find?_of_not_mem hnew), hv]
    · rw [find?, if_neg hk] at hv
      have hdrop : drop key ((k, w) :: rest) = (k, w) :: drop key rest :=
        List.filter_cons_of_pos (by simpa using hk)
      rw [hdrop]
      exact (List.Perm.swap _ _ _).trans ((ih hrest hv).cons (k, w))

end Fields

/-! ## 2. Moving entries -/

/-- Entries on their way from a map into a new one. -/
structure Transfer where
  placed : Fields Value
  left : Fields Value

namespace Transfer

def entries (t : Transfer) : Fields Value :=
  t.placed ++ t.left

/-- The entry of a key goes over, if there is one. -/
def move (t : Transfer) (key : String) : Transfer :=
  match Fields.find? key t.left with
  | some v => ⟨Fields.put key v t.placed, Fields.drop key t.left⟩
  | none => t

/-- What is left goes over in its order. -/
def finish (t : Transfer) : Store :=
  ⟨t.left.foldl (fun fields e => Fields.put e.1 e.2 fields) t.placed⟩

variable {t : Transfer} {key : String}

theorem move_of_none (h : Fields.find? key t.left = none) : t.move key = t := by
  rw [move, h]

/-- A key that is left is not placed yet, so its entry comes last. -/
theorem move_of_some (ht : Fields.Distinct t.entries) {v : Value}
    (h : Fields.find? key t.left = some v) :
    t.move key = ⟨t.placed ++ [(key, v)], Fields.drop key t.left⟩ := by
  have hnew : key ∉ Fields.keys t.placed :=
    Fields.Distinct.not_mem_of_append ht (List.mem_map_of_mem (Fields.mem_of_find? h))
  rw [move, h]
  dsimp only
  rw [Fields.put_of_not_mem hnew]

/-- A move loses nothing and doubles nothing. -/
theorem entries_move (ht : Fields.Distinct t.entries) (key : String) :
    (t.move key).entries.Perm t.entries := by
  cases h : Fields.find? key t.left with
  | none => rw [move_of_none h]
  | some v =>
    have hleft : Fields.Distinct t.left :=
      List.Nodup.sublist ((List.sublist_append_right t.placed t.left).map Prod.fst) ht
    rw [move_of_some ht h, entries, entries, List.append_assoc, List.singleton_append]
    exact (Fields.cons_drop_perm hleft h).append_left t.placed

theorem entries_foldl_move (ht : Fields.Distinct t.entries) (keys : List String) :
    (keys.foldl move t).entries.Perm t.entries := by
  induction keys generalizing t with
  | nil => exact .refl _
  | cons key rest ih =>
    have hmove := entries_move ht key
    exact (ih (ht.perm hmove)).trans hmove

/-- Where a run of moves puts the entries, and which it leaves. -/
theorem foldl_move (ht : Fields.Distinct t.entries) {keys : List String} (hkeys : keys.Nodup) :
    keys.foldl move t =
      ⟨t.placed ++ keys.filterMap fun key => (Fields.find? key t.left).map (Prod.mk key),
        t.left.filter fun e => e.1 ∉ keys⟩ := by
  induction keys generalizing t with
  | nil => simp
  | cons key rest ih =>
    obtain ⟨hnew, hrest⟩ := List.nodup_cons.1 hkeys
    rw [List.foldl_cons, ih (ht.perm (entries_move ht key)) hrest]
    cases h : Fields.find? key t.left with
    | none =>
      have hleft : t.left.filter (fun e => e.1 ∉ rest) = t.left.filter fun e => e.1 ∉ key :: rest := by
        refine List.filter_congr fun e he => ?_
        have hne : e.1 ≠ key := by
          rintro rfl
          obtain ⟨v, hv⟩ := Fields.exists_find?_of_mem (List.mem_map_of_mem he)
          exact absurd (hv.symm.trans h) (by simp)
        simp [hne]
      rw [move_of_none h, List.filterMap_cons_none (by rw [h]; rfl), hleft]
    | some v =>
      -- the keys still to come find what they would have found before
      have hothers : rest.filterMap (fun k => (Fields.find? k (Fields.drop key t.left)).map (Prod.mk k))
          = rest.filterMap fun k => (Fields.find? k t.left).map (Prod.mk k) := by
        refine List.filterMap_congr fun k hk => ?_
        rw [Fields.find?_drop_other fun heq : key = k => hnew (heq ▸ hk)]
      have hleft : (Fields.drop key t.left).filter (fun e => e.1 ∉ rest) =
          t.left.filter fun e => e.1 ∉ key :: rest := by
        rw [Fields.drop, List.filter_filter]
        refine List.filter_congr fun e _ => ?_
        by_cases hkey : e.1 = key
        · simp [hkey]
        · simp [hkey]
      rw [move_of_some ht h, List.filterMap_cons_some (by rw [h]; rfl)]
      dsimp only
      rw [hothers, hleft, List.append_assoc, List.singleton_append]

end Transfer

/-! ## 3. The replacement -/

namespace Store

variable {s : Store} {m m' : Fields Value}

/-- Keys that stay come in the order of the store, and then the others in the order of the map. -/
theorem fields_replaceOrdered (s : Store) (m : Fields Value) : (s.replaceOrdered m).fields =
    s.keys.filterMap (fun key => (Fields.find? key m).map (Prod.mk key)) ++
      m.filter fun e => e.1 ∉ s.keys := by
  have hstaying : s.keys.filterMap (fun key => (Fields.find? key m).map (Prod.mk key)) =
      s.fields.filterMap fun e => (Fields.find? e.1 m).map (Prod.mk e.1) := by
    rw [keys, Fields.keys, List.filterMap_map]
    rfl
  have hnew : m.filter (fun e => e.1 ∉ s.keys) = m.filter fun e => !Fields.holds e.1 s.fields := by
    refine List.filter_congr fun e _ => ?_
    rw [Bool.eq_iff_iff, decide_eq_true_eq, Bool.not_eq_true', ← Bool.not_eq_true, Fields.holds_iff]
    rfl
  rw [hstaying, hnew]
  rfl

theorem keys_replaceOrdered (s : Store) (m : Fields Value) : (s.replaceOrdered m).keys =
    s.keys.filter (fun key => key ∈ Fields.keys m) ++
      (Fields.keys m).filter fun key => key ∉ s.keys := by
  have hstaying : ∀ keys : List String,
      (keys.filterMap fun key => (Fields.find? key m).map (Prod.mk key)).map Prod.fst =
        keys.filter fun key => key ∈ Fields.keys m := by
    intro keys
    induction keys with
    | nil => rfl
    | cons key rest ih =>
      by_cases hkey : key ∈ Fields.keys m
      · obtain ⟨v, hv⟩ := Fields.exists_find?_of_mem hkey
        rw [List.filterMap_cons_some (by rw [hv]; rfl), List.filter_cons_of_pos (by simpa using hkey),
          List.map_cons, ih]
      · rw [List.filterMap_cons_none (by rw [Fields.find?_of_not_mem hkey]; rfl),
          List.filter_cons_of_neg (by simpa using hkey), ih]
  have hnew : (m.filter fun e => e.1 ∉ s.keys).map Prod.fst =
      (Fields.keys m).filter fun key => key ∉ s.keys := by
    rw [Fields.keys, List.filter_map]
    rfl
  rw [keys, fields_replaceOrdered, Fields.keys, List.map_append, hstaying, hnew]

/-- The replacement is what comes of moving the entries of the old keys one by one, and then the rest. -/
theorem replaceOrdered_eq_finish (hs : Fields.Distinct s.fields) (hm : Fields.Distinct m) :
    s.replaceOrdered m = (s.keys.foldl Transfer.move ⟨[], m⟩).finish := by
  have hstart : Fields.Distinct (Transfer.entries ⟨[], m⟩) := hm
  have hmoves := Transfer.foldl_move hstart (show s.keys.Nodup from hs)
  have hend := hstart.perm (Transfer.entries_foldl_move hstart s.keys)
  rw [Transfer.finish, Fields.foldl_put _ _ hend, hmoves]
  exact congrArg Store.mk (fields_replaceOrdered s m)

/-- A store with its entries replaced has those of the map. -/
theorem replaceOrdered_perm (hs : Fields.Distinct s.fields) (hm : Fields.Distinct m) :
    (s.replaceOrdered m).fields.Perm m := by
  have hstart : Fields.Distinct (Transfer.entries ⟨[], m⟩) := hm
  have hmoves := Transfer.entries_foldl_move hstart s.keys
  rw [replaceOrdered_eq_finish hs hm, Transfer.finish, Fields.foldl_put _ _ (hstart.perm hmoves)]
  exact hmoves

/-- Entries for the old keys, in whatever order, are put into the old order. -/
theorem replaceOrdered_of_perm {s : Store} {entries kept : Fields Value}
    (hperm : entries.Perm kept) (hkeys : Fields.keys kept = Fields.keys s.fields)
    (hdistinct : Fields.Distinct kept) : s.replaceOrdered entries = ⟨kept⟩ := by
  have hfind : ∀ e ∈ kept, (Fields.find? e.1 entries).map (Prod.mk e.1) = some e := by
    intro e he
    rw [Fields.find?_perm hperm hdistinct, Fields.find?_of_mem hdistinct he, Option.map_some]
  -- which entries stay depends on the old keys only, and the kept entries have them in order
  have hstaying : s.fields.filterMap (fun e => (Fields.find? e.1 entries).map (Prod.mk e.1)) =
      kept := by
    have hthrough : ∀ fields : Fields Value,
        fields.filterMap (fun e => (Fields.find? e.1 entries).map (Prod.mk e.1)) =
          (Fields.keys fields).filterMap fun key =>
            (Fields.find? key entries).map (Prod.mk key) := by
      intro fields
      rw [Fields.keys, List.filterMap_map]
      rfl
    rw [hthrough, ← hkeys, ← hthrough, List.filterMap_congr hfind]
    exact List.filterMap_some
  have hnew : entries.filter (fun e => !Fields.holds e.1 s.fields) = [] := by
    refine List.filter_eq_nil_iff.2 fun e he => ?_
    have hkey : e.1 ∈ Fields.keys s.fields :=
      hkeys ▸ List.mem_map_of_mem (hperm.mem_iff.1 he)
    rw [Fields.holds_iff.2 hkey]
    exact Bool.false_ne_true
  show Store.mk (_ ++ _) = _
  exact congrArg Store.mk (by rw [hstaying, hnew, List.append_nil])

/-- **Replacing entries is stable.** The store has the entries of the map and no others, whatever
characters are in their keys. Keys that both have come in the order of the store, the other ones of the
map after them in the order of the map. It is what comes of moving entries over key by key, and it is
settled then: the same entries, given again in any order, leave every one of them where it is. -/
theorem replaceOrdered_is_stable (hs : Fields.Distinct s.fields) (hm : Fields.Distinct m) :
    s.replaceOrdered m = (s.keys.foldl Transfer.move ⟨[], m⟩).finish ∧
    (s.replaceOrdered m).fields.Perm m ∧
    (∀ key, Fields.find? key (s.replaceOrdered m).fields = Fields.find? key m) ∧
    (s.replaceOrdered m).keys = s.keys.filter (fun key => key ∈ Fields.keys m) ++
      (Fields.keys m).filter (fun key => key ∉ s.keys) ∧
    ∀ m', m'.Perm m → (s.replaceOrdered m).replaceOrdered m' = s.replaceOrdered m := by
  have hperm := replaceOrdered_perm hs hm
  refine ⟨replaceOrdered_eq_finish hs hm, hperm, fun key => Fields.find?_perm hperm hm key,
    keys_replaceOrdered s m, fun m' hm' => ?_⟩
  exact replaceOrdered_of_perm (hm'.trans hperm.symm) rfl (hm.perm hperm)

/-- Entries of which the store has some, under a key with a dot among others. -/
def updateSample : Fields Value :=
  [("a.b", .int 20), ("new", .null), ("b", .map [("c", .int 1)])]

/-- The key with the dot stays a key of its own, behind the one that stood before it; a key is gone. -/
theorem replaceOrdered_is_stable_sample :
    Fields.Distinct updateSample ∧
    (Store.mk [("b", .int 1), ("gone", .int 3), ("a.b", .int 2)]).replaceOrdered updateSample =
      ⟨[("b", .map [("c", .int 1)]), ("a.b", .int 20), ("new", .null)]⟩ ∧
    (Store.mk [("b", .map [("c", .int 1)]), ("a.b", .int 20), ("new", .null)]).replaceOrdered
      updateSample.reverse = ⟨[("b", .map [("c", .int 1)]), ("a.b", .int 20), ("new", .null)]⟩ := by
  have hm : Fields.Distinct updateSample := by decide
  have hs : Fields.Distinct [("b", Value.int 1), ("gone", .int 3), ("a.b", .int 2)] := by decide
  obtain ⟨-, -, -, -, hagain⟩ := replaceOrdered_is_stable (s := ⟨_⟩) hs hm
  exact ⟨hm, rfl, hagain _ updateSample.reverse_perm⟩

end Store

end Stencil
