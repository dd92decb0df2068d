import Mathlib.Data.List.Nodup
import Stencil.Value

/-!
# Values, taken apart

A value is a tree whose branches are lists and maps. `Value.induction` is the induction on that
tree, with the members of a list or a map in one step; what is said of values level by level
(`depth`, `isWhole`) is brought into the same form, as a statement about all members.

The entries of a map are a list in which each key has one place. The second part is about what
becomes of distinct keys, and of the other entries, when one entry is written or dropped.
-/

set_option autoImplicit false

namespace Stencil

namespace Value

/-- Induction with one case per constructor, the parts of a list or a map being its members. -/
@[elab_as_elim]
theorem induction {motive : Value → Prop} (null : motive .null) (bool : ∀ b, motive (.bool b))
    (int : ∀ n, motive (.int n)) (float : ∀ x, motive (.float x)) (str : ∀ s, motive (.str s))
    (list : ∀ items, (∀ v ∈ items, motive v) → motive (.list items))
    (map : ∀ fields, (∀ e ∈ fields, motive e.2) → motive (.map fields)) : ∀ v, motive v
  | .null => null
  | .bool b => bool b
  | .int n => int n
  | .float x => float x
  | .str s => str s
  | .list items => list items fun v _ => induction null bool int float str list map v
  | .map fields => map fields fun e _ => induction null bool int float str list map e.2
termination_by v => sizeOf v
decreasing_by
  · rename_i hv
    have hlt := List.sizeOf_lt_of_mem hv
    rw [Value.list.sizeOf_spec]
    omega
  · rename_i he
    have hlt := List.sizeOf_lt_of_mem he
    have hsize : sizeOf e = 1 + sizeOf e.1 + sizeOf e.2 := rfl
    rw [Value.map.sizeOf_spec]
    omega

mutual

/-- Integers of sixty-four bits as the only numbers, and no key twice in a map. -/
def isWhole : Value → Bool
  | .int n => -(Nat.pow 2 63 : Int) ≤ n && n < (Nat.pow 2 64 : Int)
  | .float _ => false
  | .list items => isWholeList items
  | .map fields => decide (Fields.keys fields).Nodup && isWholeFields fields
  | _ => true

def isWholeList : List Value → Bool
  | [] => true
  | v :: rest => isWhole v && isWholeList rest

def isWholeFields : List (String × Value) → Bool
  | [] => true
  | (_, v) :: rest => isWhole v && isWholeFields rest

end

theorem isWholeList_iff {items : List Value} :
    isWholeList items = true ↔ ∀ v ∈ items, v.isWhole = true := by
  induction items with
  | nil => exact ⟨fun _ _ h => absurd h List.not_mem_nil, fun _ => rfl⟩
  | cons v rest ih =>
    rw [List.forall_mem_cons, ← ih]
    exact Bool.and_eq_true_iff

theorem isWholeFields_iff {fields : List (String × Value)} :
    isWholeFields fields = true ↔ ∀ e ∈ fields, e.2.isWhole = true := by
  induction fields with
  | nil => exact ⟨fun _ _ h => absurd h List.not_mem_nil, fun _ => rfl⟩
  | cons e rest ih =>
    rw [List.forall_mem_cons, ← ih]
    exact Bool.and_eq_true_iff

theorem isWhole_int_iff {n : Int} :
    (Value.int n).isWhole = true ↔ -(Nat.pow 2 63 : Int) ≤ n ∧ n < (Nat.pow 2 64 : Int) :=
  Bool.and_eq_true_iff.trans (and_congr decide_eq_true_iff decide_eq_true_iff)

theorem isWhole_map_iff {fields : List (String × Value)} :
    (Value.map fields).isWhole = true ↔
      Fields.Distinct fields ∧ ∀ e ∈ fields, e.2.isWhole = true := by
  rw [← isWholeFields_iff]
  exact Bool.and_eq_true_iff.trans (and_congr decide_eq_true_iff Iff.rfl)

theorem depthList_le_iff {items : List Value} {d : Nat} :
    depth.depthList items ≤ d ↔ ∀ v ∈ items, v.depth ≤ d := by
  induction items with
  | nil => exact ⟨fun _ _ h => absurd h List.not_mem_nil, fun _ => Nat.zero_le d⟩
  | cons v rest ih =>
    rw [List.forall_mem_cons, ← ih]
    exact Nat.max_le

theorem depthFields_le_iff {fields : List (String × Value)} {d : Nat} :
    depth.depthFields fields ≤ d ↔ ∀ e ∈ fields, e.2.depth ≤ d := by
  induction fields with
  | nil => exact ⟨fun _ _ h => absurd h List.not_mem_nil, fun _ => Nat.zero_le d⟩
  | cons e rest ih =>
    rw [List.forall_mem_cons, ← ih]
    exact Nat.max_le

theorem add_one_le_iff_exists {n d : Nat} : n + 1 ≤ d ↔ ∃ d', d = d' + 1 ∧ n ≤ d' := by
  constructor
  · intro h
    exact ⟨d - 1, by omega, by omega⟩
  · rintro ⟨d', rfl, h⟩
    exact Nat.succ_le_succ h

/-- A list takes a level of its own. -/
theorem depth_list_le_iff {items : List Value} {d : Nat} :
    (Value.list items).depth ≤ d ↔ ∃ d', d = d' + 1 ∧ ∀ v ∈ items, v.depth ≤ d' := by
  have hdepth : (Value.list items).depth = depth.depthList items + 1 := rfl
  simp only [hdepth, add_one_le_iff_exists, depthList_le_iff]

theorem depth_map_le_iff {fields : List (String × Value)} {d : Nat} :
    (Value.map fields).depth ≤ d ↔ ∃ d', d = d' + 1 ∧ ∀ e ∈ fields, e.2.depth ≤ d' := by
  have hdepth : (Value.map fields).depth = depth.depthFields fields + 1 := rfl
  simp only [hdepth, add_one_le_iff_exists, depthFields_le_iff]

end Value

namespace Fields

variable {α β : Type}

theorem put_of_not_mem {key : String} {value : α} {fields : Fields α} (h : key ∉ keys fields) :
    put key value fields = fields ++ [(key, value)] := by
  induction fields with
  | nil => rfl
  | cons e rest ih =>
    obtain ⟨k, v⟩ := e
    have hkeys : keys ((k, v) :: rest) = k :: keys rest := rfl
    rw [hkeys, List.mem_cons, not_or] at h
    have hrest := ih h.2
    unfold put at hrest ⊢
    rw [alter, if_neg (Ne.symm h.1), hrest]
    rfl

/-- Keys are distinct, so one that comes behind has not come before. -/
theorem Distinct.not_mem_of_append {before after : Fields α} (h : Distinct (before ++ after))
    {key : String} (hkey : key ∈ keys after) : key ∉ keys before := by
  rw [Distinct, keys, List.map_append, List.nodup_append] at h
  exact fun hmem => h.2.2 key hmem key hkey rfl

/-- Entries given one after another come behind those that are in, all keys being distinct. -/
theorem foldl_put (before after : Fields α) (h : Distinct (before ++ after)) :
    after.foldl (fun fields entry => put entry.1 entry.2 fields) before = before ++ after := by
  induction after generalizing before with
  | nil => rw [List.foldl_nil, List.append_nil]
  | cons e after ih =>
    have hnew : e.1 ∉ keys before := h.not_mem_of_append List.mem_cons_self
    rw [List.foldl_cons, put_of_not_mem hnew, ih (before ++ [e]) (by simpa using h)]
    simp

/-- Entries with distinct keys stay as they are given. -/
theorem ofList_eq_self {entries : Fields α} (h : Distinct entries) : ofList entries = entries :=
  foldl_put [] entries h

/-- The entries with their values changed, under the keys that they had. -/
def mapValues (f : α → β) (fields : Fields α) : Fields β :=
  fields.map fun e => (e.1, f e.2)

theorem keys_mapValues (f : α → β) (fields : Fields α) :
    keys (mapValues f fields) = keys fields := by
  simp [keys, mapValues, Function.comp_def]

theorem Distinct.mapValues {fields : Fields α} (h : Distinct fields) (f : α → β) :
    Distinct (Fields.mapValues f fields) := by
  rw [Distinct, keys_mapValues]
  exact h

theorem find?_mapValues (f : α → β) (key : String) (fields : Fields α) :
    find? key (mapValues f fields) = (find? key fields).map f := by
  induction fields with
  | nil => rfl
  | cons e rest ih =>
    obtain ⟨k, v⟩ := e
    show (if k = key then some (f v) else find? key (mapValues f rest)) = _
    rw [ih, find?]
    split
    · rfl
    · rfl

theorem drop_mapValues (f : α → β) (key : String) (fields : Fields α) :
    drop key (mapValues f fields) = mapValues f (drop key fields) := by
  unfold drop mapValues
  rw [List.filter_map]
  rfl

/-- What a change makes of a key's value is all that it does. -/
theorem alter_congr {key : String} {f g : Option α → α} {fields : Fields α}
    (h : f (find? key fields) = g (find? key fields)) : alter key f fields = alter key g fields := by
  induction fields with
  | nil =>
    rw [find?] at h
    rw [alter, alter, h]
  | cons e rest ih =>
    obtain ⟨k, v⟩ := e
    by_cases hk : k = key
    · rw [find?, if_pos hk] at h
      rw [alter, alter, if_pos hk, if_pos hk, h]
    · rw [find?, if_neg hk] at h
      rw [alter, alter, if_neg hk, if_neg hk, ih h]

/-- A change of the values under a change of the values. -/
theorem alter_mapValues {f : α → β} {g : Option β → β} {h : Option α → α}
    (hgh : ∀ old, g (old.map f) = f (h old)) (key : String) (fields : Fields α) :
    alter key g (mapValues f fields) = mapValues f (alter key h fields) := by
  induction fields with
  | nil =>
    show [(key, g none)] = [(key, f (h none))]
    rw [← hgh none, Option.map_none]
  | cons e rest ih =>
    obtain ⟨k, v⟩ := e
    show alter key g ((k, f v) :: mapValues f rest) = _
    by_cases hk : k = key
    · rw [alter, if_pos hk, alter, if_pos hk, ← Option.map_some, hgh]
      rfl
    · rw [alter, if_neg hk, alter, if_neg hk, ih]
      rfl

theorem drop_of_not_held {key : String} {fields : Fields α} (h : find? key fields = none) :
    drop key fields = fields := by
  induction fields with
  | nil => rfl
  | cons e rest ih =>
    obtain ⟨k, v⟩ := e
    by_cases hk : k = key
    · rw [find?, if_pos hk] at h
      exact absurd h (by simp)
    · rw [find?, if_neg hk] at h
      have hrest := ih h
      unfold drop at hrest ⊢
      rw [List.filter_cons_of_pos (by simpa using hk), hrest]

theorem find?_drop_other {key other : String} (h : key ≠ other) (fields : Fields α) :
    find? other (drop key fields) = find? other fields := by
  induction fields with
  | nil => rfl
  | cons e rest ih =>
    obtain ⟨k, v⟩ := e
    unfold drop at ih ⊢
    by_cases hk : k = key
    · rw [List.filter_cons_of_neg (by simpa using hk), ih, find?, if_neg (hk ▸ h)]
    · rw [List.filter_cons_of_pos (by simpa using hk), find?, find?, ih]

theorem Distinct.alter {fields : Fields α} (h : Distinct fields) (key : String)
    (f : Option α → α) : Distinct (Fields.alter key f fields) := by
  unfold Distinct
  rw [keys_alter]
  split
  · exact h
  · rename_i hnew
    exact List.nodup_append.2 ⟨h, List.nodup_singleton key, fun a ha b hb hab => by
      rw [List.mem_singleton.1 hb] at hab
      exact hnew (hab ▸ ha)⟩

theorem Distinct.put {fields : Fields α} (h : Distinct fields) (key : String) (value : α) :
    Distinct (Fields.put key value fields) :=
  h.alter key _

theorem Distinct.drop {fields : Fields α} (h : Distinct fields) (key : String) :
    Distinct (Fields.drop key fields) :=
  List.Nodup.sublist (List.filter_sublist.map _) h

theorem find?_of_mem {fields : Fields α} (h : Distinct fields) {key : String} {value : α}
    (hmem : (key, value) ∈ fields) : find? key fields = some value := by
  induction fields with
  | nil => exact absurd hmem List.not_mem_nil
  | cons e rest ih =>
    obtain ⟨k, v⟩ := e
    have hkeys : k ∉ keys rest ∧ Distinct rest := List.nodup_cons.1 h
    rcases List.mem_cons.1 hmem with heq | hrest
    · obtain ⟨rfl, rfl⟩ := Prod.mk.inj heq
      simp
    · have hne : k ≠ key := fun hk =>
        hkeys.1 (hk ▸ List.mem_map.2 ⟨(key, value), hrest, rfl⟩)
      rw [find?, if_neg hne, ih hkeys.2 hrest]

theorem mem_of_find? {fields : Fields α} {key : String} {value : α}
    (h : find? key fields = some value) : (key, value) ∈ fields := by
  induction fields with
  | nil => exact absurd h (by simp)
  | cons e rest ih =>
    obtain ⟨k, v⟩ := e
    by_cases hk : k = key
    · rw [find?, if_pos hk, Option.some.injEq] at h
      rw [hk, h]
      exact List.mem_cons_self
    · rw [find?, if_neg hk] at h
      exact List.mem_cons_of_mem _ (ih h)

theorem find?_of_not_mem {key : String} {fields : Fields α} (h : key ∉ keys fields) :
    find? key fields = none := by
  cases hkey : find? key fields with
  | none => rfl
  | some v => exact absurd (List.mem_map_of_mem (mem_of_find? hkey)) h

theorem find?_concat {fields : Fields α} {key : String} (h : key ∉ keys fields) (value : α)
    (other : String) :
    find? other (fields ++ [(key, value)]) = if key = other then some value else find? other fields := by
  rw [← put_of_not_mem h]
  split
  · rename_i hkey
    rw [← hkey, find?_put_same]
  · rename_i hkey
    exact find?_put_other hkey value fields

theorem exists_find?_of_mem {key : String} {fields : Fields α} (h : key ∈ keys fields) :
    ∃ v, find? key fields = some v := by
  rw [← Option.ne_none_iff_exists']
  induction fields with
  | nil => exact absurd h List.not_mem_nil
  | cons e rest ih =>
    obtain ⟨k, v⟩ := e
    by_cases hk : k = key
    · rw [find?, if_pos hk]
      exact Option.some_ne_none v
    · rw [find?, if_neg hk]
      exact ih ((List.mem_cons.1 h).resolve_left (Ne.symm hk))

/-- Entries with distinct keys are known by their keys in order and by what stands under each. -/
theorem eq_of_find? {fields others : Fields α} (h : Distinct fields) (hkeys : keys fields = keys others)
    (hfind : ∀ key, find? key fields = find? key others) : fields = others := by
  induction fields generalizing others with
  | nil => exact (List.map_eq_nil_iff.1 hkeys.symm).symm
  | cons e rest ih =>
    cases others with
    | nil => exact absurd hkeys (List.cons_ne_nil _ _)
    | cons e' rest' =>
      obtain ⟨k, v⟩ := e
      obtain ⟨k', v'⟩ := e'
      obtain ⟨rfl, hrest⟩ := List.cons.inj hkeys
      obtain ⟨hnew, hdistinct⟩ := List.nodup_cons.1 h
      have hnew' : k ∉ keys rest' := fun hmem => hnew (hrest ▸ hmem)
      have hv : v = v' := by simpa using hfind k
      rw [hv, ih hdistinct hrest fun key => ?_]
      by_cases hk : k = key
      · rw [find?_of_not_mem (hk ▸ hnew), find?_of_not_mem (hk ▸ hnew')]
      · have hkey := hfind key
        rwa [find?, find?, if_neg hk, if_neg hk] at hkey

/-- An entry of a changed list is an old one, or the one that was changed. -/
theorem mem_alter {key : String} {f : Option α → α} {fields : Fields α} {e : String × α}
    (h : e ∈ alter key f fields) : e ∈ fields ∨ e = (key, f (find? key fields)) := by
  induction fields with
  | nil => exact Or.inr (List.mem_singleton.1 h)
  | cons first rest ih =>
    obtain ⟨k, v⟩ := first
    by_cases hk : k = key
    · rw [alter, if_pos hk] at h
      rw [find?, if_pos hk]
      rcases List.mem_cons.1 h with rfl | h
      · exact Or.inr (by rw [hk])
      · exact Or.inl (List.mem_cons_of_mem _ h)
    · rw [alter, if_neg hk] at h
      rw [find?, if_neg hk]
      rcases List.mem_cons.1 h with rfl | h
      · exact Or.inl List.mem_cons_self
      · exact (ih h).imp_left (List.mem_cons_of_mem _)

/-- What stands beside a key is not touched by giving the key a value. -/
theorem drop_put (key : String) (value : α) (fields : Fields α) :
    drop key (put key value fields) = drop key fields := by
  unfold drop put
  induction fields with
  | nil => simp
  | cons e rest ih =>
    obtain ⟨k, v⟩ := e
    by_cases hk : k = key
    · rw [alter, if_pos hk, List.filter_cons_of_neg (by simpa using hk),
        List.filter_cons_of_neg (by simpa using hk)]
    · rw [alter, if_neg hk, List.filter_cons_of_pos (by simpa using hk),
        List.filter_cons_of_pos (by simpa using hk), ih]

theorem drop_drop (key : String) (fields : Fields α) :
    drop key (drop key fields) = drop key fields := by
  unfold drop
  rw [List.filter_filter]
  simp

end Fields

end Stencil
