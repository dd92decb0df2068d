import Stencil.Proofs.Sorted
import Stencil.Script.Function

/-!
# The data of scripts, left as it is

A session's values go into a script and come back. Those that a script can hold come back equal
(`toValue?_ofValue`): their integers have a sign and sixty-four bits, and their floats are numbers.

A script reads a part of a datum in its place, and puts back what it has read. For a datum whose keys
ascend and whose integers are in range that changes nothing (`changeAt_eq_self`), so a function that
leaves its first argument can be applied anywhere in it.
-/

set_option autoImplicit false

namespace Stencil

/-! ## 1. Values through a script -/

/-- A value of which a script can hold every part. -/
inductive Value.Carried : Value → Prop where
  | null : Carried .null
  | bool (b : Bool) : Carried (.bool b)
  | int {n : Int} (hmin : Script.Datum.minInt ≤ n) (hmax : n ≤ Script.Datum.maxInt) :
      Carried (.int n)
  | float {x : Double} (h : x.isFinite = true) : Carried (.float x)
  | str (s : String) : Carried (.str s)
  | list {items : List Value} (h : ∀ v ∈ items, Carried v) : Carried (.list items)
  | map {fields : Fields Value} (h : ∀ e ∈ fields, Carried e.2) : Carried (.map fields)

namespace Script.Datum

theorem ofItems_eq (items : List Value) : ofItems items = items.map ofValue := by
  induction items with
  | nil => rfl
  | cons v rest ih => rw [ofItems, ih, List.map_cons]

theorem ofFields_eq (fields : List (String × Value)) :
    ofFields fields = Fields.mapValues ofValue fields := by
  induction fields with
  | nil => rfl
  | cons e rest ih =>
    rw [ofFields, ih]
    rfl

theorem toItems?_ofItems {items : List Value}
    (h : ∀ v ∈ items, toValue? (ofValue v) = some v) : toItems? (ofItems items) = some items := by
  induction items with
  | nil => rfl
  | cons v rest ih =>
    obtain ⟨hv, hrest⟩ := List.forall_mem_cons.1 h
    rw [ofItems, toItems?, hv, ih hrest]

theorem toFields?_ofFields {fields : List (String × Value)}
    (h : ∀ e ∈ fields, toValue? (ofValue e.2) = some e.2) :
    toFields? (ofFields fields) = some fields := by
  induction fields with
  | nil => rfl
  | cons e rest ih =>
    obtain ⟨he, hrest⟩ := List.forall_mem_cons.1 h
    rw [ofFields, toFields?, he, ih hrest]

/-- What a script can hold comes back as it was. -/
theorem toValue?_ofValue {v : Value} (h : v.Carried) : toValue? (ofValue v) = some v := by
  induction h with
  | null => rfl
  | bool b => rfl
  | int hmin hmax => rw [ofValue, if_pos hmax, toValue?]
  | float h => rw [ofValue, toValue?, if_pos h]
  | str s => rfl
  | list h ih => rw [ofValue, toValue?, toItems?_ofItems ih, Option.map_some]
  | map h ih => rw [ofValue, toValue?, toFields?_ofFields ih, Option.map_some]

end Script.Datum

theorem Value.Carried.sorted {v : Value} (h : v.Carried) : v.sorted.Carried := by
  induction h with
  | null => exact .null
  | bool b => exact .bool b
  | int hmin hmax => exact .int hmin hmax
  | float h => exact .float h
  | str s => exact .str s
  | list h ih =>
    rw [Value.sorted_list]
    refine .list fun v hv => ?_
    obtain ⟨w, hw, rfl⟩ := List.mem_map.1 hv
    exact ih w hw
  | map h ih =>
    rw [Value.sorted_map]
    refine .map fun e he => ?_
    obtain ⟨e', he', rfl⟩ := List.mem_map.1 ((Fields.sorted_perm _).mem_iff.1 he)
    exact ih e' he'

/-! ## 2. Regular data -/

namespace Script

namespace Datum

/-- In every map the keys ascend, and every integer is in range. -/
inductive Regular : Datum → Prop where
  | unit : Regular .unit
  | bool (b : Bool) : Regular (.bool b)
  | int {n : Int} (hmin : minInt ≤ n) (hmax : n ≤ maxInt) : Regular (.int n)
  | float (x : Double) : Regular (.float x)
  | str (s : String) : Regular (.str s)
  | list {items : List Datum} (h : ∀ d ∈ items, Regular d) : Regular (.list items)
  | map {fields : List (String × Datum)} (hkeys : (Fields.keys fields).Pairwise (· < ·))
      (h : ∀ e ∈ fields, Regular e.2) : Regular (.map fields)

/-- What a session hands over is regular. -/
theorem regular_ofValue_sorted {v : Value} (hcarried : v.Carried) (hdistinct : v.Distinct) :
    (ofValue v.sorted).Regular := by
  induction hcarried with
  | null => exact .unit
  | bool b => exact .bool b
  | int hmin hmax =>
    rw [Value.sorted_scalar rfl, ofValue, if_pos hmax]
    exact .int hmin hmax
  | float h => exact .float _
  | str s => exact .str s
  | @list items h ih =>
    rw [Value.sorted_list, ofValue, ofItems_eq, List.map_map]
    cases hdistinct with
    | scalar hscalar => exact absurd hscalar (by simp [Value.isScalar])
    | list hmembers =>
      refine .list fun d hd => ?_
      obtain ⟨v, hv, rfl⟩ := List.mem_map.1 hd
      exact ih v hv (hmembers v hv)
  | @map fields h ih =>
    obtain ⟨hkeys, hmembers⟩ := Value.distinct_map_iff.1 hdistinct
    rw [Value.sorted_map, ofValue, ofFields_eq]
    refine .map ?_ fun e he => ?_
    · rw [Fields.keys_mapValues]
      -- ascending keys that are distinct ascend strictly
      have hle := Fields.pairwise_sorted (Fields.mapValues Value.sorted fields)
      have hne := (hkeys.mapValues Value.sorted).perm (Fields.sorted_perm _)
      exact (hle.and hne).imp fun h => lt_of_le_of_ne h.1 h.2
    · obtain ⟨e', he', rfl⟩ := List.mem_map.1 he
      obtain ⟨e'', he'', rfl⟩ := List.mem_map.1 ((Fields.sorted_perm _).mem_iff.1 he')
      exact ih e'' he'' (hmembers e'' he'')

theorem Regular.ofField {fields : List (String × Datum)} (h : ∀ e ∈ fields, Regular e.2)
    (name : String) : (ofField name fields).Regular := by
  unfold Datum.ofField
  cases hfound : fields.lookup name with
  | none => exact .unit
  | some d =>
    induction fields with
    | nil => exact absurd hfound (by simp)
    | cons e rest ih =>
      obtain ⟨hfirst, hrest⟩ := List.forall_mem_cons.1 h
      rw [List.lookup_cons] at hfound
      split at hfound
      · rw [← Option.some.inj hfound]
        exact hfirst
      · exact ih hrest hfound

theorem Regular.getD {items : List Datum} (h : ∀ d ∈ items, Regular d) (i : Nat) :
    (items.getD i .unit).Regular := by
  rw [List.getD_eq_getElem?_getD]
  cases hfound : items[i]? with
  | none => exact .unit
  | some d => exact h d (List.mem_of_getElem? hfound)

/-! ## 3. A part that is put back -/

theorem ofField_cons (name : String) (e : String × Datum) (rest : List (String × Datum)) :
    ofField name (e :: rest) = if name = e.1 then e.2 else ofField name rest := by
  unfold ofField
  rw [List.lookup_cons]
  split
  · rw [if_pos (by simp_all)]
    rfl
  · rw [if_neg (by simp_all)]

theorem mem_keys_of_ofField {fields : List (String × Datum)} {name : String}
    (h : ofField name fields ≠ .unit) : name ∈ Fields.keys fields := by
  induction fields with
  | nil => exact absurd rfl h
  | cons e rest ih =>
    rw [ofField_cons] at h
    by_cases hname : name = e.1
    · exact List.mem_cons.2 (Or.inl hname)
    · rw [if_neg hname] at h
      exact List.mem_cons_of_mem e.1 (ih h)

theorem insert_ofField {fields : List (String × Datum)} {name : String}
    (hkeys : (Fields.keys fields).Pairwise (· < ·)) (h : ofField name fields ≠ .unit) :
    insert name (ofField name fields) fields = fields := by
  induction fields with
  | nil => exact absurd rfl h
  | cons e rest ih =>
    obtain ⟨key, d⟩ := e
    obtain ⟨hbefore, hrest⟩ := List.pairwise_cons.1 hkeys
    rw [ofField_cons] at h ⊢
    by_cases hname : name = key
    · rw [if_pos hname, insert, if_pos hname.symm, hname]
    · rw [if_neg hname] at h ⊢
      have hlt : key < name := hbefore name (mem_keys_of_ofField h)
      rw [insert, if_neg (Ne.symm hname), if_neg (lt_asymm hlt), ih hrest h]

theorem set_getD_self {α : Type} (items : List α) (i : Nat) (x : α) :
    items.set i (items.getD i x) = items := by
  by_cases h : i < items.length
  · rw [List.getD_eq_getElem?_getD, List.getElem?_eq_getElem h, Option.getD_some,
      List.set_getElem_self]
  · exact List.set_eq_of_length_le (Nat.le_of_not_lt h)

theorem withBit_bit {m : Int} (hmin : minInt ≤ m) (hmax : m ≤ maxInt) (i : Nat) :
    withBit m i (bit m i) = m := by
  have hsize : Nat.pow 2 bits = 2 ^ 64 := rfl
  have hfirst : minInt = -2 ^ 63 := rfl
  have hlast : maxInt = 2 ^ 63 - 1 := rfl
  rw [withBit, Int.sub_self, Int.zero_mul, Int.add_zero, hsize]
  rw [hfirst] at hmin
  rw [hlast] at hmax
  exact Int.bmod_eq_of_le (by omega) (by omega)

variable {β : Type} {f : Datum → Option (Datum × β)}

theorem changeAt_unit (h : f .unit = none) (keys : List Key) : changeAt f keys .unit = none := by
  cases keys with
  | nil => exact h
  | cons key rest => cases key <;> simp [changeAt]

/-- A change that gives back what is there, and does nothing for what is not, leaves the datum around
it. -/
theorem changeAt_eq_self (hf : ∀ d r, f d = some r → r.1 = d) (hunit : f .unit = none)
    {keys : List Key} {d : Datum} {r : Datum × β} (hd : d.Regular)
    (h : changeAt f keys d = some r) : r.1 = d := by
  fun_induction changeAt f keys d generalizing r with
  | case1 d => exact hf d r h
  | case2 name keys fields ih =>
    obtain ⟨part, hpart, rfl⟩ := Option.map_eq_some_iff.1 h
    cases hd with
    | map hkeys hfields =>
      have hthere : ofField name fields ≠ .unit := by
        intro hmissing
        rw [hmissing, changeAt_unit hunit] at hpart
        exact absurd hpart (by simp)
      rw [ih (.ofField hfields name) hpart]
      exact congrArg Datum.map (insert_ofField hkeys hthere)
  | case3 n keys items i hi ih =>
    obtain ⟨part, hpart, rfl⟩ := Option.map_eq_some_iff.1 h
    cases hd with
    | list hitems =>
      rw [ih (.getD hitems i) hpart]
      exact congrArg Datum.list (set_getD_self items i .unit)
  | case5 n s i hi c b hc =>
    obtain rfl := Option.some.inj h
    have hsame := Datum.char.inj (hf _ _ hc)
    show Datum.str _ = _
    rw [hsame, set_getD_self, String.ofList_toList]
  | case8 n m i hi b c hb =>
    obtain rfl := Option.some.inj h
    have hsame := Datum.bool.inj (hf _ _ hb)
    cases hd with
    | int hmin hmax =>
      show Datum.int _ = _
      rw [hsame, withBit_bit hmin hmax]
  | _ => exact absurd h (by simp)

end Datum

/-! ## 4. Functions that leave their first argument -/

theorem applyNative_unit (fileExists : String → Bool) (name : String) (args : List Datum) :
    applyNative fileExists name .unit args = none := by
  unfold applyNative
  split <;> simp_all [Datum.contains]

theorem applyNative_self {fileExists : String → Bool} {name : String} {self : Datum}
    {args : List Datum} {r : Datum × Datum} (hname : mutating.contains name = false)
    (h : applyNative fileExists name self args = some r) : r.1 = self := by
  unfold applyNative at h
  -- the rows of the table that change it have a name that is excluded
  split at h <;> grind [mutating, Option.map_eq_some_iff]

end Script

end Stencil
