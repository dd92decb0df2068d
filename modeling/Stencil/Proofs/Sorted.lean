import Mathlib.Data.String.Basic
import Stencil.Directive.Execute
import Stencil.Proofs.Value

/-!
# Values by key

A script keeps the entries of every map by key, so a value comes back from it as `Value.sorted`: the
same value to everybody who asks for keys and indices (`at?_sorted`), and the same value altogether
where the maps have been in that order before (`sorted_eq_self_iff`).
-/

set_option autoImplicit false

namespace Stencil

namespace Fields

variable {α : Type}

theorem sorted_perm (fields : Fields α) : (sorted fields).Perm fields :=
  List.mergeSort_perm fields _

theorem pairwise_sorted (fields : Fields α) : (keys (sorted fields)).Pairwise (· ≤ ·) := by
  have htrans : ∀ a b c : String × α, decide (a.1 ≤ b.1) = true → decide (b.1 ≤ c.1) = true →
      decide (a.1 ≤ c.1) = true := by
    intro a b c hab hbc
    exact decide_eq_true (le_trans (of_decide_eq_true hab) (of_decide_eq_true hbc))
  have htotal : ∀ a b : String × α, (decide (a.1 ≤ b.1) || decide (b.1 ≤ a.1)) = true := by
    intro a b
    exact Bool.or_eq_true_iff.2 ((le_total a.1 b.1).imp decide_eq_true decide_eq_true)
  rw [keys, List.pairwise_map]
  exact (List.pairwise_mergeSort htrans htotal fields).imp of_decide_eq_true

theorem sorted_of_pairwise {fields : Fields α} (h : (keys fields).Pairwise (· ≤ ·)) :
    sorted fields = fields := by
  rw [keys, List.pairwise_map] at h
  exact List.mergeSort_of_pairwise (h.imp decide_eq_true)

theorem Distinct.perm {a b : Fields α} (h : Distinct b) (hperm : a.Perm b) : Distinct a :=
  ((hperm.map Prod.fst).nodup_iff).2 h

theorem sorted_eq_of_perm {fields out : Fields α} (hperm : fields.Perm out) (h : Distinct out)
    (hkeys : (keys out).Pairwise (· ≤ ·)) : sorted fields = out := by
  have hsorted : ((sorted fields).Pairwise fun a b => a.1 ≤ b.1) :=
    List.pairwise_map.1 (pairwise_sorted fields)
  have hout : out.Pairwise fun a b => a.1 ≤ b.1 := List.pairwise_map.1 hkeys
  have hboth : (sorted fields).Perm out := (sorted_perm fields).trans hperm
  refine List.Perm.eq_of_pairwise (fun a b ha hb hab hba => ?_) hsorted hout hboth
  exact List.inj_on_of_nodup_map h (hboth.mem_iff.1 ha) hb (le_antisymm hab hba)

/-- What a key finds among distinct keys does not depend on their order. -/
theorem find?_perm {a b : Fields α} (hperm : a.Perm b) (h : Distinct b) (key : String) :
    find? key a = find? key b := by
  have ha : Distinct a := h.perm hperm
  cases hb : find? key b with
  | some v => exact find?_of_mem ha (hperm.mem_iff.2 (mem_of_find? hb))
  | none =>
    cases hfound : find? key a with
    | none => rfl
    | some v =>
      rw [find?_of_mem h (hperm.mem_iff.1 (mem_of_find? hfound))] at hb
      exact absurd hb (by simp)

end Fields

theorem sortedItems_eq (items : List Value) : sortedItems items = items.map Value.sorted := by
  induction items with
  | nil => rfl
  | cons v rest ih => rw [sortedItems, ih, List.map_cons]

theorem sortedFields_eq (fields : Fields Value) :
    sortedFields fields = Fields.mapValues Value.sorted fields := by
  induction fields with
  | nil => rfl
  | cons e rest ih =>
    rw [sortedFields, ih]
    rfl

namespace Value

theorem sorted_list (items : List Value) : (list items).sorted = .list (items.map sorted) := by
  rw [sorted, sortedItems_eq]

theorem sorted_map (fields : Fields Value) :
    (map fields).sorted = .map (Fields.sorted (Fields.mapValues sorted fields)) := by
  rw [sorted, sortedFields_eq]

theorem sorted_scalar {v : Value} (h : v.isScalar = true) : v.sorted = v := by
  cases v with
  | list items => exact absurd h (by simp [isScalar])
  | map fields => exact absurd h (by simp [isScalar])
  | _ => rfl

/-! ## Maps that are in order -/

/-- In every map the keys ascend. -/
inductive InOrder : Value → Prop where
  | scalar {v : Value} (h : v.isScalar = true) : InOrder v
  | list {items : List Value} (h : ∀ v ∈ items, InOrder v) : InOrder (.list items)
  | map {fields : Fields Value} (hkeys : (Fields.keys fields).Pairwise (· ≤ ·))
      (h : ∀ e ∈ fields, InOrder e.2) : InOrder (.map fields)

theorem inOrder_list_iff {items : List Value} :
    (list items).InOrder ↔ ∀ v ∈ items, v.InOrder := by
  constructor
  · intro h
    cases h with
    | scalar h => exact absurd h (by simp [isScalar])
    | list h => exact h
  · exact .list

theorem inOrder_map_iff {fields : Fields Value} :
    (map fields).InOrder ↔
      (Fields.keys fields).Pairwise (· ≤ ·) ∧ ∀ e ∈ fields, e.2.InOrder := by
  constructor
  · intro h
    cases h with
    | scalar h => exact absurd h (by simp [isScalar])
    | map hkeys h => exact ⟨hkeys, h⟩
  · intro h
    exact .map h.1 h.2

end Value

theorem Fields.mapValues_eq_self_iff {f : Value → Value} {fields : Fields Value} :
    Fields.mapValues f fields = fields ↔ ∀ e ∈ fields, f e.2 = e.2 := by
  have hmap := List.map_inj_left (l := fields) (f := fun e => (e.1, f e.2)) (g := id)
  rw [List.map_id] at hmap
  rw [Fields.mapValues, hmap]
  refine forall₂_congr fun e _ => ?_
  rw [id, Prod.ext_iff]
  exact and_iff_right rfl

namespace Value

/-- A script gives back the values whose maps are in order, and no others. -/
theorem sorted_eq_self_iff {v : Value} : v.sorted = v ↔ v.InOrder := by
  induction v using Value.induction with
  | list items ih =>
    rw [sorted_list, Value.list.injEq, inOrder_list_iff]
    have hmap := List.map_inj_left (l := items) (f := sorted) (g := id)
    rw [List.map_id] at hmap
    rw [hmap]
    exact forall₂_congr ih
  | map fields ih =>
    rw [sorted_map, Value.map.injEq, inOrder_map_iff]
    have hmembers : Fields.mapValues sorted fields = fields ↔ ∀ e ∈ fields, e.2.InOrder := by
      rw [Fields.mapValues_eq_self_iff]
      exact forall₂_congr ih
    constructor
    · intro h
      have hkeys : (Fields.keys fields).Pairwise (· ≤ ·) := by
        rw [← h]
        exact Fields.pairwise_sorted _
      -- there is nothing to sort, so what changes is in the members
      rw [Fields.sorted_of_pairwise (by rw [Fields.keys_mapValues]; exact hkeys)] at h
      exact ⟨hkeys, hmembers.1 h⟩
    · rintro ⟨hkeys, h⟩
      rw [hmembers.2 h]
      exact Fields.sorted_of_pairwise hkeys
  | _ => exact ⟨fun _ => .scalar rfl, fun _ => rfl⟩

/-! ## Reading -/

/-- In every map the keys are distinct. -/
inductive Distinct : Value → Prop where
  | scalar {v : Value} (h : v.isScalar = true) : Distinct v
  | list {items : List Value} (h : ∀ v ∈ items, Distinct v) : Distinct (.list items)
  | map {fields : Fields Value} (hkeys : Fields.Distinct fields)
      (h : ∀ e ∈ fields, Distinct e.2) : Distinct (.map fields)

theorem distinct_map_iff {fields : Fields Value} :
    (map fields).Distinct ↔ Fields.Distinct fields ∧ ∀ e ∈ fields, e.2.Distinct := by
  constructor
  · intro h
    cases h with
    | scalar h => exact absurd h (by simp [isScalar])
    | map hkeys h => exact ⟨hkeys, h⟩
  · intro h
    exact .map h.1 h.2

theorem Distinct.child {v w : Value} {s : String} (h : v.Distinct) (hw : v.child? s = some w) :
    w.Distinct := by
  cases h with
  | scalar h => cases v <;> simp_all [child?, isScalar]
  | list h =>
    obtain ⟨i, -, hi⟩ := Option.bind_eq_some_iff.1 hw
    exact h w (List.mem_of_getElem? hi)
  | map hkeys h => exact h (s, w) (Fields.mem_of_find? hw)

theorem child?_sorted {v : Value} (h : v.Distinct) (s : String) :
    v.sorted.child? s = (v.child? s).map sorted := by
  cases h with
  | scalar h =>
    rw [sorted_scalar h]
    cases v with
    | list items => exact absurd h (by simp [isScalar])
    | map fields => exact absurd h (by simp [isScalar])
    | _ => rfl
  | @list items h =>
    rw [sorted_list]
    show (index? s).bind (fun i => (items.map sorted)[i]?) =
      ((index? s).bind fun i => items[i]?).map sorted
    cases index? s with
    | none => rfl
    | some i => exact List.getElem?_map
  | @map fields hkeys h =>
    rw [sorted_map]
    exact (Fields.find?_perm (Fields.sorted_perm _) (hkeys.mapValues sorted) s).trans
      (Fields.find?_mapValues sorted s fields)

/-- A path leads to the same value, as a script gives it back. -/
theorem at?_sorted {v : Value} (h : v.Distinct) (path : List String) :
    v.sorted.at? path = (v.at? path).map sorted := by
  induction path generalizing v with
  | nil => rfl
  | cons s rest ih =>
    rw [at?, at?, child?_sorted h s]
    cases hchild : v.child? s with
    | none => rfl
    | some w => exact ih (h.child hchild)

end Value

end Stencil
