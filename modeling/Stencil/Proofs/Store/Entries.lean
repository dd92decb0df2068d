import Stencil.Proofs.Store.Lens
import Stencil.Proofs.Text.Pieces
import Stencil.Proofs.Value

/-!
# Entries that are written one after another

What is left in a store by writing entries under dotted keys can be saved: a write adds a level for
each segment of its key and nothing else (`savesWithin_assign`), and the keys at the top of the
store are segments, so there is no dot in them. That is what a later `merge` rests on, which takes
each key at the top for a path.

One key can be left out of account: its value is about to be forgotten (`SavesBut`).
-/

set_option autoImplicit false

namespace Stencil

namespace Value

/-! ## 1. Values that can be saved -/

/-- What can be written to a file and read again, of a bounded depth. -/
def SavesWithin (n : Nat) (v : Value) : Prop :=
  v.isWhole = true ∧ v.depth ≤ n

theorem savesWithin_null (n : Nat) : SavesWithin n .null := ⟨rfl, Nat.zero_le n⟩

theorem savesWithin_str (n : Nat) (s : String) : SavesWithin n (.str s) := ⟨rfl, Nat.zero_le n⟩

theorem savesWithin_list {n : Nat} {items : List Value} :
    SavesWithin (n + 1) (.list items) ↔ ∀ v ∈ items, SavesWithin n v := by
  have hwhole : (Value.list items).isWhole = true ↔ ∀ v ∈ items, v.isWhole = true :=
    isWholeList_iff
  unfold SavesWithin
  simp only [hwhole, depth_list_le_iff, Nat.add_right_cancel_iff, exists_eq_left', forall_and]

theorem savesWithin_map {n : Nat} {fields : Fields Value} :
    SavesWithin (n + 1) (.map fields) ↔
      Fields.Distinct fields ∧ ∀ e ∈ fields, SavesWithin n e.2 := by
  unfold SavesWithin
  simp only [isWhole_map_iff, depth_map_le_iff, Nat.add_right_cancel_iff, exists_eq_left',
    forall_and, and_assoc]

/-- The map that a write makes where there is none. -/
theorem savesWithin_singleton {n : Nat} {key : String} {v : Value} (h : SavesWithin n v) :
    SavesWithin (n + 1) (.map [(key, v)]) :=
  savesWithin_map.2 ⟨List.nodup_singleton key, fun _ he => List.mem_singleton.1 he ▸ h⟩

/-- A write adds a level for each segment of its path. -/
theorem savesWithin_assign {new : Value} {p : List String} {x : Value} {n : Nat}
    (hnew : SavesWithin n new) (hx : SavesWithin (n + p.length) x) :
    SavesWithin (n + p.length) (assign new p x) := by
  induction p generalizing x with
  | nil => exact hnew
  | cons s rest ih =>
    rw [List.length_cons, ← Nat.add_assoc] at hx ⊢
    have hfresh := ih (savesWithin_null (n + rest.length))
    cases hscalar : x.isScalar with
    | true =>
      rw [assign_cons_scalar new s rest hscalar]
      exact savesWithin_singleton hfresh
    | false =>
      cases x with
      | map fields =>
        obtain ⟨hdistinct, hentries⟩ := savesWithin_map.1 hx
        refine savesWithin_map.2 ⟨hdistinct.alter s _, fun e he => ?_⟩
        rcases Fields.mem_alter he with he | rfl
        · exact hentries e he
        · cases hold : Fields.find? s fields with
          | none => exact hfresh
          | some old => exact ih (hentries _ (Fields.mem_of_find? hold))
      | list items =>
        have hitems := savesWithin_list.1 hx
        rcases list_cases s items with ⟨i, hs, hi⟩ | hs | hs
        · rw [assign_cons_list_lt new rest hs hi]
          refine savesWithin_list.2 fun v hv => ?_
          obtain ⟨j, hj, rfl⟩ := List.getElem_of_mem hv
          rw [List.length_modify] at hj
          have hold := hitems _ (List.getElem_mem hj)
          rw [List.getElem_modify]
          split
          · exact ih hold
          · exact hold
        · rw [assign_cons_list_length new rest hs]
          refine savesWithin_list.2 fun v hv => ?_
          rcases List.mem_append.1 hv with hv | hv
          · exact hitems v hv
          · exact List.mem_singleton.1 hv ▸ hfresh
        · rw [assign_cons_list_misfit new rest hs]
          exact savesWithin_singleton hfresh
      | _ => exact absurd hscalar (by simp [isScalar])

/-- Entries given one after another are members of one map. -/
theorem savesWithin_ofList {n : Nat} {entries : Fields Value}
    (h : ∀ e ∈ entries, SavesWithin n e.2) : SavesWithin (n + 1) (.map (Fields.ofList entries)) := by
  have hfold : ∀ start : Fields Value, SavesWithin (n + 1) (.map start) →
      SavesWithin (n + 1)
        (.map (entries.foldl (fun fields entry => Fields.put entry.1 entry.2 fields) start)) := by
    induction entries with
    | nil => exact fun start hstart => hstart
    | cons e rest ih =>
      obtain ⟨he, hrest⟩ := List.forall_mem_cons.1 h
      intro start hstart
      exact ih hrest _ (savesWithin_assign (p := [e.1]) he hstart)
  exact hfold [] (savesWithin_map.2 ⟨List.nodup_nil, List.forall_mem_nil _⟩)

end Value

namespace Store

open Value (SavesWithin savesWithin_map)

/-! ## 2. Stores that can be saved -/

/-- Each entry of the store can be saved, one key apart, and there is no dot in a key at the top. -/
structure SavesBut (skip : String) (n : Nat) (s : Store) : Prop where
  distinct : Fields.Distinct s.fields
  no_dot : ∀ e ∈ s.fields, '.' ∉ e.1.toList
  saves : ∀ e ∈ s.fields, e.1 ≠ skip → SavesWithin n e.2

theorem savesBut_empty (skip : String) (n : Nat) : SavesBut skip n .empty :=
  ⟨List.nodup_nil, fun _ h => absurd h List.not_mem_nil, fun _ h => absurd h List.not_mem_nil⟩

theorem fields_set {path key : String} {rest : List String} (h : segments path = key :: rest)
    (s : Store) (v : Value) :
    (s.set path v).fields = Fields.alter key (fun old => Value.assign v rest (old.getD .null))
      s.fields := by
  have hset := toValue_set s path v
  rw [h, toValue, toValue, Value.assign_cons_map, Value.map.injEq] at hset
  exact hset

/-- Under a path that is a key, a value is put under that key. -/
theorem set_key {path : String} (h : segments path = [path]) (s : Store) (v : Value) :
    s.set path v = ⟨Fields.put path v s.fields⟩ :=
  congrArg Store.mk (fields_set h s v)

/-- A key is a segment of its path. -/
theorem no_dot_of_segments {path key : String} {rest : List String}
    (h : segments path = key :: rest) : '.' ∉ key.toList := by
  refine Text.not_mem_of_mem_split (s := path) ?_
  rw [← segments, h]
  exact List.mem_cons_self

theorem SavesBut.set {skip path key : String} {rest : List String} {n : Nat} {s : Store} {v : Value}
    (h : SavesBut skip (n + rest.length) s) (hpath : segments path = key :: rest)
    (hv : key ≠ skip → SavesWithin n v) : SavesBut skip (n + rest.length) (s.set path v) := by
  have hfields := fields_set hpath s v
  refine ⟨?_, fun e he => ?_, fun e he hskip => ?_⟩
  · rw [hfields]
    exact h.distinct.alter key _
  · rw [hfields] at he
    rcases Fields.mem_alter he with he | rfl
    · exact h.no_dot e he
    · exact no_dot_of_segments hpath
  · rw [hfields] at he
    rcases Fields.mem_alter he with he | rfl
    · exact h.saves e he hskip
    · refine Value.savesWithin_assign (hv hskip) ?_
      cases hold : Fields.find? key s.fields with
      | none => exact Value.savesWithin_null _
      | some old => exact h.saves _ (Fields.mem_of_find? hold) hskip

theorem SavesBut.putAll {skip : String} {n : Nat} {s : Store} {entries : Fields Value}
    (h : SavesBut skip n s) (hentries : ∀ e ∈ entries, ∃ key rest k, segments e.1 = key :: rest ∧
      n = k + rest.length ∧ (key ≠ skip → SavesWithin k e.2)) :
    SavesBut skip n (s.putAll entries) := by
  induction entries generalizing s with
  | nil => exact h
  | cons e after ih =>
    obtain ⟨⟨key, rest, k, hpath, rfl, hsaves⟩, hafter⟩ := List.forall_mem_cons.1 hentries
    exact ih (h.set hpath hsaves) hafter

/-- A key at the top that is forgotten leaves the other entries. -/
theorem fields_forget {path key : String} (h : segments path = [key]) (s : Store) :
    (s.forget path).fields = Fields.drop key s.fields := by
  rw [forget, take, h, Value.takeAt?, toValue, Value.take?]
  cases hk : Fields.find? key s.fields with
  | none => exact (Fields.drop_of_not_held hk).symm
  | some v => rfl

theorem get?_eq_bind {path key : String} {rest : List String} (h : segments path = key :: rest)
    (s : Store) : s.get? path = (Fields.find? key s.fields).bind (Value.at? rest) := by
  rw [get?, h]
  rfl

/-- A key at the top that is forgotten is gone. -/
theorem get?_forget_key {s : Store} {path key : String} (h : segments path = [key]) :
    (s.forget path).get? path = none := by
  rw [get?_eq_bind h, fields_forget h, Fields.find?_drop_same]
  rfl

theorem get?_of_getStr? {s : Store} {path text : String} (h : s.getStr? path = some text) :
    s.get? path = some (.str text) := by
  obtain ⟨v, hv, hstr⟩ := Option.bind_eq_some_iff.1 h
  cases v with
  | str t => rw [hv, Option.some.inj hstr]
  | _ => exact absurd hstr (by simp [Value.asStr?])

theorem get?_forget_other {path key other : String} (h : segments path = [key])
    (hother : (segments other).head? ≠ some key) (s : Store) :
    (s.forget path).get? other = s.get? other := by
  cases hp : segments other with
  | nil => exact absurd hp (segments_ne_nil other)
  | cons first rest =>
    rw [hp, List.head?_cons] at hother
    rw [get?_eq_bind hp, get?_eq_bind hp, fields_forget h,
      Fields.find?_drop_other fun heq => hother (by rw [heq])]

theorem SavesBut.forget {skip : String} {n : Nat} {s : Store} (h : SavesBut skip n s)
    (hskip : segments skip = [skip]) :
    SavesWithin (n + 1) (s.forget skip).toValue ∧
      ∀ e ∈ (s.forget skip).fields, '.' ∉ e.1.toList := by
  have hmem : ∀ e ∈ (s.forget skip).fields, e ∈ s.fields ∧ e.1 ≠ skip := by
    intro e he
    rw [fields_forget hskip, Fields.drop, List.mem_filter] at he
    simpa using he
  refine ⟨savesWithin_map.2 ⟨?_, fun e he => ?_⟩, fun e he => h.no_dot e (hmem e he).1⟩
  · rw [fields_forget hskip]
    exact h.distinct.drop skip
  · exact h.saves e (hmem e he).1 (hmem e he).2

end Store

end Stencil
