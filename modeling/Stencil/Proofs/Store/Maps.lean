import Stencil.Proofs.Store.Lens
import Stencil.Proofs.Text.Pieces

/-!
# Paths through maps

Answers and registrations are written under dotted keys with nothing but maps on the way. For such
paths the frame law needs no indices: two paths diverge as soon as neither continues the other, and
a write leaves nothing but maps on its way. `ListFree` is what the arguments rest on, and
`listFree_assign` is the invariant: a write on one list-free path leaves another one list-free,
unless it puts something into the other's way.
-/

set_option autoImplicit false

namespace Stencil

namespace Value

/-- No list stands on the way, the end of the path apart. -/
def ListFree (p : List String) (x : Value) : Prop :=
  ∀ before s after items, p = before ++ s :: after → x.at? before ≠ some (.list items)

theorem ListFree.addressed {p : List String} {x : Value} (h : ListFree p x) : Addressed p x := by
  intro before s after items hp hat
  exact absurd hat (h before s after items hp)

theorem ListFree.tail {s : String} {rest : List String} {x : Value} (h : ListFree (s :: rest) x) :
    ListFree rest (x.childOrNull s) := by
  intro before t after items hp hat
  exact h (s :: before) t after items (by rw [hp]; rfl) (at?_cons_of_childOrNull hat)

/-- Where a list-free path starts, segments are keys. -/
theorem ListFree.eq_of_sameChild {s t u : String} {rest : List String} {x : Value}
    (h : ListFree (u :: rest) x) (hst : x.sameChild s t) : s = t := by
  cases x with
  | list items => exact absurd rfl (h [] u rest items rfl)
  | _ => exact hst

/-- Two list-free paths diverge when neither continues the other. -/
theorem diverges_of_listFree {p q : List String} {x : Value} (h : ListFree p x)
    (hpq : ¬ p <+: q) (hqp : ¬ q <+: p) : Diverges p q x := by
  induction p generalizing q x with
  | nil => exact absurd (List.nil_prefix) hpq
  | cons s p ih =>
    cases q with
    | nil => exact absurd (List.nil_prefix) hqp
    | cons t q =>
      by_cases hst : s = t
      · subst hst
        refine Or.inr (ih h.tail ?_ ?_)
        · exact fun hp => hpq (List.cons_prefix_cons.2 ⟨rfl, hp⟩)
        · exact fun hp => hqp (List.cons_prefix_cons.2 ⟨rfl, hp⟩)
      · exact Or.inl fun hsame => hst (h.eq_of_sameChild hsame)

/-- A write leaves maps on its way. -/
theorem at?_assign_before (new : Value) {before after : List String} {s : String} {x : Value}
    (h : ListFree (before ++ s :: after) x) :
    ∃ fields, at? before (assign new (before ++ s :: after) x) = some (.map fields) := by
  induction before generalizing x with
  | nil =>
    cases hx : x.isScalar with
    | true => exact ⟨_, by rw [List.nil_append, assign_cons_scalar new s after hx, at?]⟩
    | false =>
      cases x with
      | map fields => exact ⟨_, by rw [List.nil_append, assign_cons_map, at?]⟩
      | list items => exact absurd rfl (h [] s after items rfl)
      | _ => exact absurd hx (by simp [isScalar])
  | cons u before ih =>
    rw [List.cons_append, at?, child?_assign, Option.bind_some]
    exact ih h.tail

/-- A write on one list-free path leaves another one list-free, if it does not put a value where the
other one passes. -/
theorem listFree_assign (new : Value) {p q : List String} {x : Value} (hp : ListFree p x)
    (hq : ListFree q x) (hpq : p <+: q → p = q) : ListFree q (assign new p x) := by
  intro before s after items hsplit hat
  by_cases hbefore : p <+: before
  · -- then the write's path would pass into the other one's and not be all of it
    have hle : before.length < q.length := by rw [hsplit]; simp
    have hprefix : p <+: q := hbefore.trans (hsplit ▸ List.prefix_append before (s :: after))
    have hlen := hbefore.length_le
    rw [hpq hprefix] at hlen
    omega
  · by_cases hshort : before <+: p
    · obtain ⟨rest, hrest⟩ := hshort
      cases rest with
      | nil =>
        rw [List.append_nil] at hrest
        exact hbefore (hrest ▸ List.prefix_rfl)
      | cons t rest =>
        rw [← hrest] at hp hat
        obtain ⟨fields, hmap⟩ := at?_assign_before new hp
        rw [hmap] at hat
        exact absurd hat (by simp)
    · rw [at?_assign_of_diverges new hp.addressed (diverges_of_listFree hp hbefore hshort)] at hat
      exact hq before s after items hsplit hat

end Value

/-- Keys are known by their segments. -/
theorem segments_injective {a b : String} (h : segments a = segments b) : a = b := by
  have hpieces : Text.pieces '.' a.toList = Text.pieces '.' b.toList := by
    have hmap := congrArg (List.map String.toList) h
    simpa [segments, Text.split, Function.comp_def] using hmap
  have hchars := congrArg (Text.joinWith ['.']) hpieces
  rw [Text.joinWith_pieces, Text.joinWith_pieces] at hchars
  exact String.toList_injective hchars

/-- A key that was put together has the segments of its parts. -/
theorem segments_append_dot (s t : String) : segments (s ++ "." ++ t) = segments s ++ segments t :=
  Text.split_append_dot s t

theorem segments_of_no_dot {s : String} (h : '.' ∉ s.toList) : segments s = [s] :=
  Text.split_of_not_mem h

end Stencil
