import Stencil.Proofs.Render.Failure
import Stencil.Render.Content

/-!
# Rendering and the files

A rule is asked in view of the files, since a path resolves to different things at different times. Few
rules look: of the built-in ones it is `realpath` alone (`builtins_blind`). A text whose placeholders name
`Blind` rules only renders alike whatever the files are, and so do a path and the content of a file.
-/

set_option autoImplicit false

namespace Stencil

/-! ## 1. Rules -/

namespace Registry

variable {r : Registry} {name : String} {names : List String}

/-- The rule of the name, if there is one, does not look at the files. -/
def Blind (r : Registry) (name : String) : Prop :=
  ∀ rule, Fields.find? name r.rules = some rule → ∀ t t', rule t = rule t'

theorem apply_of_blind (h : ∀ name ∈ names, r.Blind name) (t t' : FileTree) (v : Value) :
    r.apply t v names = r.apply t' v names := by
  induction names generalizing v with
  | nil => rfl
  | cons name names ih =>
    obtain ⟨hname, hnames⟩ := List.forall_mem_cons.1 h
    cases hrule : Fields.find? name r.rules with
    | none => rw [apply_cons_of_find?_none hrule, apply_cons_of_find?_none hrule]
    | some rule =>
      rw [apply_cons_of_find? hrule, apply_cons_of_find? hrule, hname rule hrule t t', ih hnames]

/-- Of the built-in rules, `realpath` alone looks at the files. -/
theorem builtins_blind (h : name ≠ "realpath") : builtins.Blind name := by
  intro rule hrule t t'
  have hmem := Fields.mem_of_find? hrule
  simp only [builtins, List.mem_cons, Prod.mk.injEq, List.not_mem_nil, or_false] at hmem
  rcases hmem with ⟨-, rfl⟩ | ⟨-, rfl⟩ | ⟨-, rfl⟩ | ⟨-, rfl⟩ | ⟨-, rfl⟩ | ⟨-, rfl⟩ | ⟨-, rfl⟩ |
    ⟨hname, -⟩ | ⟨-, rfl⟩ | ⟨-, rfl⟩ | ⟨-, rfl⟩ | ⟨-, rfl⟩ | ⟨-, rfl⟩ | ⟨-, rfl⟩
  case inr.inr.inr.inr.inr.inr.inr.inl => exact absurd hname h
  all_goals rfl

end Registry

/-! ## 2. Texts -/

namespace Render

variable {data : Store} {r : Registry} {segs : List Segment}

theorem evaluate_of_blind {seg : Segment} (h : ∀ name, Writes [seg] name → r.Blind name)
    (t t' : FileTree) : seg.evaluate ⟨data, r, t⟩ = seg.evaluate ⟨data, r, t'⟩ := by
  cases seg with
  | literal cs => rfl
  | tail cs => rfl
  | placeholder wide expr =>
    rcases comment_or_spells expr with hcomment | ⟨key, names, hspells⟩
    · rw [Segment.evaluate, Segment.evaluate, expression_of_comment hcomment]
      rfl
    · have hblind : ∀ name ∈ names, r.Blind name := fun name hname =>
        h name ⟨wide, expr, key, names, List.mem_cons_self, hspells, hname⟩
      rw [Segment.evaluate, Segment.evaluate, expression_of_spells hspells, Expression.evaluate,
        Expression.evaluate]
      dsimp only
      rw [Registry.apply_of_blind hblind t t']

theorem renderSegments_of_blind (h : ∀ name, Writes segs name → r.Blind name) (t t' : FileTree) :
    renderSegments ⟨data, r, t⟩ segs = renderSegments ⟨data, r, t'⟩ segs := by
  induction segs with
  | nil => rfl
  | cons seg segs ih =>
    have hseg : ∀ name, Writes [seg] name → r.Blind name := by
      rintro name ⟨wide, expr, key, names, hmem, hwrites⟩
      obtain rfl := List.mem_singleton.1 hmem
      exact h name ⟨wide, expr, key, names, List.mem_cons_self, hwrites⟩
    have hsegs : ∀ name, Writes segs name → r.Blind name := by
      rintro name ⟨wide, expr, key, names, hmem, hwrites⟩
      exact h name ⟨wide, expr, key, names, List.mem_cons_of_mem _ hmem, hwrites⟩
    rw [renderSegments, renderSegments, evaluate_of_blind hseg t t', ih hsegs]

theorem text_of_blind {s : String} (h : ∀ name, Writes (segments s.toList) name → r.Blind name)
    (t t' : FileTree) : text ⟨data, r, t⟩ s = text ⟨data, r, t'⟩ s := by
  unfold text chars
  rw [renderSegments_of_blind h t t']

/-! ## 3. Paths and contents -/

theorem path_of_blind {p : Path}
    (h : ∀ part ∈ p.components, ∀ name, Writes (segments part.text.toList) name → r.Blind name)
    (t t' : FileTree) : path ⟨data, r, t⟩ p = path ⟨data, r, t'⟩ p := by
  unfold path
  generalize (⟨""⟩ : Path) = front
  revert h
  generalize p.components = parts
  intro h
  induction parts generalizing front with
  | nil => rfl
  | cons part parts ih =>
    obtain ⟨hpart, hparts⟩ := List.forall_mem_cons.1 h
    rw [components, components, text_of_blind hpart t t']
    split
    · rfl
    · exact ih _ hparts

theorem content_of_blind {bytes : ByteArray}
    (h : ∀ s, String.fromUTF8? bytes = some s →
      ∀ name, Writes (segments s.toList) name → r.Blind name)
    (t t' : FileTree) : content ⟨data, r, t⟩ bytes = content ⟨data, r, t'⟩ bytes := by
  unfold content
  split
  · rfl
  · cases hs : String.fromUTF8? bytes with
    | none => rfl
    | some s =>
      dsimp only
      rw [text_of_blind (h s hs) t t']

end Render

end Stencil
