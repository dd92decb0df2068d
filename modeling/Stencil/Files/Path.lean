import Stencil.Text

/-!
# Paths

A path is a text; what it means is read off its components. Doubled slashes and `.` components
say nothing and are passed over, except that a relative path may start with `.`. A `..` is a
component of its own: only a file system can say where it leads.

Operations keep the text of what they keep: `parent` of `a//b/c` is `a//b`. Two paths are the
`same` when their components are.
-/

set_option autoImplicit false

namespace Stencil

/-- The text of a path. -/
structure Path where
  text : String
  deriving DecidableEq

namespace Path

instance : Inhabited Path := ⟨⟨""⟩⟩

/-! ## Components -/

/-- A part of a path that says something. -/
inductive Component where
  | root
  | here
  | up
  | name (s : String)
  deriving DecidableEq

/-- A path that starts at the root. -/
def isAbsolute (p : Path) : Bool :=
  p.text.toList.head? == some '/'

/-- The texts between the slashes. -/
def steps (p : Path) : List String :=
  Text.split '/' p.text

/-- A step that leads nowhere: empty, or `.`. -/
def isIdle (step : String) : Bool :=
  step == "" || step == "."

/-- The component of a step that is not idle. -/
def componentOf (step : String) : Component :=
  if step = ".." then .up else .name step

/-- The start of a path, which is kept whatever follows: `/`, or a leading `.`, or nothing. -/
inductive Anchor where
  | root
  | here
  | free
  deriving DecidableEq

/-- The start of a path and the steps after it. -/
def parts (p : Path) : Anchor × List String :=
  if p.isAbsolute then (.root, p.steps.drop 1)
  else
    match p.steps with
    | "." :: rest => (.here, rest)
    | steps => (.free, steps)

/-- The path with a given start and steps. -/
def ofParts : Anchor → List String → Path
  | .root, steps => ⟨"/" ++ "/".intercalate steps⟩
  | .here, steps => ⟨"/".intercalate ("." :: steps)⟩
  | .free, steps => ⟨"/".intercalate steps⟩

/-- The components of a path. -/
def components (p : Path) : List Component :=
  let (anchor, steps) := p.parts
  let body := (steps.filter fun s => !isIdle s).map componentOf
  match anchor with
  | .root => .root :: body
  | .here => .here :: body
  | .free => body

/-- Paths with the same components. -/
def same (p q : Path) : Bool :=
  p.components == q.components

/-- The text of a component. -/
def Component.text : Component → String
  | .root => "/"
  | .here => "."
  | .up => ".."
  | .name s => s

/-! ## Joining -/

/-- The path `q` as seen from `p`: an absolute `q` stands for itself. -/
def join (p q : Path) : Path :=
  if q.isAbsolute then q
  else if p.text = "" || p.text.toList.getLast? = some '/' then ⟨p.text ++ q.text⟩
  else ⟨p.text ++ "/" ++ q.text⟩

/-- Joins a text. -/
def joinText (p : Path) (s : String) : Path :=
  p.join ⟨s⟩

/-- Joins the components of `q` one by one, without the `.` it may start with. -/
def joinParts (p q : Path) : Path :=
  (q.components.filter (· != .here)).foldl (fun p c => p.joinText c.text) p

/-! ## Taking apart -/

/-- Steps without the idle ones at the end. -/
def dropIdle (steps : List String) : List String :=
  (steps.reverse.dropWhile isIdle).reverse

/-- The path without its last component. -/
def parent? (p : Path) : Option Path :=
  let (anchor, steps) := p.parts
  match dropIdle steps, anchor with
  | [], .here => some ⟨""⟩
  | [], _ => none
  | s :: rest, anchor => some (ofParts anchor (dropIdle (s :: rest).dropLast))

/-- The last component, if it is a name. -/
def fileName? (p : Path) : Option String :=
  match p.components.getLast? with
  | some (.name s) => some s
  | _ => none

/-- The path and its parents, `count` of them at most. -/
def ancestorsUpTo : (count : Nat) → Path → List Path
  | 0, p => [p]
  | count + 1, p =>
    p :: match p.parent? with
      | some q => ancestorsUpTo count q
      | none => []

/-- The path, its parent, and so on to the end. -/
def ancestors (p : Path) : List Path :=
  ancestorsUpTo (p.steps.length + 1) p

/-- The steps after the first `count` that are not idle. -/
def skipSteps : (count : Nat) → List String → List String
  | 0, steps => steps
  | _ + 1, [] => []
  | count + 1, s :: rest => if isIdle s then skipSteps (count + 1) rest else skipSteps count rest

/-- What follows the components of `base`, when the path starts with them. -/
def after? (base p : Path) : Option Path :=
  let (anchor, steps) := p.parts
  if base.components.isPrefixOf p.components then
    match base.components with
    | [] => some (ofParts anchor (dropIdle steps))
    | start =>
      let count := if anchor = .free then start.length else start.length - 1
      some (ofParts .free (dropIdle ((skipSteps count steps).dropWhile isIdle)))
  else none

/-! ## Names -/

/-- A component that is a name is a step that leads down. -/
theorem of_name_mem_components {p : Path} {name : String} (h : .name name ∈ p.components) :
    isIdle name = false ∧ name ≠ ".." ∧ '/' ∉ name.toList := by
  have hbody : Component.name name ∈ (p.parts.2.filter fun s => !isIdle s).map componentOf := by
    unfold components at h
    rcases hparts : p.parts with ⟨anchor, steps⟩
    rw [hparts] at h
    cases anchor with
    | root => simpa using h
    | here => simpa using h
    | free => exact h
  obtain ⟨s, hs, hcomponent⟩ := List.mem_map.1 hbody
  obtain ⟨hmem, hidle⟩ := List.mem_filter.1 hs
  have hsplit : s ∈ p.steps := by
    unfold parts at hmem
    split at hmem
    · exact List.mem_of_mem_drop hmem
    · split at hmem
      · rename_i rest hrest
        rw [hrest]
        exact List.mem_cons_of_mem _ hmem
      · exact hmem
  unfold componentOf at hcomponent
  split at hcomponent
  · exact absurd hcomponent (by simp)
  · rename_i hup
    rw [Component.name.injEq] at hcomponent
    subst hcomponent
    exact ⟨by simpa using hidle, hup, Text.not_mem_of_mem_split hsplit⟩

/-- The last component is a name: it says something, and there is no slash in it. -/
theorem of_fileName? {p : Path} {name : String} (h : p.fileName? = some name) :
    name ≠ "" ∧ '/' ∉ name.toList := by
  have hname : Component.name name ∈ p.components := by
    unfold fileName? at h
    split at h
    · rename_i s hs
      rw [Option.some.injEq] at h
      exact h ▸ List.mem_of_getLast? hs
    · exact absurd h (by simp)
  obtain ⟨hidle, -, hslash⟩ := of_name_mem_components hname
  refine ⟨fun he => ?_, hslash⟩
  rw [he] at hidle
  exact absurd hidle (by decide)

theorem isAbsolute_eq_false {name : String} (h : '/' ∉ name.toList) :
    isAbsolute ⟨name⟩ = false := by
  unfold isAbsolute
  cases hcs : name.toList with
  | nil => rfl
  | cons c cs =>
    rw [hcs] at h
    have hc : c ≠ '/' := fun hc => h (hc ▸ List.mem_cons_self)
    simp [hc]

theorem size_append_lt (s : String) {name : String} (hne : name ≠ "") :
    s.utf8ByteSize < (s ++ name).utf8ByteSize := by
  have hpos : 0 < name.utf8ByteSize :=
    Nat.pos_of_ne_zero fun h => hne (String.utf8ByteSize_eq_zero_iff.1 h)
  rw [String.utf8ByteSize_append]
  omega

/-- What a path that is not absolute puts between two joined paths. -/
def seam (p : Path) : String :=
  if p.text = "" || p.text.toList.getLast? = some '/' then "" else "/"

theorem join_text_of_relative {p q : Path} (h : q.isAbsolute = false) :
    (p.join q).text = p.text ++ p.seam ++ q.text := by
  unfold join seam
  rw [h]
  split
  · rename_i hq
    exact absurd hq (by simp)
  · split
    · rw [String.append_empty]
    · rfl

theorem isAbsolute_joinText (p : Path) {name : String} (h : isAbsolute ⟨name⟩ = false) :
    (p.joinText name).isAbsolute = p.isAbsolute := by
  have htext : (p.joinText name).text = p.text ++ p.seam ++ name := join_text_of_relative h
  unfold isAbsolute at h ⊢
  rw [htext, String.toList_append, String.toList_append]
  cases hp : p.text.toList with
  | nil =>
    have hempty : p.text = "" := by
      rw [← String.toList_eq_nil_iff, hp]
    have hseam : p.seam = "" := by unfold seam; rw [hempty]; rfl
    rw [hseam]
    exact h
  | cons c cs => rfl

/-- A path with a name joined to it is longer, also below another path. -/
theorem size_join_lt (source rel : Path) {name : String} (hne : name ≠ "")
    (hslash : isAbsolute ⟨name⟩ = false) :
    (source.join rel).text.utf8ByteSize < (source.join (rel.joinText name)).text.utf8ByteSize := by
  have hgrow : rel.text.utf8ByteSize < (rel.joinText name).text.utf8ByteSize := by
    rw [show (rel.joinText name).text = _ from join_text_of_relative hslash]
    refine Nat.lt_of_le_of_lt ?_ (size_append_lt _ hne)
    rw [String.utf8ByteSize_append]
    exact Nat.le_add_right _ _
  cases habs : rel.isAbsolute with
  | true =>
    have habs' : (rel.joinText name).isAbsolute = true := by
      rw [isAbsolute_joinText rel hslash, habs]
    unfold join
    rw [if_pos habs, if_pos habs']
    exact hgrow
  | false =>
    have habs' : (rel.joinText name).isAbsolute = false := by
      rw [isAbsolute_joinText rel hslash, habs]
    rw [join_text_of_relative habs, join_text_of_relative habs']
    simp only [String.utf8ByteSize_append]
    exact Nat.add_lt_add_left hgrow _
end Path

end Stencil
