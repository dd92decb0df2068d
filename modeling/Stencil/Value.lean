import Stencil.Number.Double

/-!
# Values

The dynamic values that answers, configuration files and template data are made of. A map keeps
its entries in the order in which their keys first came, so it is a list of pairs; the operations
of `Fields` keep keys distinct, and `Fields.Distinct` says so where a law needs it.

Two equalities live side by side. `=` is identity, order of entries included. `Value.agrees` is
what the program means by "the same value": entries in any order, and the two zeros of a double
alike. An integer and a double never agree.
-/

set_option autoImplicit false

namespace Stencil

/-! ## Ordered fields -/

/-- Entries with string keys, in order. -/
abbrev Fields (α : Type) := List (String × α)

namespace Fields

variable {α : Type}

/-- The value of a key. -/
@[simp]
def find? (key : String) : Fields α → Option α
  | [] => none
  | (k, v) :: rest => if k = key then some v else find? key rest

/-- Changes the value of a key in its place, or appends the key with the value `f none`. -/
@[simp]
def alter (key : String) (f : Option α → α) : Fields α → Fields α
  | [] => [(key, f none)]
  | (k, v) :: rest => if k = key then (k, f (some v)) :: rest else (k, v) :: alter key f rest

/-- Gives a key a value: in its place if the key is there, at the end if not. -/
def put (key : String) (value : α) (fields : Fields α) : Fields α :=
  alter key (fun _ => value) fields

/-- The entries without those of a key. -/
def drop (key : String) (fields : Fields α) : Fields α :=
  fields.filter fun entry => entry.1 != key

/-- The keys in order. -/
def keys (fields : Fields α) : List String :=
  fields.map Prod.fst

/-- The key is there. -/
def holds (key : String) (fields : Fields α) : Bool :=
  (find? key fields).isSome

/-- Entries given one after another: a repeated key keeps its first place and its last value. -/
def ofList (entries : List (String × α)) : Fields α :=
  entries.foldl (fun fields entry => put entry.1 entry.2 fields) []

/-- No key comes twice. -/
def Distinct (fields : Fields α) : Prop :=
  (keys fields).Nodup

instance (fields : Fields α) : Decidable (Distinct fields) :=
  inferInstanceAs (Decidable (keys fields).Nodup)

theorem find?_alter_same (key : String) (f : Option α → α) (fields : Fields α) :
    find? key (alter key f fields) = some (f (find? key fields)) := by
  induction fields with
  | nil => simp
  | cons e rest ih =>
    obtain ⟨k, v⟩ := e
    by_cases hk : k = key
    · simp [hk]
    · simp only [alter, find?, hk, if_false]
      exact ih

theorem find?_alter_other {key other : String} (h : key ≠ other) (f : Option α → α)
    (fields : Fields α) : find? other (alter key f fields) = find? other fields := by
  induction fields with
  | nil => simp [h]
  | cons e rest ih =>
    obtain ⟨k, v⟩ := e
    by_cases hk : k = key
    · subst hk
      simp [h]
    · by_cases hko : k = other
      · simp [hko, Ne.symm h]
      · simp only [alter, find?, hk, hko, if_false]
        exact ih

/-- Changing a value into itself changes nothing. -/
theorem alter_eq_self {key : String} {v : α} {f : Option α → α} {fields : Fields α}
    (h : find? key fields = some v) (hf : f (some v) = v) : alter key f fields = fields := by
  induction fields with
  | nil => exact absurd h (by simp)
  | cons e rest ih =>
    obtain ⟨k, w⟩ := e
    by_cases hk : k = key
    · simp only [find?, hk, if_true, Option.some.injEq] at h
      subst h
      simp [hk, hf]
    · simp only [find?, hk, if_false] at h
      simp only [alter, hk, if_false]
      rw [ih h]

/-- Of two changes of one key, the second starts from what the first left. -/
theorem alter_alter (key : String) (f g : Option α → α) (fields : Fields α) :
    alter key g (alter key f fields) = alter key (fun old => g (some (f old))) fields := by
  induction fields with
  | nil => simp
  | cons e rest ih =>
    obtain ⟨k, v⟩ := e
    by_cases hk : k = key
    · simp [hk]
    · simp only [alter, hk, if_false]
      rw [ih]

/-- A change keeps the keys in their order; a key that is new comes last. -/
theorem keys_alter (key : String) (f : Option α → α) (fields : Fields α) :
    keys (alter key f fields) =
      if key ∈ keys fields then keys fields else keys fields ++ [key] := by
  induction fields with
  | nil => simp [keys]
  | cons e rest ih =>
    obtain ⟨k, v⟩ := e
    by_cases hk : k = key
    · simp [keys, hk]
    · have hkey : keys ((k, v) :: rest) = k :: keys rest := rfl
      have halter : keys (alter key f ((k, v) :: rest)) = k :: keys (alter key f rest) := by
        simp [hk, keys]
      rw [halter, ih, hkey]
      by_cases hm : key ∈ keys rest <;> simp [hm, Ne.symm hk]

/-- A dropped key is gone. -/
theorem find?_drop_same (key : String) (fields : Fields α) : find? key (drop key fields) = none := by
  induction fields with
  | nil => rfl
  | cons e rest ih =>
    obtain ⟨k, v⟩ := e
    by_cases hk : k = key
    · simpa [drop, hk] using ih
    · simpa [drop, hk] using ih

theorem find?_put_same (key : String) (value : α) (fields : Fields α) :
    find? key (put key value fields) = some value :=
  find?_alter_same key _ fields

theorem find?_put_other {key other : String} (h : key ≠ other) (value : α) (fields : Fields α) :
    find? other (put key value fields) = find? other fields :=
  find?_alter_other h _ fields

end Fields

/-! ## Values -/

/-- A value: the seven kinds of JSON, numbers being integers or doubles. -/
inductive Value where
  | null
  | bool (b : Bool)
  | int (n : Int)
  | float (x : Double)
  | str (s : String)
  | list (items : List Value)
  | map (fields : List (String × Value))

namespace Value

/-- Neither a list nor a map. -/
def isScalar : Value → Bool
  | .list _ => false
  | .map _ => false
  | _ => true

/-- The text of a string value. -/
def asStr? : Value → Option String
  | .str s => some s
  | _ => none

/-- The value of a key, for a map that has it. -/
def field? (key : String) : Value → Option Value
  | .map fields => Fields.find? key fields
  | _ => none

mutual

/-- The same value, whatever the order of entries. -/
def agrees : Value → Value → Bool
  | .null, .null => true
  | .bool a, .bool b => a == b
  | .int a, .int b => a == b
  | .float a, .float b => a.agrees b
  | .str a, .str b => a == b
  | .list a, .list b => agreesList a b
  | .map a, .map b => a.length == b.length && agreesFields a b
  | _, _ => false

/-- Lists that agree element by element. -/
def agreesList : List Value → List Value → Bool
  | [], [] => true
  | a :: as, b :: bs => agrees a b && agreesList as bs
  | _, _ => false

/-- Every entry of the first list has its key in the second, with a value that agrees. -/
def agreesFields : List (String × Value) → List (String × Value) → Bool
  | [], _ => true
  | (k, v) :: rest, other =>
    (match Fields.find? k other with
      | some w => agrees v w
      | none => false) && agreesFields rest other

end

/-- The number of levels of lists and maps in a value. -/
def depth : Value → Nat
  | .list items => depthList items + 1
  | .map fields => depthFields fields + 1
  | _ => 0
where
  depthList : List Value → Nat
    | [] => 0
    | v :: rest => max (depth v) (depthList rest)
  depthFields : List (String × Value) → Nat
    | [] => 0
    | (_, v) :: rest => max (depth v) (depthFields rest)

end Value

end Stencil
