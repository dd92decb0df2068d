import Stencil.Json.Print
import Stencil.Number.Literal
import Stencil.Text
import Stencil.Value

/-!
# The store

Ordered data addressed with dotted paths, `prefixes.short`. A path is cut at its dots into
segments. In a map a segment is a key; in a list it is an index, so `prompts.0.name` goes through
the first element of a list, and `0`, `00` and `+0` are the same element there.

Reading never fails, it only finds nothing. Writing always succeeds: it makes the maps that are
missing on the way, replaces a scalar that stands where a map is needed, and appends to a list
when the index is the list's length. An index beyond that, or a segment that is no index, does
not fit the list, which then gives way to a map as a scalar would.
-/

set_option autoImplicit false

namespace Stencil

/-! ## Segments -/

/-- The segments of a dotted path. -/
def segments (path : String) : List String :=
  Text.split '.' path

/-- The index that a segment means in a list: digits after an optional plus, below `2^64`. -/
def index? (segment : String) : Option Nat :=
  let digits :=
    match segment.toList with
    | '+' :: rest => rest
    | cs => cs
  if digits.isEmpty || !digits.all Char.isDigit then none
  else if Number.digitsValue digits < Nat.pow 2 64 then some (Number.digitsValue digits)
  else none

/-! ## Values by their segments -/

namespace Value

/-- The child of a value under one segment. -/
def child? (segment : String) : Value → Option Value
  | .map fields => Fields.find? segment fields
  | .list items => (index? segment).bind fun i => items[i]?
  | _ => none

/-- The value at the end of a path. -/
def at? : List String → Value → Option Value
  | [], v => some v
  | s :: rest, v => (v.child? s).bind (at? rest)

/-- The value with `new` at the end of a path. -/
def assign (new : Value) : List String → Value → Value
  | [], _ => new
  | s :: rest, .map fields =>
    .map (Fields.alter s (fun old => assign new rest (old.getD .null)) fields)
  | s :: rest, .list items =>
    match index? s with
    | some i =>
      if i < items.length then .list (items.modify i (assign new rest))
      else if i = items.length then .list (items ++ [assign new rest .null])
      else .map [(s, assign new rest .null)]
    | none => .map [(s, assign new rest .null)]
  | s :: rest, _ => .map [(s, assign new rest .null)]

/-- The child of a value under one segment, and the value without it; `none` when there is no such
child. -/
def take? (segment : String) : Value → Option (Value × Value)
  | .map fields =>
    (Fields.find? segment fields).map fun v => (v, .map (Fields.drop segment fields))
  | .list items =>
    (index? segment).bind fun i => items[i]?.map fun v => (v, .list (items.eraseIdx i))
  | _ => none

/-- What stands at the end of a path, and the value without it; `none` when nothing stands there. -/
def takeAt? : List String → Value → Option (Value × Value)
  | [], _ => none
  | [s], v => v.take? s
  | s :: t :: rest, .map fields =>
    match Fields.find? s fields with
    | some v => (takeAt? (t :: rest) v).map fun (taken, w) => (taken, .map (Fields.put s w fields))
    | none => none
  | s :: t :: rest, .list items =>
    match index? s with
    | some i =>
      match items[i]? with
      | some v => (takeAt? (t :: rest) v).map fun (taken, w) => (taken, .list (items.set i w))
      | none => none
    | none => none
  | _ :: _ :: _, _ => none

end Value

/-! ## The store -/

/-- Ordered key-value data. -/
structure Store where
  fields : Fields Value

namespace Store

/-- The store without entries. -/
def empty : Store := ⟨[]⟩

instance : Inhabited Store := ⟨empty⟩

/-- The store as a map value. -/
def toValue (s : Store) : Value :=
  .map s.fields

/-- The value at a path. -/
def get? (s : Store) (path : String) : Option Value :=
  s.toValue.at? (segments path)

/-- The string at a path. -/
def getStr? (s : Store) (path : String) : Option String :=
  (s.get? path).bind Value.asStr?

/-- Something stands at a path; a null counts. -/
def has (s : Store) (path : String) : Bool :=
  (s.get? path).isSome

/-- The entries of a map value, and none of any other. -/
def ofValue : Value → Store
  | .map fields => ⟨fields⟩
  | _ => empty

/-- Writes a value at a path. -/
def set (s : Store) (path : String) (value : Value) : Store :=
  ofValue (Value.assign value (segments path) s.toValue)

/-- Removes what stands at a path, and gives it. -/
def take (s : Store) (path : String) : Option Value × Store :=
  match s.toValue.takeAt? (segments path) with
  | some (taken, v) => (some taken, ofValue v)
  | none => (none, s)

/-- Removes what stands at a path. -/
def forget (s : Store) (path : String) : Store :=
  (s.take path).2

/-- Writes entries one after another, each at the path that its key spells. -/
def putAll (s : Store) (entries : Fields Value) : Store :=
  entries.foldl (fun s entry => s.set entry.1 entry.2) s

/-- Writes every entry of another store. -/
def merge (s other : Store) : Store :=
  s.putAll other.fields

/-- Takes over the entries of a map: keys that stay keep their place, new ones follow in the
order of the map. Keys are taken as they are, dots included. -/
def replaceOrdered (s : Store) (entries : Fields Value) : Store :=
  let staying := s.fields.filterMap fun (key, _) => (Fields.find? key entries).map fun v => (key, v)
  ⟨staying ++ entries.filter fun (key, _) => !Fields.holds key s.fields⟩

/-- The keys at the top, in order. -/
def keys (s : Store) : List String :=
  Fields.keys s.fields

/-- The compact JSON text of the store. -/
def json (s : Store) : String :=
  s.toValue.json

end Store

end Stencil
