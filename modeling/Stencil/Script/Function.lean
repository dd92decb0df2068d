import Stencil.Script.Operation
import Stencil.Unicode.Case

/-!
# The functions that every script has

A function works on its first argument, which it may change in place. Asking for a file is the
only one that looks beyond the data.
-/

set_option autoImplicit false

namespace Stencil.Script

/-- The text of a part of a text. -/
def partText? : Datum → Option String
  | .str s => some s
  | .char c => some (String.ofList [c])
  | _ => none

/-- A character with another case, unless that takes more than one character. -/
def recased (case : Char → List Char) (c : Char) : Char :=
  match case c with
  | [d] => d
  | _ => c

/-- The functions that change their first argument. -/
def mutating : List String := ["push", "remove", "replace"]

/-- What a function leaves of its first argument, and its result. -/
def applyNative (fileExists : String → Bool) (name : String) (self : Datum) (args : List Datum) :
    Option (Datum × Datum) :=
  match name, self, args with
  | "len", .str s, [] => some (self, .int s.length)
  | "len", .list items, [] => some (self, .int items.length)
  | "len", .map fields, [] => some (self, .int fields.length)
  | "to_lower", .str s, [] => some (self, .str (Unicode.lowerText s))
  | "to_lower", .char c, [] => some (self, .char (recased Unicode.lower c))
  | "to_upper", .str s, [] => some (self, .str (Unicode.upperText s))
  | "to_upper", .char c, [] => some (self, .char (recased Unicode.upper c))
  | "contains", _, [d] => (self.contains d).map fun b => (self, .bool b)
  | "file_exists", .str path, [] => some (self, .bool (fileExists path))
  | "push", .list items, [d] => some (.list (items ++ [d]), .unit)
  | "remove", .list items, [.int n] =>
    match Datum.position? n items.length with
    | some i => some (.list (items.eraseIdx i), items.getD i .unit)
    | none => some (self, .unit)
  | "remove", .map fields, [.str key] =>
    some (.map (fields.filter fun f => f.1 != key), Datum.ofField key fields)
  | "remove", .str s, [d] =>
    (partText? d).map fun part => (.str (Datum.without s part), .unit)
  | "replace", .str s, [d, e] =>
    match partText? d, partText? e with
    | some mark, some new => some (.str (if s.isEmpty then s else Datum.replace s mark new), .unit)
    | _, _ => none
  | _, _, _ => none

end Stencil.Script
