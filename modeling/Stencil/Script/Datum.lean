import Stencil.Number.Shortest
import Stencil.Unicode.Printable
import Stencil.Value

/-!
# The data of scripts

What a script computes with. Data of a session becomes data of a script and comes back as it was,
except that a script keeps the entries of a map by key. A script also has data of its own:
characters, which come back as texts, and ranges, which do not come back at all. Integers have 64
bits with a sign; the larger ones that a session can hold are floats here.
-/

set_option autoImplicit false

namespace Stencil.Script

/-- A datum of a script. -/
inductive Datum where
  | unit
  | bool (b : Bool)
  | int (n : Int)
  | float (x : Double)
  | char (c : Char)
  | str (s : String)
  | list (items : List Datum)
  /-- Entries in the order of their keys. -/
  | map (fields : List (String × Datum))
  /-- The integers from the first to the last, the last itself only if the range is closed. -/
  | range (first last : Int) (closed : Bool)

instance : Inhabited Datum := ⟨.unit⟩

namespace Datum

/-! ## From and to values -/

/-- The largest integer of a script. -/
def maxInt : Int := Nat.pow 2 63 - 1

/-- The smallest integer of a script. -/
def minInt : Int := -Nat.pow 2 63

mutual

/-- The datum of a value whose maps are in the order of their keys. -/
def ofValue : Value → Datum
  | .null => .unit
  | .bool b => .bool b
  | .int n => if n ≤ maxInt then .int n else .float (.ofFloat (Float.ofInt n))
  | .float x => .float x
  | .str s => .str s
  | .list items => .list (ofItems items)
  | .map fields => .map (ofFields fields)

/-- `ofValue` on every item. -/
def ofItems : List Value → List Datum
  | [] => []
  | v :: rest => ofValue v :: ofItems rest

/-- `ofValue` on the value of every field. -/
def ofFields : List (String × Value) → List (String × Datum)
  | [] => []
  | (key, v) :: rest => (key, ofValue v) :: ofFields rest

end

mutual

/-- The value of a datum. A range has none; a float that is no number becomes null. -/
def toValue? : Datum → Option Value
  | .unit => some .null
  | .bool b => some (.bool b)
  | .int n => some (.int n)
  | .float x => some (if x.isFinite then .float x else .null)
  | .char c => some (.str (String.ofList [c]))
  | .str s => some (.str s)
  | .list items => (toItems? items).map .list
  | .map fields => (toFields? fields).map .map
  | .range _ _ _ => none

/-- `toValue?` on every item. -/
def toItems? : List Datum → Option (List Value)
  | [] => some []
  | d :: rest =>
    match toValue? d, toItems? rest with
    | some v, some vs => some (v :: vs)
    | _, _ => none

/-- `toValue?` on the datum of every field. -/
def toFields? : List (String × Datum) → Option (List (String × Value))
  | [] => some []
  | (key, d) :: rest =>
    match toValue? d, toFields? rest with
    | some v, some vs => some ((key, v) :: vs)
    | _, _ => none

end

/-! ## Maps -/

/-- Gives a key a datum, in the place that the order of the keys wants. -/
def insert (key : String) (d : Datum) : List (String × Datum) → List (String × Datum)
  | [] => [(key, d)]
  | (k, e) :: rest =>
    if k = key then (key, d) :: rest
    else if key < k then (key, d) :: (k, e) :: rest
    else (k, e) :: insert key d rest

/-! ## Text -/

/-- How a float is written with an exponent. -/
def exponentLayout : Number.Layout := ⟨1, 0, "", ""⟩

/-- How a float is written without an exponent. -/
def positionalLayout : Number.Layout := ⟨-400, 400, ".0", ""⟩

/-- How a float is written inside a list or a map. -/
def innerLayout : Number.Layout := ⟨-4, 15, ".0", ""⟩

/-- The largest float that is written without an exponent where it stands alone: the one next to
`1e13` among those of single precision. -/
def largestPlain : Float := 9999999827968.0

/-- The smallest float that is written without an exponent where it stands alone: the one next to
`1e-13` among those of single precision. -/
def smallestPlain : Float := (14757395.0 : Float).scaleB (-67)

/-- The text of a float in a layout. -/
def floatIn (layout : Number.Layout) (x : Double) : String :=
  if x.isFinite then String.ofList (layout.double x)
  else if x.fractionField != 0 then "NaN"
  else if x.isNegative then "-inf"
  else "inf"

/-- The text of a float that stands alone. A zero has no sign then. -/
def floatText (x : Double) : String :=
  let size := x.toFloat.abs
  if x.isZero then "0.0"
  else if size > largestPlain || size < smallestPlain then floatIn exponentLayout x
  else floatIn positionalLayout x

mutual

/-- The text of a datum inside a list or a map. -/
def inner : Datum → String
  | .unit => "()"
  | .str s => Unicode.quoted s
  | .char c => String.ofList [c]
  | .bool b => if b then "true" else "false"
  | .int n => toString n
  | .float x => floatIn innerLayout x
  | .list items => "[" ++ ", ".intercalate (innerItems items) ++ "]"
  | .map fields => "#\x7b" ++ ", ".intercalate (innerFields fields) ++ "\x7d"
  | .range first last closed => toString first ++ (if closed then "..=" else "..") ++ toString last

/-- The texts of items. -/
def innerItems : List Datum → List String
  | [] => []
  | d :: rest => inner d :: innerItems rest

/-- The texts of fields. -/
def innerFields : List (String × Datum) → List String
  | [] => []
  | (key, d) :: rest => (Unicode.quoted key ++ ": " ++ inner d) :: innerFields rest

end

/-- The text of a datum that is put together with other text. -/
def text : Datum → String
  | .unit => ""
  | .str s => s
  | .float x => floatText x
  | d => inner d

/-! ## Comparison -/

mutual

/-- Two data pass for the same. Integers and floats are compared as numbers, a character passes for
the text of it alone, and otherwise data of different kinds differ. -/
def agrees : Datum → Datum → Bool
  | .unit, .unit => true
  | .bool a, .bool b => a == b
  | .int a, .int b => a == b
  | .float a, .float b => a.agrees b
  | .int a, .float b => Float.ofInt a == b.toFloat
  | .float a, .int b => a.toFloat == Float.ofInt b
  | .char a, .char b => a == b
  | .str a, .str b => a == b
  | .char a, .str b => String.ofList [a] == b
  | .str a, .char b => a == String.ofList [b]
  | .list as, .list bs => agreeItems as bs
  | .map as, .map bs => agreeFields as bs
  | .range a b c, .range a' b' c' => a == a' && b == b' && c == c'
  | _, _ => false

/-- Two lists agree item by item. -/
def agreeItems : List Datum → List Datum → Bool
  | [], [] => true
  | a :: as, b :: bs => agrees a b && agreeItems as bs
  | _, _ => false

/-- Two rows of fields agree field by field. -/
def agreeFields : List (String × Datum) → List (String × Datum) → Bool
  | [], [] => true
  | (k, a) :: as, (l, b) :: bs => k == l && agrees a b && agreeFields as bs
  | _, _ => false

end

end Datum

end Stencil.Script
