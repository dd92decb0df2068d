import Stencil.Number.Remainder
import Stencil.Script.Program
import Stencil.Text

/-!
# Operations on data

What the operators of a script make of two data, and how a part of a datum is read and changed.

Integers do not wrap: an operation whose result needs more than 64 bits fails, and so does a
division by zero. Two numbers of different kinds are both taken for floats. Text takes up anything
that is added to it.
-/

set_option autoImplicit false

namespace Stencil.Script

namespace Datum

/-! ## Arithmetic -/

/-- An integer, unless it is out of range. -/
def checked (n : Int) : Option Datum :=
  if minInt ≤ n && n ≤ maxInt then some (.int n) else none

/-- The largest number of octets of a text. -/
def maxText : Nat := 10 * 1024 * 1024

/-- A text, unless it is too long. -/
def checkedText (s : String) : Option Datum :=
  if s.utf8ByteSize ≤ maxText then some (.str s) else none

/-- Arithmetic on numbers, given on integers and on floats. -/
def arithmetic (onInts : Int → Int → Option Datum) (onFloats : Double → Double → Double) :
    Datum → Datum → Option Datum
  | .int a, .int b => onInts a b
  | .int a, .float b => some (.float (onFloats (.ofFloat (Float.ofInt a)) b))
  | .float a, .int b => some (.float (onFloats a (.ofFloat (Float.ofInt b))))
  | .float a, .float b => some (.float (onFloats a b))
  | _, _ => none

/-- An operation on machine floats as one on doubles. -/
def onFloats (op : Float → Float → Float) (a b : Double) : Double :=
  .ofFloat (op a.toFloat b.toFloat)

/-- The second fields over the first. -/
def merge (old : List (String × Datum)) (new : List (String × Datum)) : List (String × Datum) :=
  new.foldl (fun fields f => insert f.1 f.2 fields) old

/-- The sum of two data. -/
def add : Datum → Datum → Option Datum
  | .str a, .str b => checkedText (a ++ b)
  | .str a, b => checkedText (a ++ b.text)
  | a, .str b => checkedText (a.text ++ b)
  | .char a, .char b => some (.str (String.ofList [a, b]))
  | .list as, .list bs => some (.list (as ++ bs))
  | .map as, .map bs => some (.map (merge as bs))
  | a, b => arithmetic (fun a b => checked (a + b)) (onFloats (· + ·)) a b

/-- A text with every occurrence of a mark replaced. -/
def replaced (fuel : Nat) (mark new : List Char) (cs : List Char) : List Char :=
  match fuel with
  | 0 => cs
  | fuel + 1 =>
    match Text.breakOn mark cs with
    | some (before, after) => before ++ new ++ replaced fuel mark new after
    | none => cs

/-- The text of `s` with `new` for every occurrence of `mark`. An empty mark stands before every
character and at the end. -/
def replace (s mark new : String) : String :=
  let cs := s.toList
  if mark.isEmpty then
    String.ofList (new.toList ++ cs.flatMap fun c => c :: new.toList)
  else String.ofList (replaced (cs.length + 1) mark.toList new.toList cs)

/-- The text of `s` without any occurrence of `mark`. -/
def without (s mark : String) : String :=
  if mark.isEmpty then s else replace s mark ""

/-- The difference of two data. A text loses every occurrence of the other. -/
def sub : Datum → Datum → Option Datum
  | .str a, .str b => some (.str (without a b))
  | .str a, .char b => some (.str (without a (String.ofList [b])))
  | a, b => arithmetic (fun a b => checked (a - b)) (onFloats (· - ·)) a b

/-- The product of two data. -/
def mul (a b : Datum) : Option Datum :=
  arithmetic (fun a b => checked (a * b)) (onFloats (· * ·)) a b

/-- The quotient of two data; that of integers is cut off towards zero. -/
def div (a b : Datum) : Option Datum :=
  arithmetic (fun a b => if b = 0 then none else checked (a.tdiv b)) (onFloats (· / ·)) a b

/-- The remainder of two data; it has the sign of the first. -/
def rem (a b : Datum) : Option Datum :=
  arithmetic
    (fun a b => if b = 0 || (a == minInt && b == -1) then none else checked (a.tmod b))
    Number.remainder a b

/-- The datum with the other sign. -/
def negative : Datum → Option Datum
  | .int n => checked (-n)
  | .float x => some (.float (.ofFloat (-x.toFloat)))
  | _ => none

/-! ## Comparison -/

/-- A truth value as a number. -/
def rank (b : Bool) : Int :=
  if b then 1 else 0

/-- A comparison that is given on integers, on floats and on texts. Data of different kinds never
compare, nor does nothing with itself; data of one kind that has no order must not be compared. -/
def compared (ints : Int → Int → Bool) (floats : Float → Float → Bool)
    (texts : String → String → Bool) : Datum → Datum → Option Bool
  | .int a, .int b => some (ints a b)
  | .int a, .float b => some (floats (Float.ofInt a) b.toFloat)
  | .float a, .int b => some (floats a.toFloat (Float.ofInt b))
  | .float a, .float b => some (floats a.toFloat b.toFloat)
  | .str a, .str b => some (texts a b)
  | .char a, .char b => some (texts (String.ofList [a]) (String.ofList [b]))
  | .char a, .str b => some (texts (String.ofList [a]) b)
  | .str a, .char b => some (texts a (String.ofList [b]))
  | .bool a, .bool b => some (ints (rank a) (rank b))
  | .list _, .list _ => none
  | .map _, .map _ => none
  | .range _ _ _, .range _ _ _ => none
  | _, _ => some false

/-- The datum holds another one: an item, a part of a text, a key, or an integer of a range. -/
def contains : Datum → Datum → Option Bool
  | .list items, d => some (items.any fun e => agrees e d)
  | .str s, .str part => some (Text.has s part)
  | .str s, .char c => some (s.toList.contains c)
  | .map fields, .str key => some (fields.any fun f => f.1 == key)
  | .range first last closed, .int n =>
    some (first ≤ n && if closed then n ≤ last else n < last)
  | _, _ => none

/-- The integers from one to another. -/
def rangeOf (closed : Bool) : Datum → Datum → Option Datum
  | .int a, .int b => some (.range a b closed)
  | _, _ => none

/-! ## Parts -/

/-- What leads to a part of a datum: a key of a map, or a place in a list or a text, or among the
bits of an integer. -/
inductive Key where
  | field (name : String)
  | at (place : Int)

/-- The key that an index stands for. -/
def toKey? : Datum → Option Key
  | .str name => some (.field name)
  | .int n => some (.at n)
  | _ => none

/-- A place among `count` items. A negative one counts from the end. -/
def position? (place : Int) (count : Nat) : Option Nat :=
  let i := if place < 0 then place + count else place
  if 0 ≤ i && i < count then some i.toNat else none

/-- The datum of a key, which is nothing for a key that is not there. -/
def ofField (name : String) (fields : List (String × Datum)) : Datum :=
  (fields.lookup name).getD .unit

/-- The number of bits of an integer. -/
def bits : Nat := 64

/-- A bit of an integer. -/
def bit (n : Int) (i : Nat) : Bool :=
  (n.emod (Nat.pow 2 bits)).toNat.testBit i

/-- An integer with one bit given. -/
def withBit (n : Int) (i : Nat) (b : Bool) : Int :=
  (n + (rank b - rank (bit n i)) * Nat.pow 2 i).bmod (Nat.pow 2 bits)

/-- The part that a key leads to. -/
def part? : Key → Datum → Option Datum
  | .field name, .map fields => some (ofField name fields)
  | .at n, .list items => (position? n items.length).bind fun i => items[i]?
  | .at n, .str s => ((position? n s.length).bind fun i => s.toList[i]?).map .char
  | .at n, .int m => (position? n bits).map fun i => .bool (bit m i)
  | _, _ => none

/-- The property of a datum: the entry of a map, or a length. -/
def property? (name : String) : Datum → Option Datum
  | .map fields => some (ofField name fields)
  | .list items => if name = "len" then some (.int items.length) else none
  | .str s => if name = "len" then some (.int s.length) else none
  | _ => none

variable {β : Type}

/-- Changes the part that a row of keys leads to, with a result. A key that is not there is made
by the change, but only as the last one. -/
def changeAt (f : Datum → Option (Datum × β)) : List Key → Datum → Option (Datum × β)
  | [], d => f d
  | .field name :: keys, .map fields =>
    (changeAt f keys (ofField name fields)).map fun r => (.map (insert name r.1 fields), r.2)
  | .at n :: keys, .list items =>
    match position? n items.length with
    | some i =>
      (changeAt f keys (items.getD i .unit)).map fun r => (.list (items.set i r.1), r.2)
    | none => none
  | [.at n], .str s =>
    match position? n s.length with
    | some i =>
      match f (.char (s.toList.getD i ' ')) with
      | some (.char c, b) => some (.str (String.ofList (s.toList.set i c)), b)
      | _ => none
    | none => none
  | [.at n], .int m =>
    match position? n bits with
    | some i =>
      match f (.bool (bit m i)) with
      | some (.bool b, c) => some (.int (withBit m i b), c)
      | _ => none
    | none => none
  | _, _ => none

/-- The datum of a sum that is assigned: a list takes up a datum as an item. -/
def addedTo : Datum → Datum → Option Datum
  | .list as, .list bs => some (.list (as ++ bs))
  | .list as, b => some (.list (as ++ [b]))
  | a, b => add a b

/-! ## Repetition -/

/-- What a loop goes over: a range or a list, or the characters of a text. -/
def toSequence? : Datum → Option Datum
  | .str s => some (.list (s.toList.map .char))
  | .list items => some (.list items)
  | .range first last closed => some (.range first last closed)
  | _ => none

/-- The first of a sequence, and the others. -/
def uncons? : Datum → Option (Datum × Datum)
  | .list (d :: rest) => some (d, .list rest)
  | .range first last closed =>
    if first < last || (closed && first == last) then
      some (.int first, .range (first + 1) last closed)
    else none
  | _ => none

end Datum

/-- What an operator makes of two data. -/
def Operator.apply : Operator → Datum → Datum → Option Datum
  | .add, a, b => a.add b
  | .sub, a, b => a.sub b
  | .mul, a, b => a.mul b
  | .div, a, b => a.div b
  | .rem, a, b => a.rem b
  | .eq, a, b => some (.bool (a.agrees b))
  | .ne, a, b => some (.bool !(a.agrees b))
  | .lt, a, b => (a.compared (· < ·) (· < ·) (· < ·) b).map .bool
  | .le, a, b => (a.compared (· ≤ ·) (· ≤ ·) (· ≤ ·) b).map .bool
  | .gt, a, b => (a.compared (· > ·) (· > ·) (· > ·) b).map .bool
  | .ge, a, b => (a.compared (· ≥ ·) (· ≥ ·) (· ≥ ·) b).map .bool
  | .upTo, a, b => Datum.rangeOf false a b
  | .through, a, b => Datum.rangeOf true a b

/-- An operator that works on two data by itself; otherwise what it makes of them is the work of a
function. -/
def Operator.isInherent : Operator → Datum → Datum → Bool
  | _, .list _, .list _ => false
  | _, .map _, .map _ => false
  | .eq, .range _ _ _, .range _ _ _ => true
  | .ne, .range _ _ _, .range _ _ _ => true
  | _, .range _ _ _, .range _ _ _ => false
  | .add, .str _, b =>
    match b with
    | .str _ | .char _ | .unit => true
    | _ => false
  | .add, a, .str _ =>
    match a with
    | .char _ | .unit => true
    | _ => false
  | _, _, _ => true

/-- What an assignment makes of the old datum and the given one. -/
def assigned (op : Option Operator) (old given : Datum) : Option Datum :=
  match op with
  | none => some given
  | some .add => old.addedTo given
  | some op => op.apply old given

end Stencil.Script
