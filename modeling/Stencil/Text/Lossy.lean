import Stencil.Text

/-!
# Bytes as text

The text of bytes that may not be valid UTF-8. Every byte sequence has one: a well-formed
character stands for itself, and a part that cannot be the start of one becomes a replacement
character. Such a part is taken as long as it could still have become a character, so a
character that breaks off counts once.
-/

set_option autoImplicit false

namespace Stencil.Text

/-- The character that stands for bytes without a meaning. -/
def replacement : Char := '\uFFFD'

/-- The ranges of the bytes that follow a first byte; `none` for a byte that is never the first. -/
def following (first : UInt8) : Option (List (UInt8 × UInt8)) :=
  let any : UInt8 × UInt8 := (0x80, 0xBF)
  if first < 0x80 then some []
  else if first < 0xC2 then none
  else if first < 0xE0 then some [any]
  else if first = 0xE0 then some [(0xA0, 0xBF), any]
  else if first = 0xED then some [(0x80, 0x9F), any]
  else if first < 0xF0 then some [any, any]
  else if first = 0xF0 then some [(0x90, 0xBF), any, any]
  else if first < 0xF4 then some [any, any, any]
  else if first = 0xF4 then some [(0x80, 0x8F), any, any]
  else none

/-- The bytes at the front that lie in the ranges one after another. -/
def fitting : List (UInt8 × UInt8) → List UInt8 → List UInt8
  | (low, high) :: ranges, b :: bytes =>
    if low ≤ b && b ≤ high then b :: fitting ranges bytes else []
  | _, _ => []

/-- The character of a first byte and the bytes after it. -/
def composed (first : UInt8) (more : List UInt8) : Char :=
  let lead :=
    match more.length with
    | 0 => first.toNat
    | n => first.toNat % Nat.pow 2 (6 - n)
  Char.ofNat (more.foldl (fun v b => v * 64 + b.toNat % 64) lead)

/-- The characters of bytes. -/
def lossy : List UInt8 → List Char
  | [] => []
  | b :: bytes =>
    match following b with
    | none => replacement :: lossy bytes
    | some ranges =>
      let more := fitting ranges bytes
      (if more.length = ranges.length then composed b more else replacement) ::
        lossy (bytes.drop more.length)
termination_by bytes => bytes.length
decreasing_by
  all_goals simp only [List.length_cons, List.length_drop]; omega

/-- The text of bytes. -/
def decodeLossy (bytes : ByteArray) : String :=
  match String.fromUTF8? bytes with
  | some s => s
  | none => String.ofList (lossy bytes.data.toList)

end Stencil.Text
