import Stencil.Unicode.Span
import Stencil.Text

/-!
# White space

The characters that trimming removes from both ends of a text: blanks, line ends and the other
white space of every script. Narrower sets (the four characters between JSON tokens, the blanks
of a command line) are defined where they are used.
-/

set_option autoImplicit false

namespace Stencil.Unicode

/-- White space from 128 on. -/
def blankSpans : List Span := [
    ⟨0x85, 0x85, 1⟩, ⟨0xA0, 0xA0, 1⟩, ⟨0x1680, 0x1680, 1⟩, ⟨0x2000, 0x200A, 1⟩, ⟨0x2028, 0x2029, 1⟩,
    ⟨0x202F, 0x202F, 1⟩, ⟨0x205F, 0x205F, 1⟩, ⟨0x3000, 0x3000, 1⟩]

/-- White space of any script. -/
def isBlank (c : Char) : Bool :=
  if c.toNat < 128 then (9 ≤ c.toNat && c.toNat ≤ 13) || c = ' ' else covered blankSpans c.toNat

/-- A text without the white space at its two ends. -/
def trim (cs : List Char) : List Char :=
  Text.trim isBlank cs

/-- `trim` on strings. -/
def trimText (s : String) : String :=
  String.ofList (trim s.toList)

end Stencil.Unicode
