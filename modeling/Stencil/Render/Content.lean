import Stencil.Render.Basic

/-!
# Rendering file contents

The content of a file is rendered when it is text. It is taken for binary when a look at its front
says so: without a byte order mark, a zero byte or the first bytes of a well-known binary format
give it away. Content that looks like text but is not valid UTF-8 is not rendered either.
-/

set_option autoImplicit false

namespace Stencil.Render

/-- The byte order marks of the Unicode encodings. -/
def byteOrderMarks : List (List UInt8) := [
  [0xEF, 0xBB, 0xBF], [0x00, 0x00, 0xFE, 0xFF], [0xFF, 0xFE, 0x00, 0x00], [0xFE, 0xFF], [0xFF, 0xFE]]

/-- The first bytes of binary formats: `%PDF`, and `PNG` after a byte of its own. -/
def binarySignatures : List (List UInt8) := [[0x25, 0x50, 0x44, 0x46], [0x89, 0x50, 0x4E, 0x47]]

/-- How many bytes are searched for a zero. -/
def zeroWindow : Nat := 1024

/-- The content is not text. -/
def isBinary (content : ByteArray) : Bool :=
  let bytes := content.data.toList
  !byteOrderMarks.any (·.isPrefixOf bytes) &&
    ((bytes.take zeroWindow).contains 0 || binarySignatures.any (·.isPrefixOf bytes))

/-- Renders the content of a file, or gives it back as it is. -/
def content (c : Context) (bytes : ByteArray) : Except Fault ByteArray :=
  if isBinary bytes then .ok bytes
  else
    match String.fromUTF8? bytes with
    | none => .ok bytes
    | some s => (text c s).map String.toUTF8

end Stencil.Render
