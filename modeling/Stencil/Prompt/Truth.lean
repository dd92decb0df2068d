import Stencil.Unicode.Blank
import Stencil.Value

/-!
# Truth of values

Whether a value means yes. Answers may come as text, so a few words count as yes, in any case and
with blanks around them; a number does unless it is zero, and a list or a map unless it is empty.
-/

set_option autoImplicit false

namespace Stencil

/-- The words that mean yes. -/
def yesWords : List String := ["true", "yes", "y", "1", "on"]

/-- The text means yes. -/
def meansYes (s : String) : Bool :=
  yesWords.contains (String.ofList ((Unicode.trim s.toList).map Char.toLower))

/-- The value means yes. -/
def Value.isTruthy : Value → Bool
  | .null => false
  | .bool b => b
  | .int n => n != 0
  | .float x => !x.isZero
  | .str s => meansYes s
  | .list items => !items.isEmpty
  | .map fields => !fields.isEmpty

end Stencil
