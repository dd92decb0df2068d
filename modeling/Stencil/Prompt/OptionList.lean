import Stencil.Text
import Stencil.Text.Pattern
import Stencil.Value

/-!
# Option lists

The one-line form of a set of options, `a > Apple, b > Banana, Cherry`. Each item between commas
is a label, or a key and a label with `>` between them, with any blanks around both; a label
without a key is its own key, and an item without a label is no option.
-/

set_option autoImplicit false

namespace Stencil.OptionList

open Text (Pattern)

/-- The blanks of the ASCII range. -/
def isBlank (c : Char) : Bool :=
  c = ' ' || (9 ≤ c.toNat && c.toNat ≤ 13)

/-- Any number of blanks, as many as there are. -/
def blanks : Pattern :=
  .many true isBlank

/-- The key of an item with the `>` after it. -/
def keyPattern : Pattern :=
  .seq (.part "key" (.many false (· != '>')))
    (.seq blanks (.seq (.one (· == '>')) blanks))

/-- An item: blanks, perhaps a key, a label on one line, and blanks. -/
def itemPattern : Pattern :=
  .seq blanks (.seq (.optional keyPattern) (.seq (.part "label" (.many false (· != '\n'))) blanks))

/-- The key and the label of an item, if it is an option. -/
def entry? (item : List Char) : Option (List Char × List Char) :=
  match itemPattern.whole? item with
  | none => none
  | some parts =>
    let label := (parts.lookup "label").getD []
    if label.isEmpty then none
    else some (((parts.lookup "key").filter fun k => !k.isEmpty).getD label, label)

/-- The options of a list: a repeated key keeps its first place and its last label. -/
def read (list : String) : Fields Value :=
  Fields.ofList <| ((Text.pieces ',' list.toList).filterMap entry?).map fun (key, label) =>
    (String.ofList key, .str (String.ofList label))

end Stencil.OptionList
