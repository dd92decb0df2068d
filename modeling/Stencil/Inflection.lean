import Stencil.Text
import Stencil.Unicode.Case
import Stencil.Unicode.Letter

/-!
# English plurals

The plural and the singular of the last word of a text. Three sources are asked in turn: words
without a plural, words with a form of their own, and the rules by ending. A word that already is
in the form asked for is left alone, as far as its ending tells.

Only the trailing run of letters is inflected, in lower case; its casing is put back afterwards,
as all capitals, a capital first letter, or none.
-/

set_option autoImplicit false

namespace Stencil.Inflection

/-! ## The tables -/

/-- Words that are their own plural. -/
def uncountable : List String := [
  "audio", "data", "deer", "equipment", "feedback", "fish", "hardware", "information", "media",
  "metadata", "money", "news", "police", "rice", "series", "sheep", "software", "species"]

/-- Singular and plural of words that follow no rule. -/
def irregular : List (String × String) := [
  ("analysis", "analyses"), ("bus", "buses"), ("child", "children"), ("criterion", "criteria"),
  ("foot", "feet"), ("goose", "geese"), ("half", "halves"), ("index", "indices"),
  ("knife", "knives"), ("leaf", "leaves"), ("life", "lives"), ("man", "men"),
  ("matrix", "matrices"), ("mouse", "mice"), ("movie", "movies"), ("ox", "oxen"),
  ("person", "people"), ("quiz", "quizzes"), ("status", "statuses"), ("tooth", "teeth"),
  ("vertex", "vertices"), ("wife", "wives"), ("wolf", "wolves"), ("woman", "women")]

/-- The word is one of the uncountable ones. -/
def isUncountable (word : List Char) : Bool :=
  uncountable.any (·.toList == word)

/-- The plural of a word that has one of its own. -/
def irregularPlural? (word : List Char) : Option (List Char) :=
  (irregular.find? (·.1.toList == word)).map (·.2.toList)

/-- The singular of a word that is a plural of its own. -/
def irregularSingular? (word : List Char) : Option (List Char) :=
  (irregular.find? (·.2.toList == word)).map (·.1.toList)

/-! ## Rules by ending -/

/-- The word ends in the given letters. -/
def ends (ending : String) (word : List Char) : Bool :=
  ending.toList.isSuffixOf word

def isVowel (c : Char) : Bool :=
  c = 'a' || c = 'e' || c = 'i' || c = 'o' || c = 'u'

/-- A word that ends like a plural: in `s`, but not in `ss`, `us` or `is`. -/
def looksPlural (word : List Char) : Bool :=
  word.length > 1 && ends "s" word && !ends "ss" word && !ends "us" word && !ends "is" word

/-- The plural of a word that is in no table. -/
def regularPlural (word : List Char) : List Char :=
  if ["s", "x", "z", "ch", "sh"].any (ends · word) then word ++ ['e', 's']
  else
    match Text.before? ['y'] word with
    | some stem =>
      if stem.getLast?.any (fun c => !isVowel c) then stem ++ ['i', 'e', 's'] else word ++ ['s']
    | none => word ++ ['s']

/-- The singular of a word that looks plural and is in no table. -/
def regularSingular (word : List Char) : List Char :=
  match Text.before? ['i', 'e', 's'] word with
  | some (c :: stem) => c :: stem ++ ['y']
  | _ =>
    if ["sses", "shes", "ches", "xes", "zes"].any (ends · word) then word.take (word.length - 2)
    else word.take (word.length - 1)

/-! ## One word -/

/-- The plural of a word in lower case. -/
def pluralWord (word : List Char) : List Char :=
  if isUncountable word then word
  else
    match irregularPlural? word with
    | some plural => plural
    | none =>
      if (irregularSingular? word).isSome || looksPlural word then word else regularPlural word

/-- The singular of a word in lower case. -/
def singularWord (word : List Char) : List Char :=
  if isUncountable word then word
  else
    match irregularSingular? word with
    | some singular => singular
    | none =>
      if (irregularPlural? word).isSome || !looksPlural word then word else regularSingular word

/-! ## The last word of a text -/

/-- The text before its trailing run of letters, and that run. -/
def lastWord (cs : List Char) : List Char × List Char :=
  ((cs.reverse.dropWhile Unicode.isAlphabetic).reverse,
    (cs.reverse.takeWhile Unicode.isAlphabetic).reverse)

/-- Gives an inflected word the casing of the word it came from. A single letter counts as a
capital first letter if one byte holds it, and as all capitals otherwise. -/
def recase (word inflected : List Char) : List Char :=
  if (word.map Char.utf8Size).foldl (· + ·) 0 > 1 && word.all Unicode.isUppercase then
    inflected.flatMap Unicode.upper
  else if word.head?.any Unicode.isUppercase then
    match inflected with
    | [] => []
    | c :: rest => Unicode.upper c ++ rest
  else inflected

/-- Inflects the last word of a text. -/
def inflect (rule : List Char → List Char) (cs : List Char) : List Char :=
  match lastWord cs with
  | (_, []) => cs
  | (front, word) => front ++ recase word (rule (Unicode.lowerAfter [] word))

/-- The text with its last word in the plural. -/
def plural (cs : List Char) : List Char :=
  inflect pluralWord cs

/-- The text with its last word in the singular. -/
def singular (cs : List Char) : List Char :=
  inflect singularWord cs

end Stencil.Inflection
