import Critique.Text.Word

/-!
# Searching a text

The patterns by which keywords and signs are found.  All of them look at the text that starts at a
position, so each is a function of the rest of the text, and the search runs over all rests.

* `anySuffix` asks whether some rest of the text has a property.
* `contains` asks whether one text occurs in another.
* `countDelimited` counts the places where a word stands alone, with no word character directly
  before or after it.
* `countSign` counts the places where a sign occurs, wherever it stands.
-/

namespace Critique.Text

/-- Does some rest of the text, the text itself and the empty rest included, have the property? -/
def anySuffix (p : List Char → Bool) : List Char → Bool
  | [] => p []
  | c :: cs => p (c :: cs) || anySuffix p cs

/-- Does the text start with the pattern? -/
def startsWith (pattern text : List Char) : Bool :=
  pattern.isPrefixOf text

/-- Does the pattern occur in the text? -/
def contains (pattern text : List Char) : Bool :=
  anySuffix (startsWith pattern) text

/-- Is the first character of the text, if there is one, a word character? -/
def wordAhead : List Char → Bool
  | [] => false
  | c :: _ => isWord c

/-- Does the text start with the word, and does the word end there? -/
def startsWithWord (word text : List Char) : Bool :=
  startsWith word text && !wordAhead (text.drop word.length)

/-- The number of places in `text` where `word` stands alone.  `inWord` says whether the character
before the text is a word character. -/
def countDelimitedFrom (word : List Char) (inWord : Bool) : List Char → Nat
  | [] => 0
  | c :: cs =>
    (if !inWord && startsWithWord word (c :: cs) then 1 else 0) +
      countDelimitedFrom word (isWord c) cs

/-- The number of places in a text where a word stands alone. -/
def countDelimited (word text : List Char) : Nat :=
  countDelimitedFrom word false text

/-- The number of places in a text where a sign occurs. -/
def countSign (sign : List Char) : List Char → Nat
  | [] => 0
  | c :: cs => (if startsWith sign (c :: cs) then 1 else 0) + countSign sign cs

end Critique.Text
