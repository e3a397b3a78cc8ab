import Critique.Text.Range

/-!
# White space

`isBlank` is the class of white-space characters of any script, line breaks included.  `trim`
takes blanks off both ends of a text, and `isAllBlank` says that nothing else is in it.
-/

namespace Critique.Text

/-- The white-space characters, as ascending intervals of code points. -/
def blankRanges : List (Nat × Nat) := [
  (0x9, 0xD), (0x20, 0x20), (0x85, 0x85), (0xA0, 0xA0), (0x1680, 0x1680), (0x2000, 0x200A),
  (0x2028, 0x2029), (0x202F, 0x202F), (0x205F, 0x205F), (0x3000, 0x3000)]

/-- Is the character white space? -/
def isBlank (c : Char) : Bool :=
  covers blankRanges c

/-- A list of characters without the blanks at its two ends. -/
def trimChars (cs : List Char) : List Char :=
  ((cs.dropWhile isBlank).reverse.dropWhile isBlank).reverse

/-- A text without the blanks at its two ends. -/
def trim (s : String) : String :=
  String.ofList (trimChars s.toList)

/-- Is there nothing but white space in the text? -/
def isAllBlank (s : String) : Bool :=
  s.toList.all isBlank

end Critique.Text
