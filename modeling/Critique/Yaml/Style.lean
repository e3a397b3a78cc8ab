import Critique.Yaml.Scalar

/-!
# The style of a written scalar

A writer of YAML has to choose how a text is written.  It wants the plain form for a text that the
plain form means, single quotes for any other text on one line, and a literal block for a text with
line feeds.  `Style.ofText` gives the wanted style where the text can be written in it, and
otherwise the next one that can hold the text; double quotes hold every text.
-/

namespace Critique.Yaml

/-- May the character be written as it is? -/
def isPrintable (c : Char) : Bool :=
  let n := c.toNat
  n == 0x0A || (0x20 ≤ n && n ≤ 0x7E) || (0xA0 ≤ n && n ≤ 0xFFFD && n != 0xFEFF) || 0x10000 ≤ n

/-- Does a character of the first class stand directly before one of the second? -/
def hasPair (p q : Char → Bool) : List Char → Bool
  | a :: b :: cs => (p a && q b) || hasPair p q (b :: cs)
  | _ => false

/-- Does the end of a line stand directly behind a space? -/
def hasSpaceBreak (cs : List Char) : Bool :=
  hasPair (· == ' ') isBreak cs

/-- Does a space stand directly behind the end of a line? -/
def hasBreakSpace (cs : List Char) : Bool :=
  hasPair isBreak (· == ' ') cs

/-- The characters that start something else than a plain scalar. -/
def isIndicator (c : Char) : Bool :=
  "#,[]\x7b\x7d&*!|>'\"%@\x60".toList.contains c

/-- Does the text start like a mark of a document, or like something else than a plain scalar? -/
def startsOtherwise : List Char → Bool
  | '-' :: '-' :: '-' :: _ => true
  | '.' :: '.' :: '.' :: _ => true
  | c :: cs => isIndicator c || ((c == '?' || c == ':' || c == '-') && gapAhead cs)
  | [] => false

/-- Does the text have a colon or a number sign that would end a plain scalar?  `before` is the
character in front of it. -/
def stopsInside (before : Char) : List Char → Bool
  | [] => false
  | c :: cs => (c == ':' && gapAhead cs) || (c == '#' && isGap before) || stopsInside c cs

/-- Does the text start or end with a space or the end of a line? -/
def hasLooseEnd (cs : List Char) : Bool :=
  [cs.head?, cs.getLast?].any fun c => c.any fun c => c == ' ' || isBreak c

/-- Can the text be written plainly? -/
def fitsPlain (cs : List Char) : Bool :=
  cs.all isPrintable && !cs.any isBreak && !hasLooseEnd cs && !startsOtherwise cs &&
    !cs.head?.any fun c => stopsInside c (cs.drop 1)

/-- Can the text be written in single quotes? -/
def fitsSingle (cs : List Char) : Bool :=
  cs.all isPrintable && !hasSpaceBreak cs && !hasBreakSpace cs

/-- Can the text be written as a literal block? -/
def fitsLiteral (cs : List Char) : Bool :=
  cs.all isPrintable && !hasSpaceBreak cs && cs.getLast? != some ' '

/-- The style in which a text is written. -/
def Style.ofText (s : String) : Style :=
  let cs := s.toList
  if cs.contains '\n' then (if fitsLiteral cs then .literal else .double)
  else if isPlainText s && fitsPlain cs then .plain
  else if fitsSingle cs then .single
  else .double

end Critique.Yaml
