/-!
# YAML tokens

A YAML text is read in two steps: it is cut into tokens, and the tokens are put together to a tree.
This module has the tokens, the classes of characters that the cutting goes by, and the `Cursor`
that moves over a text and keeps count of lines and columns.
-/

namespace Critique.Yaml

/-- How a scalar is written. -/
inductive Style where
  | plain
  | single
  | double
  | literal
  | folded
  deriving Repr, DecidableEq, Inhabited

/-- A token of a YAML text. -/
inductive Token where
  | versionDirective (major minor : Nat)
  | tagDirective (handle target : String)
  | documentStart
  | documentEnd
  | blockSequenceStart
  | blockMappingStart
  | blockEnd
  | flowSequenceStart
  | flowSequenceEnd
  | flowMappingStart
  | flowMappingEnd
  | blockEntry
  | flowEntry
  | key
  | value
  | alias (name : String)
  | anchor (name : String)
  | tag (handle suffix : String)
  | scalar (text : String) (style : Style)
  | streamEnd
  deriving Repr, DecidableEq, Inhabited

/-! ## Characters -/

/-- May the character stand in a YAML text at all? -/
def isAllowed (c : Char) : Bool :=
  let n := c.toNat
  n == 0x09 || n == 0x0A || n == 0x0D || (0x20 ≤ n && n ≤ 0x7E) || n == 0x85 ||
    (0xA0 ≤ n && n ≤ 0xFFFD) || 0x10000 ≤ n

/-- Does the character end a line? -/
def isBreak (c : Char) : Bool :=
  let n := c.toNat
  n == 0x0A || n == 0x0D || n == 0x85 || n == 0x2028 || n == 0x2029

/-- Is the character a space or a tab? -/
def isSpace (c : Char) : Bool :=
  c == ' ' || c == '\t'

/-- Is the character a space, a tab or the end of a line? -/
def isGap (c : Char) : Bool :=
  isSpace c || isBreak c

/-- Does the text end here, or does a gap follow? -/
def gapAhead : List Char → Bool
  | [] => true
  | c :: _ => isGap c

/-- Does the text end here, or does a line end? -/
def lineEndAhead : List Char → Bool
  | [] => true
  | c :: _ => isBreak c

/-- May the character stand in an anchor, a handle or a directive's name? -/
def isNameChar (c : Char) : Bool :=
  c.isAlpha || c.isDigit || c == '_' || c == '-'

/-- Does a line that marks the start or the end of a document begin here? -/
def documentMarkAhead : List Char → Bool
  | '-' :: '-' :: '-' :: rest => gapAhead rest
  | '.' :: '.' :: '.' :: rest => gapAhead rest
  | _ => false

/-! ## The cursor -/

/-- The number of bytes that encode some characters. -/
def byteLength (cs : List Char) : Nat :=
  cs.foldr (fun c n => c.utf8Size + n) 0

/-- The text that is left, and where in the whole text it starts. -/
structure Cursor where
  rest : List Char
  /-- The number of bytes before it. -/
  offset : Nat := 0
  line : Nat := 0
  column : Nat := 0
  deriving Repr, Inhabited

namespace Cursor

/-- Move over a number of characters within a line. -/
def advance (c : Cursor) (n : Nat) : Cursor :=
  { c with
    rest := c.rest.drop n
    offset := c.offset + byteLength (c.rest.take n)
    column := c.column + n }

/-- Move over the characters of a class, none of which ends a line. -/
def skipWhile (c : Cursor) (p : Char → Bool) : Cursor :=
  c.advance (c.rest.takeWhile p).length

/-- The first character that is left. -/
def head? (c : Cursor) : Option Char :=
  c.rest.head?

/-- Is this the first character that is left? -/
def sees (c : Cursor) (x : Char) : Bool :=
  c.rest.head? == some x

/-- Has the first character that is left this property? -/
def seesAny (c : Cursor) (p : Char → Bool) : Bool :=
  c.rest.head?.any p

/-- Move over the end of a line, if there is one.  A carriage return and a line feed are one end. -/
def skipLine (c : Cursor) : Cursor :=
  match c.rest with
  | '\r' :: '\n' :: rest => ⟨rest, c.offset + 2, c.line + 1, 0⟩
  | x :: rest => if isBreak x then ⟨rest, c.offset + x.utf8Size, c.line + 1, 0⟩ else c
  | [] => c

/-- What the end of a line stands for in a scalar: a line feed, or itself if it is a separator of
lines or paragraphs. -/
def lineBreak (c : Cursor) : List Char :=
  match c.rest with
  | x :: _ =>
    if x.toNat == 0x2028 || x.toNat == 0x2029 then [x] else if isBreak x then ['\n'] else []
  | [] => []

end Cursor

end Critique.Yaml
