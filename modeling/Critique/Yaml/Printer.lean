import Critique.Yaml.Node
import Critique.Yaml.Style

/-!
# Writing YAML

`Node.render` writes a tree as a YAML text: mappings and sequences as blocks, two spaces for each
level, and every scalar in its own style.  Lines are never folded.  Anchors and tags are not
written.

A key stands on one line with its colon if it is short enough and has no line break; otherwise it
is marked with a question mark, and the colon starts a line of its own.
-/

namespace Critique.Yaml

/-- A number of spaces. -/
def pad (n : Nat) : List Char :=
  List.replicate n ' '

/-! ## Scalars -/

/-- The lines of a scalar that keeps its line breaks: each line that is not empty is indented.
`fresh` says that a line has just begun, and `write` gives the form of a character. -/
def keptLines (indent : Nat) (write : Char → List Char) : (fresh : Bool) → List Char → List Char
  | _, [] => []
  | fresh, c :: cs =>
    if isBreak c then c :: keptLines indent write true cs
    else (if fresh then pad indent else []) ++ write c ++ keptLines indent write false cs

/-- Does the text end with the end of a line? -/
def endsInBreak (cs : List Char) : Bool :=
  cs.getLast?.any isBreak

/-- A character inside single quotes: a quote is written twice. -/
def singleChar (c : Char) : List Char :=
  if c == '\'' then ['\'', '\''] else [c]

/-- A text in single quotes. -/
def singleChars (indent : Nat) (cs : List Char) : List Char :=
  '\'' :: keptLines indent singleChar false cs ++
    (if endsInBreak cs then pad indent else []) ++ ['\'']

/-- The last `width` hexadecimal digits of a number, in upper case. -/
def hexDigits : (width : Nat) → Nat → List Char
  | 0, _ => []
  | width + 1, n => hexDigits width (n / 16) ++ [(Nat.digitChar (n % 16)).toUpper]

/-- The escapes with a letter of their own. -/
def escapeLetters : List (Nat × Char) :=
  [(0x00, '0'), (0x07, 'a'), (0x08, 'b'), (0x09, 't'), (0x0A, 'n'), (0x0B, 'v'), (0x0C, 'f'),
    (0x0D, 'r'), (0x1B, 'e'), (0x22, '"'), (0x5C, '\\'), (0x85, 'N'), (0x2028, 'L'), (0x2029, 'P')]

/-- A character inside double quotes. -/
def doubleChar (c : Char) : List Char :=
  let n := c.toNat
  match escapeLetters.lookup n with
  | some letter => ['\\', letter]
  | none =>
    if isPrintable c then [c]
    else if n ≤ 0xFF then '\\' :: 'x' :: hexDigits 2 n
    else if n ≤ 0xFFFF then '\\' :: 'u' :: hexDigits 4 n
    else '\\' :: 'U' :: hexDigits 8 n

/-- A text in double quotes. -/
def doubleChars (cs : List Char) : List Char :=
  '"' :: cs.flatMap doubleChar ++ ['"']

/-- The head of a literal block: the indentation is given if the text does not show it, and a sign
tells what happens to the line breaks at the end. -/
def literalHead (cs : List Char) : List Char :=
  let hint := if cs.head?.any fun c => c == ' ' || isBreak c then ['2'] else []
  let chomp :=
    if !endsInBreak cs then ['-']
    else if cs.dropLast.isEmpty || endsInBreak cs.dropLast then ['+']
    else []
  '|' :: hint ++ chomp

/-- A scalar in its style.  Its lines are indented by `indent`. -/
def scalarChars (indent : Nat) (cs : List Char) : Style → List Char
  | .single => singleChars indent cs
  | .double => doubleChars cs
  | .literal => literalHead cs ++ '\n' :: keptLines indent (fun c => [c]) true cs
  | .plain => cs
  | .folded => doubleChars cs

/-- The end of the line behind a scalar; a literal block can have it already. -/
def scalarEnd (cs : List Char) (style : Style) : List Char :=
  if style = .literal && endsInBreak cs then [] else ['\n']

/-! ## Trees -/

/-- Can the scalar stand in front of a colon on one line? -/
def isShortKey (cs : List Char) : Bool :=
  !cs.any isBreak && (String.ofList cs).utf8ByteSize ≤ 128

mutual

/-- What follows a colon or a dash, in a block of the given indentation. -/
def valueChars (indent : Nat) : Node → List Char
  | .scalar text style _ =>
    ' ' :: scalarChars (indent + 2) text.toList style ++ scalarEnd text.toList style
  | .seq [] => " []\n".toList
  | .seq items => '\n' :: itemsChars (indent + 2) items
  | .map [] => " \x7b\x7d\n".toList
  | .map pairs => '\n' :: pairsChars (indent + 2) pairs
  | .alias id => " *".toList ++ Nat.toDigits 10 id ++ ['\n']

/-- The items of a sequence, one a line. -/
def itemsChars (indent : Nat) : List Node → List Char
  | [] => []
  | item :: items => pad indent ++ '-' :: valueChars indent item ++ itemsChars indent items

/-- The pairs of a mapping, one a line. -/
def pairsChars (indent : Nat) : List (Node × Node) → List Char
  | [] => []
  | (key, value) :: pairs =>
    pad indent ++ keyChars indent key ++ ':' :: valueChars indent value ++ pairsChars indent pairs

/-- A key, up to its colon. -/
def keyChars (indent : Nat) : Node → List Char
  | .scalar text style _ =>
    let written := scalarChars (indent + 2) text.toList style
    if isShortKey text.toList then written
    else '?' :: ' ' :: written ++ scalarEnd text.toList style ++ pad indent
  | .seq [] => "? []\n".toList ++ pad indent
  | .seq items => '?' :: '\n' :: itemsChars (indent + 2) items ++ pad indent
  | .map [] => "? \x7b\x7d\n".toList ++ pad indent
  | .map pairs => '?' :: '\n' :: pairsChars (indent + 2) pairs ++ pad indent
  | .alias id => '*' :: Nat.toDigits 10 id ++ [' ']

end

/-- A tree as a YAML text. -/
def Node.render : Node → String
  | .scalar text style _ =>
    String.ofList (scalarChars 2 text.toList style ++ scalarEnd text.toList style)
  | .seq [] => "[]\n"
  | .seq items => String.ofList (itemsChars 0 items)
  | .map [] => "\x7b\x7d\n"
  | .map pairs => String.ofList (pairsChars 0 pairs)
  | .alias id => String.ofList ('*' :: Nat.toDigits 10 id ++ ['\n'])

/-- A text as a scalar that is read as this text. -/
def Node.ofText (s : String) : Node :=
  .scalar s (.ofText s) none

/-- A whole number as a scalar. -/
def Node.ofNat (n : Nat) : Node :=
  .scalar (String.ofList (Nat.toDigits 10 n)) .plain none

/-- A floating-point number as a scalar. -/
def Node.ofFloat (x : Float) : Node :=
  .scalar (layout.render x) .plain none

end Critique.Yaml
