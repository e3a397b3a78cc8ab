/-!
# Styled text

Text for a terminal is a list of pieces, some of which have a style.  With colours a styled piece
stands between an escape sequence that sets its style and one that resets it; without colours every
piece is its text.

A reset inside a styled piece would end its style too early, so the style is set again behind it.
-/

namespace Critique.Display

/-- How strongly a text is shown. -/
inductive Emphasis where
  | bold
  | dimmed
  deriving Repr, DecidableEq, Inhabited

/-- The code of an emphasis. -/
def Emphasis.code : Emphasis → String
  | bold => "1"
  | dimmed => "2"

/-- The colour of a text. -/
inductive Colour where
  | red
  | green
  | yellow
  | blue
  | cyan
  deriving Repr, DecidableEq, Inhabited

/-- The code of a colour. -/
def Colour.code : Colour → String
  | red => "31"
  | green => "32"
  | yellow => "33"
  | blue => "34"
  | cyan => "36"

/-- How a text is shown. -/
structure Style where
  emphasis : Option Emphasis := none
  colour : Option Colour := none
  deriving Repr, DecidableEq, Inhabited

/-- The escape sequence that sets a style. -/
def Style.start (s : Style) : List Char :=
  let codes := (s.emphasis.map Emphasis.code).toList ++ (s.colour.map Colour.code).toList
  "\x1b[".toList ++ (";".intercalate codes).toList ++ ['m']

/-- The escape sequence that resets the style. -/
def reset : List Char := "\x1b[0m".toList

/-- A text in which a style is set again behind every reset. -/
def resume (start : List Char) : List Char → List Char
  | '\x1b' :: '[' :: '0' :: 'm' :: cs => reset ++ start ++ resume start cs
  | c :: cs => c :: resume start cs
  | [] => []

/-- A piece of text. -/
inductive Piece where
  | plain (text : String)
  | styled (style : Style) (text : String)
  deriving Repr, DecidableEq, Inhabited

/-- The characters of a piece, with or without colours. -/
def Piece.chars (coloured : Bool) : Piece → List Char
  | plain text => text.toList
  | styled style text =>
    if coloured then style.start ++ resume style.start text.toList ++ reset else text.toList

/-- Pieces one after another, with or without colours. -/
def render (coloured : Bool) (pieces : List Piece) : String :=
  String.ofList (pieces.flatMap (Piece.chars coloured))

/-- A text in bold. -/
def bold (s : String) : Piece := .styled { emphasis := some .bold } s

/-- A dimmed text. -/
def dimmed (s : String) : Piece := .styled { emphasis := some .dimmed } s

/-- A coloured text. -/
def tinted (c : Colour) (s : String) : Piece := .styled { colour := some c } s

/-- A text in bold and coloured. -/
def boldTinted (c : Colour) (s : String) : Piece :=
  .styled { emphasis := some .bold, colour := some c } s

/-- A text with spaces behind it, up to a number of characters. -/
def padded (width : Nat) (s : String) : String :=
  String.ofList (s.toList ++ List.replicate (width - s.toList.length) ' ')

end Critique.Display
