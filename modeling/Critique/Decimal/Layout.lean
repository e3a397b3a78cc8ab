import Critique.Decimal.Shortest

/-!
# Layouts of floating-point numbers

Every output format writes a floating-point number with the shortest digits that read back, and
they differ in the rest.  A `Layout` is what a format decides; `Layout.render` does the writing.
-/

namespace Critique.Decimal

/-- How a format lays out a floating-point number. -/
structure Layout where
  /-- Is a number written without an exponent when its leading digit stands for this power of
  ten? -/
  positional : Int → Bool
  /-- Which of two equally near decimals is written? -/
  tie : Tie
  /-- Does a whole number end in `.0`? -/
  keepPoint : Bool
  /-- Does a positive exponent have a sign? -/
  plus : Bool
  infinity : String
  negativeInfinity : String
  nan : String

/-- The digits of a number, written without an exponent.  The first digit stands for the power
`leading` of ten. -/
def positionalChars (keepPoint : Bool) (digits : List Char) (leading : Int) : List Char :=
  let zeros := fun (n : Int) => List.replicate n.toNat '0'
  if leading < 0 then ['0', '.'] ++ zeros (-leading - 1) ++ digits
  else
    let whole := (leading + 1).toNat
    if digits.length ≤ whole then
      digits ++ zeros (leading + 1 - digits.length) ++ (if keepPoint then ['.', '0'] else [])
    else digits.take whole ++ '.' :: digits.drop whole

/-- The digits of a number, written with an exponent. -/
def scientificChars (plus : Bool) (digits : List Char) (leading : Int) : List Char :=
  let mantissa :=
    match digits with
    | d :: e :: rest => d :: '.' :: e :: rest
    | ds => ds
  let sign := if leading < 0 then ['-'] else if plus then ['+'] else []
  mantissa ++ 'e' :: sign ++ Nat.toDigits 10 leading.natAbs

namespace Layout

/-- A positive decimal in this layout. -/
def positiveChars (layout : Layout) (s : Scaled) : List Char :=
  let digits := Nat.toDigits 10 s.digits
  let leading := s.exponent + digits.length - 1
  if layout.positional leading then positionalChars layout.keepPoint digits leading
  else scientificChars layout.plus digits leading

/-- A floating-point number in this layout. -/
def render (layout : Layout) (x : Float) : String :=
  match Binary.ofFloat x with
  | .nan => layout.nan
  | .infinite false => layout.infinity
  | .infinite true => layout.negativeInfinity
  | .finite negative mantissa exponent narrow =>
    let chars :=
      if mantissa = 0 then (if layout.keepPoint then ['0', '.', '0'] else ['0'])
      else layout.positiveChars (shortest layout.tie mantissa exponent narrow)
    String.ofList (if negative then '-' :: chars else chars)

end Layout

/-- The layout of numbers inside sentences: never an exponent, and no point in a whole number. -/
def sentence : Layout where
  positional _ := true
  tie := .up
  keepPoint := false
  plus := false
  infinity := "inf"
  negativeInfinity := "-inf"
  nan := "NaN"

end Critique.Decimal
