import Critique.Decimal.Shortest

/-!
# Reading decimals

`nearest` is the floating-point number nearest to a decimal, infinite when the decimal lies beyond
all of them.  `parse?` reads a decimal as people write it: an optional sign, digits with an optional
point, and an optional exponent.
-/

namespace Critique.Decimal

/-- The floating-point number nearest to `digits * 10 ^ exponent`.  Decimals far outside the range
of floating-point numbers are recognised by the place of their first digit. -/
def nearest (digits : Nat) (exponent : Int) : Float :=
  if digits = 0 then 0
  else
    let leading := digitCount digits + exponent
    if 400 < leading then Float.ofBits 0x7FF0000000000000
    else if leading < -400 then 0
    else if exponent < 0 then Float.ofScientific digits true exponent.natAbs
    else Float.ofScientific digits false exponent.natAbs

/-- The number written by a list of decimal digits. -/
def ofDigits (ds : List Char) : Nat :=
  ds.foldl (fun n d => 10 * n + (d.toNat - '0'.toNat)) 0

/-- An optional sign in front of a text: whether it is a minus, and what follows it. -/
def splitSign : List Char → Bool × List Char
  | '-' :: cs => (true, cs)
  | '+' :: cs => (false, cs)
  | cs => (false, cs)

/-- The exponent after the letter, if the text is empty or is such an exponent. -/
def exponent? : List Char → Option Int
  | [] => some 0
  | c :: cs =>
    if c == 'e' || c == 'E' then
      let (negative, ds) := splitSign cs
      if ds.isEmpty || !ds.all Char.isDigit then none
      else some (if negative then -(ofDigits ds) else ofDigits ds)
    else none

/-- A decimal as a floating-point number, rounded once.  At least one digit must stand before the
exponent. -/
def parse? (text : List Char) : Option Float :=
  let (negative, cs) := splitSign text
  let whole := cs.takeWhile Char.isDigit
  let rest := cs.dropWhile Char.isDigit
  let (fraction, rest) :=
    match rest with
    | '.' :: rest => (rest.takeWhile Char.isDigit, rest.dropWhile Char.isDigit)
    | rest => ([], rest)
  if whole.isEmpty && fraction.isEmpty then none
  else
    match exponent? rest with
    | none => none
    | some e =>
      let x := nearest (ofDigits (whole ++ fraction)) (e - fraction.length)
      some (if negative then -x else x)

end Critique.Decimal
