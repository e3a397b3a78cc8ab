import Critique.Json.Basic
import Critique.Decimal.Layout
import Critique.Decimal.Read

/-!
# JSON numbers

A number is read from its digits in one pass.  `Literal.value?` takes the leading digits that fit
into 64 bits as a whole number, drops the digits after them, and multiplies or divides by a power of
ten.  Whole numbers that fit are exact; other numbers are rounded in each of these steps, and a
number beyond the greatest floating-point number has no value.

`Number.render` writes a number with the shortest digits that read back.
-/

namespace Critique.Json

/-- A number as it stands in a text: its sign, the digits before and after the point, and the
exponent, if one is written. -/
structure Literal where
  minus : Bool
  whole : List Char
  fraction : Option (List Char)
  exponent : Option Int
  deriving Repr

/-- The greatest whole number of 64 bits. -/
def maxWord : Nat := Nat.pow 2 64 - 1

/-- Append digits to a number while it fits into 64 bits: the number, and how many digits were
taken. -/
def appendDigits (n : Nat) : List Char → Nat × Nat
  | [] => (n, 0)
  | d :: ds =>
    let n' := 10 * n + (d.toNat - '0'.toNat)
    if n' ≤ maxWord then
      let (m, taken) := appendDigits n' ds
      (m, taken + 1)
    else (n, 0)

/-- The floating-point number nearest to a power of ten. -/
def powerOfTen (n : Nat) : Float := Float.ofScientific 1 false n

/-- Multiply a number by a power of ten.  The powers go up to the 308th, and a smaller number is
divided several times.  There is no result beyond the greatest floating-point number. -/
def scale? (x : Float) (exponent : Int) : Option Float :=
  if 308 < exponent then
    if x == 0 then some x else none
  else if 0 ≤ exponent then
    let y := x * powerOfTen exponent.toNat
    if y.isFinite then some y else none
  else if -308 ≤ exponent then some (x / powerOfTen exponent.natAbs)
  else if x == 0 then some x
  else scale? (x / powerOfTen 308) (exponent + 308)
termination_by exponent.natAbs

namespace Literal

/-- The digits of a literal as a floating-point number without its sign. -/
def magnitude? (l : Literal) : Option Float :=
  let (n, taken) := appendDigits 0 l.whole
  let dropped := l.whole.length - taken
  let (m, places) := appendDigits n (l.fraction.getD [])
  scale? m.toUInt64.toFloat (dropped - places + l.exponent.getD 0)

/-- The number that a literal stands for, if it is in range. -/
def value? (l : Literal) : Option Number :=
  let (n, taken) := appendDigits 0 l.whole
  if l.fraction.isNone && l.exponent.isNone && taken == l.whole.length then
    if !l.minus then some (.natural n)
    else if 0 < n && n ≤ Nat.pow 2 63 then some (.negative n)
    else some (.real (-n.toUInt64.toFloat))
  else
    l.magnitude?.map fun x => .real (if l.minus then -x else x)

end Literal

/-- The layout of numbers in JSON text: positional from a hundred-thousandth up to sixteen digits
before the point, with a fraction even when whole, and with a sign on every exponent. -/
def layout : Decimal.Layout where
  positional e := -5 ≤ e && e ≤ 15
  tie := .toEven
  keepPoint := true
  plus := true
  infinity := "null"
  negativeInfinity := "null"
  nan := "null"

/-- A number in JSON text. -/
def Number.render : Number → List Char
  | .natural n => Nat.toDigits 10 n
  | .negative n => '-' :: Nat.toDigits 10 n
  | .real x => (layout.render x).toList

end Critique.Json
