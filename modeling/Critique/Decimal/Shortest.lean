import Critique.Decimal.Binary

/-!
# The shortest decimal of a floating-point number

Of all decimals that read back as a given floating-point number, `shortest` takes one with the
fewest digits and, of these, the nearest.  It tries one digit, then two, and so on: on each decimal
grid only the two neighbours of the number need to be looked at.  The number can lie exactly in the
middle between them; which of the two is taken then is for the caller to say.

All numbers here are positive and exact.  A power of ten or two with a negative exponent is kept
on the other side of each comparison, so that every comparison is one of natural numbers.
-/

namespace Critique.Decimal

/-- The positive decimal `digits * 10 ^ exponent`. -/
structure Scaled where
  digits : Nat
  exponent : Int
  deriving Repr, DecidableEq

/-- Which neighbour is taken when both are equally near. -/
inductive Tie where
  /-- The one with an even last digit. -/
  | toEven
  /-- The greater one. -/
  | up
  deriving Repr, DecidableEq, Inhabited

/-- Is the lower of two neighbours taken when both are equally near? -/
def Tie.takesLower (tie : Tie) (below : Nat) : Bool :=
  match tie with
  | toEven => below % 2 = 0
  | up => false

/-- The number of decimal digits of a natural number. -/
def digitCount (n : Nat) : Nat :=
  (Nat.toDigits 10 n).length

/-- The exponent `e` with `10 ^ e ≤ num / den < 10 ^ (e + 1)`. -/
def magnitude (num den : Nat) : Int :=
  if den ≤ num then digitCount (num / den) - 1
  else
    let c := digitCount (den / num)
    if den = num * Nat.pow 10 (c - 1) then 1 - c else -c

/-- A positive number and the interval of reals that round to it, in quarters of its last binary
place: the number is `4 * mantissa` of these, and a quarter is `2 ^ quarter`. -/
structure Target where
  mantissa : Nat
  quarter : Int
  narrow : Bool
  deriving Repr, DecidableEq

namespace Target

/-- The lower end of the interval, in quarters. -/
def lower (t : Target) : Nat :=
  4 * t.mantissa - (if t.narrow then 1 else 2)

/-- The upper end of the interval, in quarters. -/
def upper (t : Target) : Nat :=
  4 * t.mantissa + 2

/-- Are the ends of the interval part of it? -/
def closed (t : Target) : Bool :=
  t.mantissa % 2 = 0

/-- What a unit of the grid `10 ^ k` weighs in a comparison. -/
def gridFactor (t : Target) (k : Int) : Nat :=
  Nat.pow 10 k.toNat * Nat.pow 2 (-t.quarter).toNat

/-- What a quarter weighs in a comparison with the grid `10 ^ k`. -/
def quarterFactor (t : Target) (k : Int) : Nat :=
  Nat.pow 10 (-k).toNat * Nat.pow 2 t.quarter.toNat

/-- Does `d * 10 ^ k` lie in the interval? -/
def holds (t : Target) (k : Int) (d : Nat) : Bool :=
  let here := d * t.gridFactor k
  let lower := t.lower * t.quarterFactor k
  let upper := t.upper * t.quarterFactor k
  if t.closed then lower ≤ here && here ≤ upper else lower < here && here < upper

/-- The better of the two grid points next to the number, if one of them lies in the interval. -/
def onGrid? (t : Target) (tie : Tie) (k : Int) : Option Nat :=
  let value := 4 * t.mantissa * t.quarterFactor k
  let grid := t.gridFactor k
  let below := value / grid
  let twice := 2 * (value - below * grid)
  match t.holds k below, t.holds k (below + 1) with
  | true, true =>
    some (if twice < grid || (twice = grid && tie.takesLower below) then below else below + 1)
  | true, false => some below
  | false, true => some (below + 1)
  | false, false => none

/-- The exponent of the leading decimal digit of the number. -/
def leading (t : Target) : Int :=
  magnitude (4 * t.mantissa * Nat.pow 2 t.quarter.toNat) (Nat.pow 2 (-t.quarter).toNat)

/-- Try decimals with `n` digits, then with one more, and so on, `fuel` times.  The last resort is
never needed, because seventeen digits always suffice. -/
def search (t : Target) (tie : Tie) (n : Nat) : (fuel : Nat) → Scaled
  | 0 => ⟨4 * t.mantissa * t.quarterFactor (t.leading - 16) / t.gridFactor (t.leading - 16),
      t.leading - 16⟩
  | fuel + 1 =>
    let k := t.leading + 1 - n
    match t.onGrid? tie k with
    | some d => ⟨d, k⟩
    | none => search t tie (n + 1) fuel

end Target

/-- Move trailing zeros of the digits into the exponent. -/
def Scaled.trimZeros (s : Scaled) : (fuel : Nat) → Scaled
  | 0 => s
  | fuel + 1 =>
    if s.digits ≠ 0 ∧ s.digits % 10 = 0 then
      (Scaled.mk (s.digits / 10) (s.exponent + 1)).trimZeros fuel
    else s

/-- The shortest decimal that rounds to `mantissa * 2 ^ exponent`, which is positive. -/
def shortest (tie : Tie) (mantissa : Nat) (exponent : Int) (narrow : Bool) : Scaled :=
  ((Target.mk mantissa (exponent - 2) narrow).search tie 1 17).trimZeros 20

end Critique.Decimal
