/-!
# The parts of a floating-point number

A finite floating-point number is a whole number times a power of two.  `Binary.ofFloat` reads
these parts off the number's bits, so that the exact value can be computed with.
-/

namespace Critique.Decimal

/-- The exact value of a floating-point number. -/
inductive Binary where
  /-- No number. -/
  | nan
  /-- Beyond all numbers, on one side. -/
  | infinite (negative : Bool)
  /-- The number `mantissa * 2 ^ exponent`, or its negative.  `narrow` says that the next smaller
  number is only half as far away as the next greater one. -/
  | finite (negative : Bool) (mantissa : Nat) (exponent : Int) (narrow : Bool)
  deriving Repr, DecidableEq

/-- The value of a floating-point number, read off its bits. -/
def Binary.ofFloat (x : Float) : Binary :=
  let bits := x.toBits.toNat
  let negative : Bool := Nat.pow 2 63 ≤ bits
  let exponent : Nat := bits / Nat.pow 2 52 % Nat.pow 2 11
  let fraction := bits % Nat.pow 2 52
  if exponent = 2047 then
    if fraction = 0 then .infinite negative else .nan
  else if exponent = 0 then .finite negative fraction (-1074) false
  else
    .finite negative (fraction + Nat.pow 2 52) ((exponent : Int) - 1075)
      (fraction = 0 && 1 < exponent)

end Critique.Decimal
