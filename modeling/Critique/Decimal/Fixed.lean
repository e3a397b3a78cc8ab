import Critique.Decimal.Binary

/-!
# Numbers with a fixed number of places

`fixed` writes a floating-point number with a given number of decimal places.  The exact value is
rounded to the nearest such decimal, and a tie goes to the even one.
-/

namespace Critique.Decimal

/-- The quotient rounded to the nearest whole number, a half to the even neighbour. -/
def roundDiv (num den : Nat) : Nat :=
  let below := num / den
  let twice := 2 * (num % den)
  if twice < den then below
  else if den < twice then below + 1
  else if below % 2 = 0 then below else below + 1

/-- The digits of `n / 10 ^ places`, with all its places. -/
def pointChars (places n : Nat) : List Char :=
  let digits := Nat.toDigits 10 n
  let digits := List.replicate (places + 1 - digits.length) '0' ++ digits
  let whole := digits.length - places
  digits.take whole ++ '.' :: digits.drop whole

/-- A floating-point number with the given number of places. -/
def fixed (places : Nat) (x : Float) : String :=
  match Binary.ofFloat x with
  | .nan => "NaN"
  | .infinite negative => if negative then "-inf" else "inf"
  | .finite negative mantissa exponent _ =>
    let num := mantissa * Nat.pow 10 places * Nat.pow 2 exponent.toNat
    let n := roundDiv num (Nat.pow 2 (-exponent).toNat)
    String.ofList (if negative then '-' :: pointChars places n else pointChars places n)

end Critique.Decimal
