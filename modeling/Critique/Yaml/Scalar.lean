import Critique.Decimal.Layout
import Critique.Decimal.Read
import Critique.Yaml.Token

/-!
# The meaning of plain scalars

What a plain scalar means when nothing says otherwise: nothing, a truth value, a whole number, a
floating-point number, or its own text.  Digits behind a leading zero are a text.

A writer must quote a text whose plain form would mean something else; `isPlainText` says that it
would not.
-/

namespace Critique.Yaml

/-- The plain scalars that mean nothing. -/
def isNull (s : String) : Bool :=
  ["null", "Null", "NULL", "~"].contains s

/-- The plain scalars that are truth values. -/
def isTruth (s : String) : Bool :=
  ["true", "True", "TRUE", "false", "False", "FALSE"].contains s

/-- Does the text start with a plus or a minus? -/
def signAhead (cs : List Char) : Bool :=
  cs.head?.any fun c => c == '+' || c == '-'

/-- The text without one sign in front of it. -/
def dropSign : List Char → List Char
  | '+' :: cs => cs
  | '-' :: cs => cs
  | cs => cs

/-- The text without one plus in front of it. -/
def dropPlus : List Char → List Char
  | '+' :: cs => cs
  | cs => cs

/-- Digits behind a leading zero, with or without a sign. -/
def isZeroPadded (cs : List Char) : Bool :=
  match dropSign cs with
  | '0' :: d :: ds => (d :: ds).all Char.isDigit
  | _ => false

/-- The value of a digit in a base of at most sixteen. -/
def digitValue? (base : Nat) (c : Char) : Option Nat :=
  let n :=
    if '0' ≤ c && c ≤ '9' then c.toNat - '0'.toNat
    else if 'a' ≤ c && c ≤ 'f' then c.toNat - 'a'.toNat + 10
    else if 'A' ≤ c && c ≤ 'F' then c.toNat - 'A'.toNat + 10
    else 16
  if n < base then some n else none

/-- The number that digits of a base write; there must be a digit. -/
def digitsNumber? (base : Nat) (cs : List Char) : Option Nat :=
  if cs.isEmpty then none
  else cs.foldlM (fun n c => (digitValue? base c).map fun d => base * n + d) 0

/-- The digits behind the sign of a base, with the base. -/
def splitBase : List Char → Option (Nat × List Char)
  | '0' :: 'x' :: cs => some (16, cs)
  | '0' :: 'o' :: cs => some (8, cs)
  | '0' :: 'b' :: cs => some (2, cs)
  | _ => none

/-- A whole number without a minus, smaller than `bound`: decimal, or in a base that is written in
front of it. -/
def natural? (bound : Nat) (cs : List Char) : Option Nat :=
  let unsigned := dropPlus cs
  let based := (splitBase unsigned).bind fun (base, ds) => digitsNumber? base ds
  let decimal := if isZeroPadded cs then none else digitsNumber? 10 unsigned
  (based.filter (· < bound)).or (decimal.filter (· < bound))

/-- Is the text a whole number with a minus, at most `bound` below zero?  A base may be written
behind the minus. -/
def isNegative (bound : Nat) (cs : List Char) : Bool :=
  match cs with
  | '-' :: cs' =>
    let based := (splitBase cs').bind fun (base, ds) => digitsNumber? base ds
    let decimal := if isZeroPadded cs then none else digitsNumber? 10 cs'
    ((based.filter (· ≤ bound)).or (decimal.filter (· ≤ bound))).isSome
  | _ => false

/-- Positive infinity. -/
def infinity : Float := Float.ofBits 0x7FF0000000000000

/-- A floating-point number: a decimal with a finite value, or one of the words for the values that
are not finite. -/
def float? (cs : List Char) : Option Float :=
  let s := String.ofList cs
  let unsigned := dropPlus cs
  let word := String.ofList unsigned
  if cs.head? == some '+' && signAhead unsigned then none
  else if [".inf", ".Inf", ".INF"].contains word then some infinity
  else if ["-.inf", "-.Inf", "-.INF"].contains s then some (-infinity)
  else if [".nan", ".NaN", ".NAN"].contains s then some (0 / 0)
  else (Decimal.parse? unsigned).filter Float.isFinite

/-- Does the plain form of a text mean the text itself? -/
def isPlainText (s : String) : Bool :=
  let cs := s.toList
  !(s.isEmpty || isNull s || isTruth s || (natural? (Nat.pow 2 128) cs).isSome ||
    isNegative (Nat.pow 2 127) cs || isZeroPadded cs || (float? cs).isSome)

/-- The layout of floating-point numbers in YAML text: as in most data formats, with words for the
values that are not finite. -/
def layout : Decimal.Layout where
  positional e := -5 ≤ e && e ≤ 15
  tie := .toEven
  keepPoint := true
  plus := false
  infinity := ".inf"
  negativeInfinity := "-.inf"
  nan := ".nan"

end Critique.Yaml
