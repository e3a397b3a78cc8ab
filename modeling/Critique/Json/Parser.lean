import Critique.Json.Number

/-!
# Reading JSON

`Json.parse?` reads a whole text as one JSON document.  White space may stand around every part;
nothing else may follow the document.

Each reader takes the rest of the text and gives back what it read with the text that is left.
Values contain values, so the readers of values count down a number that bounds the depth; the
length of the text is always enough.
-/

namespace Critique.Json

/-- The text after any white space. -/
def skipSpace (cs : List Char) : List Char :=
  cs.dropWhile fun c => c == ' ' || c == '\n' || c == '\t' || c == '\r'

/-! ## Strings -/

/-- A unit of a string: a character that stands for itself or has a short escape, or the 16 bits of
a numeric escape. -/
inductive StringUnit where
  | char (c : Char)
  | code (n : Nat)
  deriving Repr, DecidableEq

/-- The value of a hexadecimal digit. -/
def hexDigit? (c : Char) : Option Nat :=
  if '0' ≤ c && c ≤ '9' then some (c.toNat - '0'.toNat)
  else if 'a' ≤ c && c ≤ 'f' then some (c.toNat - 'a'.toNat + 10)
  else if 'A' ≤ c && c ≤ 'F' then some (c.toNat - 'A'.toNat + 10)
  else none

/-- The character of a short escape. -/
def shortEscape? : Char → Option Char
  | '"' => some '"'
  | '\\' => some '\\'
  | '/' => some '/'
  | 'b' => some '\x08'
  | 'f' => some '\x0C'
  | 'n' => some '\n'
  | 'r' => some '\r'
  | 't' => some '\t'
  | _ => none

/-- The units of a string up to its closing quote, and the text after the quote. -/
def units? : List Char → Option (List StringUnit × List Char)
  | [] => none
  | '"' :: cs => some ([], cs)
  | '\\' :: 'u' :: a :: b :: c :: d :: cs => do
    let a ← hexDigit? a
    let b ← hexDigit? b
    let c ← hexDigit? c
    let d ← hexDigit? d
    let (us, rest) ← units? cs
    return (.code (((a * 16 + b) * 16 + c) * 16 + d) :: us, rest)
  | '\\' :: e :: cs => do
    let c ← shortEscape? e
    let (us, rest) ← units? cs
    return (.char c :: us, rest)
  | c :: cs => do
    if c.toNat < 0x20 || c == '\\' then none
    let (us, rest) ← units? cs
    return (.char c :: us, rest)

/-- The characters of a list of units.  Two numeric escapes can be the halves of one character; a
half without the other is no character. -/
def joinUnits? : List StringUnit → Option (List Char)
  | [] => some []
  | .char c :: us => (joinUnits? us).map (c :: ·)
  | .code hi :: .code lo :: us =>
    if 0xD800 ≤ hi && hi ≤ 0xDBFF then
      if 0xDC00 ≤ lo && lo ≤ 0xDFFF then
        (joinUnits? us).map
          (Char.ofNat (0x10000 + (hi - 0xD800) * 0x400 + (lo - 0xDC00)) :: ·)
      else none
    else if 0xDC00 ≤ hi && hi ≤ 0xDFFF then none
    else (joinUnits? (.code lo :: us)).map (Char.ofNat hi :: ·)
  | .code n :: us =>
    if 0xD800 ≤ n && n ≤ 0xDFFF then none else (joinUnits? us).map (Char.ofNat n :: ·)

/-- The text of a list of units. -/
def unitsText? (us : List StringUnit) : Option String :=
  (joinUnits? us).map String.ofList

/-! ## Numbers -/

/-- The digits that a text starts with, of which there must be one, and the text after them. -/
def digits? (cs : List Char) : Option (List Char × List Char) :=
  match cs.takeWhile Char.isDigit with
  | [] => none
  | ds => some (ds, cs.dropWhile Char.isDigit)

/-- The digits before the point: a zero alone, or digits that start with another one. -/
def whole? : List Char → Option (List Char × List Char)
  | '0' :: cs => some (['0'], cs)
  | cs => digits? cs

/-- The point and the digits after it, if there is a point. -/
def fraction? : List Char → Option (Option (List Char) × List Char)
  | '.' :: cs => (digits? cs).map fun (ds, rest) => (some ds, rest)
  | cs => some (none, cs)

/-- The exponent, if there is one. -/
def exponent? : List Char → Option (Option Int × List Char)
  | c :: cs =>
    if c == 'e' || c == 'E' then
      let (negative, cs) := Decimal.splitSign cs
      (digits? cs).map fun (ds, rest) =>
        let n : Int := Decimal.ofDigits ds
        (some (if negative then -n else n), rest)
    else some (none, c :: cs)
  | [] => some (none, [])

/-- A number, and the text after it. -/
def literal? (cs : List Char) : Option (Literal × List Char) := do
  let (minus, cs) :=
    match cs with
    | '-' :: cs => (true, cs)
    | cs => (false, cs)
  let (whole, cs) ← whole? cs
  let (fraction, cs) ← fraction? cs
  let (exponent, cs) ← exponent? cs
  if whole == ['0'] && fraction.isNone && exponent.isNone && (cs.head?.any Char.isDigit) then none
  return (⟨minus, whole, fraction, exponent⟩, cs)

/-! ## Values -/

/-- A string as a value. -/
def ofUnits (us : List StringUnit) : Json :=
  match unitsText? us with
  | some s => .str s
  | none => .unreadable

/-- A number as a value. -/
def ofLiteral (l : Literal) : Json :=
  match l.value? with
  | some n => .num n
  | none => .unreadable

/-- The fields of an object; an object with an unreadable name is unreadable as a whole. -/
def ofFields (fields : List (List StringUnit × Json)) : Json :=
  let named := fun (f : List StringUnit × Json) => (unitsText? f.1).map fun name => (name, f.2)
  match fields.mapM named with
  | some fields => .obj fields
  | none => .unreadable

mutual

/-- A value after any white space, and the text after it. -/
def value? : (depth : Nat) → List Char → Option (Json × List Char)
  | 0, _ => none
  | depth + 1, cs =>
    match skipSpace cs with
    | 'n' :: 'u' :: 'l' :: 'l' :: rest => some (.null, rest)
    | 't' :: 'r' :: 'u' :: 'e' :: rest => some (.bool true, rest)
    | 'f' :: 'a' :: 'l' :: 's' :: 'e' :: rest => some (.bool false, rest)
    | '"' :: rest => (units? rest).map fun (us, rest) => (ofUnits us, rest)
    | '[' :: rest =>
      match skipSpace rest with
      | ']' :: rest => some (.arr [], rest)
      | rest => (items? depth rest).map fun (items, rest) => (.arr items, rest)
    | '\x7b' :: rest =>
      match skipSpace rest with
      | '\x7d' :: rest => some (.obj [], rest)
      | rest => (fields? depth rest).map fun (fields, rest) => (ofFields fields, rest)
    | rest => (literal? rest).map fun (l, rest) => (ofLiteral l, rest)

/-- One or more values with commas between them, up to the closing bracket. -/
def items? : (depth : Nat) → List Char → Option (List Json × List Char)
  | 0, _ => none
  | depth + 1, cs =>
    match value? depth cs with
    | none => none
    | some (v, rest) =>
      match skipSpace rest with
      | ']' :: rest => some ([v], rest)
      | ',' :: rest => (items? depth rest).map fun (vs, rest) => (v :: vs, rest)
      | _ => none

/-- One or more named values with commas between them, up to the closing brace. -/
def fields? : (depth : Nat) → List Char → Option (List (List StringUnit × Json) × List Char)
  | 0, _ => none
  | depth + 1, cs =>
    match skipSpace cs with
    | '"' :: rest =>
      match units? rest with
      | none => none
      | some (name, rest) =>
        match skipSpace rest with
        | ':' :: rest =>
          match value? depth rest with
          | none => none
          | some (v, rest) =>
            match skipSpace rest with
            | '\x7d' :: rest => some ([(name, v)], rest)
            | ',' :: rest => (fields? depth rest).map fun (fs, rest) => ((name, v) :: fs, rest)
            | _ => none
        | _ => none
    | _ => none

end

/-- The document that a list of characters is, if it is one. -/
def parseChars? (cs : List Char) : Option Json :=
  match value? (2 * cs.length + 2) cs with
  | some (v, rest) => if (skipSpace rest).isEmpty then some v else none
  | none => none

/-- The document that a text is, if it is one. -/
def parse? (text : String) : Option Json :=
  parseChars? text.toList

end Critique.Json
