import Critique.Table

/-!
# JSON values

`Json` is a JSON document as it was read or as it will be written.  An object keeps its fields in
the order of the text, repeated names included, because a repeated name is an error for some
readers and not for others.

A scalar can be grammatical and still stand for nothing: a number beyond the range of numbers, or
a string with half of a surrogate pair.  Such a scalar is `unreadable`.  It does no harm in a
place that nobody asks for, and no reader accepts it.
-/

namespace Critique

/-- A number as a JSON reader understands it. -/
inductive Json.Number where
  /-- A whole number below two to the 64th. -/
  | natural (n : Nat)
  /-- The negative of a positive whole number, at most two to the 63rd. -/
  | negative (n : Nat)
  /-- Any other number. -/
  | real (x : Float)
  deriving Inhabited

/-- A JSON document. -/
inductive Json where
  | null
  | bool (b : Bool)
  | num (n : Json.Number)
  | str (s : String)
  | arr (items : List Json)
  | obj (fields : List (String × Json))
  | unreadable
  deriving Inhabited

namespace Json

/-- A whole number. -/
def nat (n : Nat) : Json := .num (.natural n)

/-- A floating-point number; one that is not finite has no JSON form and becomes null. -/
def float (x : Float) : Json :=
  if x.isFinite then .num (.real x) else .null

/-- The number as a floating-point number. -/
def Number.toFloat : Number → Float
  | .natural n => n.toUInt64.toFloat
  | .negative n => -n.toUInt64.toFloat
  | .real x => x

/-- A table as an object. -/
def ofTable {α : Type} (f : α → Json) (t : Table α) : Json :=
  .obj (t.entries.map fun (name, value) => (name, f value))

end Json

end Critique
