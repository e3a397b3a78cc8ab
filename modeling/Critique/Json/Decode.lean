import Critique.Json.Basic

/-!
# Decoding JSON values

Small readers from which the readers of the domain's types are built.  Each gives nothing when the
document does not have the wanted shape.

A record may be written as an object, in which unknown names are ignored and a known name may not
be repeated, or as a list of its fields in order, of which some at the end may be missing.
-/

namespace Critique.Json

/-- A truth value. -/
def asBool? : Json → Option Bool
  | .bool b => some b
  | _ => none

/-- A text. -/
def asText? : Json → Option String
  | .str s => some s
  | _ => none

/-- A whole number below two to the 64th. -/
def asNat? : Json → Option Nat
  | .num (.natural n) => some n
  | _ => none

/-- A whole number of 64 bits with a sign. -/
def asInt? : Json → Option Int
  | .num (.natural n) => if n < Nat.pow 2 63 then some n else none
  | .num (.negative n) => some (-n)
  | _ => none

/-- A number as a floating-point number. -/
def asFloat? : Json → Option Float
  | .num n => some n.toFloat
  | _ => none

/-- A list of values of one kind. -/
def asList? {α : Type} (read : Json → Option α) : Json → Option (List α)
  | .arr items => items.mapM read
  | _ => none

/-- An object as a table of values of one kind; the last value of a name wins. -/
def asTable? {α : Type} (read : Json → Option α) : Json → Option (Table α)
  | .obj fields =>
    (fields.mapM fun (f : String × Json) => (read f.2).map fun x => (f.1, x)).map Table.ofList
  | _ => none

/-- Null as nothing, and anything else as a value. -/
def asOption? {α : Type} (read : Json → Option α) : Json → Option (Option α)
  | .null => some none
  | v => (read v).map some

/-- The name of a choice without content: a string, or an object with this one name and null. -/
def asChoice? : Json → Option String
  | .str s => some s
  | .obj [(name, .null)] => some name
  | _ => none

/-- The fields of a name: nothing at all when there are several. -/
def uniqueField? (fields : List (String × Json)) (name : String) : Option (Option Json) :=
  match fields.filter (·.1 == name) with
  | [] => some none
  | [(_, v)] => some (some v)
  | _ => none

/-- The fields of a record, in the order of the given names, each of which may be missing. -/
def asRecord? (names : List String) : Json → Option (List (Option Json))
  | .obj fields => names.mapM (uniqueField? fields)
  | .arr items =>
    if items.length ≤ names.length then
      some (items.map some ++ List.replicate (names.length - items.length) none)
    else none
  | _ => none

/-- A field that must be there. -/
def required? {α : Type} (read : Json → Option α) : Option Json → Option α
  | some v => read v
  | none => none

/-- A field that may be missing. -/
def optional? {α : Type} (read : Json → Option α) (missing : α) : Option Json → Option α
  | some v => read v
  | none => some missing

end Critique.Json
