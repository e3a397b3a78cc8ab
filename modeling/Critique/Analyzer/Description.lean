import Critique.Table

/-!
# Descriptions of analyzers

An analyzer describes itself with a name, a kind, a version and further details by name.
-/

namespace Critique

/-- The version of this program. -/
def version : String := "0.1.0"

/-- How an analyzer describes itself. -/
structure Description where
  name : String
  kind : String
  version : String := Critique.version
  details : Table String
  deriving Inhabited

/-- The description of an analyzer that runs a primary one, and a secondary one if there is one.
It has the name, the version and the details of the primary one; the details of the secondary one
are added under names that start with `secondary.` and are not taken. -/
def Description.layer (primary : Description) (secondary : Option Description) : Description :=
  let details := primary.details.insert "primary" primary.name
  { primary with
    kind := "composite"
    details :=
      match secondary with
      | none => details
      | some s =>
        s.details.entries.foldl (fun ds (key, value) => ds.insertNew ("secondary." ++ key) value)
          (details.insert "secondary" s.name) }

end Critique
