import Critique.Analyzer.Description
import Critique.Json.Decode

/-!
# Descriptions as JSON

A description is one flat object: its name, kind and version, and beside them the details.  A
reader takes every other name as a detail.
-/

namespace Critique

open Json

/-- The names of the fields that every description has. -/
def descriptionFields : List String := ["model_name", "model_type", "version"]

/-- The JSON form of a description. -/
def Description.toJson (d : Description) : Json :=
  .obj ([("model_name", .str d.name), ("model_type", .str d.kind), ("version", .str d.version)] ++
    d.details.entries.map fun (name, value) => (name, .str value))

/-- Read a description. -/
def Description.ofJson? : Json → Option Description
  | .obj fields => do
    let others := fields.filter fun (name, _) => !descriptionFields.contains name
    return {
      name := ← required? asText? (← uniqueField? fields "model_name")
      kind := ← required? asText? (← uniqueField? fields "model_type")
      version := ← required? asText? (← uniqueField? fields "version")
      details := ← asTable? asText? (.obj others) }
  | _ => none

end Critique
