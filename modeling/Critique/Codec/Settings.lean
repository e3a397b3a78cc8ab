import Critique.Json.Decode
import Critique.Settings

/-!
# Settings as JSON

The JSON form of settings.  Every field may be missing and has then its default, except the
endpoint of a model; settings without a model are written without the field.
-/

namespace Critique

open Json

/-- Read a number of 64 bits. -/
def asWord? (v : Json) : Option UInt64 :=
  (asNat? v).map UInt64.ofNat

/-- The JSON form of a weight table. -/
def weightsToJson (w : Table Float) : Json := .ofTable .float w

/-- Read a weight table. -/
def weightsOfJson? (v : Json) : Option (Table Float) := v.asTable? asFloat?

/-- The JSON form of model settings. -/
def ModelSettings.toJson (m : ModelSettings) : Json :=
  .obj [("endpoint", .str m.endpoint), ("model_name", .str m.modelName),
    ("timeout_ms", .nat m.timeoutMs.toNat)]

/-- Read model settings. -/
def ModelSettings.ofJson? (v : Json) : Option ModelSettings := do
  match ← v.asRecord? ["endpoint", "model_name", "timeout_ms"] with
  | [endpoint, modelName, timeoutMs] =>
    let endpoint ← required? asText? endpoint
    let unset : ModelSettings := { endpoint }
    return {
      endpoint
      modelName := ← optional? asText? unset.modelName modelName
      timeoutMs := ← optional? asWord? unset.timeoutMs timeoutMs }
  | _ => none

/-- The JSON form of settings. -/
def Settings.toJson (s : Settings) : Json :=
  .obj ([("max_line_length", .nat s.maxLineLength.toNat),
      ("complexity_threshold", .float s.complexityThreshold),
      ("complexity_weights", weightsToJson s.weights)] ++
    match s.model with
    | some m => [("model", m.toJson)]
    | none => [])

/-- Read limits for code smells from the fields of their record. -/
def Limits.ofFields? (lineLength threshold weights : Option Json) : Option Limits := do
  let unset : Limits := {}
  return {
    maxLineLength := ← optional? asWord? unset.maxLineLength lineLength
    complexityThreshold := ← optional? asFloat? unset.complexityThreshold threshold
    weights := ← optional? weightsOfJson? unset.weights weights }

/-- Read settings. -/
def Settings.ofJson? (v : Json) : Option Settings := do
  let names := ["max_line_length", "complexity_threshold", "complexity_weights", "model"]
  match ← v.asRecord? names with
  | [lineLength, threshold, weights, model] =>
    return {
      toLimits := ← Limits.ofFields? lineLength threshold weights
      model := ← optional? (asOption? ModelSettings.ofJson?) none model }
  | _ => none

end Critique
