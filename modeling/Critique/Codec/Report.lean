import Critique.Json.Decode
import Critique.Report

/-!
# Reports as JSON

The JSON form of findings and reports, and the reader of each form.  The lists of a report may be
missing and are then empty.
-/

namespace Critique

open Json

/-- A severity is written as its name. -/
def Severity.toJson (s : Severity) : Json := .str s.name

/-- Only the exact names of severities are read. -/
def Severity.ofJson? (v : Json) : Option Severity :=
  v.asChoice?.bind Severity.ofName?

/-- A category is written as its name. -/
def Category.toJson (c : Category) : Json := .str c.name

/-- Any name is read; one that is not known is `other`. -/
def Category.ofJson? (v : Json) : Option Category :=
  v.asChoice?.map Category.ofName

/-- The JSON form of an issue. -/
def Issue.toJson (i : Issue) : Json :=
  .obj [("type", i.category.toJson), ("message", .str i.message), ("line", .nat i.line),
    ("severity", i.severity.toJson)]

/-- Read an issue. -/
def Issue.ofJson? (v : Json) : Option Issue := do
  match ← v.asRecord? ["type", "message", "line", "severity"] with
  | [category, message, line, severity] =>
    return {
      category := ← required? Category.ofJson? category
      message := ← required? asText? message
      line := ← required? asNat? line
      severity := ← required? Severity.ofJson? severity }
  | _ => none

/-- The JSON form of a suggestion. -/
def Suggestion.toJson (s : Suggestion) : Json :=
  .obj [("type", s.category.toJson), ("message", .str s.message), ("line", .nat s.line),
    ("example", .str s.sample)]

/-- Read a suggestion. -/
def Suggestion.ofJson? (v : Json) : Option Suggestion := do
  match ← v.asRecord? ["type", "message", "line", "example"] with
  | [category, message, line, sample] =>
    return {
      category := ← required? Category.ofJson? category
      message := ← required? asText? message
      line := ← required? asNat? line
      sample := ← required? asText? sample }
  | _ => none

/-- The JSON form of a metric. -/
def Metric.toJson (m : Metric) : Json :=
  .obj [("name", .str m.name), ("value", .float m.value), ("description", .str m.description)]

/-- Read a metric. -/
def Metric.ofJson? (v : Json) : Option Metric := do
  match ← v.asRecord? ["name", "value", "description"] with
  | [name, value, description] =>
    return {
      name := ← required? asText? name
      value := ← required? asFloat? value
      description := ← required? asText? description }
  | _ => none

/-- The JSON form of a report. -/
def Report.toJson (r : Report) : Json :=
  .obj [("issues", .arr (r.issues.map Issue.toJson)),
    ("suggestions", .arr (r.suggestions.map Suggestion.toJson)),
    ("metrics", .arr (r.metrics.map Metric.toJson))]

/-- Read a report. -/
def Report.ofJson? (v : Json) : Option Report := do
  match ← v.asRecord? ["issues", "suggestions", "metrics"] with
  | [issues, suggestions, metrics] =>
    return {
      issues := ← optional? (asList? Issue.ofJson?) [] issues
      suggestions := ← optional? (asList? Suggestion.ofJson?) [] suggestions
      metrics := ← optional? (asList? Metric.ofJson?) [] metrics }
  | _ => none

end Critique
