import Critique.Settings
import Critique.Yaml.Printer

/-!
# Settings as YAML

The form of settings in a file.  Every field may be missing and has then its default, except the
endpoint of a model.  A text without anything but white space, and a document without anything in
it, are the default settings.

A mapping may not have a known field twice.  A repeated keyword in the weights is no error: its last
weight counts.  Fields that are not known are ignored.  Numbers must be written plainly, and a text
is taken from a scalar of any style.
-/

namespace Critique

namespace Yaml

/-- The tag that marks a standard kind of scalar. -/
def standardTag (kind : String) : String :=
  "tag:yaml.org,2002:" ++ kind

/-- The text of a scalar that may be read as a value of the given kind: a plain scalar, or a literal
block with the tag of that kind. -/
def Node.bare? (kind : String) : Node → Option String
  | .scalar text .plain _ => some text
  | .scalar text .literal tag => if tag = some (standardTag kind) then some text else none
  | _ => none

namespace Document

/-- The text of a scalar. -/
def text? (d : Document) (n : Node) : Option String :=
  match d.resolve? n with
  | some (.scalar text _ _) => some text
  | _ => none

/-- A whole number of 64 bits. -/
def word? (d : Document) (n : Node) : Option UInt64 := do
  let text ← (← d.resolve? n).bare? "int"
  (natural? (Nat.pow 2 64) text.toList).map UInt64.ofNat

/-- A floating-point number. -/
def float? (d : Document) (n : Node) : Option Float := do
  let text ← (← d.resolve? n).bare? "float"
  Yaml.float? text.toList

/-- The pairs of a mapping.  What is empty is a mapping without pairs. -/
def pairs? (d : Document) (n : Node) : Option (List (Node × Node)) :=
  match d.resolve? n with
  | some (.map pairs) => some pairs
  | some (.scalar "" .plain _) => some []
  | _ => none

/-- The fields of a mapping, by the texts of their keys. -/
def fields? (d : Document) (n : Node) : Option (List (String × Node)) := do
  (← d.pairs? n).mapM fun (p : Node × Node) => (d.text? p.1).map fun key => (key, p.2)

/-- A field that may be missing but not repeated. -/
def field? {α : Type} (fields : List (String × Node)) (name : String) (read : Node → Option α) :
    Option (Option α) :=
  match fields.filter (·.1 == name) with
  | [] => some none
  | [(_, n)] => (read n).map some
  | _ => none

/-- A node that may say that there is nothing. -/
def option? {α : Type} (d : Document) (read : Node → Option α) (n : Node) : Option (Option α) :=
  match d.resolve? n with
  | some (.scalar text .plain none) =>
    if text.isEmpty || isNull text then some none else (read n).map some
  | some (.scalar text .plain (some tag)) =>
    if tag = standardTag "null" then (if isNull text then some none else none)
    else (read n).map some
  | _ => (read n).map some

end Document

end Yaml

open Yaml

/-! ## Reading -/

/-- Read a weight table. -/
def weightsOfYaml? (d : Document) (n : Yaml.Node) : Option (Table Float) := do
  let fields ← d.fields? n
  let entries ← fields.mapM fun (f : String × Yaml.Node) => (d.float? f.2).map fun x => (f.1, x)
  return Table.ofList entries

/-- Read model settings. -/
def ModelSettings.ofYaml? (d : Document) (n : Yaml.Node) : Option ModelSettings := do
  let fields ← d.fields? n
  let endpoint ← Document.field? fields "endpoint" d.text?
  let modelName ← Document.field? fields "model_name" d.text?
  let timeoutMs ← Document.field? fields "timeout_ms" d.word?
  let unset : ModelSettings := { endpoint := ← endpoint }
  return { unset with
    modelName := modelName.getD unset.modelName
    timeoutMs := timeoutMs.getD unset.timeoutMs }

/-- Read settings from the root of a document. -/
def Settings.ofNode? (d : Document) (n : Yaml.Node) : Option Settings := do
  let fields ← d.fields? n
  let maxLineLength ← Document.field? fields "max_line_length" d.word?
  let complexityThreshold ← Document.field? fields "complexity_threshold" d.float?
  let weights ← Document.field? fields "complexity_weights" (weightsOfYaml? d)
  let model ← Document.field? fields "model" (d.option? (ModelSettings.ofYaml? d))
  let unset := Settings.default
  return {
    maxLineLength := maxLineLength.getD unset.maxLineLength
    complexityThreshold := complexityThreshold.getD unset.complexityThreshold
    weights := weights.getD unset.weights
    model := model.getD unset.model }

/-- Read settings from a document. -/
def Settings.ofDocument? (d : Document) : Option Settings :=
  Settings.ofNode? d (d.root.getD .missing)

/-- Read settings from a text. -/
def Settings.ofYaml? (text : String) : Option Settings :=
  if Text.isAllBlank text then some Settings.default
  else (Document.parse? text).bind Settings.ofDocument?

/-! ## Writing -/

/-- The tree of a weight table. -/
def weightsToYaml (w : Table Float) : Yaml.Node :=
  .map (w.entries.map fun (keyword, x) => (.ofText keyword, .ofFloat x))

/-- The tree of model settings. -/
def ModelSettings.toNode (m : ModelSettings) : Yaml.Node :=
  .map [(.ofText "endpoint", .ofText m.endpoint), (.ofText "model_name", .ofText m.modelName),
    (.ofText "timeout_ms", .ofNat m.timeoutMs.toNat)]

/-- The tree of settings. -/
def Settings.toNode (s : Settings) : Yaml.Node :=
  .map ([(.ofText "max_line_length", .ofNat s.maxLineLength.toNat),
      (.ofText "complexity_threshold", .ofFloat s.complexityThreshold),
      (.ofText "complexity_weights", weightsToYaml s.weights)] ++
    match s.model with
    | some m => [(.ofText "model", m.toNode)]
    | none => [])

/-- The text of settings. -/
def Settings.toYaml (s : Settings) : String :=
  s.toNode.render

end Critique
