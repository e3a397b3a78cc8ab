import Critique.Feature
import Critique.Json.Decode

/-!
# Features as JSON

A feature set is one flat object: the base features under their names, and beside them the
features that the language adds.  A reader takes every name that is not a base feature as such a
feature.  A value is read as the first kind that fits: a flag, a count, a ratio or a text.
-/

namespace Critique

open Json

/-- The JSON form of a feature value. -/
def FeatureValue.toJson : FeatureValue → Json
  | .flag on => .bool on
  | .count n => .nat n
  | .ratio x => .float x
  | .text s => .str s

/-- Read a feature value. -/
def FeatureValue.ofJson? : Json → Option FeatureValue
  | .bool on => some (.flag on)
  | .num (.natural n) => some (.count n)
  | .num n => some (.ratio n.toFloat)
  | .str s => some (.text s)
  | _ => none

/-- The JSON form of a feature set. -/
def FeatureSet.toJson (f : FeatureSet) : Json :=
  .obj ([("length", .nat f.length), ("num_lines", .nat f.numLines),
      ("tokens", .arr (f.tokens.map .str)), ("language", .str f.language)] ++
    f.extra.entries.map fun (name, value) => (name, value.toJson))

/-- Read a feature set. -/
def FeatureSet.ofJson? : Json → Option FeatureSet
  | .obj fields => do
    let base := fun name => uniqueField? fields name
    let others := fields.filter fun (name, _) => !baseFeatures.contains name
    return {
      length := ← required? asNat? (← base "length")
      numLines := ← required? asNat? (← base "num_lines")
      tokens := ← required? (asList? asText?) (← base "tokens")
      language := ← required? asText? (← base "language")
      extra := ← asTable? FeatureValue.ofJson? (.obj others) }
  | _ => none

end Critique
