import Critique.Json.Decode

/-!
# Training data

Labelled snippets and the options of a training, with their JSON forms.
-/

namespace Critique

open Json

/-- A labelled snippet. -/
structure TrainingSample where
  code : String
  language : String := ""
  label : Int
  deriving Repr, DecidableEq, Inhabited

/-- The options of a training. -/
structure TrainingOptions where
  epochs : Nat := 3
  batchSize : Nat := 16
  learningRate : Float := 2e-5
  deriving Inhabited

/-- The JSON form of a whole number. -/
def intToJson (n : Int) : Json :=
  match n with
  | .ofNat n => .nat n
  | .negSucc n => .num (.negative (n + 1))

/-- The JSON form of a labelled snippet. -/
def TrainingSample.toJson (s : TrainingSample) : Json :=
  .obj [("code", .str s.code), ("language", .str s.language), ("label", intToJson s.label)]

/-- Read a labelled snippet; the language may be missing. -/
def TrainingSample.ofJson? (v : Json) : Option TrainingSample := do
  match ← v.asRecord? ["code", "language", "label"] with
  | [code, language, label] =>
    return {
      code := ← required? asText? code
      language := ← optional? asText? "" language
      label := ← required? asInt? label }
  | _ => none

/-- The JSON form of training options. -/
def TrainingOptions.toJson (o : TrainingOptions) : Json :=
  .obj [("epochs", .nat o.epochs), ("batch_size", .nat o.batchSize),
    ("learning_rate", .float o.learningRate)]

/-- Read training options. -/
def TrainingOptions.ofJson? (v : Json) : Option TrainingOptions := do
  match ← v.asRecord? ["epochs", "batch_size", "learning_rate"] with
  | [epochs, batchSize, learningRate] =>
    return {
      epochs := ← required? asNat? epochs
      batchSize := ← required? asNat? batchSize
      learningRate := ← required? asFloat? learningRate }
  | _ => none

end Critique
