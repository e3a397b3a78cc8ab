import Critique.Table
import Critique.Text.Line
import Critique.Token

/-!
# Features

The `FeatureSet` of a snippet holds four measurements that every snippet has, its length in
characters, its number of lines, its tokens and its language tag, together with the features that
its language adds, keyed by name.
-/

namespace Critique

/-- The value of a feature that a language adds. -/
inductive FeatureValue where
  | flag (on : Bool)
  | count (n : Nat)
  | ratio (x : Float)
  | text (s : String)
  deriving Inhabited

namespace FeatureValue

/-- The flag, if the value is one. -/
def asFlag? : FeatureValue → Option Bool
  | flag on => some on
  | _ => none

/-- The count, if the value is one. -/
def asCount? : FeatureValue → Option Nat
  | count n => some n
  | _ => none

end FeatureValue

/-- The names of the features that every snippet has. -/
def baseFeatures : List String := ["length", "num_lines", "tokens", "language"]

/-- What is measured about one snippet. -/
structure FeatureSet where
  /-- The number of characters. -/
  length : Nat
  numLines : Nat
  tokens : List String
  /-- The language tag as it was given. -/
  language : String
  /-- The features that the language adds. -/
  extra : Table FeatureValue
  deriving Inhabited

namespace FeatureSet

/-- The value of a feature that the language adds. -/
def get? (f : FeatureSet) (name : String) : Option FeatureValue :=
  f.extra.get? name

/-- A flag; off when there is none of this name. -/
def flag (f : FeatureSet) (name : String) : Bool :=
  ((f.get? name).bind FeatureValue.asFlag?).getD false

theorem flag_of_get? {f : FeatureSet} {name : String} {on : Bool}
    (h : f.get? name = some (.flag on)) : f.flag name = on := by
  simp [flag, h, FeatureValue.asFlag?]

/-- A count; zero when there is none of this name. -/
def count (f : FeatureSet) (name : String) : Nat :=
  ((f.get? name).bind FeatureValue.asCount?).getD 0

/-- All feature names, those that every snippet has first. -/
def keys (f : FeatureSet) : List String :=
  baseFeatures ++ f.extra.names

/-- Did the language add features? -/
def hasLanguageFeatures (f : FeatureSet) : Bool :=
  !f.extra.isEmpty

end FeatureSet

end Critique
