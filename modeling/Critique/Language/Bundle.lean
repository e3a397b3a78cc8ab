import Critique.Feature
import Critique.Finding

/-!
# Language bundles

What the review knows about a family of languages: the tags and file extensions that belong to
it, how its features are measured, and which improvements it suggests.  All of it works on the
surface of the text; nothing is parsed.
-/

namespace Critique

/-- The knowledge about one family of languages. -/
structure Bundle where
  /-- The language tags of the family, in lower case. -/
  tags : List String
  /-- The file extensions of the family, in lower case and without the dot. -/
  extensions : List String
  /-- Measure the features of a text. -/
  extract : List Char → Table FeatureValue
  /-- Suggest improvements for a text with the given features. -/
  suggest : List Char → FeatureSet → List Suggestion

namespace Bundle

/-- Is this lower-case tag one of the family? -/
def handlesLanguage (b : Bundle) (tag : String) : Bool :=
  b.tags.contains tag

/-- Is this extension one of the family? -/
def handlesExtension (b : Bundle) (ext : String) : Bool :=
  b.extensions.contains ext

end Bundle

end Critique
