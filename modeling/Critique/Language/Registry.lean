import Critique.Language.JavaScript
import Critique.Language.Python

/-!
# The registry of languages

All bundles in the order of their registration, the look-up of a bundle by language tag, and the
language that a file extension stands for.  On top of them, `extractFeatures` measures a snippet
and `suggestImprovements` collects the suggestions for it.
-/

namespace Critique

open Text

/-- All bundles, in the order of registration. -/
def bundles : List Bundle := [Python.bundle, JavaScript.bundle]

/-- The bundle of a language tag; upper and lower case do not matter. -/
def bundleFor? (tag : String) : Option Bundle :=
  bundles.find? (·.handlesLanguage (lowerCase tag))

theorem bundleFor?_of_python {tag : String} (h : lowerCase tag = "python") :
    bundleFor? tag = some Python.bundle := by
  rw [bundleFor?, h]
  rfl

theorem bundleFor?_of_javaScript {tag : String}
    (h : lowerCase tag = "javascript" ∨ lowerCase tag = "typescript") :
    bundleFor? tag = some JavaScript.bundle := by
  rw [bundleFor?]
  rcases h with h | h
  · rw [h]
    rfl
  · rw [h]
    rfl

/-- All language tags that some bundle handles. -/
def supportedLanguages : List String :=
  bundles.flatMap (·.tags)

/-- All file extensions that some bundle handles. -/
def supportedExtensions : List String :=
  bundles.flatMap (·.extensions)

/-- The extensions of each language, without the dot. -/
def extensionsByLanguage : List (String × List String) := [
  ("python", ["py", "pyi"]),
  ("javascript", ["js", "jsx", "mjs", "cjs"]),
  ("typescript", ["ts", "tsx", "mts"])]

/-- The language that a file extension stands for; upper and lower case do not matter. -/
def languageOfExtension? (ext : String) : Option String :=
  (extensionsByLanguage.find? fun (_, exts) => exts.contains (lowerCase ext)).map (·.1)

/-- Measure a snippet: the base features, and those of its language if there is a bundle for it. -/
def extractFeatures (code language : String) : FeatureSet where
  length := code.toList.length
  numLines := (lines code.toList).length
  tokens := tokenize code
  language := language
  extra :=
    match bundleFor? language with
    | some b => b.extract code.toList
    | none => .empty

/-- The suggestions for a snippet; none for a language without a bundle. -/
def suggestImprovements (code language : String) : List Suggestion :=
  match bundleFor? language with
  | some b => b.suggest code.toList (extractFeatures code language)
  | none => []

theorem get?_extractFeatures {tag : String} {b : Bundle} (h : bundleFor? tag = some b)
    (code name : String) :
    (extractFeatures code tag).get? name = (b.extract code.toList).get? name := by
  simp only [FeatureSet.get?, extractFeatures, h]

theorem suggestImprovements_of_bundle {tag : String} {b : Bundle} (h : bundleFor? tag = some b)
    (code : String) :
    suggestImprovements code tag = b.suggest code.toList (extractFeatures code tag) := by
  simp only [suggestImprovements, h]

end Critique
