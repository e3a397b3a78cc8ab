import Critique.Language.Bundle
import Critique.Text.Case
import Critique.Text.Search

/-!
# JavaScript and TypeScript

Both languages share one bundle.  The features of a text are whether a colon is followed by a
word, as in a type annotation, how often the word `function` stands alone or an arrow occurs, how
often the word `class` stands alone, and whether the word `async` does.  A text that works with
promises and has no `async` gets the suggestion to use it.
-/

namespace Critique.JavaScript

open Text

/-- Does the text start with a colon and, after any white space, a word character? -/
def typedAt : List Char → Bool
  | ':' :: rest => wordAhead (rest.dropWhile isBlank)
  | _ => false

/-- Is some colon followed by a word? -/
def hasTypes (text : List Char) : Bool :=
  anySuffix typedAt text

/-- The number of function keywords and arrows. -/
def countFunctions (text : List Char) : Nat :=
  countDelimited "function".toList text + countSign "=>".toList text

/-- Does the word `async` stand alone somewhere? -/
def usesAsync (text : List Char) : Bool :=
  0 < countDelimited "async".toList text

/-- Does the text look as if it works with promises? -/
def usesPromises (text : List Char) : Bool :=
  contains "fetch".toList text || contains "promise".toList (text.flatMap lowerChar)

/-- The features of a JavaScript or TypeScript text. -/
def extract (text : List Char) : Table FeatureValue :=
  .ofList [
    ("has_types", .flag (hasTypes text)),
    ("num_functions", .count (countFunctions text)),
    ("num_classes", .count (countDelimited "class".toList text)),
    ("uses_async", .flag (usesAsync text))]

/-- The suggestion to use asynchronous functions. -/
def asyncSuggestion : Suggestion where
  category := .improvement
  message := "Consider using async/await for better promise handling"
  line := 1
  sample := "async function getData() \x7b\n  const response = await fetch(url);\n\x7d"

/-- Suggest asynchronous functions for a text with promises, unless the features say that there
are some. -/
def suggest (text : List Char) (features : FeatureSet) : List Suggestion :=
  if !features.flag "uses_async" && usesPromises text then [asyncSuggestion] else []

/-- What the review knows about JavaScript and TypeScript. -/
def bundle : Bundle where
  tags := ["javascript", "typescript"]
  extensions := ["js", "jsx", "mjs", "cjs", "ts", "tsx", "mts"]
  extract := extract
  suggest := suggest

end Critique.JavaScript
