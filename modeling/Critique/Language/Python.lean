import Critique.Language.Bundle
import Critique.Text.Search

/-!
# Python

The features of a Python text are whether some function header annotates a parameter, whether
there are triple quotes, and how often the words `def` and `class` stand alone.  A text without
an annotated header gets the suggestion to add type hints.
-/

namespace Critique.Python

open Text

/-- Does the text start with a colon, one space and a word character? -/
def annotationAt : List Char → Bool
  | ':' :: ' ' :: c :: _ => isWord c
  | _ => false

/-- Are these the parameters and the closing parenthesis of an annotated header?  The first
closing parenthesis must come before any line feed, and an annotation before it. -/
def annotatedParameters (text : List Char) : Bool :=
  let inner := text.takeWhile fun c => c != ')' && c != '\n'
  startsWith [')'] (text.drop inner.length) && anySuffix annotationAt inner

/-- Does a function header with an annotated parameter start here?  It is `def`, a space, a
name, and the parameters in parentheses. -/
def annotatedHeaderAt : List Char → Bool
  | 'd' :: 'e' :: 'f' :: ' ' :: rest =>
    match rest.takeWhile isWord, rest.dropWhile isWord with
    | _ :: _, '(' :: parameters => annotatedParameters parameters
    | _, _ => false
  | _ => false

/-- Is there a function header with an annotated parameter? -/
def hasTypeHints (text : List Char) : Bool :=
  anySuffix annotatedHeaderAt text

/-- Are there triple quotes of either kind? -/
def hasDocstrings (text : List Char) : Bool :=
  contains "\"\"\"".toList text || contains "'''".toList text

/-- The features of a Python text. -/
def extract (text : List Char) : Table FeatureValue :=
  .ofList [
    ("has_type_hints", .flag (hasTypeHints text)),
    ("has_docstrings", .flag (hasDocstrings text)),
    ("num_functions", .count (countDelimited "def".toList text)),
    ("num_classes", .count (countDelimited "class".toList text))]

/-- The suggestion to annotate parameters. -/
def typeHintSuggestion : Suggestion where
  category := .improvement
  message := "Consider adding type hints for better code readability"
  line := 1
  sample := "def function(param: str) -> str:"

/-- Suggest type hints unless the features say that there are some. -/
def suggest (_text : List Char) (features : FeatureSet) : List Suggestion :=
  if features.flag "has_type_hints" then [] else [typeHintSuggestion]

/-- What the review knows about Python. -/
def bundle : Bundle where
  tags := ["python"]
  extensions := ["py", "pyi"]
  extract := extract
  suggest := suggest

end Critique.Python
