import Critique.Language.Registry
import Critique.Log
import Critique.Report
import Critique.Settings

/-!
# The review of a snippet

`review` puts the pieces together: the code smells, the suggestions for the language, and the
complexity score as a metric.  It answers for every text and every language tag.  `reviewLog` is
what a review tells about itself.
-/

namespace Critique

open Text

/-- The metric that a review reports for a complexity score. -/
def complexityMetric (score : Float) : Metric where
  name := "complexity"
  value := score
  description := "Code complexity score (0-1)"

/-- Review a snippet. -/
def review (settings : Settings) (code language : String) : Report where
  issues := findSmells settings.toLimits code
  suggestions := suggestImprovements code language
  metrics := [complexityMetric (Weights.score settings.weights code)]

/-- The log of a review. -/
def reviewLog (settings : Settings) (code language : String) : List LogEntry :=
  let report := review settings code language
  let features := extractFeatures code language
  let complexity := ("complexity", LogEntry.layout.render (Weights.score settings.weights code))
  let language := ("language", quoted language)
  (if exceedsComplexity settings.toLimits code then
    [⟨.debug, "snippet exceeds complexity threshold", [complexity]⟩] else []) ++
  [⟨.debug, "extracted features",
      [language, ("tokens", toString features.tokens.length),
        ("extra", toString features.extra.size)]⟩,
    ⟨.debug, "heuristic analysis complete",
      [language, ("issues", toString report.issues.length),
        ("suggestions", toString report.suggestions.length), complexity]⟩]

end Critique
