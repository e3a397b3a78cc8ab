import Critique.Finding

/-!
# Reports

A `Report` is the outcome of reviewing one snippet: issues, suggestions and metrics, each in the
order in which they were found.

`merge` layers a second report over a first one.  What the first report holds stays as it is and
comes first.  An issue or a suggestion of the second report is added unless one with the same key
is there already, and a metric of the second report is always added, under the name `model.` and
its own when its own name is taken.
-/

namespace Critique

/-- The outcome of reviewing one snippet. -/
structure Report where
  issues : List Issue := []
  suggestions : List Suggestion := []
  metrics : List Metric := []
  deriving Inhabited

/-- Append the elements of `new` whose key has not been seen, in order. -/
def appendNew {α κ : Type} [DecidableEq κ] (key : α → κ) (held new : List α) : List α :=
  new.foldl (fun held x => if held.any (fun h => key h = key x) then held else held ++ [x]) held

namespace Report

/-- The report that says nothing. -/
def empty : Report := {}

/-- The first metric of a name. -/
def metric? (r : Report) (name : String) : Option Metric :=
  r.metrics.find? (·.name == name)

/-- The name under which a metric is added to metrics that are there already. -/
def freshName (held : List Metric) (name : String) : String :=
  if held.any (·.name == name) then "model." ++ name else name

/-- Append metrics one after another, each under a fresh name. -/
def appendMetrics (held new : List Metric) : List Metric :=
  new.foldl (fun held m => held ++ [{ m with name := freshName held m.name }]) held

/-- Layer a second report over a first one. -/
def merge (first second : Report) : Report where
  issues := appendNew Issue.key first.issues second.issues
  suggestions := appendNew Suggestion.key first.suggestions second.suggestions
  metrics := appendMetrics first.metrics second.metrics

/-- The greatest severity of an issue, if there is an issue. -/
def maxSeverity? (r : Report) : Option Severity :=
  (r.issues.map (·.severity)).max?

/-- Is there an issue of at least this severity? -/
def hasIssuesAt (r : Report) (s : Severity) : Bool :=
  r.issues.any (fun i => s ≤ i.severity)

/-- Are there neither issues nor suggestions? -/
def isClean (r : Report) : Bool :=
  r.issues.isEmpty && r.suggestions.isEmpty

end Report

end Critique
