import Critique.Finding
import Critique.Text.Line
import Critique.Weights

/-!
# Code smells

Two things make a snippet smell: lines with more characters than allowed, and a complexity score
above a threshold.  The issues about lines come first, in the order of the lines, and the issue
about complexity is the last.
-/

namespace Critique

open Text

/-- What a snippet may have before it smells. -/
structure Limits where
  /-- Longer lines are reported. -/
  maxLineLength : UInt64 := 80
  /-- A score strictly above this is reported. -/
  complexityThreshold : Float := 0.7
  weights : Table Float := Weights.default
  deriving Inhabited

/-- The issue about a line that is too long. -/
def longLineIssue (maxLength line : Nat) : Issue where
  category := .style
  message := "Line exceeds recommended length of " ++ toString maxLength ++ " characters"
  line := line
  severity := .low

/-- The issue about a snippet that is too complex. -/
def complexityIssue : Issue where
  category := .complexity
  message := "High code complexity detected"
  line := 1
  severity := .medium

/-- One issue for each line with more than `maxLength` characters; the first line has the number
`start`. -/
def longLineIssues (maxLength start : Nat) : List (List Char) → List Issue
  | [] => []
  | l :: ls =>
    let rest := longLineIssues maxLength (start + 1) ls
    if maxLength < l.length then longLineIssue maxLength start :: rest else rest

/-- Is the snippet more complex than allowed? -/
def exceedsComplexity (limits : Limits) (code : String) : Bool :=
  limits.complexityThreshold < Weights.score limits.weights code

/-- The issues of a snippet. -/
def findSmells (limits : Limits) (code : String) : List Issue :=
  longLineIssues limits.maxLineLength.toNat 1 (lines code.toList) ++
    if exceedsComplexity limits code then [complexityIssue] else []

end Critique
