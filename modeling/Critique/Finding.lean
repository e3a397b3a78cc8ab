import Critique.Text.Case

/-!
# Findings

What a review of a snippet can say about it: an `Issue` is a quality concern with a severity, a
`Suggestion` is an improvement with an example, and a `Metric` is a named measurement.  Issues and
suggestions carry a category and a line number that starts at one.
-/

namespace Critique

/-- How serious an issue is. -/
inductive Severity where
  | low
  | medium
  | high
  deriving Repr, DecidableEq, Inhabited

namespace Severity

/-- The place of a severity in the ascending order low, medium, high. -/
def rank : Severity → Nat
  | low => 0
  | medium => 1
  | high => 2

instance : LE Severity := ⟨fun a b => a.rank ≤ b.rank⟩

instance (a b : Severity) : Decidable (a ≤ b) := inferInstanceAs (Decidable (a.rank ≤ b.rank))

instance : Max Severity := ⟨fun a b => if a ≤ b then b else a⟩

/-- The name of a severity. -/
def name : Severity → String
  | low => "low"
  | medium => "medium"
  | high => "high"

/-- The severity with exactly this name. -/
def ofName? : String → Option Severity
  | "low" => some low
  | "medium" => some medium
  | "high" => some high
  | _ => none

/-- The severity that a user names, in upper or lower case. -/
def ofUserText? (text : String) : Option Severity :=
  ofName? (Text.lowerCase text)

/-- The complaint about a text that names no severity. -/
def unknownMessage (text : String) : String :=
  "unknown severity: " ++ text

end Severity

/-- What kind of concern a finding is about.  Kinds that only an outside model knows are `other`. -/
inductive Category where
  | style
  | complexity
  | improvement
  | other
  deriving Repr, DecidableEq, Inhabited

namespace Category

/-- The name of a category. -/
def name : Category → String
  | style => "style"
  | complexity => "complexity"
  | improvement => "improvement"
  | other => "other"

/-- The category with this name; an unknown name is `other`. -/
def ofName : String → Category
  | "style" => style
  | "complexity" => complexity
  | "improvement" => improvement
  | _ => other

end Category

/-- A detected quality concern. -/
structure Issue where
  category : Category
  message : String
  /-- The line that the issue is about, counted from one; one for the whole snippet. -/
  line : Nat
  severity : Severity
  deriving Repr, DecidableEq, Inhabited

/-- A suggested improvement, with a piece of code that shows it. -/
structure Suggestion where
  category : Category
  message : String
  line : Nat
  sample : String
  deriving Repr, DecidableEq, Inhabited

/-- A named measurement. -/
structure Metric where
  name : String
  value : Float
  description : String
  deriving Inhabited

/-- What identifies an issue: two issues that differ only in severity are the same concern. -/
def Issue.key (i : Issue) : Category × String × Nat :=
  (i.category, i.message, i.line)

/-- What identifies a suggestion: the sample does not matter. -/
def Suggestion.key (s : Suggestion) : Category × String × Nat :=
  (s.category, s.message, s.line)

end Critique
