import Critique.Decimal.Layout
import Critique.Smell
import Critique.Text.Blank
import Critique.Text.Quoted

/-!
# Settings

The settings of a review: the limits for code smells and, optionally, an outside model that is
asked as well.  `Settings.violation?` names the first rule that settings break, if they break one;
rules are checked in a fixed order, and weights in the ascending order of their keywords.
-/

namespace Critique

open Text

/-- How to reach an outside model. -/
structure ModelSettings where
  /-- The address that takes a snippet and answers with a report. -/
  endpoint : String
  modelName : String := "remote-classifier"
  /-- How long to wait for an answer, in milliseconds. -/
  timeoutMs : UInt64 := 10000
  deriving Repr, DecidableEq, Inhabited

/-- The settings of a review. -/
structure Settings extends Limits where
  model : Option ModelSettings := none
  deriving Inhabited

/-- The default settings. -/
def Settings.default : Settings := {}

/-- Equality of settings as their numbers compare: the two zeros are equal, and what is not a
number equals nothing. -/
instance : BEq Settings := ⟨fun a b =>
  a.maxLineLength == b.maxLineLength && a.complexityThreshold == b.complexityThreshold &&
    a.weights == b.weights && a.model == b.model⟩

/-- A rule that settings can break. -/
inductive Violation where
  | zeroLineLength
  | threshold (x : Float)
  | blankKeyword
  | weight (keyword : String) (x : Float)
  | blankEndpoint
  | zeroTimeout

namespace Violation

/-- The complaint about a broken rule. -/
def message : Violation → String
  | zeroLineLength => "max_line_length must be greater than 0"
  | threshold x =>
    "complexity_threshold must be between 0 and 1, got " ++ Decimal.sentence.render x
  | blankKeyword => "complexity_weights contains an empty keyword"
  | weight keyword x =>
    "complexity weight for " ++ quoted keyword ++ " must be a non-negative number, got " ++
      Decimal.sentence.render x
  | blankEndpoint => "model.endpoint must not be empty"
  | zeroTimeout => "model.timeout_ms must be greater than 0"

end Violation

/-- The rule that one weight breaks, if any: the keyword is looked at first. -/
def weightViolation? (entry : String × Float) : Option Violation :=
  if isAllBlank entry.1 then some .blankKeyword
  else if entry.2.isFinite && 0 ≤ entry.2 then none
  else some (.weight entry.1 entry.2)

/-- The rule that the model settings break, if any. -/
def ModelSettings.violation? (m : ModelSettings) : Option Violation :=
  if isAllBlank m.endpoint then some .blankEndpoint
  else if m.timeoutMs = 0 then some .zeroTimeout
  else none

/-- The first rule that the settings break, if any. -/
def Settings.violation? (s : Settings) : Option Violation :=
  if s.maxLineLength = 0 then some .zeroLineLength
  else if !(0 ≤ s.complexityThreshold && s.complexityThreshold ≤ 1) then
    some (.threshold s.complexityThreshold)
  else (s.weights.entries.findSome? weightViolation?).orElse fun _ =>
    s.model.bind ModelSettings.violation?

/-- The default settings satisfy all rules. -/
theorem Settings.violation?_default : Settings.default.violation? = none := by
  rw [← Option.isNone_iff_eq_none]
  decide +kernel

/-- The settings with the endpoint of the command line, if one is given there. -/
def Settings.withEndpoint (s : Settings) (endpoint : Option String) : Settings :=
  match endpoint, s.model with
  | none, _ => s
  | some url, some m => { s with model := some { m with endpoint := url } }
  | some url, none => { s with model := some { endpoint := url } }

end Critique
