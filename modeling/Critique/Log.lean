import Critique.Decimal.Layout

/-!
# Log entries

What a run can tell about itself while it works.  An entry has a level, a message and named fields;
how talkative a run is decides which levels are shown.
-/

namespace Critique

/-- How important a log entry is. -/
inductive Level where
  | warn
  | info
  | debug
  deriving Repr, DecidableEq, Inhabited

namespace Level

/-- The name of a level. -/
def name : Level → String
  | warn => "WARN"
  | info => "INFO"
  | debug => "DEBUG"

/-- Is the level shown to a user who asked that many times for more? -/
def isShown (verbosity : Nat) : Level → Bool
  | warn => true
  | info => 1 ≤ verbosity
  | debug => 2 ≤ verbosity

end Level

/-- One log entry. -/
structure LogEntry where
  level : Level
  message : String
  /-- The fields in order, with their values as text. -/
  fields : List (String × String) := []
  deriving Repr, DecidableEq, Inhabited

namespace LogEntry

/-- An entry as one line, without a time. -/
def line (e : LogEntry) : String :=
  e.fields.foldl (fun line (name, value) => line ++ " " ++ name ++ "=" ++ value)
    (e.level.name ++ " " ++ e.message)

/-- The layout of numbers in log entries. -/
def layout : Decimal.Layout where
  positional e := -4 ≤ e && e ≤ 15
  tie := .up
  keepPoint := true
  plus := false
  infinity := "inf"
  negativeInfinity := "-inf"
  nan := "NaN"

end LogEntry

end Critique
