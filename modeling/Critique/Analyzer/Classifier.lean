import Critique.Analyzer.Failure
import Critique.Log
import Critique.Report
import Critique.Table
import Critique.Text.Blank

/-!
# Classifiers

A classifier is an outside source of reports: it takes a snippet with its language and answers with
a report or fails.  `preprocess` is the form in which a snippet is handed to a model.
-/

namespace Critique

/-- An outside source of reports. -/
structure Classifier where
  name : String
  /-- What it tells about itself besides its name. -/
  details : Table String := .empty
  /-- Its answer for a snippet and a language. -/
  classify : (code language : String) → Except Failure Report
  /-- What is logged when it is asked about a snippet in a language. -/
  log : (language : String) → List LogEntry := fun _ => []

/-- A snippet as it is handed to a model: without the white space around it, and marked as code. -/
def preprocess (code : String) : String :=
  "<code>" ++ Text.trim code ++ "</code>"

end Critique
