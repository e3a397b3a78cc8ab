import Critique.Analyzer.Description
import Critique.Report

/-!
# Reports about files

A `FileReport` is the report about one input with its path and its language.  A `RunReport` is what
a run over several inputs gives: their reports, with totals.
-/

namespace Critique

/-- The report about one input. -/
structure FileReport where
  path : String
  language : String
  report : Report
  deriving Inhabited

/-- The number of issues in all reports. -/
def totalIssues (files : List FileReport) : Nat :=
  files.foldr (fun f n => f.report.issues.length + n) 0

/-- The number of suggestions in all reports. -/
def totalSuggestions (files : List FileReport) : Nat :=
  files.foldr (fun f n => f.report.suggestions.length + n) 0

/-- The reports of a run, with totals. -/
structure RunReport where
  version : String
  filesAnalyzed : Nat
  totalIssues : Nat
  totalSuggestions : Nat
  files : List FileReport
  deriving Inhabited

/-- The report of a run over the given inputs. -/
def RunReport.ofFiles (files : List FileReport) : RunReport where
  version := Critique.version
  filesAnalyzed := files.length
  totalIssues := Critique.totalIssues files
  totalSuggestions := Critique.totalSuggestions files
  files := files

end Critique
