import Critique.Codec.Report
import Critique.FileReport

/-!
# Reports about files as JSON
-/

namespace Critique

open Json

/-- The JSON form of the report about one input. -/
def FileReport.toJson (f : FileReport) : Json :=
  .obj [("path", .str f.path), ("language", .str f.language), ("report", f.report.toJson)]

/-- Read the report about one input. -/
def FileReport.ofJson? (v : Json) : Option FileReport := do
  match ← v.asRecord? ["path", "language", "report"] with
  | [path, language, report] =>
    return {
      path := ← required? asText? path
      language := ← required? asText? language
      report := ← required? Report.ofJson? report }
  | _ => none

/-- The JSON form of the report of a run. -/
def RunReport.toJson (r : RunReport) : Json :=
  .obj [("version", .str r.version), ("files_analyzed", .nat r.filesAnalyzed),
    ("total_issues", .nat r.totalIssues), ("total_suggestions", .nat r.totalSuggestions),
    ("files", .arr (r.files.map FileReport.toJson))]

/-- Read the report of a run. -/
def RunReport.ofJson? (v : Json) : Option RunReport := do
  match ← v.asRecord?
      ["version", "files_analyzed", "total_issues", "total_suggestions", "files"] with
  | [version, filesAnalyzed, totalIssues, totalSuggestions, files] =>
    return {
      version := ← required? asText? version
      filesAnalyzed := ← required? asNat? filesAnalyzed
      totalIssues := ← required? asNat? totalIssues
      totalSuggestions := ← required? asNat? totalSuggestions
      files := ← required? (asList? FileReport.ofJson?) files }
  | _ => none

end Critique
