import Critique.Decimal.Fixed
import Critique.Display.Styled
import Critique.FileReport
import Critique.Text.Line

/-!
# Reports for people

The page that shows the reports of a run to a person: a header, each file with its issues,
suggestions and metrics, and a summary.
-/

namespace Critique.Display

/-! ## Findings -/

/-- The tag in front of an issue. -/
def severityTag : Severity → Piece
  | .high => tinted .red "HIGH"
  | .medium => tinted .yellow "MED "
  | .low => tinted .blue "LOW "

/-- The line that heads a finding: its tag, its category and its line. -/
def findingHead (tag : Piece) (category : Category) (line : Nat) : List Piece :=
  [.plain "    ", tag, .plain "    ", dimmed (padded 12 category.name),
    dimmed ("line " ++ toString line), .plain "\n"]

/-- One issue. -/
def issuePieces (i : Issue) : List Piece :=
  findingHead (severityTag i.severity) i.category i.line ++
    [.plain ("            " ++ i.message ++ "\n\n")]

/-- One line of a sample. -/
def sampleLine (line : String) : List Piece :=
  [.plain "              ", tinted .green line, .plain "\n"]

/-- One suggestion, with the lines of its sample. -/
def suggestionPieces (s : Suggestion) : List Piece :=
  findingHead (tinted .cyan "HINT") s.category s.line ++
    [.plain ("            " ++ s.message ++ "\n")] ++
    (Text.textLines s.sample).flatMap sampleLine ++ [.plain "\n"]

/-- The colour of a measured value: the greater, the worse. -/
def valueColour (x : Float) : Colour :=
  if x ≤ 0.3 then .green else if x ≤ 0.7 then .yellow else .red

/-- One metric. -/
def metricPieces (m : Metric) : List Piece :=
  [.plain ("    " ++ padded 20 m.name ++ " "),
    tinted (valueColour m.value) (Decimal.fixed 2 m.value), .plain "  ", dimmed m.description,
    .plain "\n"]

/-! ## Files -/

/-- A heading with the number of what follows. -/
def heading (title : String) (count : Nat) : List Piece :=
  [.plain "  ", bold title, .plain (" (" ++ toString count ++ "):\n\n")]

/-- The issues of a report, if there are any. -/
def issuesSection (issues : List Issue) : List Piece :=
  if issues.isEmpty then []
  else heading "Issues" issues.length ++ issues.flatMap issuePieces

/-- The suggestions of a report, if there are any. -/
def suggestionsSection (suggestions : List Suggestion) : List Piece :=
  if suggestions.isEmpty then []
  else heading "Suggestions" suggestions.length ++ suggestions.flatMap suggestionPieces

/-- The metrics of a report, if there are any. -/
def metricsSection (metrics : List Metric) : List Piece :=
  if metrics.isEmpty then []
  else [.plain "  ", bold "Metrics:", .plain "\n"] ++ metrics.flatMap metricPieces ++ [.plain "\n"]

/-- What is shown of a report without findings. -/
def cleanSection (r : Report) : List Piece :=
  if r.isClean then [.plain "    ", tinted .green "✓ no issues or suggestions", .plain "\n\n"]
  else []

/-- One file with its report. -/
def filePieces (f : FileReport) : List Piece :=
  [.plain "  ", boldTinted .blue f.path, .plain "  ", dimmed ("(" ++ f.language ++ ")"),
    .plain "\n\n"] ++
  cleanSection f.report ++ issuesSection f.report.issues ++
    suggestionsSection f.report.suggestions ++ metricsSection f.report.metrics

/-! ## The page -/

/-- The totals at the end. -/
def summary (files : List FileReport) : List Piece :=
  let plural := if files.length == 1 then "" else "s"
  let issues := totalIssues files
  [.plain "  ", dimmed ("Analyzed " ++ toString files.length ++ " file" ++ plural),
    .plain "  Issues: ", tinted (if issues == 0 then .green else .yellow) (toString issues),
    .plain ("  Suggestions: " ++ toString (totalSuggestions files) ++ "\n")]

/-- The page of a run. -/
def page (files : List FileReport) : List Piece :=
  [.plain "\n  ", boldTinted .cyan "codecritic", .plain (" v" ++ version ++ "\n\n")] ++
    files.flatMap filePieces ++ summary files ++ [.plain "\n"]

end Critique.Display
