import Critique.Analyzer.Description
import Critique.Analyzer.Remote
import Critique.Review

/-!
# Analyzers

An analyzer is a source of reports.  The heuristic one reviews a snippet by itself, a model asks a
classifier, and a composite runs a primary analyzer and layers the report of a secondary one, if it
has one, over the report of the first.

The primary report is what counts: when it fails, the composite fails with it, and when the
secondary analyzer fails, the primary report stands alone.
-/

namespace Critique

/-- A source of reports. -/
inductive Analyzer where
  /-- Reviews a snippet by itself. -/
  | heuristic (settings : Settings)
  /-- Asks a classifier. -/
  | model (classifier : Classifier)
  /-- A composite without a secondary analyzer. -/
  | alone (primary : Analyzer)
  /-- A composite with a secondary analyzer. -/
  | layered (primary secondary : Analyzer)

namespace Analyzer

/-- The report about a snippet. -/
def analyze (code language : String) : Analyzer → Except Failure Report
  | heuristic settings => .ok (review settings code language)
  | model classifier => classifier.classify code language
  | alone primary => primary.analyze code language
  | layered primary secondary =>
    match primary.analyze code language with
    | .error e => .error e
    | .ok report =>
      match secondary.analyze code language with
      | .ok extra => .ok (report.merge extra)
      | .error _ => .ok report

/-- How an analyzer describes itself. -/
def describe : Analyzer → Description
  | heuristic settings => {
      name := "codecritic-heuristics"
      kind := "heuristic"
      details := .ofList [("languages", ",".intercalate supportedLanguages),
        ("max_line_length", toString settings.maxLineLength),
        ("complexity_threshold", Decimal.sentence.render settings.complexityThreshold)] }
  | model classifier => {
      name := classifier.name
      kind := "model"
      details := classifier.details }
  | alone primary => primary.describe.layer none
  | layered primary secondary => primary.describe.layer (some secondary.describe)

/-- What is logged during an analysis. -/
def log (code language : String) : Analyzer → List LogEntry
  | heuristic settings => reviewLog settings code language
  | model classifier => classifier.log language
  | alone primary => primary.log code language
  | layered primary secondary =>
    match primary.analyze code language with
    | .error _ => primary.log code language
    | .ok _ =>
      primary.log code language ++ secondary.log code language ++
        match secondary.analyze code language with
        | .ok _ => []
        | .error e =>
          [⟨.warn, "secondary analyzer failed, using primary report only",
            [("analyzer", secondary.describe.name), ("error", e.message)]⟩]

/-- Is there a secondary analyzer, if this is a composite? -/
def hasSecondary? : Analyzer → Option Bool
  | alone _ => some false
  | layered _ _ => some true
  | _ => none

/-- The settings of a heuristic analyzer. -/
def settings? : Analyzer → Option Settings
  | heuristic settings => some settings
  | _ => none

/-- The analyzer for given settings: the heuristic one, with the model on top if there is one.  That
a client for the model can be made is settled before. -/
def build (transport : Transport) (settings : Settings) : Analyzer :=
  match settings.model with
  | none => .alone (.heuristic settings)
  | some m => .layered (.heuristic settings) (.model (.remote transport m))

/-- What is logged when an analyzer is built. -/
def buildLog (settings : Settings) : List LogEntry :=
  match settings.model with
  | none => []
  | some m => [⟨.info, "using remote classifier", [("endpoint", m.endpoint)]⟩]

end Analyzer

end Critique
