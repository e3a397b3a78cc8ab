import Critique.Command.Run

/-!
# The log of a command

What a command logs while it runs.  The log follows the run: what comes after an error is not
logged.
-/

namespace Critique

open Text

/-- What is logged while settings are loaded. -/
def settingsLog (files : FileTree) (named : Option OsText) : List LogEntry :=
  match settingsPath files named with
  | .ok (some path) => [⟨.info, "loading configuration", [("path", path.lossy)]⟩]
  | _ => []

/-- What is logged until the analyzer is there. -/
def analyzerLog (w : World) (named : Option OsText) (endpoint : Option String) :
    List LogEntry :=
  settingsLog w.files named ++
    match loadSettings w.files named with
    | .error _ => []
    | .ok settings => Analyzer.buildLog (settings.withEndpoint endpoint)

/-- What is logged while files are analyzed, up to the first that cannot be analyzed. -/
def filesLog (a : Analyzer) (files : FileTree) (language : Option String) :
    List OsText → List LogEntry
  | [] => []
  | path :: paths =>
    match analyzeFile a files language path, files.read path with
    | .ok f, .ok bytes =>
      a.log (Utf8.decodeLossy bytes) f.language ++ filesLog a files language paths
    | _, _ => []

/-- What the analysis of the input logs. -/
def inputLog (w : World) (o : AnalyzeOptions) (a : Analyzer) : List LogEntry :=
  if o.path == "-" then
    match o.language, Utf8.decode? w.stdin with
    | some language, some code => a.log code language
    | _, _ => []
  else
    match inputFiles w.files o.path with
    | .error _ => []
    | .ok [] => []
    | .ok paths =>
      ⟨.info, "analyzing files", [("count", toString paths.length)]⟩ ::
        filesLog a w.files o.language paths

/-- What a command logs. -/
def Command.log (w : World) : Command → List LogEntry
  | .analyze o =>
    if o.format != "pretty" && o.format != "json" then []
    else analyzerLog w o.config o.modelEndpoint ++
      match loadAnalyzer w o.config o.modelEndpoint with
      | .error _ => []
      | .ok a => inputLog w o a
  | .info o => analyzerLog w o.config o.modelEndpoint
  | .init _ => []
  | .languages => []

/-- The lines of a log that are shown at a verbosity. -/
def shownLines (verbosity : Nat) (log : List LogEntry) : List String :=
  (log.filter (·.level.isShown verbosity)).map LogEntry.line

end Critique
