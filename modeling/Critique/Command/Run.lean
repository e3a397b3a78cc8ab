import Critique.Analyzer.Basic
import Critique.Codec.Description
import Critique.Codec.FileReport
import Critique.Command.Basic
import Critique.Command.Discover
import Critique.Display.Page
import Critique.FileTree.Walk

/-!
# Running commands

What each command does, as a function of the world that it runs in: the files, the standard input,
the network and whether the output has colours.  The outcome has an exit code, what is written to
the two output streams, and the files afterwards.

The exit code is 0 for a finished run, 1 for one that found an issue as severe as the user asked
about, and 2 for one that could not be finished.  Nothing is written to the standard output before
it is certain that the run can be finished.
-/

namespace Critique

open Text

/-- What a command runs in. -/
structure World where
  files : FileTree
  stdin : List UInt8 := []
  transport : Transport := .none
  /-- Why no client for requests can be made, if that is so. -/
  clientFault : Option ClientFault := none
  coloured : Bool := false

/-- What comes of a command. -/
structure Outcome where
  code : Nat
  stdout : String := ""
  stderr : String := ""
  files : FileTree

/-! ## Errors -/

/-- Why a command cannot be finished. -/
inductive RunError where
  | badFormat (format : String)
  /-- Settings would be looked for in the working directory, which is gone. -/
  | noWorkDir (e : IoError)
  | unreadableSettings (path : OsText) (fault : FileFault)
  | refusedSettings (violation : Violation)
  /-- There is a model, and no client to ask it with. -/
  | noClient (fault : ClientFault)
  /-- The standard input has no name from which its language could be seen. -/
  | noLanguageForStdin
  | unreadableStdin
  | inaccessible (path : OsText) (e : IoError)
  | walk (e : WalkError)
  | unknownLanguage (path : OsText)
  | unreadableFile (path : OsText) (e : IoError)
  | failedAnalysis (path : Option OsText) (failure : Failure)
  | outputExists (path : OsText)
  | failedDirectory (e : IoError)
  | failedWrite (e : IoError)

/-- The message of an error, in which paths are shown as texts.  The failure of a walk is told with
its cause. -/
def RunError.message : RunError → String
  | badFormat format => "invalid format " ++ quoted format ++ ", must be 'pretty' or 'json'"
  | noWorkDir e => e.message
  | unreadableSettings path fault => "parsing config " ++ path.lossy ++ ": " ++ fault.message
  | refusedSettings violation => "invalid configuration: " ++ violation.message
  | noClient fault => fault.message
  | noLanguageForStdin => "--language is required when reading from stdin"
  | unreadableStdin => "reading stdin: " ++ IoError.notUtf8.message
  | inaccessible path e => "cannot access path " ++ path.quoted ++ ": " ++ e.message
  | walk (.io path e) => (WalkError.io path e).message ++ ": " ++ e.message
  | walk e => e.message
  | unknownLanguage path => "cannot infer language for " ++ path.lossy ++ "; pass --language"
  | unreadableFile path e => "reading " ++ path.lossy ++ ": " ++ e.message
  | failedAnalysis none failure => failure.message
  | failedAnalysis (some path) failure => "analyzing " ++ path.lossy ++ ": " ++ failure.message
  | outputExists path =>
    "file already exists: " ++ path.lossy ++
      "\nRemove it or use --output to specify a different path"
  | failedDirectory e => "failed to create directory: " ++ e.message
  | failedWrite e => "failed to write config: " ++ e.message

/-- The outcome of a command that cannot be finished. -/
def RunError.outcome (files : FileTree) (e : RunError) : Outcome where
  code := 2
  stderr := "Error: " ++ e.message ++ "\n"
  files := files

/-! ## Settings -/

/-- The settings file to read, if there is one: the one that is named, or one in the working
directory.  Only where none is named does the working directory have to be there. -/
def settingsPath (files : FileTree) : (named : Option OsText) → Except RunError (Option OsText)
  | some path => .ok (some path)
  | none =>
    match files.currentDir with
    | .ok dir => .ok (discover files dir)
    | .error e => .error (.noWorkDir e)

/-- The settings in a file, or the default ones. -/
def settingsAt (files : FileTree) : (path : Option OsText) → Except RunError Settings
  | none => .ok Settings.default
  | some path => (readSettings files path).mapError (.unreadableSettings path)

/-- The settings of a run.  They satisfy all rules. -/
def loadSettings (files : FileTree) (named : Option OsText) : Except RunError Settings := do
  let settings ← settingsAt files (← settingsPath files named)
  match settings.violation? with
  | some v => .error (.refusedSettings v)
  | none => return settings

/-- The analyzer for given settings.  Only a model needs a client. -/
def buildAnalyzer (w : World) (settings : Settings) : Except RunError Analyzer :=
  match settings.model, w.clientFault with
  | some _, some fault => .error (.noClient fault)
  | _, _ => .ok (.build w.transport settings)

/-- The analyzer of a run. -/
def loadAnalyzer (w : World) (named : Option OsText) (endpoint : Option String) :
    Except RunError Analyzer := do
  buildAnalyzer w ((← loadSettings w.files named).withEndpoint endpoint)

/-! ## Analyze -/

/-- Analyze one file.  Its report shows the path as text, so files with different paths can have
reports with the same. -/
def analyzeFile (a : Analyzer) (files : FileTree) (language : Option String) (path : OsText) :
    Except RunError FileReport := do
  let some language := language.or (languageOfPath? path) | .error (.unknownLanguage path)
  let bytes ← (files.read path).mapError (.unreadableFile path)
  let report ← (a.analyze (Utf8.decodeLossy bytes) language).mapError (.failedAnalysis (some path))
  return { path := path.lossy, language, report }

/-- The files to analyze: one file, or the source files below a directory. -/
def inputFiles (files : FileTree) (path : OsText) : Except RunError (List OsText) := do
  let node ← (files.stat path).mapError (.inaccessible path)
  if node.isDir then (collectFiles files path).mapError .walk else return [path]

/-- Analyze files.  The reports are in the order of their paths, and reports with the same path are
in the order of the files. -/
def analyzeFiles (a : Analyzer) (files : FileTree) (language : Option String)
    (paths : List OsText) : Except RunError (List FileReport) := do
  return (← paths.mapM (analyzeFile a files language)).mergeSort fun f g => f.path ≤ g.path

/-- The exit code of a finished analysis. -/
def exitCode (reports : List Report) : (failOn : Option Severity) → Nat
  | none => 0
  | some s => if reports.any (·.hasIssuesAt s) then 1 else 0

/-- What an analysis read. -/
inductive Analysis where
  /-- The standard input, with its report. -/
  | ofStdin (language : String) (report : Report)
  /-- Files, with their reports. -/
  | ofFiles (files : List FileReport)

/-- The text of an analysis in a format. -/
def Analysis.text (coloured : Bool) (format : String) : Analysis → String
  | ofStdin language report =>
    if format == "json" then report.toJson.pretty ++ "\n"
    else Display.render coloured (Display.page [{ path := "<stdin>", language, report }])
  | ofFiles files =>
    if format == "json" then (RunReport.ofFiles files).toJson.pretty ++ "\n"
    else Display.render coloured (Display.page files)

/-- The reports of an analysis. -/
def Analysis.reports : Analysis → List Report
  | ofStdin _ report => [report]
  | ofFiles files => files.map (·.report)

/-- Analyze what the options say; nothing when there are no files. -/
def analysis (w : World) (o : AnalyzeOptions) : Except RunError (Option Analysis) := do
  if o.format != "pretty" && o.format != "json" then .error (.badFormat o.format)
  let a ← loadAnalyzer w o.config o.modelEndpoint
  if o.path == "-" then
    let some language := o.language | .error .noLanguageForStdin
    let some code := Utf8.decode? w.stdin | .error .unreadableStdin
    let report ← (a.analyze code language).mapError (.failedAnalysis none)
    return some (.ofStdin language report)
  let paths ← inputFiles w.files o.path
  if paths.isEmpty then return none
  return some (.ofFiles (← analyzeFiles a w.files o.language paths))

/-- The command `analyze`. -/
def runAnalyze (w : World) (o : AnalyzeOptions) : Outcome :=
  match analysis w o with
  | .error e => e.outcome w.files
  | .ok none => { code := 0, stderr := "Warning: no files to analyze\n", files := w.files }
  | .ok (some a) => {
      code := exitCode a.reports o.failOn
      stdout := a.text w.coloured o.format
      files := w.files }

/-! ## The other commands -/

/-- The command `info`. -/
def runInfo (w : World) (o : InfoOptions) : Outcome :=
  match loadAnalyzer w o.config o.modelEndpoint with
  | .error e => e.outcome w.files
  | .ok a => { code := 0, stdout := a.describe.toJson.pretty ++ "\n", files := w.files }

/-- What is said about settings that have been written. -/
def initText (path : OsText) : String :=
  "Created " ++ path.lossy ++ "\n\nNext steps:\n  1. Edit " ++ path.lossy ++
    " to tune thresholds\n  2. Run: codecritic analyze . --config " ++ path.lossy ++ "\n"

/-- The command `init`. -/
def runInit (w : World) (o : InitOptions) : Outcome :=
  if w.files.contains o.output then (RunError.outputExists o.output).outcome w.files
  else match w.files.makeParents o.output with
    | ⟨files, some e⟩ => (RunError.failedDirectory e).outcome files
    | ⟨files, none⟩ =>
      match files.write o.output (Utf8.encode Settings.default.toYaml) with
      | .error e => (RunError.failedWrite e).outcome files
      | .ok files => { code := 0, stdout := initText o.output, files }

/-- The line about one language. -/
def languageLine (language : String) : String :=
  let extensions := supportedExtensions.filter (languageOfExtension? · == some language)
  "  " ++ Display.padded 14 language ++ " " ++ " ".intercalate (extensions.map ("." ++ ·)) ++ "\n"

/-- What the command `languages` says. -/
def languagesText : String :=
  "Supported languages:\n\n" ++ "".intercalate (supportedLanguages.map languageLine) ++
    "\nOther languages are accepted and receive language-independent checks only.\n"

/-- Run a command. -/
def Command.run (w : World) : Command → Outcome
  | .analyze o => runAnalyze w o
  | .info o => runInfo w o
  | .init o => runInit w o
  | .languages => { code := 0, stdout := languagesText, files := w.files }

end Critique
