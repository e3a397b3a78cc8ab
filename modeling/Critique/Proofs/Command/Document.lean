import Critique.Proofs.Analyzer.Finite
import Critique.Proofs.Command.ExitCode

/-!
# What an analysis writes in JSON

A finished analysis in the format `json` writes one document and a line end.  For the standard input
the document is a report, for files the report of a run, and either is read from it: the metrics of
the loaded analyzer are finite, so that no number is written as null.

There is one exception.  A directory below which no file is selected is a finished analysis too, and
it writes nothing to the standard output, in any format (`runAnalyze_of_analysis_eq_none`).
`runAnalyze_json` puts the cases together.

The lines and counts of a report are words of 64 bits.  Here they are numbers without a bound, and
so it is asked of the analysis that they fit (`Analysis.counts`).
-/

namespace Critique

open Text

/-! ## Analyses that find nothing to read -/

/-- Is a path a directory below which no file is selected? -/
def NothingSelected (files : FileTree) (path : OsText) : Prop :=
  ∃ node, files.stat path = .ok node ∧ node.isDir = true ∧ collectFiles files path = .ok []

section Nothing

variable {a : Analyzer} {files : FileTree} {language : Option String} {path : OsText}

/-- Only a directory can stand for no files at all. -/
lemma inputFiles_eq_nil_iff :
    inputFiles files path = .ok [] ↔ NothingSelected files path := by
  rw [inputFiles_eq_ok_iff]
  refine exists_congr fun node => and_congr_right fun _ => ?_
  by_cases hdir : node.isDir = true
  · simp [hdir]
  · simp [hdir]

/-- There is a report for every file. -/
lemma analyzeFiles_ne_nil {paths : List OsText} {fs : List FileReport} (hpaths : paths ≠ [])
    (h : analyzeFiles a files language paths = .ok fs) : fs ≠ [] := by
  obtain ⟨read, hread, rfl⟩ := analyzeFiles_eq_ok_iff.1 h
  obtain ⟨path, hpath⟩ := List.exists_mem_of_ne_nil paths hpaths
  obtain ⟨f, hf, -⟩ := exists_of_mapM_eq_ok hread hpath
  exact List.ne_nil_of_mem (List.mem_mergeSort.2 hf)

end Nothing

/-! ## The reports of an analysis are finite -/

/-- The endpoint of the command line, which may break a rule, is no weight. -/
lemma isWeighty_of_runSettings {files : FileTree} {named : Option OsText}
    {endpoint : Option String} {s : Settings} (h : runSettings files named endpoint = .ok s) :
    s.weights.IsWeighty := by
  obtain ⟨checked, hchecked, rfl⟩ := runSettings_eq_ok_iff.1 h
  have hweights := congrArg (fun s : Settings => s.weights)
    (Settings.withEndpoint_with_model_none checked endpoint)
  dsimp only at hweights
  rw [hweights]
  exact Settings.isWeighty (loadSettings_eq_ok_iff.1 hchecked).2

namespace Analysis

/-- The line numbers and counts in the JSON form of an analysis. -/
def counts : Analysis → List ℕ
  | ofStdin _ report => report.lines
  | ofFiles files => (RunReport.ofFiles files).counts

variable {w : World} {o : AnalyzeOptions}

/-- Every report of an analysis is an answer of its analyzer. -/
lemma exists_analyze_of_mem_reports {a : Analyzer} {found : Analysis}
    (h : analysisBy a w o = .ok (some found)) {r : Report} (hr : r ∈ found.reports) :
    ∃ code language, a.analyze code language = .ok r := by
  rcases analysisBy_eq_some_iff.1 h with ⟨-, hstdin⟩ | ⟨-, hpath⟩
  · obtain ⟨tag, code, report, -, -, hreport, rfl⟩ := stdinAnalysis_eq_ok_iff.1 hstdin
    obtain rfl := List.mem_singleton.1 hr
    exact ⟨code, tag, hreport⟩
  · obtain ⟨paths, fs, -, -, hfs, rfl⟩ := pathAnalysis_eq_some_iff.1 hpath
    obtain ⟨f, hf, rfl⟩ := List.mem_map.1 hr
    obtain ⟨read, hread, rfl⟩ := analyzeFiles_eq_ok_iff.1 hfs
    obtain ⟨path, -, hfile⟩ := exists_of_mem_mapM_eq_ok hread (List.mem_mergeSort.1 hf)
    obtain ⟨tag, bytes, report, -, -, hreport, rfl⟩ := analyzeFile_eq_ok_iff.1 hfile
    exact ⟨_, tag, hreport⟩

/-- The reports of an analysis have finite metrics. -/
lemma isFinite_of_mem_reports {a : Analyzer}
    (hload : loadAnalyzer w o.config o.modelEndpoint = .ok a) {found : Analysis}
    (h : analysisBy a w o = .ok (some found)) {r : Report} (hr : r ∈ found.reports) :
    r.IsFinite := by
  obtain ⟨s, hsettings, hbuild⟩ := loadAnalyzer_eq_ok_iff.1 hload
  obtain rfl := eq_of_buildAnalyzer_eq_ok hbuild
  obtain ⟨code, language, hanalyze⟩ := exists_analyze_of_mem_reports h hr
  exact Analyzer.isFinite_of_analyze_build (isWeighty_of_runSettings hsettings) hanalyze

end Analysis

/-! ## The document -/

section Document

variable {w : World} {o : AnalyzeOptions}

/-- An analysis without a result has looked at a directory in which no file is selected, and the run
writes nothing but a warning. -/
lemma runAnalyze_of_analysis_eq_none (h : analysis w o = .ok none) :
    o.path ≠ "-" ∧ NothingSelected w.files o.path ∧
      runAnalyze w o =
        { code := 0, stderr := "Warning: no files to analyze\n", files := w.files } := by
  obtain ⟨a, -, hnone⟩ := exists_loadAnalyzer_of_analysis h
  obtain ⟨hpath, hfiles⟩ := analysisBy_eq_none_iff.1 hnone
  refine ⟨hpath, inputFiles_eq_nil_iff.1 hfiles, ?_⟩
  rw [runAnalyze_eq, h]
  rfl

/-- **What a run writes in JSON.**  Take any options with the format `json` and any world, and
suppose that the run ends with 0 or 1 and that the lines and counts of what it found fit into words.
Then it did one of three things.

* It read the standard input and wrote a document, followed by a line end.  The document is read as
  the report about the input.
* The path is not a directory below which no file is selected.  It read files, at least one, and
  wrote a document, followed by a line end.  The document is read as the report of a run over these
  files.
* The path is a directory below which no file is selected.  It ended with 0, wrote nothing to the
  standard output, and warned on the standard error.

The values of metrics are those that the reader finds in their decimal forms. -/
theorem runAnalyze_json (w : World) (o : AnalyzeOptions) (hformat : o.format = "json")
    (hcode : (runAnalyze w o).code = 0 ∨ (runAnalyze w o).code = 1)
    (hwords : ∀ found, analysis w o = .ok (some found) → ∀ n ∈ found.counts, n ≤ Json.maxWord) :
    (o.path = "-" ∧ ∃ language report doc, analysis w o = .ok (some (.ofStdin language report)) ∧
      (runAnalyze w o).stdout = doc ++ "\n" ∧
      (Json.parse? doc).bind Report.ofJson? = some (report.mapValues rereadFloat)) ∨
    (o.path ≠ "-" ∧ ¬ NothingSelected w.files o.path ∧
      ∃ files doc, files ≠ [] ∧ analysis w o = .ok (some (.ofFiles files)) ∧
        (runAnalyze w o).stdout = doc ++ "\n" ∧
        (Json.parse? doc).bind RunReport.ofJson? =
          some ((RunReport.ofFiles files).mapValues rereadFloat)) ∨
    (o.path ≠ "-" ∧ NothingSelected w.files o.path ∧
      (runAnalyze w o).code = 0 ∧ (runAnalyze w o).stdout = "" ∧
      (runAnalyze w o).stderr = "Warning: no files to analyze\n") := by
  cases hanalysis : analysis w o with
  | error e =>
    have htwo : (runAnalyze w o).code = 2 := by
      rw [runAnalyze_eq, hanalysis]
      rfl
    omega
  | ok result =>
    cases result with
    | none =>
      obtain ⟨hpath, hnothing, hrun⟩ := runAnalyze_of_analysis_eq_none hanalysis
      exact .inr (.inr ⟨hpath, hnothing, by rw [hrun], by rw [hrun], by rw [hrun]⟩)
    | some found =>
      obtain ⟨a, hload, hfound⟩ := exists_loadAnalyzer_of_analysis hanalysis
      have hfits := hwords found hanalysis
      have hfinite : ∀ r ∈ found.reports, r.IsFinite := fun r hr =>
        Analysis.isFinite_of_mem_reports hload hfound hr
      have hstdout : (runAnalyze w o).stdout = found.text w.coloured "json" := by
        rw [runAnalyze_eq, hanalysis, ← hformat]
        rfl
      -- the report about the input or that of the run, each read from its own document
      rcases analysisBy_eq_some_iff.1 hfound with ⟨hpath, hstdin⟩ | ⟨hpath, hfiles⟩
      · obtain ⟨tag, code, report, -, -, -, rfl⟩ := stdinAnalysis_eq_ok_iff.1 hstdin
        refine .inl ⟨hpath, tag, report, report.toJson.pretty, rfl, hstdout, ?_⟩
        exact Report.bind_parse?_pretty hfits (hfinite report (List.mem_singleton.2 rfl))
      · obtain ⟨paths, fs, hinput, hpaths, hfs, rfl⟩ := pathAnalysis_eq_some_iff.1 hfiles
        have hsome : ¬ NothingSelected w.files o.path := by
          rw [← inputFiles_eq_nil_iff, hinput, Except.ok.injEq]
          exact hpaths
        have hne : fs ≠ [] := analyzeFiles_ne_nil hpaths hfs
        refine .inr (.inl ⟨hpath, hsome, fs, (RunReport.ofFiles fs).toJson.pretty, hne, rfl,
          hstdout, ?_⟩)
        exact RunReport.bind_parse?_pretty hfits fun f hf =>
          hfinite f.report (List.mem_map_of_mem hf)

end Document

/-- A directory with one source file of one long line: the run ends with 1, and its document is read
as the report of a run over that file. -/
theorem runAnalyze_json_long_line :
    let w : World :=
      { files := { root := .dir [("a.py", .file (List.replicate 81 120))], workDir := [] } }
    let o : AnalyzeOptions := { path := ".", format := "json", failOn := some .low }
    (runAnalyze w o).code = 1 ∧
      ∃ files doc, files ≠ [] ∧ (runAnalyze w o).stdout = doc ++ "\n" ∧
        (Json.parse? doc).bind RunReport.ofJson? =
          some ((RunReport.ofFiles files).mapValues rereadFloat) := by
  intro w o
  have hcode : (runAnalyze w o).code = 1 := by decide +kernel
  have hwords : ∀ found, analysis w o = .ok (some found) →
      ∀ n ∈ found.counts, n ≤ Json.maxWord := by
    have hall : ((analysis w o).toOption.join.all fun found =>
        found.counts.all (· ≤ Json.maxWord)) = true := by decide +kernel
    intro found hfound
    rw [hfound] at hall
    simpa [Except.toOption] using hall
  rcases runAnalyze_json w o rfl (.inr hcode) hwords with ⟨hpath, -⟩ | ⟨-, -, hdoc⟩ |
    ⟨-, -, hzero, -⟩
  · exact absurd hpath (by decide)
  · obtain ⟨files, doc, hne, -, hstdout, hread⟩ := hdoc
    exact ⟨hcode, files, doc, hne, hstdout, hread⟩
  · omega

/-- A directory with one file that is no source file: the run ends with 0 and writes no document. -/
theorem runAnalyze_json_no_document :
    let w : World :=
      { files := { root := .dir [("README.md", .file [35, 32, 120])], workDir := [] } }
    let o : AnalyzeOptions := { path := ".", format := "json" }
    (runAnalyze w o).code = 0 ∧ ¬ ∃ doc v, (runAnalyze w o).stdout = doc ++ "\n" ∧
      Json.parse? doc = some v := by
  intro w o
  have hstdout : (runAnalyze w o).stdout = "" := by decide +kernel
  refine ⟨by decide +kernel, ?_⟩
  rintro ⟨doc, v, hdoc, -⟩
  have hlength := congrArg String.length (hdoc.symm.trans hstdout)
  simp at hlength

end Critique
