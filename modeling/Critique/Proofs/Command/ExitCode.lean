import Critique.Proofs.Command.Settings
import Critique.Proofs.Report.Severity

/-!
# Exit codes

A command ends with 2 when it cannot be finished, and then it has written nothing to the standard
output, however far it got.  An analysis can be stopped at many points: `AnalysisFails` lists them,
and `FileFails` those at which a single file stops it.  An analysis ends with 2 exactly when it is
stopped at one of them (`code_eq_two_iff`); when several files stop it, nothing is said about which
of them is named.

A finished analysis ends with 1 exactly when the greatest severity among all issues that it shows
reaches the one that the user asked about, and with 0 otherwise.  `exit_codes` collects this for all
commands.
-/

namespace Critique

open Text

/-! ## The greatest severity of several reports -/

/-- The greatest severity of an issue in some reports, if there is an issue. -/
def greatestSeverity? (reports : List Report) : Option Severity :=
  ((reports.flatMap (·.issues)).map (·.severity)).max?

lemma some_le_greatestSeverity?_iff {reports : List Report} {s : Severity} :
    some s ≤ greatestSeverity? reports ↔ ∃ r ∈ reports, r.hasIssuesAt s = true := by
  -- The reports taken together are one report.
  let all : Report := { issues := reports.flatMap (·.issues) }
  have hall : some s ≤ greatestSeverity? reports ↔ all.hasIssuesAt s = true :=
    (Report.hasIssuesAt_iff (r := all)).symm
  rw [hall]
  simp only [Report.hasIssuesAt_iff_exists, all, List.mem_flatMap]
  constructor
  · rintro ⟨i, ⟨r, hr, hi⟩, hs⟩
    exact ⟨r, hr, i, hi, hs⟩
  · rintro ⟨r, hr, i, hi, hs⟩
    exact ⟨i, ⟨r, hr, hi⟩, hs⟩

/-! ## Where an analysis can fail -/

/-- The analyzer is there: the format can be written, and the settings are in order. -/
def Ready (w : World) (o : AnalyzeOptions) (a : Analyzer) : Prop :=
  o.knownFormat = true ∧ loadAnalyzer w o.config o.modelEndpoint = .ok a

/-- A run that looks for settings and finds none reviews with the default ones. -/
lemma ready_default {w : World} {o : AnalyzeOptions}
    (hdir : (w.files.root.get? w.files.workDir).any Node.isDir = true)
    (hnone : discover w.files w.files.workPath = none) (hformat : o.knownFormat = true)
    (hconfig : o.config = none) (hendpoint : o.modelEndpoint = none) :
    Ready w o (.alone (.heuristic .default)) := by
  refine ⟨hformat, ?_⟩
  rw [hconfig, hendpoint]
  exact loadAnalyzer_of_model_none (loadSettings_default hdir hnone) rfl

/-- The points at which one file stops an analysis. -/
inductive FileFails (a : Analyzer) (files : FileTree) (language : Option String) (path : OsText) :
    RunError → Prop where
  | unknownLanguage (h : language.or (languageOfPath? path) = none) :
      FileFails a files language path (.unknownLanguage path)
  | unreadable {tag : String} {e : IoError} (htag : language.or (languageOfPath? path) = some tag)
      (h : files.read path = .error e) : FileFails a files language path (.unreadableFile path e)
  | failed {tag : String} {bytes : List UInt8} {f : Failure}
      (htag : language.or (languageOfPath? path) = some tag) (hbytes : files.read path = .ok bytes)
      (h : a.analyze (Utf8.decodeLossy bytes) tag = .error f) :
      FileFails a files language path (.failedAnalysis (some path) f)

/-- The points at which an analysis is stopped. -/
inductive AnalysisFails (w : World) (o : AnalyzeOptions) : RunError → Prop where
  | format (h : o.knownFormat = false) : AnalysisFails w o (.badFormat o.format)
  | settings {e : RunError} (hformat : o.knownFormat = true)
      (h : loadAnalyzer w o.config o.modelEndpoint = .error e) : AnalysisFails w o e
  | noLanguage {a : Analyzer} (ready : Ready w o a) (hpath : o.path = "-")
      (h : o.language = none) : AnalysisFails w o .noLanguageForStdin
  | unreadableStdin {a : Analyzer} {tag : String} (ready : Ready w o a) (hpath : o.path = "-")
      (htag : o.language = some tag) (h : Utf8.decode? w.stdin = none) :
      AnalysisFails w o .unreadableStdin
  | failedStdin {a : Analyzer} {tag code : String} {f : Failure} (ready : Ready w o a)
      (hpath : o.path = "-") (htag : o.language = some tag)
      (hcode : Utf8.decode? w.stdin = some code) (h : a.analyze code tag = .error f) :
      AnalysisFails w o (.failedAnalysis none f)
  | inaccessible {a : Analyzer} {e : IoError} (ready : Ready w o a) (hpath : o.path ≠ "-")
      (h : w.files.stat o.path = .error e) : AnalysisFails w o (.inaccessible o.path e)
  | walk {a : Analyzer} {node : Node} {e : WalkError} (ready : Ready w o a) (hpath : o.path ≠ "-")
      (hstat : w.files.stat o.path = .ok node) (hdir : node.isDir = true)
      (h : collectFiles w.files o.path = .error e) : AnalysisFails w o (.walk e)
  | file {a : Analyzer} {paths : List OsText} {path : OsText} {e : RunError} (ready : Ready w o a)
      (hpath : o.path ≠ "-") (hpaths : inputFiles w.files o.path = .ok paths)
      (hmem : path ∈ paths) (h : FileFails a w.files o.language path e) : AnalysisFails w o e

section Parts

variable {a : Analyzer} {files : FileTree} {language : Option String} {path : OsText} {e : RunError}

lemma analyzeFile_of_fileFails (h : FileFails a files language path e) :
    analyzeFile a files language path = .error e := by
  cases h with
  | unknownLanguage h => simp only [analyzeFile, h]
  | unreadable htag h =>
    simp only [analyzeFile, htag, h, Except.mapError]
    rfl
  | failed htag hbytes h =>
    simp only [analyzeFile, htag, hbytes, h, Except.mapError, bind, Except.bind]

lemma fileFails_of_analyzeFile (h : analyzeFile a files language path = .error e) :
    FileFails a files language path e := by
  rw [analyzeFile] at h
  cases htag : language.or (languageOfPath? path) with
  | none =>
    simp only [htag] at h
    cases h
    exact .unknownLanguage htag
  | some tag =>
    simp only [htag] at h
    rcases bind_eq_error_iff.1 h with h | ⟨bytes, hbytes, h⟩
    · obtain ⟨own, hread, rfl⟩ := mapError_eq_error_iff.1 h
      exact .unreadable htag hread
    · rcases bind_eq_error_iff.1 h with h | ⟨report, -, h⟩
      · obtain ⟨f, hf, rfl⟩ := mapError_eq_error_iff.1 h
        exact .failed htag (mapError_eq_ok_iff.1 hbytes) hf
      · cases h

lemma inputFiles_eq_error_iff :
    inputFiles files path = .error e ↔
      (∃ own, files.stat path = .error own ∧ e = .inaccessible path own) ∨
        ∃ node own, files.stat path = .ok node ∧ node.isDir = true ∧
          collectFiles files path = .error own ∧ e = .walk own := by
  rw [inputFiles, bind_eq_error_iff]
  constructor
  · rintro (h | ⟨node, hnode, h⟩)
    · obtain ⟨own, hstat, rfl⟩ := mapError_eq_error_iff.1 h
      exact .inl ⟨own, hstat, rfl⟩
    · by_cases hdir : node.isDir = true
      · rw [if_pos hdir] at h
        obtain ⟨own, hwalk, rfl⟩ := mapError_eq_error_iff.1 h
        exact .inr ⟨node, own, mapError_eq_ok_iff.1 hnode, hdir, hwalk, rfl⟩
      · rw [if_neg hdir] at h
        cases h
  · rintro (⟨own, hstat, rfl⟩ | ⟨node, own, hstat, hdir, hwalk, rfl⟩)
    · exact .inl (mapError_eq_error_iff.2 ⟨own, hstat, rfl⟩)
    · refine .inr ⟨node, mapError_eq_ok_iff.2 hstat, ?_⟩
      rw [if_pos hdir]
      exact mapError_eq_error_iff.2 ⟨own, hwalk, rfl⟩

/-- What is found in a path can only be missing because its files cannot be listed, or because one
of them fails. -/
lemma pathAnalysis_eq_error (h : pathAnalysis a files language path = .error e) :
    inputFiles files path = .error e ∨
      ∃ paths, inputFiles files path = .ok paths ∧
        ∃ p ∈ paths, FileFails a files language p e := by
  rw [pathAnalysis] at h
  rcases bind_eq_error_iff.1 h with h | ⟨paths, hpaths, h⟩
  · exact .inl h
  · right
    by_cases hempty : paths.isEmpty = true
    · rw [if_pos hempty] at h
      cases h
    · rw [if_neg hempty] at h
      rcases bind_eq_error_iff.1 h with h | ⟨fs, -, h⟩
      · rw [analyzeFiles] at h
        rcases bind_eq_error_iff.1 h with h | ⟨read, -, h⟩
        · -- the error is that of the first file that has one
          obtain ⟨p, hp, hfail⟩ := exists_mem_of_mapM_eq_error h
          exact ⟨paths, hpaths, p, hp, fileFails_of_analyzeFile hfail⟩
        · cases h
      · cases h

/-- One file that fails is enough. -/
lemma analyzeFiles_ne_ok {paths : List OsText} {p : OsText} (hp : p ∈ paths)
    (hfail : FileFails a files language p e) (fs : List FileReport) :
    analyzeFiles a files language paths ≠ .ok fs := by
  intro h
  obtain ⟨read, hread, -⟩ := analyzeFiles_eq_ok_iff.1 h
  obtain ⟨f, -, hf⟩ := exists_of_mapM_eq_ok hread hp
  rw [analyzeFile_of_fileFails hfail] at hf
  cases hf

end Parts

section Analyze

variable {w : World} {o : AnalyzeOptions} {e : RunError}

lemma analysisFails_of_error (h : analysis w o = .error e) : AnalysisFails w o e := by
  -- the order in which a run asks: the format, the settings, and only then what is to be read
  by_cases hformat : o.knownFormat = true
  · rw [analysis_of_knownFormat hformat] at h
    rcases bind_eq_error_iff.1 h with h | ⟨a, ha, h⟩
    · exact .settings hformat h
    have ready : Ready w o a := ⟨hformat, ha⟩
    by_cases hpath : o.path = "-"
    · rw [analysisBy_of_stdin a hpath] at h
      unfold stdinAnalysis at h
      cases htag : o.language with
      | none =>
        simp only [htag] at h
        cases h
        exact .noLanguage ready hpath htag
      | some tag =>
        cases hcode : Utf8.decode? w.stdin with
        | none =>
          simp only [htag, hcode] at h
          cases h
          exact .unreadableStdin ready hpath htag hcode
        | some code =>
          cases hreport : a.analyze code tag with
          | error f =>
            simp only [htag, hcode, hreport] at h
            cases h
            exact .failedStdin ready hpath htag hcode hreport
          | ok report =>
            simp only [htag, hcode, hreport] at h
            cases h
    · rw [analysisBy_of_path a hpath] at h
      rcases pathAnalysis_eq_error h with h | ⟨paths, hpaths, p, hp, hfail⟩
      · rcases inputFiles_eq_error_iff.1 h with
          ⟨own, hstat, rfl⟩ | ⟨node, own, hstat, hdir, hwalk, rfl⟩
        · exact .inaccessible ready hpath hstat
        · exact .walk ready hpath hstat hdir hwalk
      · exact .file ready hpath hpaths hp hfail
  · rw [Bool.not_eq_true] at hformat
    rw [analysis_of_unknownFormat hformat] at h
    cases h
    exact .format hformat

/-- With an analyzer, a path whose files cannot be listed or one of whose files fails leads to
nothing. -/
lemma analysis_ne_ok_of_path {a : Analyzer} (ready : Ready w o a) (hpath : o.path ≠ "-")
    (h : ∀ paths, inputFiles w.files o.path = .ok paths →
      ∃ p ∈ paths, ∃ e, FileFails a w.files o.language p e) (found : Option Analysis) :
    analysis w o ≠ .ok found := by
  rw [analysis_of_knownFormat ready.1, ready.2]
  intro hfound
  change analysisBy a w o = .ok found at hfound
  rw [analysisBy_of_path a hpath, pathAnalysis] at hfound
  obtain ⟨paths, hpaths, hfound⟩ := bind_eq_ok_iff.1 hfound
  obtain ⟨p, hp, e, hfail⟩ := h paths hpaths
  -- there is a file that fails, so this is not the run without files
  rw [if_neg (by simpa using List.ne_nil_of_mem hp)] at hfound
  obtain ⟨fs, hfs, -⟩ := bind_eq_ok_iff.1 hfound
  exact analyzeFiles_ne_ok hp hfail fs hfs

lemma analysis_ne_ok_of_stdin {a : Analyzer} (ready : Ready w o a) (hpath : o.path = "-")
    (h : ∀ found, stdinAnalysis a w.stdin o.language ≠ .ok found) (found : Option Analysis) :
    analysis w o ≠ .ok found := by
  rw [analysis_of_knownFormat ready.1, ready.2]
  intro hfound
  change analysisBy a w o = .ok found at hfound
  rw [analysisBy_of_stdin a hpath] at hfound
  cases hstdin : stdinAnalysis a w.stdin o.language with
  | ok read => exact h read hstdin
  | error own => simp [hstdin, Functor.map, Except.map] at hfound

/-- An analysis that is stopped at some point has no result. -/
lemma analysis_ne_ok_of_fails (h : AnalysisFails w o e) (found : Option Analysis) :
    analysis w o ≠ .ok found := by
  cases h with
  | format h => simp [analysis_of_unknownFormat h]
  | settings hformat h => simp [analysis_of_knownFormat hformat, h, bind, Except.bind]
  | noLanguage ready hpath h =>
    refine analysis_ne_ok_of_stdin ready hpath (fun read hread => ?_) found
    obtain ⟨tag, code, report, htag, -⟩ := stdinAnalysis_eq_ok_iff.1 hread
    simp [h] at htag
  | unreadableStdin ready hpath htag h =>
    refine analysis_ne_ok_of_stdin ready hpath (fun read hread => ?_) found
    obtain ⟨tag, code, report, -, hcode, -⟩ := stdinAnalysis_eq_ok_iff.1 hread
    simp [h] at hcode
  | failedStdin ready hpath htag hcode h =>
    refine analysis_ne_ok_of_stdin ready hpath (fun read hread => ?_) found
    obtain ⟨tag', code', report, htag', hcode', hreport, -⟩ := stdinAnalysis_eq_ok_iff.1 hread
    cases htag.symm.trans htag'
    cases hcode.symm.trans hcode'
    cases h.symm.trans hreport
  | inaccessible ready hpath h =>
    refine analysis_ne_ok_of_path ready hpath (fun paths hpaths => ?_) found
    rw [inputFiles_eq_error_iff.2 (.inl ⟨_, h, rfl⟩)] at hpaths
    cases hpaths
  | walk ready hpath hstat hdir h =>
    refine analysis_ne_ok_of_path ready hpath (fun paths hpaths => ?_) found
    rw [inputFiles_eq_error_iff.2 (.inr ⟨_, _, hstat, hdir, h, rfl⟩)] at hpaths
    cases hpaths
  | file ready hpath hpaths hmem h =>
    refine analysis_ne_ok_of_path ready hpath (fun paths hpaths' => ?_) found
    cases hpaths.symm.trans hpaths'
    exact ⟨_, hmem, _, h⟩

/-- An analysis is either stopped at one of the points of `AnalysisFails` or has a result. -/
lemma analysis_eq_ok_iff :
    (∃ found, analysis w o = .ok found) ↔ ¬ ∃ e, AnalysisFails w o e := by
  constructor
  · rintro ⟨found, hfound⟩ ⟨e, he⟩
    exact analysis_ne_ok_of_fails he found hfound
  · intro h
    cases hfound : analysis w o with
    | error e => exact absurd ⟨e, analysisFails_of_error hfound⟩ h
    | ok found => exact ⟨found, rfl⟩

lemma code_of_ok {found : Option Analysis} (h : analysis w o = .ok found) :
    (runAnalyze w o).code = 0 ∨ (runAnalyze w o).code = 1 := by
  rw [runAnalyze_eq, h]
  cases found with
  | none => exact .inl rfl
  | some found => exact exitCode_eq_zero_or_one _ _

lemma code_eq_two_iff : (runAnalyze w o).code = 2 ↔ ∃ e, AnalysisFails w o e := by
  constructor
  · intro hcode
    by_contra hnone
    obtain ⟨found, hfound⟩ := analysis_eq_ok_iff.2 hnone
    rcases code_of_ok hfound with h | h <;> omega
  · rintro ⟨e, he⟩
    cases hfound : analysis w o with
    | ok found => exact absurd hfound (analysis_ne_ok_of_fails he found)
    | error own =>
      rw [runAnalyze_eq, hfound]
      rfl

/-- A run ends with 1 exactly when it shows the report of the standard input or the reports of some
files, and the greatest severity of their issues is at least the one that the user asked about. -/
lemma code_eq_one_iff :
    (runAnalyze w o).code = 1 ↔
      ∃ s, o.failOn = some s ∧
        ((∃ language report, analysis w o = .ok (some (.ofStdin language report)) ∧
          (runAnalyze w o).stdout = (Analysis.ofStdin language report).text w.coloured o.format ∧
          some s ≤ greatestSeverity? [report]) ∨
        ∃ files, analysis w o = .ok (some (.ofFiles files)) ∧
          (runAnalyze w o).stdout = (Analysis.ofFiles files).text w.coloured o.format ∧
          some s ≤ greatestSeverity? (files.map (·.report))) := by
  rw [runAnalyze_eq, analysisOutcome_code_eq_one_iff]
  simp only [some_le_greatestSeverity?_iff]
  constructor
  · rintro ⟨found, hfound, s, hs, hissue⟩
    refine ⟨s, hs, ?_⟩
    -- what `exitCode` is asked about is one report, or the reports of the files in their order
    cases found with
    | ofStdin language report =>
      exact .inl ⟨language, report, hfound, by rw [hfound]; rfl, hissue⟩
    | ofFiles files => exact .inr ⟨files, hfound, by rw [hfound]; rfl, hissue⟩
  · rintro ⟨s, hs, ⟨language, report, hfound, -, hissue⟩ | ⟨files, hfound, -, hissue⟩⟩
    · exact ⟨_, hfound, s, hs, hissue⟩
    · exact ⟨_, hfound, s, hs, hissue⟩

end Analyze

/-! ## The other commands -/

lemma runInfo_code (w : World) (o : InfoOptions) :
    (runInfo w o).code = 0 ∨ (runInfo w o).code = 2 ∧ (runInfo w o).stdout = "" := by
  unfold runInfo
  cases loadAnalyzer w o.config o.modelEndpoint with
  | error e => exact .inr ⟨rfl, rfl⟩
  | ok a => exact .inl rfl

lemma runInit_code (w : World) (o : InitOptions) :
    (runInit w o).code = 0 ∨ (runInit w o).code = 2 ∧ (runInit w o).stdout = "" := by
  unfold runInit
  split
  · exact .inr ⟨rfl, rfl⟩
  · split
    · exact .inr ⟨rfl, rfl⟩
    · split
      · exact .inr ⟨rfl, rfl⟩
      · exact .inl rfl

lemma runAnalyze_stdout_of_code (w : World) (o : AnalyzeOptions)
    (h : (runAnalyze w o).code = 2) : (runAnalyze w o).stdout = "" := by
  cases hfound : analysis w o with
  | error e =>
    rw [runAnalyze_eq, hfound]
    rfl
  | ok found => rcases code_of_ok hfound with h' | h' <;> omega

/-- **Exit codes.**  Take any command with any arguments, in any world: any files, any standard
input, any answers from the network.

* A command that ends with 2 has written nothing to the standard output.
* An analysis ends with 2 exactly when it is stopped at one of the points of `AnalysisFails`; one
  file of many is enough.
* An analysis ends with 1 exactly when it is not stopped, the user asked about a severity, and what
  it has shown is either the report of the standard input, or the reports of the files, with an
  issue in it that is at least as severe.
* Every other analysis that is not stopped ends with 0, and the other commands end with 0 or 2. -/
theorem exit_codes (w : World) :
    (∀ c : Command, (c.run w).code = 2 → (c.run w).stdout = "") ∧
    (∀ o : AnalyzeOptions,
      ((runAnalyze w o).code = 2 ↔ ∃ e, AnalysisFails w o e) ∧
      ((runAnalyze w o).code = 1 ↔
        (¬ ∃ e, AnalysisFails w o e) ∧ ∃ s, o.failOn = some s ∧
          ((∃ language report, analysis w o = .ok (some (.ofStdin language report)) ∧
            (runAnalyze w o).stdout = (Analysis.ofStdin language report).text w.coloured o.format ∧
            some s ≤ greatestSeverity? [report]) ∨
          ∃ files, analysis w o = .ok (some (.ofFiles files)) ∧
            (runAnalyze w o).stdout = (Analysis.ofFiles files).text w.coloured o.format ∧
            some s ≤ greatestSeverity? (files.map (·.report)))) ∧
      ((¬ ∃ e, AnalysisFails w o e) → (runAnalyze w o).code ≠ 1 → (runAnalyze w o).code = 0)) ∧
    (∀ o : InfoOptions, (runInfo w o).code = 0 ∨ (runInfo w o).code = 2) ∧
    ∀ o : InitOptions, (runInit w o).code = 0 ∨ (runInit w o).code = 2 := by
  refine ⟨fun c hcode => ?_, fun o => ⟨code_eq_two_iff, ?_, ?_⟩, fun o => ?_, fun o => ?_⟩
  · -- an analysis says so itself; the other commands show something only where they succeed
    cases c with
    | analyze o => exact runAnalyze_stdout_of_code w o hcode
    | info o =>
      rcases runInfo_code w o with h | ⟨-, hempty⟩
      · simp [Command.run, h] at hcode
      · exact hempty
    | init o =>
      rcases runInit_code w o with h | ⟨-, hempty⟩
      · simp [Command.run, h] at hcode
      · exact hempty
    | languages => cases hcode
  · -- a run that shows something was not stopped, so the first part says nothing new
    rw [code_eq_one_iff]
    refine ⟨fun h => ⟨?_, h⟩, And.right⟩
    obtain ⟨s, -, ⟨language, report, hfound, -⟩ | ⟨files, hfound, -⟩⟩ := h
    · exact analysis_eq_ok_iff.1 ⟨_, hfound⟩
    · exact analysis_eq_ok_iff.1 ⟨_, hfound⟩
  · intro hnone hone
    obtain ⟨found, hfound⟩ := analysis_eq_ok_iff.2 hnone
    exact (code_of_ok hfound).resolve_right hone
  · exact (runInfo_code w o).imp_right And.left
  · exact (runInit_code w o).imp_right And.left

/-- Two directories.  In the first there are two files, the second of which may not be read, and
nothing is shown about the other.  In the second there is a file with one line of 81 characters, and
the run fails because of its report. -/
theorem exit_codes_unreadable_file :
    let locked : World :=
      { files := { root := .dir [("a.py", .file [120]), ("b.py", .locked)], workDir := [] } }
    let long : World :=
      { files := { root := .dir [("a.py", .file (List.replicate 81 120))], workDir := [] } }
    let o : AnalyzeOptions := { path := ".", failOn := some .low }
    (runAnalyze locked o).code = 2 ∧ (runAnalyze locked o).stdout = "" ∧
      (runAnalyze long o).code = 1 ∧ (¬ ∃ e, AnalysisFails long o e) ∧
      ∃ files, analysis long o = .ok (some (.ofFiles files)) ∧
        some .low ≤ greatestSeverity? (files.map (·.report)) := by
  intro locked long o
  have hready : Ready locked o (.alone (.heuristic .default)) :=
    ready_default (by decide +kernel) (by decide +kernel) rfl rfl rfl
  have hregular : locked.files.regularFiles "." = .ok ["./a.py", "./b.py"] := by decide +kernel
  have hstat : locked.files.stat "." = .ok locked.files.root := rfl
  have hpaths := inputFiles_eq_ok_iff.2 ⟨_, hstat, collectFiles_eq_ok_iff.2 ⟨_, hregular, rfl⟩⟩
  have hlanguage : languageOfPath? "./b.py" = some "python" := by decide +kernel
  have hmem : ("./b.py" : OsText) ∈ (["./a.py", "./b.py"].filter fun f : OsText =>
      (languageOfPath? f).isSome).mergeSort Path.le := by
    simp [List.mem_mergeSort, List.mem_filter, hlanguage]
  have hread : locked.files.read "./b.py" = .error .denied := rfl
  have hcode : (runAnalyze locked o).code = 2 :=
    (((exit_codes locked).2.1 o).1).2
      ⟨_, .file hready (by decide) hpaths hmem (.unreadable hlanguage hread)⟩
  have hone : (runAnalyze long o).code = 1 := by decide +kernel
  obtain ⟨hfinished, s, hs, hshown⟩ := (((exit_codes long).2.1 o).2.1).1 hone
  refine ⟨hcode, (exit_codes locked).1 (.analyze o) hcode, hone, hfinished, ?_⟩
  obtain rfl : s = .low := (Option.some.inj hs).symm
  rcases hshown with ⟨language, report, hstdin, -⟩ | ⟨files, hfiles, -, hsevere⟩
  · -- the run was not over the standard input
    obtain ⟨a, -, hfound⟩ := exists_loadAnalyzer_of_analysis hstdin
    rcases analysisBy_eq_some_iff.1 hfound with ⟨hpath, -⟩ | ⟨-, hfound⟩
    · exact absurd hpath (by decide)
    · obtain ⟨_, _, -, -, -, heq⟩ := pathAnalysis_eq_some_iff.1 hfound
      cases heq
  · exact ⟨files, hfiles, hsevere⟩

end Critique
