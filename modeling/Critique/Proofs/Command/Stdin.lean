import Critique.Proofs.Command.Settings
import Critique.Proofs.Text.Utf8

/-!
# The same bytes in a file and on the standard input

The command `analyze` reads a file leniently and the standard input strictly.  On bytes that are
the bytes of a text both readings give that text, so the report is the same; it is printed alone for
the standard input and inside the report of the run for the file.  On any other bytes the file is
still analyzed, with U+FFFD for what is malformed, and the standard input is refused.

`stdin_agrees_with_file_iff` says this for reviews without a model: the exit codes agree exactly
when the bytes are those of a text.
-/

namespace Critique

open Text

/-- The same options for the standard input. -/
def AnalyzeOptions.fromStdin (o : AnalyzeOptions) : AnalyzeOptions :=
  { o with path := "-" }

/-- A file that can be read is what its path stands for. -/
lemma inputFiles_of_read {files : FileTree} {path : OsText} {bytes : List UInt8}
    (h : files.read path = .ok bytes) : inputFiles files path = .ok [path] := by
  rw [FileTree.read] at h
  rw [inputFiles_eq_ok_iff]
  cases hstat : files.stat path with
  | error e => simp [hstat] at h
  | ok node =>
    refine ⟨node, rfl, ?_⟩
    cases node with
    | dir entries => simp [hstat] at h
    | file bytes => simp [Node.isDir]
    | locked => simp [Node.isDir]
    | device => simp [Node.isDir]
    | link target => simp [Node.isDir]

section Runs

variable {w : World} {o : AnalyzeOptions} {a : Analyzer} {tag : String} {report : Report}

/-- The run over one file that can be read. -/
lemma runBy_of_read (hpath : o.path ≠ "-") (htag : o.language = some tag) {bytes : List UInt8}
    (hread : w.files.read o.path = .ok bytes)
    (hreport : a.analyze (Utf8.decodeLossy bytes) tag = .ok report) :
    runBy a w o = {
      code := exitCode [report] o.failOn
      stdout := (Analysis.ofFiles [{ path := o.path.lossy, language := tag, report }]).text
        w.coloured o.format
      files := w.files } := by
  have hfile : analyzeFile a w.files o.language o.path =
      .ok { path := o.path.lossy, language := tag, report } :=
    analyzeFile_eq_ok_iff.2 ⟨tag, bytes, report, by rw [htag]; rfl, hread, hreport, rfl⟩
  have hfiles : analyzeFiles a w.files o.language [o.path] =
      .ok [{ path := o.path.lossy, language := tag, report }] := by
    refine analyzeFiles_eq_ok_iff.2 ⟨_, mapM_eq_ok_iff.2 (.cons hfile .nil), ?_⟩
    rw [List.mergeSort_singleton]
  have hfound : analysisBy a w o =
      .ok (some (.ofFiles [{ path := o.path.lossy, language := tag, report }])) :=
    analysisBy_eq_some_iff.2 (.inr ⟨hpath, pathAnalysis_eq_some_iff.2
      ⟨_, _, inputFiles_of_read hread, List.cons_ne_nil _ _, hfiles, rfl⟩⟩)
  rw [runBy, hfound]
  rfl

/-- The run over a standard input that is a text. -/
lemma runBy_of_decode? (htag : o.language = some tag) {code : String}
    (hcode : Utf8.decode? w.stdin = some code) (hreport : a.analyze code tag = .ok report) :
    runBy a w o.fromStdin = {
      code := exitCode [report] o.failOn
      stdout := (Analysis.ofStdin tag report).text w.coloured o.format
      files := w.files } := by
  have hfound : analysisBy a w o.fromStdin = .ok (some (.ofStdin tag report)) :=
    analysisBy_eq_some_iff.2 (.inl ⟨rfl, stdinAnalysis_eq_ok_iff.2
      ⟨tag, code, report, htag, hcode, hreport, rfl⟩⟩)
  rw [runBy, hfound]
  rfl

/-- The run over a standard input that is no text. -/
lemma runBy_of_decode?_eq_none (htag : o.language = some tag)
    (hcode : Utf8.decode? w.stdin = none) :
    runBy a w o.fromStdin = RunError.unreadableStdin.outcome w.files := by
  have hpath : o.fromStdin.path = "-" := rfl
  have hlanguage : o.fromStdin.language = some tag := htag
  have hstdin : stdinAnalysis a w.stdin o.fromStdin.language = .error .unreadableStdin := by
    simp only [stdinAnalysis, hlanguage, hcode]
  rw [runBy, analysisBy_of_stdin a hpath, hstdin]
  rfl

end Runs

lemma exitCode_ne_two (reports : List Report) (failOn : Option Severity) :
    exitCode reports failOn ≠ 2 := by
  rcases exitCode_eq_zero_or_one reports failOn with h | h <;> omega

/-- **The same bytes in a file and on the standard input.**  Take settings that are accepted and
have no model, a language, and a file with the bytes of the standard input.

* With a format that cannot be written, both runs end with 2.
* Otherwise the file is always analyzed, and its report is the review of the lenient reading.
* When the bytes are those of a text, that is the review of this text, and the run over the standard
  input ends with the same code and prints the same report.
* When they are not, the run over the standard input ends with 2 and prints nothing.
* So the two codes agree exactly when the bytes are those of a text. -/
theorem stdin_agrees_with_file_iff (w : World) (o : AnalyzeOptions) {settings : Settings}
    {tag : String} (hsettings : loadSettings w.files o.config = .ok settings)
    (hmodel : settings.model = none) (hendpoint : o.modelEndpoint = none) (hpath : o.path ≠ "-")
    (htag : o.language = some tag) (hread : w.files.read o.path = .ok w.stdin) :
    let file := runAnalyze w o
    let stdin := runAnalyze w o.fromStdin
    let report := review settings (Utf8.decodeLossy w.stdin) tag
    (o.knownFormat = false → file.code = 2 ∧ stdin.code = 2) ∧
    (o.knownFormat = true →
      (file.code = exitCode [report] o.failOn ∧
        file.stdout = (Analysis.ofFiles [{ path := o.path.lossy, language := tag, report }]).text
          w.coloured o.format) ∧
      (∀ text, w.stdin = Utf8.encode text →
        report = review settings text tag ∧ stdin.code = file.code ∧
          stdin.stdout = (Analysis.ofStdin tag report).text w.coloured o.format) ∧
      ((∀ text, w.stdin ≠ Utf8.encode text) → stdin.code = 2 ∧ stdin.stdout = "") ∧
      (stdin.code = file.code ↔ ∃ text, w.stdin = Utf8.encode text)) := by
  intro file stdin report
  have hload : loadAnalyzer w o.config o.modelEndpoint = .ok (.alone (.heuristic settings)) := by
    rw [hendpoint]
    exact loadAnalyzer_of_model_none hsettings hmodel
  refine ⟨fun hformat => ⟨?_, ?_⟩, fun hformat => ?_⟩
  · simp only [file, runAnalyze_eq, analysis_of_unknownFormat hformat]
    rfl
  · have hformat' : o.fromStdin.knownFormat = false := hformat
    simp only [stdin, runAnalyze_eq, analysis_of_unknownFormat hformat']
    rfl
  have hfile : file = runBy (.alone (.heuristic settings)) w o :=
    runAnalyze_of_loadAnalyzer hformat hload
  have hstdin : stdin = runBy (.alone (.heuristic settings)) w o.fromStdin :=
    runAnalyze_of_loadAnalyzer (o := o.fromStdin) hformat hload
  rw [runBy_of_read hpath htag hread rfl] at hfile
  have hcode : file.code = exitCode [report] o.failOn := by rw [hfile]
  -- on the bytes of a text the two readings are the same
  have hagree : ∀ text, w.stdin = Utf8.encode text →
      report = review settings text tag ∧ stdin.code = file.code ∧
        stdin.stdout = (Analysis.ofStdin tag report).text w.coloured o.format := by
    intro text htext
    have hdecode := Utf8.decode?_eq_some_iff.2 htext
    have hreport : report = review settings text tag := by
      simp only [report, Utf8.decodeLossy_of_decode? hdecode]
    rw [runBy_of_decode? htag hdecode rfl] at hstdin
    refine ⟨hreport, ?_, ?_⟩
    · rw [hstdin, hcode, hreport]
    · rw [hstdin, hreport]
  have hrefuse : (∀ text, w.stdin ≠ Utf8.encode text) → stdin.code = 2 ∧ stdin.stdout = "" := by
    intro hnone
    have hdecode : Utf8.decode? w.stdin = none :=
      Option.eq_none_iff_forall_ne_some.2 fun text htext =>
        hnone text (Utf8.decode?_eq_some_iff.1 htext)
    rw [hstdin, runBy_of_decode?_eq_none htag hdecode]
    exact ⟨rfl, rfl⟩
  refine ⟨⟨hcode, by rw [hfile]⟩, hagree, hrefuse, fun hsame => ?_, ?_⟩
  · -- the run over the file never ends with 2
    by_contra hnone
    rw [not_exists] at hnone
    rw [(hrefuse hnone).1, hcode] at hsame
    exact exitCode_ne_two _ _ hsame.symm
  · rintro ⟨text, htext⟩
    exact (hagree text htext).2.1

/-- A world with one file, whose bytes are also on the standard input. -/
def worldWithFile (bytes : List UInt8) : World where
  files := { root := .dir [("a.py", .file bytes)], workDir := [] }
  stdin := bytes

/-- One line of 81 characters: the gate closes in both runs, and both show the review of that
line. -/
theorem stdin_agrees_with_file_long_line :
    let w := worldWithFile (List.replicate 81 120)
    let o : AnalyzeOptions :=
      { path := "a.py", language := some "python", format := "json", failOn := some .low }
    (runAnalyze w o).code = 1 ∧ (runAnalyze w o.fromStdin).code = (runAnalyze w o).code := by
  intro w o
  have hsettings : loadSettings w.files o.config = .ok Settings.default :=
    loadSettings_default (by decide +kernel) (by decide +kernel)
  have hread : w.files.read o.path = .ok w.stdin := by decide +kernel
  have htext : w.stdin = Utf8.encode (String.ofList (List.replicate 81 'x')) := by decide +kernel
  have h := stdin_agrees_with_file_iff w o hsettings rfl rfl (by decide) rfl hread
  exact ⟨by decide +kernel, ((h.2 rfl).2.1 _ htext).2.1⟩

/-- The single byte `FF`, which no text has: the file is analyzed, and the standard input is
refused. -/
theorem stdin_refused_and_file_analyzed :
    let w := worldWithFile [0xFF]
    let o : AnalyzeOptions := { path := "a.py", language := some "python", format := "json" }
    w.files.read o.path = .ok w.stdin ∧ (runAnalyze w o).code = 0 ∧
      (runAnalyze w o.fromStdin).code = 2 := by
  decide +kernel

end Critique
