import Critique.Command.Run
import Mathlib.Data.List.Forall2

/-!
# The parts of an analysis

The command `analyze` checks its format, builds an analyzer, and then runs it over the standard
input or over files.  Only the last part depends on what the analyzer answers, and it is a function
of the analyzer: `runBy a` is the command with the analyzer `a` in place of the one that the
settings give.  `runAnalyze_of_loadAnalyzer` says that the command is `runBy` for the analyzer it
loads.

The other lemmas take one part each and say when it succeeds and with what.
-/

namespace Critique

open Text

/-! ## Computations that can fail -/

section Except

variable {ε α β : Type}

/-- A sequence succeeds when both of its parts do. -/
lemma bind_eq_ok_iff {x : Except ε α} {f : α → Except ε β} {b : β} :
    (x >>= f) = .ok b ↔ ∃ a, x = .ok a ∧ f a = .ok b := by
  cases x with
  | error e => simp [bind, Except.bind]
  | ok a => simp [bind, Except.bind]

/-- A sequence fails when one of its parts does. -/
lemma bind_eq_error_iff {x : Except ε α} {f : α → Except ε β} {e : ε} :
    (x >>= f) = .error e ↔ x = .error e ∨ ∃ a, x = .ok a ∧ f a = .error e := by
  cases x with
  | error own => simp [bind, Except.bind]
  | ok a => simp [bind, Except.bind]

lemma mapError_eq_ok_iff {ε' : Type} {x : Except ε α} {f : ε → ε'} {a : α} :
    x.mapError f = .ok a ↔ x = .ok a := by
  cases x with
  | error e => simp [Except.mapError]
  | ok a => simp [Except.mapError]

lemma mapError_eq_error_iff {ε' : Type} {x : Except ε α} {f : ε → ε'} {e : ε'} :
    x.mapError f = .error e ↔ ∃ own, x = .error own ∧ f own = e := by
  cases x with
  | error own => simp [Except.mapError]
  | ok a => simp [Except.mapError]

/-- When a second function succeeds wherever a first one does, it succeeds on every list on which
the first one does, and each result of the first has its counterpart. -/
lemma exists_mapM_eq_ok {γ : Type} {f : α → Except ε β} {g : α → Except ε γ} {R : β → γ → Prop}
    (hstep : ∀ x y, f x = .ok y → ∃ z, g x = .ok z ∧ R y z) {xs : List α} {ys : List β}
    (h : xs.mapM f = .ok ys) : ∃ zs, xs.mapM g = .ok zs ∧ ∀ y ∈ ys, ∃ z ∈ zs, R y z := by
  induction xs generalizing ys with
  | nil =>
    cases h
    exact ⟨[], rfl, fun y hy => absurd hy List.not_mem_nil⟩
  | cons x xs ih =>
    rw [List.mapM_cons] at h
    obtain ⟨y, hy, h⟩ := bind_eq_ok_iff.1 h
    obtain ⟨ys, hys, h⟩ := bind_eq_ok_iff.1 h
    cases h
    obtain ⟨z, hz, hyz⟩ := hstep x y hy
    obtain ⟨zs, hzs, hrest⟩ := ih hys
    refine ⟨z :: zs, ?_, ?_⟩
    · rw [List.mapM_cons]
      exact bind_eq_ok_iff.2 ⟨z, hz, bind_eq_ok_iff.2 ⟨zs, hzs, rfl⟩⟩
    · intro y' hy'
      rcases List.mem_cons.1 hy' with rfl | hy'
      · exact ⟨z, List.mem_cons_self, hyz⟩
      · obtain ⟨z', hz', hyz'⟩ := hrest y' hy'
        exact ⟨z', List.mem_cons_of_mem _ hz', hyz'⟩

/-- A function succeeds on a list when it succeeds on each of its elements. -/
lemma mapM_eq_ok_iff {f : α → Except ε β} {xs : List α} {ys : List β} :
    xs.mapM f = .ok ys ↔ List.Forall₂ (fun x y => f x = .ok y) xs ys := by
  induction xs generalizing ys with
  | nil => simp [pure, Except.pure, eq_comm]
  | cons x xs ih =>
    rw [List.mapM_cons, bind_eq_ok_iff]
    constructor
    · rintro ⟨y, hy, h⟩
      obtain ⟨ys, hys, h⟩ := bind_eq_ok_iff.1 h
      cases h
      exact .cons hy (ih.1 hys)
    · intro h
      cases h with
      | cons hy hys => exact ⟨_, hy, bind_eq_ok_iff.2 ⟨_, ih.2 hys, rfl⟩⟩

lemma exists_of_mapM_eq_ok {f : α → Except ε β} {xs : List α} {ys : List β}
    (h : xs.mapM f = .ok ys) {x : α} (hx : x ∈ xs) : ∃ y ∈ ys, f x = .ok y := by
  rw [mapM_eq_ok_iff] at h
  induction h with
  | nil => exact absurd hx List.not_mem_nil
  | cons hy _ ih =>
    rcases List.mem_cons.1 hx with rfl | hx
    · exact ⟨_, List.mem_cons_self, hy⟩
    · obtain ⟨y, hmem, hy⟩ := ih hx
      exact ⟨y, List.mem_cons_of_mem _ hmem, hy⟩

lemma exists_of_mem_mapM_eq_ok {f : α → Except ε β} {xs : List α} {ys : List β}
    (h : xs.mapM f = .ok ys) {y : β} (hy : y ∈ ys) : ∃ x ∈ xs, f x = .ok y := by
  rw [mapM_eq_ok_iff] at h
  induction h with
  | nil => exact absurd hy List.not_mem_nil
  | cons hx _ ih =>
    rcases List.mem_cons.1 hy with rfl | hy
    · exact ⟨_, List.mem_cons_self, hx⟩
    · obtain ⟨x, hmem, hx⟩ := ih hy
      exact ⟨x, List.mem_cons_of_mem _ hmem, hx⟩

/-- A function fails on a list only with the failure of one of its elements. -/
lemma exists_mem_of_mapM_eq_error {f : α → Except ε β} {xs : List α} {e : ε}
    (h : xs.mapM f = .error e) : ∃ x ∈ xs, f x = .error e := by
  induction xs with
  | nil => cases h
  | cons x xs ih =>
    rw [List.mapM_cons] at h
    cases hx : f x with
    | error own =>
      simp only [hx, bind, Except.bind, Except.error.injEq] at h
      exact ⟨x, List.mem_cons_self, by rw [hx, h]⟩
    | ok y =>
      cases hxs : xs.mapM f with
      | error own =>
        simp only [hx, hxs, bind, Except.bind, Except.error.injEq] at h
        obtain ⟨x', hx', hfail⟩ := ih (hxs.trans (congrArg _ h))
        exact ⟨x', List.mem_cons_of_mem _ hx', hfail⟩
      | ok ys => simp [hx, hxs, bind, Except.bind, pure, Except.pure] at h

end Except

/-! ## The command with a given analyzer -/

/-- Analyze the standard input. -/
def stdinAnalysis (a : Analyzer) (stdin : List UInt8) (language : Option String) :
    Except RunError Analysis := do
  let some language := language | .error .noLanguageForStdin
  let some code := Utf8.decode? stdin | .error .unreadableStdin
  let report ← (a.analyze code language).mapError (.failedAnalysis none)
  return .ofStdin language report

/-- Analyze what a path stands for; nothing when there are no files. -/
def pathAnalysis (a : Analyzer) (files : FileTree) (language : Option String) (path : OsText) :
    Except RunError (Option Analysis) := do
  let paths ← inputFiles files path
  if paths.isEmpty then return none
  return some (.ofFiles (← analyzeFiles a files language paths))

/-- Analyze what the options say with a given analyzer. -/
def analysisBy (a : Analyzer) (w : World) (o : AnalyzeOptions) :
    Except RunError (Option Analysis) :=
  if o.path == "-" then some <$> stdinAnalysis a w.stdin o.language
  else pathAnalysis a w.files o.language o.path

lemma analysisBy_of_stdin (a : Analyzer) {w : World} {o : AnalyzeOptions} (h : o.path = "-") :
    analysisBy a w o = some <$> stdinAnalysis a w.stdin o.language :=
  if_pos (by simpa using h)

lemma analysisBy_of_path (a : Analyzer) {w : World} {o : AnalyzeOptions} (h : o.path ≠ "-") :
    analysisBy a w o = pathAnalysis a w.files o.language o.path :=
  if_neg (by simpa using h)

/-- What comes of an analysis. -/
def analysisOutcome (w : World) (o : AnalyzeOptions) :
    Except RunError (Option Analysis) → Outcome
  | .error e => e.outcome w.files
  | .ok none => { code := 0, stderr := "Warning: no files to analyze\n", files := w.files }
  | .ok (some a) => {
      code := exitCode a.reports o.failOn
      stdout := a.text w.coloured o.format
      files := w.files }

/-- The command `analyze` with a given analyzer. -/
def runBy (a : Analyzer) (w : World) (o : AnalyzeOptions) : Outcome :=
  analysisOutcome w o (analysisBy a w o)

lemma runAnalyze_eq (w : World) (o : AnalyzeOptions) :
    runAnalyze w o = analysisOutcome w o (analysis w o) := rfl

/-- Is the format one of those that can be written? -/
def AnalyzeOptions.knownFormat (o : AnalyzeOptions) : Bool :=
  o.format == "pretty" || o.format == "json"

lemma analysis_of_unknownFormat {w : World} {o : AnalyzeOptions} (h : o.knownFormat = false) :
    analysis w o = .error (.badFormat o.format) := by
  have hformat : (o.format != "pretty" && o.format != "json") = true := by
    simpa [AnalyzeOptions.knownFormat] using h
  simp only [analysis, hformat, if_true]
  rfl

/-- With a known format, an analysis is the loading of an analyzer and an analysis with it. -/
lemma analysis_of_knownFormat {w : World} {o : AnalyzeOptions} (h : o.knownFormat = true) :
    analysis w o = loadAnalyzer w o.config o.modelEndpoint >>= fun a => analysisBy a w o := by
  have hformat : (o.format != "pretty" && o.format != "json") = false := by
    rw [AnalyzeOptions.knownFormat, Bool.or_eq_true] at h
    rcases h with h | h
    · simp [bne, h]
    · simp [bne, h]
  simp only [analysis, hformat]
  rw [if_neg Bool.false_ne_true]
  congr 1
  funext a
  rw [analysisBy]
  by_cases hpath : (o.path == "-") = true
  · -- The standard input: every way in which it can fail ends the run at once.
    rw [if_pos hpath, if_pos hpath]
    unfold stdinAnalysis
    cases o.language with
    | none => rfl
    | some language =>
      cases Utf8.decode? w.stdin with
      | none => rfl
      | some code =>
        cases hreport : a.analyze code language with
        | error e => simp only [hreport]; rfl
        | ok report => simp only [hreport]; rfl
  · rw [if_neg hpath, if_neg hpath, pathAnalysis]

/-- An analysis that is not stopped was made with a loaded analyzer. -/
lemma exists_loadAnalyzer_of_analysis {w : World} {o : AnalyzeOptions} {found : Option Analysis}
    (h : analysis w o = .ok found) :
    ∃ a, loadAnalyzer w o.config o.modelEndpoint = .ok a ∧ analysisBy a w o = .ok found := by
  by_cases hformat : o.knownFormat = true
  · rw [analysis_of_knownFormat hformat] at h
    exact bind_eq_ok_iff.1 h
  · rw [analysis_of_unknownFormat (Bool.not_eq_true _ ▸ hformat)] at h
    cases h

/-- The command is `runBy` for the analyzer that it loads. -/
lemma runAnalyze_of_loadAnalyzer {w : World} {o : AnalyzeOptions} {a : Analyzer}
    (hformat : o.knownFormat = true) (h : loadAnalyzer w o.config o.modelEndpoint = .ok a) :
    runAnalyze w o = runBy a w o := by
  rw [runAnalyze_eq, analysis_of_knownFormat hformat, h]
  rfl

/-- A run that is finished has a format that can be written. -/
lemma knownFormat_of_code {w : World} {o : AnalyzeOptions} (h : (runAnalyze w o).code ≠ 2) :
    o.knownFormat = true := by
  by_contra hformat
  rw [Bool.not_eq_true] at hformat
  rw [runAnalyze_eq, analysis_of_unknownFormat hformat] at h
  exact h rfl

/-! ## When a run fails because of what it found -/

lemma exitCode_eq_one_iff {reports : List Report} {failOn : Option Severity} :
    exitCode reports failOn = 1 ↔
      ∃ s, failOn = some s ∧ ∃ r ∈ reports, r.hasIssuesAt s = true := by
  cases failOn with
  | none => simp [exitCode]
  | some s => simp [exitCode]

lemma exitCode_eq_zero_or_one (reports : List Report) (failOn : Option Severity) :
    exitCode reports failOn = 0 ∨ exitCode reports failOn = 1 := by
  cases failOn with
  | none => exact .inl rfl
  | some s =>
    simp only [exitCode]
    split
    · exact .inr rfl
    · exact .inl rfl

/-- A run ends with 1 exactly when it is finished and one of its reports has an issue as severe as
the user asked about. -/
lemma analysisOutcome_code_eq_one_iff {w : World} {o : AnalyzeOptions}
    {x : Except RunError (Option Analysis)} :
    (analysisOutcome w o x).code = 1 ↔
      ∃ found, x = .ok (some found) ∧
        ∃ s, o.failOn = some s ∧ ∃ r ∈ found.reports, r.hasIssuesAt s = true := by
  match x with
  | .error e => simp [analysisOutcome, RunError.outcome]
  | .ok none => simp [analysisOutcome]
  | .ok (some found) => simp [analysisOutcome, exitCode_eq_one_iff]

/-! ## When a part succeeds -/

lemma analyzeFile_eq_ok_iff {a : Analyzer} {files : FileTree} {language : Option String}
    {path : OsText} {f : FileReport} :
    analyzeFile a files language path = .ok f ↔
      ∃ tag bytes report, language.or (languageOfPath? path) = some tag ∧
        files.read path = .ok bytes ∧
        a.analyze (Utf8.decodeLossy bytes) tag = .ok report ∧
        f = { path := path.lossy, language := tag, report } := by
  rw [analyzeFile]
  cases language.or (languageOfPath? path) with
  | none => simp
  | some tag =>
    simp only [bind_eq_ok_iff, mapError_eq_ok_iff, pure, Except.pure, Except.ok.injEq,
      Option.some.injEq]
    constructor
    · rintro ⟨bytes, hbytes, report, hreport, rfl⟩
      exact ⟨tag, bytes, report, rfl, hbytes, hreport, rfl⟩
    · rintro ⟨tag, bytes, report, rfl, hbytes, hreport, rfl⟩
      exact ⟨bytes, hbytes, report, hreport, rfl⟩

lemma collectFiles_eq_ok_iff {files : FileTree} {path : OsText} {paths : List OsText} :
    collectFiles files path = .ok paths ↔
      ∃ regular, files.regularFiles path = .ok regular ∧
        paths = (regular.filter fun f => (languageOfPath? f).isSome).mergeSort Path.le := by
  rw [collectFiles]
  cases files.regularFiles path with
  | error e => simp [Except.map]
  | ok regular => simp [Except.map, eq_comm]

lemma inputFiles_eq_ok_iff {files : FileTree} {path : OsText} {paths : List OsText} :
    inputFiles files path = .ok paths ↔
      ∃ node, files.stat path = .ok node ∧
        if node.isDir then collectFiles files path = .ok paths else paths = [path] := by
  rw [inputFiles, bind_eq_ok_iff]
  refine exists_congr fun node => and_congr mapError_eq_ok_iff ?_
  by_cases hdir : node.isDir = true
  · simp only [hdir, if_true, mapError_eq_ok_iff]
  · simp [hdir, pure, Except.pure, eq_comm]

lemma analyzeFiles_eq_ok_iff {a : Analyzer} {files : FileTree} {language : Option String}
    {paths : List OsText} {fs : List FileReport} :
    analyzeFiles a files language paths = .ok fs ↔
      ∃ read, paths.mapM (analyzeFile a files language) = .ok read ∧
        fs = read.mergeSort fun f g => f.path ≤ g.path := by
  rw [analyzeFiles, bind_eq_ok_iff]
  simp only [pure, Except.pure, Except.ok.injEq, eq_comm (a := fs)]

lemma stdinAnalysis_eq_ok_iff {a : Analyzer} {stdin : List UInt8} {language : Option String}
    {found : Analysis} :
    stdinAnalysis a stdin language = .ok found ↔
      ∃ tag code report, language = some tag ∧ Utf8.decode? stdin = some code ∧
        a.analyze code tag = .ok report ∧ found = .ofStdin tag report := by
  unfold stdinAnalysis
  cases language with
  | none => simp
  | some tag =>
    cases Utf8.decode? stdin with
    | none => simp
    | some code =>
      simp only [bind_eq_ok_iff, mapError_eq_ok_iff, pure, Except.pure, Except.ok.injEq,
        Option.some.injEq]
      constructor
      · rintro ⟨report, hreport, rfl⟩
        exact ⟨tag, code, report, rfl, rfl, hreport, rfl⟩
      · rintro ⟨tag, code, report, rfl, rfl, hreport, rfl⟩
        exact ⟨report, hreport, rfl⟩

lemma pathAnalysis_eq_some_iff {a : Analyzer} {files : FileTree} {language : Option String}
    {path : OsText} {found : Analysis} :
    pathAnalysis a files language path = .ok (some found) ↔
      ∃ paths fs, inputFiles files path = .ok paths ∧ paths ≠ [] ∧
        analyzeFiles a files language paths = .ok fs ∧ found = .ofFiles fs := by
  rw [pathAnalysis, bind_eq_ok_iff]
  constructor
  · rintro ⟨paths, hpaths, h⟩
    by_cases hempty : paths.isEmpty = true
    · rw [if_pos hempty] at h
      cases h
    · rw [if_neg hempty, bind_eq_ok_iff] at h
      obtain ⟨fs, hfs, h⟩ := h
      cases h
      exact ⟨paths, fs, hpaths, by simpa using hempty, hfs, rfl⟩
  · rintro ⟨paths, fs, hpaths, hne, hfs, rfl⟩
    refine ⟨paths, hpaths, ?_⟩
    rw [if_neg (by simpa using hne), bind_eq_ok_iff]
    exact ⟨fs, hfs, rfl⟩

/-- An analysis that found something read the standard input or at least one file. -/
lemma analysisBy_eq_some_iff {a : Analyzer} {w : World} {o : AnalyzeOptions} {found : Analysis} :
    analysisBy a w o = .ok (some found) ↔
      (o.path = "-" ∧ stdinAnalysis a w.stdin o.language = .ok found) ∨
        (o.path ≠ "-" ∧ pathAnalysis a w.files o.language o.path = .ok (some found)) := by
  by_cases hpath : o.path = "-"
  · have hmap : (some <$> stdinAnalysis a w.stdin o.language) = .ok (some found) ↔
        stdinAnalysis a w.stdin o.language = .ok found := by
      cases stdinAnalysis a w.stdin o.language with
      | error e => simp [Functor.map, Except.map]
      | ok x => simp [Functor.map, Except.map]
    rw [analysisBy_of_stdin a hpath, hmap]
    simp [hpath]
  · rw [analysisBy_of_path a hpath]
    simp [hpath]

lemma pathAnalysis_eq_none_iff {a : Analyzer} {files : FileTree} {language : Option String}
    {path : OsText} :
    pathAnalysis a files language path = .ok none ↔ inputFiles files path = .ok [] := by
  rw [pathAnalysis, bind_eq_ok_iff]
  constructor
  · rintro ⟨paths, hpaths, h⟩
    by_cases hempty : paths.isEmpty = true
    · rw [hpaths, List.isEmpty_iff.1 hempty]
    · rw [if_neg hempty, bind_eq_ok_iff] at h
      obtain ⟨fs, -, h⟩ := h
      cases h
  · intro hpaths
    exact ⟨[], hpaths, rfl⟩

/-- The standard input is always something to read. -/
lemma analysisBy_eq_none_iff {a : Analyzer} {w : World} {o : AnalyzeOptions} :
    analysisBy a w o = .ok none ↔ o.path ≠ "-" ∧ inputFiles w.files o.path = .ok [] := by
  by_cases hpath : o.path = "-"
  · have hmap : (some <$> stdinAnalysis a w.stdin o.language) ≠ .ok none := by
      cases stdinAnalysis a w.stdin o.language with
      | error e => simp [Functor.map, Except.map]
      | ok found => simp [Functor.map, Except.map]
    rw [analysisBy_of_stdin a hpath]
    simp [hpath, hmap]
  · rw [analysisBy_of_path a hpath, pathAnalysis_eq_none_iff]
    simp [hpath]

/-! ## Runs of two analyzers -/

/-- Whenever `a` answers, `b` answers as well, and the report of `a` has the relation `R` to that of
`b`. -/
def Analyzer.Follows (R : Report → Report → Prop) (b a : Analyzer) : Prop :=
  ∀ code language r, a.analyze code language = .ok r →
    ∃ r', b.analyze code language = .ok r' ∧ R r r'

section Follows

variable {R : Report → Report → Prop} {a b : Analyzer} {w : World} {o : AnalyzeOptions}

lemma Analyzer.Follows.analyzeFile (h : b.Follows R a) {files : FileTree}
    {language : Option String} {path : OsText} {f : FileReport}
    (hf : Critique.analyzeFile a files language path = .ok f) :
    ∃ g, Critique.analyzeFile b files language path = .ok g ∧ R f.report g.report := by
  obtain ⟨tag, bytes, r, htag, hbytes, hr, rfl⟩ := analyzeFile_eq_ok_iff.1 hf
  obtain ⟨r', hr', hrelated⟩ := h _ _ r hr
  exact ⟨_, analyzeFile_eq_ok_iff.2 ⟨tag, bytes, r', htag, hbytes, hr', rfl⟩, hrelated⟩

/-- What one analyzer finds in the inputs of a run has its counterpart in what the other one
finds. -/
lemma Analyzer.Follows.analysisBy (h : b.Follows R a) {found : Analysis}
    (hfound : Critique.analysisBy a w o = .ok (some found)) :
    ∃ found', Critique.analysisBy b w o = .ok (some found') ∧
      ∀ r ∈ found.reports, ∃ r' ∈ found'.reports, R r r' := by
  rcases analysisBy_eq_some_iff.1 hfound with ⟨hpath, hstdin⟩ | ⟨hpath, hfiles⟩
  · obtain ⟨tag, code, r, htag, hcode, hr, rfl⟩ := stdinAnalysis_eq_ok_iff.1 hstdin
    obtain ⟨r', hr', hrelated⟩ := h code tag r hr
    refine ⟨.ofStdin tag r', analysisBy_eq_some_iff.2 (Or.inl ⟨hpath, ?_⟩), ?_⟩
    · exact stdinAnalysis_eq_ok_iff.2 ⟨tag, code, r', htag, hcode, hr', rfl⟩
    · intro x hx
      rw [List.mem_singleton.1 hx]
      exact ⟨r', List.mem_singleton_self r', hrelated⟩
  · obtain ⟨paths, fs, hpaths, hne, hfs, rfl⟩ := pathAnalysis_eq_some_iff.1 hfiles
    obtain ⟨read, hread, rfl⟩ := analyzeFiles_eq_ok_iff.1 hfs
    obtain ⟨read', hread', hrelated⟩ := exists_mapM_eq_ok (fun _ _ hf => h.analyzeFile hf) hread
    refine ⟨_, analysisBy_eq_some_iff.2 (Or.inr ⟨hpath, pathAnalysis_eq_some_iff.2
      ⟨paths, _, hpaths, hne, analyzeFiles_eq_ok_iff.2 ⟨read', hread', rfl⟩, rfl⟩⟩), ?_⟩
    -- Sorting by path moves reports but neither drops nor adds one.
    simp only [Analysis.reports, List.mem_map, List.mem_mergeSort]
    rintro r ⟨f, hf, rfl⟩
    obtain ⟨g, hg, hfg⟩ := hrelated f hf
    exact ⟨g.report, ⟨g, hg, rfl⟩, hfg⟩

/-- A run that fails because of an issue fails with the other analyzer too, when related reports
keep their issues. -/
lemma Analyzer.Follows.code_eq_one (h : b.Follows R a)
    (hR : ∀ r r' s, R r r' → r.hasIssuesAt s = true → r'.hasIssuesAt s = true)
    (hcode : (runBy a w o).code = 1) : (runBy b w o).code = 1 := by
  obtain ⟨found, hfound, s, hs, r, hr, hissue⟩ := analysisOutcome_code_eq_one_iff.1 hcode
  obtain ⟨found', hfound', hrelated⟩ := h.analysisBy hfound
  obtain ⟨r', hr', hrr'⟩ := hrelated r hr
  exact analysisOutcome_code_eq_one_iff.2 ⟨found', hfound', s, hs, r', hr', hR r r' s hrr' hissue⟩

end Follows

end Critique
