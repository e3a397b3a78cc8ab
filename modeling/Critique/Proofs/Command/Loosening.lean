import Critique.Proofs.Command.Settings
import Critique.Proofs.Decimal.Order
import Critique.Proofs.Report.Severity
import Critique.Proofs.Review.Issues

/-!
# Looser limits

A review with looser limits, longer lines and a higher threshold for complexity, finds nothing that
a review with stricter limits does not find.  The issues that both find can differ in their
messages, which tell the limit, and so issues are compared by the rest of them (`Issue.gist`).

`within_review` says it for one snippet.  The two analyzers answer on the same inputs, and so it
goes through a whole run: `code_eq_zero_of_within` compares the exit codes, and
`loosening_adds_nothing` puts the parts together.

All of this is about reviews alone, and it fails for runs with a model.  What a model on top of a
review adds also depends on what the review found before, because a finding that is there already is
not repeated: with stricter limits the review can say at low severity what the model would say at
high severity (`loosening_with_model_adds`).
-/

namespace Critique

open Text Decimal

/-- What an issue says without its message. -/
def Issue.gist (i : Issue) : Category × Nat × Severity :=
  (i.category, i.line, i.severity)

/-- A report finds what another one finds, or less, and is equal to it in everything else. -/
structure Report.Within (loose strict : Report) : Prop where
  issues : (loose.issues.map Issue.gist).Sublist (strict.issues.map Issue.gist)
  suggestions : loose.suggestions = strict.suggestions
  metrics : loose.metrics = strict.metrics

/-- What the gate sees of a report is within what it sees of the other. -/
lemma Report.Within.hasIssuesAt {loose strict : Report} (h : loose.Within strict) {s : Severity}
    (hs : loose.hasIssuesAt s = true) : strict.hasIssuesAt s = true := by
  obtain ⟨i, hi, hsevere⟩ := hasIssuesAt_iff_exists.1 hs
  have hgist : i.gist ∈ strict.issues.map Issue.gist := h.issues.subset (List.mem_map_of_mem hi)
  obtain ⟨j, hj, heq⟩ := List.mem_map.1 hgist
  have hseverity : j.severity = i.severity := congrArg (·.2.2) heq
  exact hasIssuesAt_iff_exists.2 ⟨j, hj, hseverity ▸ hsevere⟩

/-! ## One snippet -/

lemma gists_longLineIssues (maxLength start : ℕ) (ls : List (List Char)) :
    (longLineIssues maxLength start ls).map Issue.gist =
      ((ls.zipIdx start).filter fun p => maxLength < p.1.length).map
        fun p => (.style, p.2, .low) := by
  rw [longLineIssues_eq, List.map_map]
  rfl

/-- The lines that are too long for a longer limit are among those that are too long for a shorter
one. -/
lemma sublist_gists_longLineIssues {short long : ℕ} (h : short ≤ long) (start : ℕ)
    (ls : List (List Char)) :
    ((longLineIssues long start ls).map Issue.gist).Sublist
      ((longLineIssues short start ls).map Issue.gist) := by
  rw [gists_longLineIssues, gists_longLineIssues]
  refine List.Sublist.map _ (List.monotone_filter_right _ fun p hp => ?_)
  rw [decide_eq_true_eq] at hp ⊢
  exact h.trans_lt hp

section Looser

variable {strict loose : Settings}

lemma exceedsComplexity_of_le (hweights : loose.weights = strict.weights)
    (hthreshold : strict.complexityThreshold ≤ loose.complexityThreshold) {code : String}
    (h : exceedsComplexity loose.toLimits code = true) :
    exceedsComplexity strict.toLimits code = true := by
  rw [exceedsComplexity_iff] at h ⊢
  rw [hweights] at h
  exact float_lt_of_le_of_lt hthreshold h

lemma within_review (hweights : loose.weights = strict.weights)
    (hlength : strict.maxLineLength ≤ loose.maxLineLength)
    (hthreshold : strict.complexityThreshold ≤ loose.complexityThreshold) (code language : String) :
    (review loose code language).Within (review strict code language) where
  issues := by
    -- the issue about complexity is lost or kept, but not found anew
    have hcomplexity : List.Sublist
        (if exceedsComplexity loose.toLimits code then [complexityIssue] else [])
        (if exceedsComplexity strict.toLimits code then [complexityIssue] else []) := by
      split_ifs with hloose hstrict hstrict
      · exact .refl _
      · exact absurd (exceedsComplexity_of_le hweights hthreshold hloose) hstrict
      · exact List.nil_sublist _
      · exact .refl _
    have hlines := sublist_gists_longLineIssues (UInt64.le_iff_toNat_le.1 hlength) 1
      (lines code.toList)
    simp only [review, findSmells, List.map_append]
    exact hlines.append (hcomplexity.map _)
  suggestions := rfl
  metrics := by simp only [review, hweights]

end Looser

/-! ## Whole runs -/

/-- The gate lets reports pass that find no more than others which it lets pass. -/
lemma exitCode_eq_zero_of_within {strict loose : List Report} {failOn : Option Severity}
    (h : ∀ r ∈ loose, ∃ r' ∈ strict, r.Within r') (hcode : exitCode strict failOn = 0) :
    exitCode loose failOn = 0 := by
  refine (exitCode_eq_zero_or_one loose failOn).resolve_right fun hone => ?_
  obtain ⟨s, hs, r, hr, hissue⟩ := exitCode_eq_one_iff.1 hone
  obtain ⟨r', hr', hwithin⟩ := h r hr
  have hstrict : exitCode strict failOn = 1 :=
    exitCode_eq_one_iff.2 ⟨s, hs, r', hr', hwithin.hasIssuesAt hissue⟩
  rw [hcode] at hstrict
  cases hstrict

/-- A run that ends with 0 also does with an analyzer that answers on the same snippets and finds no
more. -/
lemma code_eq_zero_of_within {strict loose : Analyzer} {w : World} {o : AnalyzeOptions}
    (hwithin : strict.Follows Report.Within loose)
    (hanswers : loose.Follows (fun _ _ => True) strict) (hcode : (runBy strict w o).code = 0) :
    (runBy loose w o).code = 0 := by
  cases hstrict : analysisBy strict w o with
  | error e =>
    rw [runBy, hstrict] at hcode
    cases hcode
  | ok found =>
    rw [runBy, hstrict] at hcode
    cases found with
    | none =>
      have hnone : analysisBy loose w o = .ok none :=
        analysisBy_eq_none_iff.2 (analysisBy_eq_none_iff.1 hstrict)
      rw [runBy, hnone]
      rfl
    | some found =>
      -- both analyzers answer about the same snippets, so there are results of both to compare
      obtain ⟨found', hloose, -⟩ := hanswers.analysisBy hstrict
      obtain ⟨again, hagain, hreports⟩ := hwithin.analysisBy hloose
      obtain rfl : found = again := by simpa [hstrict] using hagain
      rw [runBy, hloose]
      exact exitCode_eq_zero_of_within hreports hcode

/-- Without a model, the command is a run of the review. -/
lemma runAnalyze_of_model_none {w : World} {o : AnalyzeOptions} {s : Settings}
    (hformat : o.knownFormat = true) (h : loadSettings w.files o.config = .ok s)
    (hmodel : s.model = none) (hendpoint : o.modelEndpoint = none) :
    runAnalyze w o = runBy (.alone (.heuristic s)) w o := by
  have hload := loadAnalyzer_of_model_none h hmodel
  rw [← hendpoint] at hload
  exact runAnalyze_of_loadAnalyzer hformat hload

/-- **Looser limits add no findings.**  Take two settings with the same weights, of which the second
allow lines at least as long and a complexity at least as high.

* For every snippet and every language, the issues found with the second settings are, apart from
  their messages, a part in order of those found with the first; suggestions and metrics are the
  same.
* For all snippets together, whatever severity the user asks about, when the exit code is 0 with the
  first settings, it is 0 with the second.
* So is the exit code of every run, over the standard input, a file or the files of a directory.
* The command does so with two settings files, when no model is asked.

Runs with a model are left out, because the law fails for them: there the second settings can have
an issue more for one snippet, and end a run with 1 that the first end with 0
(`loosening_with_model_adds`). -/
theorem loosening_adds_nothing {strict loose : Settings} (hweights : loose.weights = strict.weights)
    (hlength : strict.maxLineLength ≤ loose.maxLineLength)
    (hthreshold : strict.complexityThreshold ≤ loose.complexityThreshold) :
    (∀ code language : String,
      ((review loose code language).issues.map
          fun i => (i.category, i.line, i.severity)).Sublist
        ((review strict code language).issues.map fun i => (i.category, i.line, i.severity)) ∧
      (review loose code language).suggestions = (review strict code language).suggestions ∧
      (review loose code language).metrics = (review strict code language).metrics) ∧
    (∀ (inputs : List (String × String)) (failOn : Option Severity),
      exitCode (inputs.map fun input => review strict input.1 input.2) failOn = 0 →
        exitCode (inputs.map fun input => review loose input.1 input.2) failOn = 0) ∧
    (∀ (w : World) (o : AnalyzeOptions),
      (runBy (.alone (.heuristic strict)) w o).code = 0 →
        (runBy (.alone (.heuristic loose)) w o).code = 0) ∧
    ∀ (w : World) (o : AnalyzeOptions) (config : Option OsText),
      loadSettings w.files o.config = .ok strict → loadSettings w.files config = .ok loose →
      strict.model = none → loose.model = none → o.modelEndpoint = none →
      (runAnalyze w o).code = 0 → (runAnalyze w { o with config }).code = 0 := by
  have hreview := within_review hweights hlength hthreshold
  have hrun : ∀ (w : World) (o : AnalyzeOptions),
      (runBy (.alone (.heuristic strict)) w o).code = 0 →
        (runBy (.alone (.heuristic loose)) w o).code = 0 := by
    intro w o
    refine code_eq_zero_of_within ?_ ?_
    · rintro code language r ⟨⟩
      exact ⟨_, rfl, hreview code language⟩
    · rintro code language r ⟨⟩
      exact ⟨_, rfl, trivial⟩
  refine ⟨fun code language => ?_, fun inputs failOn => ?_, hrun, ?_⟩
  · obtain ⟨hissues, hsuggestions, hmetrics⟩ := hreview code language
    exact ⟨hissues, hsuggestions, hmetrics⟩
  · refine exitCode_eq_zero_of_within fun r hr => ?_
    obtain ⟨input, hinput, rfl⟩ := List.mem_map.1 hr
    exact ⟨_, List.mem_map_of_mem hinput, hreview input.1 input.2⟩
  · intro w o config hstrict hloose hstrictModel hlooseModel hendpoint hcode
    have hformat := knownFormat_of_code (by rw [hcode]; decide)
    rw [runAnalyze_of_model_none hformat hstrict hstrictModel hendpoint] at hcode
    rw [runAnalyze_of_model_none (o := { o with config }) hformat hloose hlooseModel hendpoint]
    -- Which settings file was named does not matter any more.
    exact hrun w o hcode

/-- A line of 81 characters, and two settings files: the one has an issue about it and the other has
none, and a run that asks for issues of medium severity ends with 0 for both. -/
theorem loosening_adds_nothing_long_line :
    let strict : Settings :=
      { maxLineLength := 80, complexityThreshold := 0.5, weights := .empty }
    let loose : Settings :=
      { maxLineLength := 100, complexityThreshold := 0.75, weights := .empty }
    let w : World := {
      files := {
        root := .dir [("strict", .file (Utf8.encode strict.toYaml)),
          ("loose", .file (Utf8.encode loose.toYaml))]
        workDir := [] }
      stdin := List.replicate 81 120 }
    let o : AnalyzeOptions :=
      { path := "-", language := some "python", config := some "strict", failOn := some .medium }
    let code := String.ofList (List.replicate 81 'x')
    (review strict code "python").issues.length = 1 ∧
      (review loose code "python").issues.length = 0 ∧
      ((review loose code "python").issues.map fun i => (i.category, i.line, i.severity)).Sublist
        ((review strict code "python").issues.map fun i => (i.category, i.line, i.severity)) ∧
      (runAnalyze w o).code = 0 ∧ (runAnalyze w { o with config := some "loose" }).code = 0 := by
  intro strict loose w o code
  have hstrict : loadSettings w.files (some "strict") = .ok strict := by
    refine loadSettings_of_read rfl (by decide +kernel) ?_
    rw [← Option.isNone_iff_eq_none]
    decide +kernel
  have hloose : loadSettings w.files (some "loose") = .ok loose := by
    refine loadSettings_of_read rfl (by decide +kernel) ?_
    rw [← Option.isNone_iff_eq_none]
    decide +kernel
  have hcode : (runAnalyze w o).code = 0 := by
    rw [runAnalyze_of_model_none (w := w) (o := o) (s := strict) rfl hstrict rfl rfl]
    decide +kernel
  obtain ⟨hissues, -, -, hrun⟩ :=
    @loosening_adds_nothing strict loose rfl (by decide) (by decide)
  exact ⟨by decide +kernel, by decide +kernel, (hissues code "python").1, hcode,
    hrun w o (some "loose") hstrict hloose rfl rfl rfl hcode⟩

/-- **With a model, looser limits can add findings.**  The model says about a line of 81 characters
what the review with the strict limit says, and calls it severe.  With the strict limit the review
has said it first, so the model's issue is dropped and the run ends with 0.  With the loose limit
the review says nothing, the model's issue is kept, and the run ends with 1. -/
theorem loosening_with_model_adds :
    let strict : Settings :=
      { maxLineLength := 80, weights := .empty, model := some { endpoint := "http://model" } }
    let loose : Settings := { strict with maxLineLength := 100 }
    let severe : Issue := { longLineIssue 80 1 with severity := .high }
    let answer := Utf8.encode (Report.toJson { issues := [severe] }).compact
    let transport : Transport := fun _ => .answered 200 (.complete answer)
    let w : World :=
      { files := { root := .dir [], workDir := [] }, stdin := List.replicate 81 120, transport }
    let o : AnalyzeOptions := { path := "-", language := some "python", failOn := some .high }
    let code := String.ofList (List.replicate 81 'x')
    let found (settings : Settings) : Option (List Issue) :=
      ((Analyzer.build transport settings).analyze code "python").toOption.map (·.issues)
    found strict = some [longLineIssue 80 1] ∧ found loose = some [severe] ∧
      (runBy (.build transport strict) w o).code = 0 ∧
      (runBy (.build transport loose) w o).code = 1 := by
  decide +kernel

end Critique
