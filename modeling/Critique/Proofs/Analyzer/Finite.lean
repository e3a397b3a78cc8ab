import Critique.Proofs.Analyzer.Primary
import Critique.Proofs.Codec.Report
import Critique.Proofs.Command.Settings
import Critique.Proofs.Decimal.Sum
import Critique.Proofs.Report.Metrics

/-!
# The metrics of analyzers are finite

A score is a sum of weights, cut off at one.  The weights of settings that satisfy all rules are
finite and not negative, so that the sum can only be too large, and then the score is one
(`isFinite_score`).  The metrics of a model come from a JSON document and are finite because there
is no other number in one.  Merging only renames metrics.  So every report of an analyzer that is
built from such settings has finite metrics (`isFinite_of_analyze_build`), and its JSON form is read
again.
-/

namespace Critique

open Decimal

/-! ## Scores -/

/-- Are all weights finite and not negative? -/
def Table.IsWeighty (weights : Table Float) : Prop :=
  ∀ entry ∈ weights.entries, entry.2.isFinite = true ∧ 0 ≤ entry.2

lemma Settings.isWeighty {s : Settings} (h : s.violation? = none) : s.weights.IsWeighty := by
  obtain ⟨-, -, hweights, -⟩ := violation?_eq_none_iff.1 h
  intro entry hentry
  have hnone := List.findSome?_eq_none_iff.1 hweights entry hentry
  unfold weightViolation? at hnone
  split_ifs at hnone with hblank hweight
  simpa using hweight

lemma mem_entries_of_get? {α : Type} {t : Table α} {name : String} {x : α}
    (h : t.get? name = some x) : (name, x) ∈ t.entries := by
  obtain ⟨before, after, heq, -⟩ := List.lookup_eq_some_iff.1 h
  exact heq ▸ List.mem_append_right _ List.mem_cons_self

/-- A score is finite, whatever the text is. -/
lemma isFinite_score {weights : Table Float} (h : weights.IsWeighty) (code : String) :
    (Weights.score weights code).isFinite = true := by
  refine isFinite_min_one (unnegative_foldl_add trivial fun w hw => ?_)
  obtain ⟨token, -, htoken⟩ := List.mem_filterMap.1 hw
  obtain ⟨hfinite, hnonneg⟩ := h _ (mem_entries_of_get? htoken)
  exact unnegative_of_nonneg hfinite hnonneg

/-! ## Reports -/

namespace Report

lemma isFinite_review {settings : Settings} (h : settings.weights.IsWeighty)
    (code language : String) : (review settings code language).IsFinite := by
  intro m hm
  obtain rfl := List.mem_singleton.1 hm
  exact isFinite_score h code

lemma values_appendMetrics (held new : List Metric) :
    (appendMetrics held new).map (·.value) = held.map (·.value) ++ new.map (·.value) := by
  induction new using List.reverseRecOn with
  | nil => simp
  | append_singleton new m ih =>
    rw [appendMetrics_concat, List.map_append, ih, List.map_append, List.append_assoc]
    rfl

/-- Merging changes names and no values. -/
lemma IsFinite.merge {a b : Report} (ha : a.IsFinite) (hb : b.IsFinite) : (a.merge b).IsFinite := by
  intro m hm
  have hvalue : m.value ∈ (appendMetrics a.metrics b.metrics).map (·.value) :=
    List.mem_map_of_mem hm
  rw [values_appendMetrics, List.mem_append] at hvalue
  rcases hvalue with hvalue | hvalue
  · obtain ⟨m', hm', heq⟩ := List.mem_map.1 hvalue
    exact heq ▸ ha m' hm'
  · obtain ⟨m', hm', heq⟩ := List.mem_map.1 hvalue
    exact heq ▸ hb m' hm'

/-- A report that came over the network has finite metrics. -/
lemma isFinite_of_ofBytes? {bytes : List UInt8} {r : Report} (h : Report.ofBytes? bytes = some r) :
    r.IsFinite := by
  obtain ⟨v, hv, hr⟩ := Option.bind_eq_some_iff.1 h
  obtain ⟨text, -, hparse⟩ := Option.bind_eq_some_iff.1 hv
  exact isFinite_of_ofJson? (Json.hasFiniteNumbers_of_parse? hparse) hr

lemma isFinite_of_exchange {endpoint : String} {x : Exchange} {r : Report}
    (h : x.report endpoint = .ok r) : r.IsFinite := by
  unfold Exchange.report at h
  split at h
  · cases h
  · cases h
  · split_ifs at h
    split at h
    · rename_i hbytes
      cases h
      obtain ⟨bytes, -, hr⟩ := Option.bind_eq_some_iff.1 hbytes
      exact isFinite_of_ofBytes? hr
    · cases h

end Report

namespace Analyzer

lemma isFinite_of_classify_remote {transport : Transport} {m : ModelSettings}
    {code language : String} {r : Report}
    (h : (Classifier.remote transport m).classify code language = .ok r) : r.IsFinite := by
  simp only [Classifier.remote] at h
  split at h
  · cases h
  · exact Report.isFinite_of_exchange h

/-- Every report of a built analyzer has finite metrics, whatever a model answers. -/
lemma isFinite_of_analyze_build {settings : Settings} (hweights : settings.weights.IsWeighty)
    {transport : Transport} {code language : String} {r : Report}
    (h : (build transport settings).analyze code language = .ok r) : r.IsFinite := by
  have hreview := Report.isFinite_review hweights code language
  unfold build at h
  split at h
  · cases h
    exact hreview
  · rename_i m hm
    obtain ⟨own, hown, hr⟩ := analyze_layered_eq_ok_iff.1 h
    cases hown
    rcases hr with ⟨extra, hextra, rfl⟩ | ⟨-, rfl⟩
    · exact hreview.merge (isFinite_of_classify_remote hextra)
    · exact hreview

end Analyzer

/-! ## The document of a run -/

lemma RunReport.mapValues_id (r : RunReport) : r.mapValues id = r := by
  have hmetric : Metric.mapValue id = id := rfl
  have hreport : ∀ r : Report, r.mapValues id = r := fun r => by
    simp [Report.mapValues, hmetric]
  have hfile : FileReport.mapValues id = id := by
    funext f
    simp [FileReport.mapValues, hreport]
  simp [mapValues, hfile]

/-- **The report of a run is read from its JSON form**, and what analyzers report can be read.  For
any reports about files:

* when the values of all metrics are finite, the JSON form of the run is read, and what is read has
  the version, the files with their reports in their order, their number, and as totals the sums
  over the files that were read;
* when the value of some metric is not finite, the JSON form is not read;
* and every report of an analyzer that is built from settings that satisfy all rules has finite
  metrics, whatever the code, the language and the answer of the model. -/
theorem RunReport.ofJson?_toJson_ofFiles (files : List FileReport) :
    ((∀ f ∈ files, f.report.IsFinite) →
      ∃ r, RunReport.ofJson? (RunReport.ofFiles files).toJson = some r ∧
        r.version = Critique.version ∧ r.files = files ∧ r.filesAnalyzed = files.length ∧
        r.totalIssues = (r.files.map (·.report.issues.length)).sum ∧
        r.totalSuggestions = (r.files.map (·.report.suggestions.length)).sum) ∧
    ((∃ f ∈ files, ∃ m ∈ f.report.metrics, m.value.isFinite = false) →
      RunReport.ofJson? (RunReport.ofFiles files).toJson = none) ∧
    ∀ settings : Settings, settings.violation? = none →
      ∀ (transport : Transport) (code language : String) (r : Report),
        (Analyzer.build transport settings).analyze code language = .ok r → r.IsFinite := by
  have hvalue := Json.mapNumbers_id (RunReport.ofFiles files).toJson
  refine ⟨fun hfinite => ?_, ?_, ?_⟩
  · have hread : RunReport.ofJson? (RunReport.ofFiles files).toJson =
        some (RunReport.ofFiles files) := by
      have h := ofJson?_mapNumbers (g := id) (r := .ofFiles files) (fun _ _ => rfl) hfinite
      rw [hvalue] at h
      exact h.trans (congrArg some (mapValues_id _))
    exact ⟨_, hread, rfl, rfl, rfl, totalIssues_eq_sum files, totalSuggestions_eq_sum files⟩
  · rintro ⟨f, hf, m, hm, hinfinite⟩
    have h := ofJson?_mapNumbers_eq_none (g := id) (r := .ofFiles files) hf fun hfinite => by
      rw [hfinite m hm] at hinfinite
      cases hinfinite
    rwa [hvalue] at h
  · intro settings hrules transport code language r hr
    exact Analyzer.isFinite_of_analyze_build (Settings.isWeighty hrules) hr

/-- The review of a line of code is read again, and a report with an infinite metric spoils the
document that it stands in. -/
theorem RunReport.ofJson?_toJson_infinite :
    let report := review Settings.default "if x: pass" "python"
    let sound : FileReport := { path := "a.py", language := "python", report }
    let broken : FileReport :=
      { path := "b.py", language := "python", report := { metrics := [complexityMetric (1 / 0)] } }
    report.IsFinite ∧
      (∃ r, RunReport.ofJson? (RunReport.ofFiles [sound]).toJson = some r ∧ r.files = [sound] ∧
        r.totalIssues = report.issues.length) ∧
      RunReport.ofJson? (RunReport.ofFiles [sound, broken]).toJson = none := by
  intro report sound broken
  obtain ⟨-, hbroken, hbuilt⟩ := RunReport.ofJson?_toJson_ofFiles [sound, broken]
  obtain ⟨hsound, -, -⟩ := RunReport.ofJson?_toJson_ofFiles [sound]
  have hfinite : report.IsFinite :=
    hbuilt Settings.default Settings.violation?_default .none "if x: pass" "python" report rfl
  have hinfinite : (1 / 0 : Float).isFinite = false := by decide
  refine ⟨hfinite, ?_, hbroken ⟨broken, by simp, complexityMetric (1 / 0), by simp [broken],
    hinfinite⟩⟩
  obtain ⟨r, hread, -, hfiles, -, hissues, -⟩ :=
    hsound fun f hf => by rwa [List.mem_singleton.1 hf]
  rw [hfiles] at hissues
  exact ⟨r, hread, hfiles, by simpa using hissues⟩

end Critique
