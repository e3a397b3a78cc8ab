import Critique.Codec.FileReport
import Critique.Proofs.Json.Document
import Critique.Proofs.Json.Finite

/-!
# Reports, written as JSON and read again

A report is read from its JSON value as it was, unless a metric is not finite: such a value is
written as null, and null is no number.

The lemmas are about a JSON value with its numbers changed by some function `g`, because both uses
of them need it.  With `g = id` they are about the value itself, and with `Number.reread` about what
its text is read as (`Report.bind_parse?_pretty`, `RunReport.bind_parse?_pretty`).  All that is
asked of `g` is that it keeps the line numbers and counts of the report.

In the other direction, whatever is read from a document with finite numbers has finite metrics
(`Report.isFinite_of_ofJson?`).
-/

namespace Critique

open Json

/-! ## Records and lists -/

/-- The only field of its name is found. -/
lemma uniqueField?_of_mem {fields : List (String × Json)} (hnodup : (fields.map Prod.fst).Nodup)
    {f : String × Json} (hf : f ∈ fields) : uniqueField? fields f.1 = some (some f.2) := by
  have hfilter : fields.filter (·.1 == f.1) = [f] := by
    induction fields with
    | nil => exact absurd hf List.not_mem_nil
    | cons g fields ih =>
      rw [List.map_cons, List.nodup_cons] at hnodup
      rcases List.mem_cons.1 hf with rfl | hf
      · have hrest : fields.filter (·.1 == f.1) = [] := by
          rw [List.filter_eq_nil_iff]
          intro h hh heq
          exact hnodup.1 (List.mem_map.2 ⟨h, hh, beq_iff_eq.1 heq⟩)
        rw [List.filter_cons_of_pos (by simp), hrest]
      · have hne : ¬ (g.1 == f.1) = true := by
          intro heq
          exact hnodup.1 (List.mem_map.2 ⟨f, hf, (beq_iff_eq.1 heq).symm⟩)
        rw [List.filter_cons_of_neg (by simpa using hne), ih hnodup.2 hf]
  rw [uniqueField?, hfilter]

/-- A record is read field by field. -/
lemma asRecord?_mapNumbers (g : Number → Number) {fields : List (String × Json)}
    (hnodup : (fields.map Prod.fst).Nodup) :
    asRecord? (fields.map Prod.fst) ((Json.obj fields).mapNumbers g) =
      some (fields.map fun f => some (f.2.mapNumbers g)) := by
  have hnames : (mapFields g fields).map Prod.fst = fields.map Prod.fst := by
    rw [mapFields_eq_map, List.map_map]
    rfl
  rw [mapNumbers, asRecord?, mapM_eq_some_iff, List.forall₂_map_left_iff,
    List.forall₂_map_right_iff, List.forall₂_same]
  intro f hf
  refine uniqueField?_of_mem (f := (f.1, f.2.mapNumbers g)) (hnames ▸ hnodup) ?_
  rw [mapFields_eq_map]
  exact List.mem_map.2 ⟨f, hf, rfl⟩

/-- A list is read item by item, when every item is read. -/
lemma asList?_mapNumbers {α β : Type} {read : Json → Option β} {write : α → Json} {f : α → β}
    {g : Number → Number} {xs : List α}
    (h : ∀ x ∈ xs, read ((write x).mapNumbers g) = some (f x)) :
    asList? read ((Json.arr (xs.map write)).mapNumbers g) = some (xs.map f) := by
  rw [mapNumbers, asList?, mapItems_eq_map, mapM_eq_some_iff, List.map_map,
    List.forall₂_map_left_iff, List.forall₂_map_right_iff, List.forall₂_same]
  exact h

/-- A list is not read when one of its items is not. -/
lemma asList?_mapNumbers_eq_none {α β : Type} {read : Json → Option β} {write : α → Json}
    {g : Number → Number} {xs : List α} {x : α} (hx : x ∈ xs)
    (h : read ((write x).mapNumbers g) = none) :
    asList? read ((Json.arr (xs.map write)).mapNumbers g) = none := by
  rw [mapNumbers, asList?, mapItems_eq_map, List.map_map, ← Option.not_isSome_iff_eq_none,
    Option.isSome_iff_exists]
  rintro ⟨ys, hys⟩
  have hmem : (write x).mapNumbers g ∈ xs.map (mapNumbers g ∘ write) := List.mem_map.2 ⟨x, hx, rfl⟩
  obtain ⟨y, -, hy⟩ := exists_of_mapM_eq_some hys hmem
  rw [h] at hy
  cases hy

/-! ## Findings -/

section Findings

variable {g : Number → Number}

@[simp] lemma asText?_mapNumbers_str (s : String) : asText? ((Json.str s).mapNumbers g) = some s :=
  rfl

lemma asNat?_mapNumbers_nat {n : ℕ} (h : g (.natural n) = .natural n) :
    asNat? ((Json.nat n).mapNumbers g) = some n := by
  rw [nat, mapNumbers, h]
  rfl

@[simp] lemma Severity.ofJson?_mapNumbers (s : Severity) :
    Severity.ofJson? (s.toJson.mapNumbers g) = some s := by
  cases s with
  | low => rfl
  | medium => rfl
  | high => rfl

@[simp] lemma Category.ofJson?_mapNumbers (c : Category) :
    Category.ofJson? (c.toJson.mapNumbers g) = some c := by
  cases c with
  | style => rfl
  | complexity => rfl
  | improvement => rfl
  | other => rfl

lemma Issue.ofJson?_mapNumbers {i : Issue} (h : g (.natural i.line) = .natural i.line) :
    Issue.ofJson? (i.toJson.mapNumbers g) = some i := by
  have hrecord : (i.toJson.mapNumbers g).asRecord? ["type", "message", "line", "severity"] = _ :=
    asRecord?_mapNumbers g (by simp)
  rw [Issue.ofJson?, hrecord]
  simp [required?, asNat?_mapNumbers_nat h]

lemma Suggestion.ofJson?_mapNumbers {s : Suggestion} (h : g (.natural s.line) = .natural s.line) :
    Suggestion.ofJson? (s.toJson.mapNumbers g) = some s := by
  have hrecord : (s.toJson.mapNumbers g).asRecord? ["type", "message", "line", "example"] = _ :=
    asRecord?_mapNumbers g (by simp)
  rw [Suggestion.ofJson?, hrecord]
  simp [required?, asNat?_mapNumbers_nat h]

/-- A metric with another value. -/
def Metric.mapValue (f : Float → Float) (m : Metric) : Metric :=
  { m with value := f m.value }

/-- A metric is read unless its value is not finite: such a value is written as null. -/
lemma Metric.ofJson?_mapNumbers (m : Metric) :
    Metric.ofJson? (m.toJson.mapNumbers g) =
      if m.value.isFinite then some (m.mapValue fun x => (g (.real x)).toFloat) else none := by
  have hrecord : (m.toJson.mapNumbers g).asRecord? ["name", "value", "description"] = _ :=
    asRecord?_mapNumbers g (by simp)
  rw [Metric.ofJson?, hrecord]
  by_cases hfinite : m.value.isFinite = true
  · simp [required?, hfinite, Json.float, mapNumbers, asFloat?, asText?, mapValue]
  · simp [required?, hfinite, Json.float, mapNumbers, asFloat?]

end Findings

/-! ## Reports -/

namespace Report

/-- Are the values of all metrics finite? -/
def IsFinite (r : Report) : Prop :=
  ∀ m ∈ r.metrics, m.value.isFinite = true

/-- The line numbers of a report. -/
def lines (r : Report) : List ℕ :=
  r.issues.map (·.line) ++ r.suggestions.map (·.line)

/-- A report with other values of its metrics. -/
def mapValues (f : Float → Float) (r : Report) : Report :=
  { r with metrics := r.metrics.map (Metric.mapValue f) }

variable {g : Number → Number} {r : Report}

lemma asRecord?_toJson (r : Report) :
    (r.toJson.mapNumbers g).asRecord? ["issues", "suggestions", "metrics"] =
      some [some ((Json.arr (r.issues.map Issue.toJson)).mapNumbers g),
        some ((Json.arr (r.suggestions.map Suggestion.toJson)).mapNumbers g),
        some ((Json.arr (r.metrics.map Metric.toJson)).mapNumbers g)] :=
  asRecord?_mapNumbers g (by simp)

/-- A report with finite metrics is read, up to what its numbers are changed to. -/
lemma ofJson?_mapNumbers (hlines : ∀ n ∈ r.lines, g (.natural n) = .natural n)
    (hfinite : r.IsFinite) :
    Report.ofJson? (r.toJson.mapNumbers g) = some (r.mapValues fun x => (g (.real x)).toFloat) := by
  have hissues : asList? Issue.ofJson? ((Json.arr (r.issues.map Issue.toJson)).mapNumbers g) =
      some (r.issues.map id) :=
    asList?_mapNumbers fun i hi =>
      Issue.ofJson?_mapNumbers (hlines _ (List.mem_append_left _ (List.mem_map_of_mem hi)))
  have hsuggestions : asList? Suggestion.ofJson?
      ((Json.arr (r.suggestions.map Suggestion.toJson)).mapNumbers g) =
      some (r.suggestions.map id) :=
    asList?_mapNumbers fun s hs =>
      Suggestion.ofJson?_mapNumbers (hlines _ (List.mem_append_right _ (List.mem_map_of_mem hs)))
  have hmetrics : asList? Metric.ofJson? ((Json.arr (r.metrics.map Metric.toJson)).mapNumbers g) =
      some (r.metrics.map (Metric.mapValue fun x => (g (.real x)).toFloat)) :=
    asList?_mapNumbers fun m hm => (Metric.ofJson?_mapNumbers m).trans (if_pos (hfinite m hm))
  rw [Report.ofJson?, asRecord?_toJson]
  simp only [Option.bind_eq_bind, Option.bind_some, optional?, hissues, hsuggestions, hmetrics,
    List.map_id]
  rfl

/-- A report with a metric that is not finite is not read. -/
lemma ofJson?_mapNumbers_eq_none (hfinite : ¬ r.IsFinite) :
    Report.ofJson? (r.toJson.mapNumbers g) = none := by
  simp only [IsFinite, not_forall] at hfinite
  obtain ⟨m, hm, hvalue⟩ := hfinite
  have hmetrics := asList?_mapNumbers_eq_none (g := g) hm
    ((Metric.ofJson?_mapNumbers m).trans (if_neg hvalue))
  rw [Report.ofJson?, asRecord?_toJson]
  simp only [Option.bind_eq_bind, Option.bind_some, optional?, hmetrics, Option.bind_none,
    Option.bind_fun_none]

end Report

/-! ## Reports about files -/

namespace FileReport

/-- A report about a file with other values of its metrics. -/
def mapValues (f : Float → Float) (r : FileReport) : FileReport :=
  { r with report := r.report.mapValues f }

variable {g : Number → Number} {r : FileReport}

lemma ofJson?_mapNumbers (hlines : ∀ n ∈ r.report.lines, g (.natural n) = .natural n)
    (hfinite : r.report.IsFinite) :
    FileReport.ofJson? (r.toJson.mapNumbers g) =
      some (r.mapValues fun x => (g (.real x)).toFloat) := by
  have hrecord : (r.toJson.mapNumbers g).asRecord? ["path", "language", "report"] = _ :=
    asRecord?_mapNumbers g (by simp)
  rw [FileReport.ofJson?, hrecord]
  simp [required?, Report.ofJson?_mapNumbers hlines hfinite, mapValues]

lemma ofJson?_mapNumbers_eq_none (hfinite : ¬ r.report.IsFinite) :
    FileReport.ofJson? (r.toJson.mapNumbers g) = none := by
  have hrecord : (r.toJson.mapNumbers g).asRecord? ["path", "language", "report"] = _ :=
    asRecord?_mapNumbers g (by simp)
  rw [FileReport.ofJson?, hrecord]
  simp [required?, Report.ofJson?_mapNumbers_eq_none hfinite]

end FileReport

namespace RunReport

/-- The counts and line numbers of the report of a run. -/
def counts (r : RunReport) : List ℕ :=
  [r.filesAnalyzed, r.totalIssues, r.totalSuggestions] ++ r.files.flatMap (·.report.lines)

/-- The report of a run with other values of its metrics. -/
def mapValues (f : Float → Float) (r : RunReport) : RunReport :=
  { r with files := r.files.map (FileReport.mapValues f) }

variable {g : Number → Number} {r : RunReport}

lemma asRecord?_toJson (r : RunReport) :
    (r.toJson.mapNumbers g).asRecord?
        ["version", "files_analyzed", "total_issues", "total_suggestions", "files"] =
      some [some ((Json.str r.version).mapNumbers g),
        some ((Json.nat r.filesAnalyzed).mapNumbers g),
        some ((Json.nat r.totalIssues).mapNumbers g),
        some ((Json.nat r.totalSuggestions).mapNumbers g),
        some ((Json.arr (r.files.map FileReport.toJson)).mapNumbers g)] :=
  asRecord?_mapNumbers g (by simp)

/-- The report of a run with finite metrics is read, up to what its numbers are changed to. -/
lemma ofJson?_mapNumbers (hcounts : ∀ n ∈ r.counts, g (.natural n) = .natural n)
    (hfinite : ∀ f ∈ r.files, f.report.IsFinite) :
    RunReport.ofJson? (r.toJson.mapNumbers g) =
      some (r.mapValues fun x => (g (.real x)).toFloat) := by
  have hlines : ∀ f ∈ r.files, ∀ n ∈ f.report.lines, g (.natural n) = .natural n :=
    fun f hf n hn => hcounts n (List.mem_append_right _ (List.mem_flatMap.2 ⟨f, hf, hn⟩))
  have hfiles : asList? FileReport.ofJson?
      ((Json.arr (r.files.map FileReport.toJson)).mapNumbers g) =
      some (r.files.map (FileReport.mapValues fun x => (g (.real x)).toFloat)) :=
    asList?_mapNumbers fun f hf => FileReport.ofJson?_mapNumbers (hlines f hf) (hfinite f hf)
  have hhead : ∀ n ∈ [r.filesAnalyzed, r.totalIssues, r.totalSuggestions],
      asNat? ((Json.nat n).mapNumbers g) = some n :=
    fun n hn => asNat?_mapNumbers_nat (hcounts n (List.mem_append_left _ hn))
  rw [RunReport.ofJson?, asRecord?_toJson]
  simp only [Option.bind_eq_bind, Option.bind_some, required?, asText?_mapNumbers_str,
    hhead r.filesAnalyzed (by simp), hhead r.totalIssues (by simp),
    hhead r.totalSuggestions (by simp), hfiles]
  rfl

/-- The report of a run with a metric that is not finite is not read. -/
lemma ofJson?_mapNumbers_eq_none {f : FileReport} (hf : f ∈ r.files)
    (hfinite : ¬ f.report.IsFinite) : RunReport.ofJson? (r.toJson.mapNumbers g) = none := by
  have hfiles := asList?_mapNumbers_eq_none (g := g) hf
    (FileReport.ofJson?_mapNumbers_eq_none hfinite)
  rw [RunReport.ofJson?, asRecord?_toJson]
  simp only [Option.bind_eq_bind, Option.bind_some, required?, hfiles, Option.bind_none,
    Option.bind_fun_none]

end RunReport

/-! ## Texts of reports -/

/-- What the text of a floating-point number is read as. -/
def rereadFloat (x : Float) : Float :=
  (Number.real x).reread.toFloat

lemma writable_float (x : Float) : Writable (Json.float x) := by
  unfold Json.float
  split_ifs with hx
  · exact .num hx
  · exact .null

lemma writable_map {α : Type} {xs : List α} {write : α → Json} (h : ∀ x ∈ xs, Writable (write x)) :
    Writable (.arr (xs.map write)) := by
  refine .arr fun v hv => ?_
  obtain ⟨x, hx, rfl⟩ := List.mem_map.1 hv
  exact h x hx

namespace Report

variable {r : Report}

lemma writable_toJson (h : ∀ n ∈ r.lines, n ≤ maxWord) : Writable r.toJson := by
  have hissues : ∀ i ∈ r.issues, Writable i.toJson := by
    intro i hi
    have hline : i.line ≤ maxWord := h _ (List.mem_append_left _ (List.mem_map_of_mem hi))
    refine .obj ?_
    simp only [List.forall_mem_cons]
    exact ⟨.str _, .str _, .num hline, .str _, by simp⟩
  have hsuggestions : ∀ s ∈ r.suggestions, Writable s.toJson := by
    intro s hs
    have hline : s.line ≤ maxWord := h _ (List.mem_append_right _ (List.mem_map_of_mem hs))
    refine .obj ?_
    simp only [List.forall_mem_cons]
    exact ⟨.str _, .str _, .num hline, .str _, by simp⟩
  have hmetrics : ∀ m ∈ r.metrics, Writable m.toJson := by
    intro m _
    refine .obj ?_
    simp only [List.forall_mem_cons]
    exact ⟨.str _, writable_float _, .str _, by simp⟩
  refine .obj ?_
  simp only [List.forall_mem_cons]
  exact ⟨writable_map hissues, writable_map hsuggestions, writable_map hmetrics, by simp⟩

/-- The text of a report is read as the report, up to what the values of its metrics are read as. -/
lemma bind_parse?_pretty (hlines : ∀ n ∈ r.lines, n ≤ maxWord) (hfinite : r.IsFinite) :
    (parse? r.toJson.pretty).bind Report.ofJson? = some (r.mapValues rereadFloat) := by
  rw [parse?_pretty (writable_toJson hlines), Option.bind_some]
  exact ofJson?_mapNumbers (fun n hn => Number.reread_natural (hlines n hn)) hfinite

end Report

namespace RunReport

variable {r : RunReport}

lemma writable_toJson (h : ∀ n ∈ r.counts, n ≤ maxWord) : Writable r.toJson := by
  have hhead : ∀ n ∈ [r.filesAnalyzed, r.totalIssues, r.totalSuggestions], Writable (Json.nat n) :=
    fun n hn => .num (h n (List.mem_append_left _ hn))
  have hfiles : ∀ f ∈ r.files, Writable f.toJson := by
    intro f hf
    refine .obj ?_
    simp only [List.forall_mem_cons]
    refine ⟨.str _, .str _, Report.writable_toJson fun n hn => ?_, by simp⟩
    exact h n (List.mem_append_right _ (List.mem_flatMap.2 ⟨f, hf, hn⟩))
  refine .obj ?_
  simp only [List.forall_mem_cons]
  exact ⟨.str _, hhead _ (by simp), hhead _ (by simp), hhead _ (by simp), writable_map hfiles,
    by simp⟩

lemma bind_parse?_pretty (hcounts : ∀ n ∈ r.counts, n ≤ maxWord)
    (hfinite : ∀ f ∈ r.files, f.report.IsFinite) :
    (parse? r.toJson.pretty).bind RunReport.ofJson? = some (r.mapValues rereadFloat) := by
  rw [parse?_pretty (writable_toJson hcounts), Option.bind_some]
  exact ofJson?_mapNumbers (fun n hn => Number.reread_natural (hcounts n hn)) hfinite

end RunReport

/-! ## What is read is finite -/

lemma Metric.isFinite_of_ofJson? {v : Json} {m : Metric} (hv : HasFiniteNumbers v)
    (h : Metric.ofJson? v = some m) : m.value.isFinite = true := by
  obtain ⟨fields, hfields, h⟩ := Option.bind_eq_some_iff.1 h
  split at h
  · rename_i name value description
    obtain ⟨_, -, h⟩ := Option.bind_eq_some_iff.1 h
    obtain ⟨x, hx, h⟩ := Option.bind_eq_some_iff.1 h
    obtain ⟨_, -, h⟩ := Option.bind_eq_some_iff.1 h
    cases h
    cases value with
    | none => cases hx
    | some w =>
      exact isFinite_of_asFloat? (hasFiniteNumbers_of_asRecord? hv hfields (by simp)) hx
  · cases h

lemma Report.isFinite_of_ofJson? {v : Json} {r : Report} (hv : HasFiniteNumbers v)
    (h : Report.ofJson? v = some r) : r.IsFinite := by
  obtain ⟨fields, hfields, h⟩ := Option.bind_eq_some_iff.1 h
  split at h
  · rename_i issues suggestions metrics
    obtain ⟨_, -, h⟩ := Option.bind_eq_some_iff.1 h
    obtain ⟨_, -, h⟩ := Option.bind_eq_some_iff.1 h
    obtain ⟨ms, hms, h⟩ := Option.bind_eq_some_iff.1 h
    cases h
    intro m hm
    cases metrics with
    | none =>
      cases hms
      cases hm
    | some w =>
      have hw := hasFiniteNumbers_of_asRecord? hv hfields (w := w) (by simp)
      obtain ⟨u, hu, hread⟩ := exists_of_mem_asList? hw hms hm
      exact Metric.isFinite_of_ofJson? hu hread
  · cases h

/-! ## Totals -/

lemma totalIssues_eq_sum (files : List FileReport) :
    totalIssues files = (files.map (·.report.issues.length)).sum := by
  simp [totalIssues, List.sum, List.foldr_map]

lemma totalSuggestions_eq_sum (files : List FileReport) :
    totalSuggestions files = (files.map (·.report.suggestions.length)).sum := by
  simp [totalSuggestions, List.sum, List.foldr_map]

end Critique
