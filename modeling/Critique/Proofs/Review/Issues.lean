import Critique.Proofs.Text.Segment
import Critique.Review

/-!
# The issues of a review

A review reports the lines that are too long, in their order, and then perhaps that the whole
snippet is too complex.  `review_issues` says which issues these are, in terms of the text and of
the metric that the same report holds.

The issues about lines are found by going through the lines with a running number.  `longLineIssues`
is put into the form "number the lines, keep the long ones, make an issue of each"
(`longLineIssues_eq`), from which it is read which lines are reported and that their numbers ascend.
-/

namespace Critique

open Text

section LongLines

variable (maxLength : ℕ) (ls : List (List Char))

lemma longLineIssues_eq (start : ℕ) :
    longLineIssues maxLength start ls =
      ((ls.zipIdx start).filter fun p => maxLength < p.1.length).map
        fun p => longLineIssue maxLength p.2 := by
  induction ls generalizing start with
  | nil => rfl
  | cons l ls ih =>
    rw [longLineIssues, ih, List.zipIdx_cons]
    by_cases hlong : maxLength < l.length
    · simp [hlong]
    · simp [hlong]

lemma mem_longLineIssues_iff {i : Issue} :
    i ∈ longLineIssues maxLength 1 ls ↔
      i = longLineIssue maxLength i.line ∧ 1 ≤ i.line ∧
        ∃ l, ls[i.line - 1]? = some l ∧ maxLength < l.length := by
  rw [longLineIssues_eq, List.mem_map]
  simp only [List.mem_filter, decide_eq_true_eq, Prod.exists]
  constructor
  · rintro ⟨l, n, ⟨hl, hlong⟩, rfl⟩
    obtain ⟨hn, hget⟩ := List.mk_mem_zipIdx_iff_le_and_getElem?_sub.1 hl
    exact ⟨rfl, hn, l, hget, hlong⟩
  · rintro ⟨hi, hn, l, hget, hlong⟩
    exact ⟨l, i.line, ⟨List.mk_mem_zipIdx_iff_le_and_getElem?_sub.2 ⟨hn, hget⟩, hlong⟩, hi.symm⟩

lemma pairwise_longLineIssues (start : ℕ) :
    (longLineIssues maxLength start ls).Pairwise fun i j => i.line < j.line := by
  have hnumbers : (ls.zipIdx start).Pairwise fun p q => p.2 < q.2 := by
    have hrange := List.pairwise_lt_range' (s := start) (n := ls.length)
    rw [← List.zipIdx_map_snd start ls] at hrange
    exact List.pairwise_map.1 hrange
  rw [longLineIssues_eq, List.pairwise_map]
  exact hnumbers.filter _

end LongLines

lemma eq_of_mem_complexityIssues {p : Prop} [Decidable p] {i : Issue}
    (h : i ∈ if p then [complexityIssue] else []) : i = complexityIssue := by
  split_ifs at h
  · exact List.mem_singleton.1 h
  · cases h

lemma exceedsComplexity_iff {limits : Limits} {code : String} :
    exceedsComplexity limits code = true ↔
      limits.complexityThreshold < Weights.score limits.weights code :=
  decide_eq_true_iff

/-- Which lines have an issue of style. -/
lemma exists_styleIssue_iff {limits : Limits} {code : String} {n : ℕ} :
    (∃ i ∈ findSmells limits code, i.category = .style ∧ i.line = n) ↔
      1 ≤ n ∧
        ∃ l, (lines code.toList)[n - 1]? = some l ∧ limits.maxLineLength.toNat < l.length := by
  constructor
  · rintro ⟨i, hi, hstyle, rfl⟩
    rcases List.mem_append.1 hi with hi | hi
    · exact ((mem_longLineIssues_iff _ _).1 hi).2
    · rw [eq_of_mem_complexityIssues hi] at hstyle
      cases hstyle
  · rintro ⟨hline, hlong⟩
    refine ⟨longLineIssue limits.maxLineLength.toNat n, List.mem_append_left _ ?_, rfl, rfl⟩
    exact (mem_longLineIssues_iff _ _).2 ⟨rfl, hline, hlong⟩

/-- **The issues of a review** are those about long lines and then at most one about complexity.

There is exactly one way to cut the text at its line feeds, and the lines are made from the pieces:
as many as the feature set counts.  An issue of style stands at a line exactly when there is a line
of that number and it has more characters than allowed, and the numbers ascend strictly.  The issue
about complexity is there exactly when the value of the report's own metric exceeds the
threshold. -/
theorem review_issues (settings : Settings) (code language : String) :
    let report := review settings code language
    let numLines := (extractFeatures code language).numLines
    ∃ ended last, Segments code.toList ended last ∧
      (∀ ended' last', Segments code.toList ended' last' → ended' = ended ∧ last' = last) ∧
      numLines = (segmentLines ended last).length ∧
      ∃ style complexity, report.issues = style ++ complexity ∧
        (∀ i ∈ style, i.category = .style ∧ i.severity = .low) ∧
        (∀ i ∈ complexity, i.category = .complexity ∧ i.line = 1 ∧ i.severity = .medium) ∧
        (∀ n, (∃ i ∈ report.issues, i.category = .style ∧ i.line = n) ↔
          1 ≤ n ∧ n ≤ numLines ∧ ∃ l, (segmentLines ended last)[n - 1]? = some l ∧
            settings.maxLineLength.toNat < l.length) ∧
        style.Pairwise (fun i j => i.line < j.line) ∧
        complexity.length ≤ 1 ∧
        ∃ m, report.metric? "complexity" = some m ∧
          (complexity ≠ [] ↔ settings.complexityThreshold < m.value) := by
  intro report numLines
  obtain ⟨ended, last, hsegments⟩ := exists_segments code.toList
  have hlines : lines code.toList = segmentLines ended last := hsegments.lines_eq
  refine ⟨ended, last, hsegments, fun _ _ h => h.unique hsegments, ?_, _, _, rfl, ?_, ?_, ?_,
    pairwise_longLineIssues _ _ 1, ?_, _, rfl, ?_⟩
  · rw [← hlines]
    rfl
  · intro i hi
    obtain ⟨hissue, -⟩ := (mem_longLineIssues_iff _ _).1 hi
    rw [hissue]
    exact ⟨rfl, rfl⟩
  · intro i hi
    obtain rfl := eq_of_mem_complexityIssues hi
    exact ⟨rfl, rfl, rfl⟩
  · intro n
    -- that the number is at most the number of lines is no new condition: there is such a line
    rw [← hlines]
    refine exists_styleIssue_iff.trans ?_
    refine and_congr_right fun hline => ⟨fun hlong => ⟨?_, hlong⟩, And.right⟩
    obtain ⟨l, hget, -⟩ := hlong
    have hlt : n - 1 < (lines code.toList).length := (List.getElem?_eq_some_iff.1 hget).1
    change n ≤ (lines code.toList).length
    omega
  · split_ifs
    · exact le_rfl
    · exact Nat.zero_le 1
  · -- the metric is made from the same score that was compared
    change _ ↔ settings.complexityThreshold < Weights.score settings.weights code
    rw [← exceedsComplexity_iff]
    split_ifs with hexceeds
    · simp [hexceeds]
    · simp [hexceeds]

end Critique
