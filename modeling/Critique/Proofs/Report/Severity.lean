import Critique.Proofs.Report.Merge

/-!
# Severities of layered reports

A gate asks a report for an issue of at least a given severity.  That is a question about the
greatest severity of its issues (`hasIssuesAt_iff`), where a report without issues has none and
none lies below every severity.  So one report passes a gate less often than another exactly when
its greatest severity is at least as great (`maxSeverity?_le_iff`).

Layering keeps the issues of the first report and adds some of those of the second.  It drops an
issue of the second report whose key is taken, even when that issue is the more severe one, so the
greatest severity of the result lies between that of the first report and that of both
(`maxSeverity?_le_of_isPrefix`, `maxSeverity?_merge_le`), and may be anything in between.
-/

namespace Critique

/-! ## The order of severities -/

namespace Severity

lemma rank_injective : Function.Injective rank := by
  intro a b h
  cases a <;> cases b <;> simp_all [rank]

instance : Std.IsLinearOrder Severity where
  le_refl a := Nat.le_refl a.rank
  le_trans _ _ _ hab hbc := Nat.le_trans hab hbc
  le_antisymm _ _ hab hba := rank_injective (Nat.le_antisymm hab hba)
  le_total a b := Nat.le_total a.rank b.rank

lemma max_eq_ite (a b : Severity) : max a b = if a ≤ b then b else a := rfl

instance : Std.LawfulOrderMax Severity where
  max_eq_or a b := by
    rw [max_eq_ite]
    by_cases h : a ≤ b
    · exact Or.inr (if_pos h)
    · exact Or.inl (if_neg h)
  max_le_iff a b c := by
    rw [max_eq_ite]
    by_cases h : a ≤ b
    · rw [if_pos h]
      exact ⟨fun hbc => ⟨Std.le_trans h hbc, hbc⟩, And.right⟩
    · have hba : b ≤ a := Std.le_of_not_ge h
      rw [if_neg h]
      exact ⟨fun hac => ⟨hac, Std.le_trans hba hac⟩, And.left⟩

/-- What lies below the greater of two lies below one of them. -/
lemma some_le_max_iff {s : Severity} {x y : Option Severity} :
    some s ≤ max x y ↔ some s ≤ x ∨ some s ≤ y := by
  cases x with
  | none => simp
  | some a =>
    cases y with
    | none => simp
    | some b =>
      rw [Option.max_some_some, Option.some_le_some, Option.some_le_some, Option.some_le_some]
      constructor
      · intro hs
        rcases Std.max_eq_or (a := a) (b := b) with hmax | hmax
        · exact Or.inl (hmax ▸ hs)
        · exact Or.inr (hmax ▸ hs)
      · rintro (hs | hs)
        · exact Std.le_trans hs Std.left_le_max
        · exact Std.le_trans hs Std.right_le_max

end Severity

namespace Report

/-! ## The gate and the greatest severity -/

lemma hasIssuesAt_iff_exists {r : Report} {s : Severity} :
    r.hasIssuesAt s = true ↔ ∃ i ∈ r.issues, s ≤ i.severity := by
  simp only [hasIssuesAt, List.any_eq_true, decide_eq_true_eq]

/-- The gate asks about the greatest severity. -/
lemma hasIssuesAt_iff {r : Report} {s : Severity} :
    r.hasIssuesAt s = true ↔ some s ≤ r.maxSeverity? := by
  rw [hasIssuesAt_iff_exists]
  cases hmax : r.maxSeverity? with
  | none =>
    have hissues : r.issues = [] := by
      simpa [maxSeverity?] using hmax
    simp [hissues]
  | some top =>
    obtain ⟨hmem, hle⟩ := List.max?_eq_some_iff.1 hmax
    rw [Option.some_le_some]
    -- the greatest severity is that of some issue, and no issue exceeds it
    constructor
    · rintro ⟨i, hi, hs⟩
      exact Std.le_trans hs (hle i.severity (List.mem_map_of_mem hi))
    · intro hs
      obtain ⟨i, hi, rfl⟩ := List.mem_map.1 hmem
      exact ⟨i, hi, hs⟩

/-- The greatest severity is bounded as soon as every gate that the report fails is. -/
lemma maxSeverity?_le_iff {r : Report} {bound : Option Severity} :
    r.maxSeverity? ≤ bound ↔ ∀ s, r.hasIssuesAt s = true → some s ≤ bound := by
  simp only [hasIssuesAt_iff]
  cases hmax : r.maxSeverity? with
  | none => simp
  | some top =>
    simp only [Option.some_le_some]
    refine ⟨fun h s hs => ?_, fun h => h top (Std.le_refl top)⟩
    cases bound with
    | none => exact absurd h Option.not_some_le_none
    | some b => exact Option.some_le_some.2 (Std.le_trans hs (Option.some_le_some.1 h))

/-! ## Layering -/

/-- An issue of a report is an issue of every report that begins with it. -/
lemma hasIssuesAt_of_isPrefix {own whole : Report} (h : own.IsPrefix whole) {s : Severity}
    (hs : own.hasIssuesAt s = true) : whole.hasIssuesAt s = true := by
  obtain ⟨i, hi, hle⟩ := hasIssuesAt_iff_exists.1 hs
  exact hasIssuesAt_iff_exists.2 ⟨i, h.issues.subset hi, hle⟩

/-- Each issue of the result comes from one of the two reports. -/
lemma hasIssuesAt_of_merge {a b : Report} {s : Severity} (hs : (a.merge b).hasIssuesAt s = true) :
    a.hasIssuesAt s = true ∨ b.hasIssuesAt s = true := by
  obtain ⟨i, hi, hle⟩ := hasIssuesAt_iff_exists.1 hs
  obtain ⟨added, heq, hnew⟩ := exists_newPart_appendNew Issue.key a.issues b.issues
  have hmem : i ∈ a.issues ++ added := heq ▸ hi
  rcases List.mem_append.1 hmem with hi | hi
  · exact Or.inl (hasIssuesAt_iff_exists.2 ⟨i, hi, hle⟩)
  · exact Or.inr (hasIssuesAt_iff_exists.2 ⟨i, hnew.sublist.subset hi, hle⟩)

lemma maxSeverity?_le_of_isPrefix {own whole : Report} (h : own.IsPrefix whole) :
    own.maxSeverity? ≤ whole.maxSeverity? :=
  maxSeverity?_le_iff.2 fun _ hs => hasIssuesAt_iff.1 (hasIssuesAt_of_isPrefix h hs)

lemma maxSeverity?_merge_le (a b : Report) :
    (a.merge b).maxSeverity? ≤ max a.maxSeverity? b.maxSeverity? := by
  refine maxSeverity?_le_iff.2 fun s hs => Severity.some_le_max_iff.2 ?_
  exact (hasIssuesAt_of_merge hs).imp hasIssuesAt_iff.1 hasIssuesAt_iff.1

-- The more severe of two issues about one line is dropped, so the upper bound is not reached.
example :
    let a : Report := { issues := [⟨.style, "m", 1, .low⟩] }
    let b : Report := { issues := [⟨.style, "m", 1, .high⟩] }
    (a.merge b).maxSeverity? = some .low ∧ max a.maxSeverity? b.maxSeverity? = some .high := by
  decide

end Report

end Critique
