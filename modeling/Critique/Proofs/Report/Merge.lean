import Critique.Proofs.Report.Findings
import Critique.Proofs.Report.Metrics

/-!
# The laws of layering

What `Report.merge` does as an operation on reports.  For issues and suggestions it is associative,
layering the same report twice is layering it once, and the empty report is a right identity;
metrics are never dropped, and a metric of the first report is found as before.  `merge_laws`
collects these facts from `appendNew_assoc`, `appendNew_appendNew_self` and
`appendMetrics_eq_append_mapIdx`.

`IsPrefix own whole` says that a report begins with another one: each of its three sequences does.
A report begins every report that is layered over it (`isPrefix_merge`), which is what an analyzer
with many parts keeps of its first answer.
-/

namespace Critique.Report

open Critique.Metric (names)

/-! ## The beginning of a report -/

/-- Each sequence of `own` is an unchanged prefix of that of `whole`. -/
structure IsPrefix (own whole : Report) : Prop where
  issues : own.issues <+: whole.issues
  suggestions : own.suggestions <+: whole.suggestions
  metrics : own.metrics <+: whole.metrics

lemma IsPrefix.refl (r : Report) : r.IsPrefix r :=
  ⟨List.prefix_rfl, List.prefix_rfl, List.prefix_rfl⟩

lemma IsPrefix.trans {a b c : Report} (hab : a.IsPrefix b) (hbc : b.IsPrefix c) : a.IsPrefix c where
  issues := hab.issues.trans hbc.issues
  suggestions := hab.suggestions.trans hbc.suggestions
  metrics := hab.metrics.trans hbc.metrics

/-- The first report stands unchanged at the beginning of the result. -/
lemma isPrefix_merge (a b : Report) : a.IsPrefix (a.merge b) where
  issues := isPrefix_appendNew a.issues b.issues
  suggestions := isPrefix_appendNew a.suggestions b.suggestions
  metrics := isPrefix_appendMetrics a.metrics b.metrics

/-! ## The laws -/

/-- **The algebra of layering.**  Issues and suggestions do not depend on how three reports are
grouped and do not change when a report is layered again; layering nothing changes nothing; each
metric of the second report is added at its place with its value and its description, and renamed
exactly when its name is that of an earlier metric of the result; and what the first report answers
for a name, the result answers too. -/
theorem merge_laws (a b c : Report) :
    (((a.merge b).merge c).issues = (a.merge (b.merge c)).issues ∧
      ((a.merge b).merge c).suggestions = (a.merge (b.merge c)).suggestions) ∧
    (((a.merge b).merge b).issues = (a.merge b).issues ∧
      ((a.merge b).merge b).suggestions = (a.merge b).suggestions) ∧
    a.merge empty = a ∧
    ((a.merge b).metrics = a.metrics ++ b.metrics.mapIdx fun i m =>
      { m with
        name :=
          if m.name ∈ names ((a.merge b).metrics.take (a.metrics.length + i)) then
            "model." ++ m.name
          else m.name }) ∧
    ∀ name m, a.metric? name = some m → (a.merge b).metric? name = some m := by
  refine ⟨⟨?_, ?_⟩, ⟨?_, ?_⟩, rfl, ?_, ?_⟩
  · exact appendNew_assoc a.issues b.issues c.issues
  · exact appendNew_assoc a.suggestions b.suggestions c.suggestions
  · exact appendNew_appendNew_self a.issues b.issues
  · exact appendNew_appendNew_self a.suggestions b.suggestions
  · have hmetrics := appendMetrics_eq_append_mapIdx a.metrics b.metrics
    simp only [freshName_eq_ite] at hmetrics
    exact hmetrics
  · intro name m hm
    exact metric?_of_isPrefix (isPrefix_merge a b).metrics hm

/-- A primary score and a score that a model gives: the second one is renamed, and looking up the
name gives the first. -/
theorem merge_laws_complexity :
    let a : Report := { metrics := [⟨"complexity", 0.2, ""⟩] }
    let b : Report := { metrics := [⟨"complexity", 0.75, ""⟩, ⟨"confidence", 0.9, ""⟩] }
    (a.merge b).metrics =
        [⟨"complexity", 0.2, ""⟩, ⟨"model.complexity", 0.75, ""⟩, ⟨"confidence", 0.9, ""⟩] ∧
      a.metric? "complexity" = some ⟨"complexity", 0.2, ""⟩ ∧
      (a.merge b).metric? "complexity" = some ⟨"complexity", 0.2, ""⟩ := by
  intro a b
  have hlaws := merge_laws a b empty
  exact ⟨hlaws.2.2.2.1, rfl, hlaws.2.2.2.2 "complexity" _ rfl⟩

end Critique.Report
