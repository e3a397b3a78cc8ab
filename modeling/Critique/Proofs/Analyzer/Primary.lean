import Critique.Analyzer.Basic
import Critique.Proofs.Report.Merge

/-!
# The primary answer decides

An analyzer is a tree: composites have a primary analyzer and perhaps a secondary one, and the
leaves are heuristic reviews and models.  Following the primaries from the root ends at one leaf,
the `leader`.  Whatever the other leaves answer, the tree fails when its leader fails and with the
leader's failure, and the leader's report is how the report of the tree begins.

The argument follows the tree.  `analyze_layered_eq_error_iff` and `analyze_layered_eq_ok_iff` say
all that one composite can answer, `analyze_eq_error_iff_leader` and `exists_leader_isPrefix` carry
this from the leader to the root.  `analyze_decided_by_leader` puts them together, with the case of
a heuristic leader: the tree then always answers, and its metric `complexity` is the leader's.
-/

namespace Critique.Analyzer

/-! ## The leader of a tree -/

/-- The leaf that is reached by following primaries. -/
def leader : Analyzer → Analyzer
  | heuristic settings => heuristic settings
  | model classifier => model classifier
  | alone primary => primary.leader
  | layered primary _ => primary.leader

/-- Does the analyzer answer by itself, with no analyzers below it? -/
def isLeaf : Analyzer → Bool
  | heuristic _ => true
  | model _ => true
  | alone _ => false
  | layered _ _ => false

lemma isLeaf_leader (a : Analyzer) : a.leader.isLeaf = true := by
  induction a with
  | heuristic settings => rfl
  | model classifier => rfl
  | alone primary ih => exact ih
  | layered primary secondary ih _ => exact ih

/-- The analyzer for given settings is led by the review with these settings. -/
lemma leader_build (transport : Transport) (settings : Settings) :
    (build transport settings).leader = heuristic settings := by
  unfold build
  cases settings.model with
  | none => rfl
  | some m => rfl

/-! ## What one composite answers -/

section Step

variable {code language : String} {primary secondary : Analyzer}

/-- A composite fails as its primary analyzer fails; the secondary one has no say in it. -/
lemma analyze_layered_eq_error_iff {e : Failure} :
    (layered primary secondary).analyze code language = .error e ↔
      primary.analyze code language = .error e := by
  rw [analyze]
  cases primary.analyze code language with
  | error e' => exact Iff.rfl
  | ok own =>
    cases secondary.analyze code language with
    | error e' => simp
    | ok extra => simp

/-- The report of a composite is that of its primary analyzer, with the report of the secondary one
layered over it if there is one. -/
lemma analyze_layered_eq_ok_iff {r : Report} :
    (layered primary secondary).analyze code language = .ok r ↔
      ∃ own, primary.analyze code language = .ok own ∧
        ((∃ extra, secondary.analyze code language = .ok extra ∧ r = own.merge extra) ∨
          (∃ e, secondary.analyze code language = .error e) ∧ r = own) := by
  rw [analyze]
  cases primary.analyze code language with
  | error e => simp
  | ok own =>
    cases secondary.analyze code language with
    | error e => simp [eq_comm]
    | ok extra => simp [eq_comm]

end Step

/-! ## From the leader to the root -/

lemma analyze_eq_error_iff_leader (code language : String) (a : Analyzer) (e : Failure) :
    a.analyze code language = .error e ↔ a.leader.analyze code language = .error e := by
  induction a with
  | heuristic settings => exact Iff.rfl
  | model classifier => exact Iff.rfl
  | alone primary ih => exact ih
  | layered primary secondary ih _ => exact analyze_layered_eq_error_iff.trans ih

/-- The report of a tree begins with the report of its leader. -/
lemma exists_leader_isPrefix {code language : String} {a : Analyzer} {r : Report}
    (h : a.analyze code language = .ok r) :
    ∃ own, a.leader.analyze code language = .ok own ∧ own.IsPrefix r := by
  induction a generalizing r with
  | heuristic settings => exact ⟨r, h, .refl r⟩
  | model classifier => exact ⟨r, h, .refl r⟩
  | alone primary ih => exact ih h
  | layered primary secondary ih _ =>
    obtain ⟨first, hfirst, hr⟩ := analyze_layered_eq_ok_iff.1 h
    obtain ⟨own, hown, hpre⟩ := ih hfirst
    refine ⟨own, hown, hpre.trans ?_⟩
    rcases hr with ⟨extra, -, rfl⟩ | ⟨-, rfl⟩
    · exact first.isPrefix_merge extra
    · exact .refl r

/-- A tree answers when its leader does. -/
lemma exists_report_of_leader {code language : String} {a : Analyzer} {own : Report}
    (h : a.leader.analyze code language = .ok own) :
    ∃ r, a.analyze code language = .ok r ∧ own.IsPrefix r := by
  cases ha : a.analyze code language with
  | error e =>
    rw [(analyze_eq_error_iff_leader code language a e).1 ha] at h
    cases h
  | ok r =>
    obtain ⟨own', hown', hpre⟩ := exists_leader_isPrefix ha
    rw [h] at hown'
    cases hown'
    exact ⟨r, rfl, hpre⟩

/-- A review reports its score under the name `complexity`. -/
lemma metric?_review (settings : Settings) (code language : String) :
    (review settings code language).metric? "complexity" =
      some (complexityMetric (Weights.score settings.weights code)) := by
  simp [Report.metric?, review, complexityMetric]

/-- **The leader decides.**  For every tree of analyzers, whatever its classifiers answer: the leader
is a leaf; the tree fails exactly when the leader fails, with the same failure; when it answers, the
leader's issues, suggestions and metrics are unchanged prefixes of those of the answer; and when the
leader is heuristic, the tree answers, and its metric `complexity` is the score of the leader's own
review. -/
theorem analyze_decided_by_leader (code language : String) (a : Analyzer) :
    a.leader.isLeaf = true ∧
    (∀ e, a.analyze code language = .error e ↔ a.leader.analyze code language = .error e) ∧
    (∀ r, a.analyze code language = .ok r →
      ∃ own, a.leader.analyze code language = .ok own ∧ own.issues <+: r.issues ∧
        own.suggestions <+: r.suggestions ∧ own.metrics <+: r.metrics) ∧
    ∀ settings, a.leader = heuristic settings →
      ∃ r, a.analyze code language = .ok r ∧
        r.metric? "complexity" =
          some (complexityMetric (Weights.score settings.weights code)) := by
  refine ⟨isLeaf_leader a, analyze_eq_error_iff_leader code language a, ?_, ?_⟩
  · intro r hr
    obtain ⟨own, hown, hpre⟩ := exists_leader_isPrefix hr
    exact ⟨own, hown, hpre.issues, hpre.suggestions, hpre.metrics⟩
  · intro settings hleader
    have hown : a.leader.analyze code language = .ok (review settings code language) := by
      rw [hleader]
      rfl
    obtain ⟨r, hr, hpre⟩ := exists_report_of_leader hown
    exact ⟨r, hr, Report.metric?_of_isPrefix hpre.metrics (metric?_review settings code language)⟩

/-- Three composites over a review, a model that fails and a model that reports a metric of the same
name: the review leads and its metric is found.  With the failing model in the lead, the tree
fails. -/
theorem analyze_decided_by_leader_nested :
    let silent : Classifier := { name := "silent", classify := fun _ _ => .error .timeout }
    let scoring : Classifier :=
      { name := "scoring", classify := fun _ _ => .ok { metrics := [complexityMetric 1] } }
    let tree := layered (layered (alone (heuristic {})) (model silent)) (model scoring)
    let own := review {} "if x" "python"
    let whole := own.merge { metrics := [complexityMetric 1] }
    tree.leader = heuristic {} ∧ tree.analyze "if x" "python" = .ok whole ∧
      (own.issues <+: whole.issues ∧ own.suggestions <+: whole.suggestions ∧
        own.metrics <+: whole.metrics) ∧
      whole.metric? "complexity" = some (complexityMetric (Weights.score Weights.default "if x")) ∧
      (layered (model silent) tree).analyze "if x" "python" = .error .timeout := by
  intro silent scoring tree own whole
  obtain ⟨-, -, hprefix, hmetric⟩ := analyze_decided_by_leader "if x" "python" tree
  obtain ⟨-, hfails, -, -⟩ :=
    analyze_decided_by_leader "if x" "python" (layered (model silent) tree)
  obtain ⟨own', hown, hpre⟩ := hprefix whole rfl
  obtain ⟨r, hr, hfound⟩ := hmetric {} rfl
  cases hown
  cases hr
  exact ⟨rfl, rfl, hpre, hfound, (hfails .timeout).2 rfl⟩

end Critique.Analyzer
