import Critique.Proofs.Analyzer.Primary
import Critique.Proofs.Command.Settings
import Critique.Proofs.Report.Severity

/-!
# The severity gate under layering

A run can be told to fail when some report has an issue of at least a given severity.  Adding a
model to a run adds issues to its reports and takes none away, so the gate can only become tighter:
a run that fails without the model fails with it, whatever the model answers about each input, and
also when it fails to answer.

`Extends whole own` says that one analyzer answers whenever another one does, with a report that
begins with the other's.  A composite extends its primary analyzer (`extends_layered`), and the
relation goes through every part of a run up to its exit code (`runBy_code_of_extends`).
`layering_tightens_gate` puts this together with the bounds on the greatest severity of a layered
report.
-/

namespace Critique

open Text

namespace Analyzer

/-! ## Analyzers that extend each other -/

/-- Whenever `own` answers, `whole` answers as well, and its report begins with that of `own`. -/
def Extends (whole own : Analyzer) : Prop :=
  ∀ code language r, own.analyze code language = .ok r →
    ∃ r', whole.analyze code language = .ok r' ∧ r.IsPrefix r'

/-- A composite extends every analyzer that answers as its primary one. -/
lemma extends_layered {own primary : Analyzer}
    (h : ∀ code language, own.analyze code language = primary.analyze code language)
    (secondary : Analyzer) : (layered primary secondary).Extends own := by
  intro code language r hr
  rw [h] at hr
  cases hextra : secondary.analyze code language with
  | ok extra =>
    exact ⟨r.merge extra, analyze_layered_eq_ok_iff.2 ⟨r, hr, Or.inl ⟨extra, hextra, rfl⟩⟩,
      r.isPrefix_merge extra⟩
  | error e =>
    exact ⟨r, analyze_layered_eq_ok_iff.2 ⟨r, hr, Or.inr ⟨⟨e, hextra⟩, rfl⟩⟩, .refl r⟩

/-- The report of a review with a model on top of it: it is the review's own report when the model
fails, and otherwise its greatest severity lies between that of the review and that of both. -/
lemma maxSeverity?_analyze_layered (settings : Settings) (classifier : Classifier)
    (code language : String) :
    ∃ r, (layered (heuristic settings) (model classifier)).analyze code language = .ok r ∧
      (review settings code language).maxSeverity? ≤ r.maxSeverity? ∧
      (∀ e, classifier.classify code language = .error e → r = review settings code language) ∧
      ∀ extra, classifier.classify code language = .ok extra →
        r.maxSeverity? ≤ max (review settings code language).maxSeverity? extra.maxSeverity? := by
  have hown : (heuristic settings).analyze code language = .ok (review settings code language) :=
    rfl
  obtain ⟨r, hr, hpre⟩ := extends_layered (fun _ _ => rfl) (model classifier) code language _ hown
  refine ⟨r, hr, Report.maxSeverity?_le_of_isPrefix hpre, ?_, ?_⟩
  · intro e he
    -- the model has failed, so nothing was merged
    obtain ⟨own, hown', ⟨extra, hextra, -⟩ | ⟨-, rfl⟩⟩ := analyze_layered_eq_ok_iff.1 hr
    · rw [analyze, he] at hextra
      cases hextra
    · cases hown'
      rfl
  · intro extra hextra
    obtain ⟨own, hown', ⟨extra', hextra', rfl⟩ | ⟨⟨e, he⟩, -⟩⟩ := analyze_layered_eq_ok_iff.1 hr
    · rw [analyze, hextra] at hextra'
      cases hextra'
      cases hown'
      exact Report.maxSeverity?_merge_le _ _
    · rw [analyze, hextra] at he
      cases he

end Analyzer

/-- A run that fails because of an issue still fails with an analyzer that finds more. -/
lemma runBy_code_of_extends {whole own : Analyzer} {w : World} {o : AnalyzeOptions}
    (h : whole.Extends own) (hcode : (runBy own w o).code = 1) : (runBy whole w o).code = 1 :=
  Analyzer.Follows.code_eq_one h (fun _ _ _ hpre => Report.hasIssuesAt_of_isPrefix hpre) hcode

/-! ## The command -/

/-- With an endpoint from the command line, the same review has a model on top of it, as long as
there is a client to ask the model with. -/
lemma loadAnalyzer_of_endpoint {w : World} {config : Option OsText} {settings : Settings}
    (h : loadSettings w.files config = .ok settings) (hmodel : settings.model = none)
    (endpoint : String) :
    loadAnalyzer w config (some endpoint) =
      match w.clientFault with
      | some fault => .error (.noClient fault)
      | none => .ok (.layered (.heuristic { settings with model := some { endpoint } })
          (.model (.remote w.transport { endpoint }))) := by
  rw [loadAnalyzer, h]
  simp only [bind, Except.bind, Settings.withEndpoint, buildAnalyzer, Analyzer.build, hmodel]
  cases w.clientFault with
  | some fault => rfl
  | none => rfl

/-- **Layering tightens the gate.**  What a report holds at a severity, its layering with another
holds too, and it holds nothing there that neither of the two does; the greatest severity of the
layering lies between that of the first report and that of both.  A review with a model on top of
it always answers, within the same bounds, and with the review alone when the model fails.  So for
all inputs, settings and answers of the model, a run that ends with 1 on the review alone ends with
1 with the model added.

The command does so for every endpoint that is added on the command line and every way in which the
requests to it end.  When there is no client to send them with, no model is added, and the command
stops with 2. -/
theorem layering_tightens_gate :
    (∀ (a b : Report) (s : Severity),
      (a.hasIssuesAt s = true → (a.merge b).hasIssuesAt s = true) ∧
      ((a.merge b).hasIssuesAt s = true → a.hasIssuesAt s = true ∨ b.hasIssuesAt s = true) ∧
      a.maxSeverity? ≤ (a.merge b).maxSeverity? ∧
      (a.merge b).maxSeverity? ≤ max a.maxSeverity? b.maxSeverity?) ∧
    (∀ (settings : Settings) (classifier : Classifier) (code language : String),
      ∃ r, (Analyzer.layered (.heuristic settings) (.model classifier)).analyze code language =
          .ok r ∧
        (review settings code language).maxSeverity? ≤ r.maxSeverity? ∧
        (∀ e, classifier.classify code language = .error e →
          r = review settings code language) ∧
        ∀ extra, classifier.classify code language = .ok extra →
          r.maxSeverity? ≤
            max (review settings code language).maxSeverity? extra.maxSeverity?) ∧
    (∀ (settings : Settings) (classifier : Classifier) (w : World) (o : AnalyzeOptions),
      (runBy (.alone (.heuristic { settings with model := none })) w o).code = 1 →
        (runBy (.layered (.heuristic settings) (.model classifier)) w o).code = 1) ∧
    ∀ (w : World) (o : AnalyzeOptions) (settings : Settings),
      loadSettings w.files o.config = .ok settings → settings.model = none →
      o.modelEndpoint = none → (runAnalyze w o).code = 1 →
      ∀ (endpoint : String) (transport : Transport) (clientFault : Option ClientFault),
        (runAnalyze { w with transport, clientFault }
          { o with modelEndpoint := some endpoint }).code =
            if clientFault.isNone then 1 else 2 := by
  refine ⟨fun a b s => ⟨?_, ?_, ?_, ?_⟩, Analyzer.maxSeverity?_analyze_layered, ?_, ?_⟩
  · exact Report.hasIssuesAt_of_isPrefix (a.isPrefix_merge b)
  · exact Report.hasIssuesAt_of_merge
  · exact Report.maxSeverity?_le_of_isPrefix (a.isPrefix_merge b)
  · exact Report.maxSeverity?_merge_le a b
  · intro settings classifier w o hcode
    exact runBy_code_of_extends (Analyzer.extends_layered (fun _ _ => rfl) _) hcode
  · intro w o settings hsettings hmodel hendpoint hcode endpoint transport clientFault
    have hformat := knownFormat_of_code (by rw [hcode]; decide)
    have hown := loadAnalyzer_of_model_none hsettings hmodel
    rw [← hendpoint] at hown
    rw [runAnalyze_of_loadAnalyzer hformat hown] at hcode
    -- the endpoint puts a model on top of the review, as far as there is a client
    have hwhole := loadAnalyzer_of_endpoint (w := { w with transport, clientFault }) hsettings
      hmodel endpoint
    cases clientFault with
    | some fault =>
      rw [runAnalyze_eq, analysis_of_knownFormat (o := { o with modelEndpoint := some endpoint })
        hformat, hwhole]
      rfl
    | none =>
      rw [runAnalyze_of_loadAnalyzer (o := { o with modelEndpoint := some endpoint }) hformat
        hwhole]
      -- From here on neither the transport nor the endpoint is looked at.
      exact runBy_code_of_extends (w := w) (o := o) (Analyzer.extends_layered (fun _ _ => rfl) _)
        hcode

/-- One line of 81 characters on the standard input: the run ends with 1 without a model, and also
with a model at an endpoint to which no request can be sent, with one whose answer is cut off, and
with one that answers with a report, which is merged into that of the review. -/
theorem layering_tightens_gate_long_line :
    let w : World := { files := { root := .dir [], workDir := [] }, stdin := List.replicate 81 120 }
    let o : AnalyzeOptions := { path := "-", language := some "python", failOn := some .low }
    let severe : Issue :=
      { category := .complexity, message := "deep", line := 7, severity := .high }
    let answer := Utf8.encode (Report.toJson { issues := [severe] }).compact
    let endpoint := "http://model"
    let transport : Transport := fun _ => .answered 200 (.complete answer)
    let code := String.ofList (List.replicate 81 'x')
    (runAnalyze w o).code = 1 ∧
      (runAnalyze w { o with modelEndpoint := some "nowhere" }).code = 1 ∧
      (runAnalyze { w with transport := fun _ => .answered 200 .cutOff }
        { o with modelEndpoint := some endpoint }).code = 1 ∧
      (runAnalyze { w with transport } { o with modelEndpoint := some endpoint }).code = 1 ∧
      ∃ r, (Analyzer.layered (.heuristic .default)
          (.model (.remote transport { endpoint }))).analyze code "python" = .ok r ∧
        severe ∈ r.issues ∧ (review .default code "python").maxSeverity? = some .low ∧
        r.maxSeverity? = some .high := by
  intro w o severe answer endpoint transport code
  have hcode : (runAnalyze w o).code = 1 := by decide +kernel
  have hsettings : loadSettings w.files o.config = .ok Settings.default :=
    loadSettings_default (by decide +kernel) (by decide +kernel)
  have hgate := layering_tightens_gate.2.2.2 w o _ hsettings rfl rfl hcode
  refine ⟨hcode, hgate "nowhere" w.transport none,
    hgate endpoint (fun _ => .answered 200 .cutOff) none, hgate endpoint transport none, ?_⟩
  obtain ⟨r, hr, -⟩ :=
    layering_tightens_gate.2.1 .default (.remote transport { endpoint }) code "python"
  have hmerged : ((Analyzer.layered (.heuristic .default)
      (.model (.remote transport { endpoint }))).analyze code "python").toOption.any (fun r =>
        severe ∈ r.issues && r.maxSeverity? = some .high) = true := by
    decide +kernel
  rw [hr] at hmerged
  obtain ⟨hsevere, hgreatest⟩ : severe ∈ r.issues ∧ r.maxSeverity? = some .high := by
    simpa [Except.toOption] using hmerged
  exact ⟨r, hr, hsevere, by decide +kernel, hgreatest⟩

end Critique
