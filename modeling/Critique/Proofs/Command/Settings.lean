import Critique.Proofs.Codec.SettingsYaml
import Critique.Proofs.Command.Analysis
import Critique.Proofs.Text.Utf8

/-!
# The settings that an analyzer is built from

A run loads settings, checks them against all rules, and only then puts the endpoint of the command
line into them.  What comes out is what the analyzer is built from (`runSettings`), and the check
does not see it: an endpoint of nothing but white space, which the check refuses in a file, goes
through when it comes from the command line.

That is all that can go wrong.  `violation?_withEndpoint` gives the rule that the built settings
break, and `runSettings_violation` carries it to the two commands that build an analyzer.

The settings come first and the analyzer second: when no client can be made for the model in them,
both commands stop, whatever rules the settings satisfy.
-/

namespace Critique

open Text

namespace Settings

variable {s : Settings}

/-- Settings satisfy all rules when their limits and their model do. -/
lemma violation?_eq_none_iff :
    s.violation? = none ↔
      s.maxLineLength ≠ 0 ∧
        (0 ≤ s.complexityThreshold && s.complexityThreshold ≤ 1) = true ∧
        s.weights.entries.findSome? weightViolation? = none ∧
        s.model.bind ModelSettings.violation? = none := by
  unfold violation?
  by_cases hlength : s.maxLineLength = 0
  · simp [hlength]
  by_cases hthreshold : (0 ≤ s.complexityThreshold && s.complexityThreshold ≤ 1) = true
  · rw [if_neg hlength, if_neg (by simp only [hthreshold]; decide)]
    cases hweights : s.weights.entries.findSome? weightViolation? with
    | some v => simp [Option.orElse]
    | none => simp [Option.orElse, hlength, hthreshold]
  · simp only [Bool.not_eq_true] at hthreshold
    simp [hlength, hthreshold]

/-- With limits that satisfy all rules, only the model can break one. -/
lemma violation?_with_model (h : s.violation? = none) (model : Option ModelSettings) :
    ({ s with model } : Settings).violation? = model.bind ModelSettings.violation? := by
  obtain ⟨hlength, hthreshold, hweights, -⟩ := violation?_eq_none_iff.1 h
  simp only [violation?, hweights, Option.orElse]
  rw [if_neg hlength, if_neg (by simp only [hthreshold]; decide)]

/-- With a timeout above zero, only the endpoint of a model can break a rule. -/
lemma violation?_of_timeoutMs {m : ModelSettings} (h : m.timeoutMs ≠ 0) :
    m.violation? = if isAllBlank m.endpoint then some .blankEndpoint else none := by
  simp only [ModelSettings.violation?, if_neg h]

lemma timeoutMs_ne_zero (h : s.violation? = none) {m : ModelSettings} (hm : s.model = some m) :
    m.timeoutMs ≠ 0 := by
  obtain ⟨-, -, -, hmodel⟩ := violation?_eq_none_iff.1 h
  intro hzero
  simp only [hm, Option.bind_some, ModelSettings.violation?, hzero] at hmodel
  by_cases hblank : isAllBlank m.endpoint = true
  · simp [hblank] at hmodel
  · simp [hblank] at hmodel

/-- Settings that satisfy all rules break one with an endpoint from the command line exactly when
that endpoint is blank. -/
lemma violation?_withEndpoint (h : s.violation? = none) (endpoint : Option String) :
    (s.withEndpoint endpoint).violation? =
      if endpoint.any isAllBlank then some .blankEndpoint else none := by
  cases endpoint with
  | none => simpa [withEndpoint] using h
  | some url =>
    cases hmodel : s.model with
    | none =>
      have hdefault : ({ endpoint := url } : ModelSettings).timeoutMs ≠ 0 := by
        show (10000 : UInt64) ≠ 0
        decide
      simp only [withEndpoint, hmodel, violation?_with_model h, Option.bind_some,
        violation?_of_timeoutMs hdefault, Option.any_some]
    | some m =>
      have hkept : ({ m with endpoint := url } : ModelSettings).timeoutMs ≠ 0 := by
        show m.timeoutMs ≠ 0
        exact timeoutMs_ne_zero h hmodel
      simp only [withEndpoint, hmodel, violation?_with_model h, Option.bind_some,
        violation?_of_timeoutMs hkept, Option.any_some]

/-- The endpoint of the command line leaves the limits alone. -/
lemma withEndpoint_with_model_none (s : Settings) (endpoint : Option String) :
    ({ s.withEndpoint endpoint with model := none } : Settings) = { s with model := none } := by
  cases endpoint with
  | none => rfl
  | some url => cases hmodel : s.model <;> simp [withEndpoint, hmodel]

end Settings

/-! ## The settings of a run -/

/-- The settings that the analyzer of a run is built from. -/
def runSettings (files : FileTree) (named : Option OsText) (endpoint : Option String) :
    Except RunError Settings :=
  (loadSettings files named).map (·.withEndpoint endpoint)

/-- The analyzer of a run is built from the settings of the run. -/
lemma loadAnalyzer_eq (w : World) (named : Option OsText) (endpoint : Option String) :
    loadAnalyzer w named endpoint = runSettings w.files named endpoint >>= buildAnalyzer w := by
  unfold loadAnalyzer runSettings
  cases loadSettings w.files named with
  | error e => rfl
  | ok s => rfl

section Build

variable {w : World} {s : Settings} {a : Analyzer}

/-- Where a client can be made, or none is needed, the analyzer is built. -/
lemma buildAnalyzer_of_clientFault_or_model_none (h : w.clientFault = none ∨ s.model = none) :
    buildAnalyzer w s = .ok (.build w.transport s) := by
  unfold buildAnalyzer
  split
  · rename_i hmodel hfault
    simp [hmodel, hfault] at h
  · rfl

lemma buildAnalyzer_of_clientFault {fault : ClientFault} (h : w.clientFault = some fault)
    (hmodel : s.model ≠ none) : buildAnalyzer w s = .error (.noClient fault) := by
  obtain ⟨m, hm⟩ := Option.ne_none_iff_exists'.1 hmodel
  simp only [buildAnalyzer, h, hm]

/-- An analyzer that is built is the one for its settings. -/
lemma eq_of_buildAnalyzer_eq_ok (h : buildAnalyzer w s = .ok a) : a = .build w.transport s := by
  unfold buildAnalyzer at h
  split at h
  · cases h
  · exact (Except.ok.inj h).symm

end Build

lemma loadAnalyzer_eq_ok_iff {w : World} {named : Option OsText} {endpoint : Option String}
    {a : Analyzer} :
    loadAnalyzer w named endpoint = .ok a ↔
      ∃ s, runSettings w.files named endpoint = .ok s ∧ buildAnalyzer w s = .ok a := by
  rw [loadAnalyzer_eq, bind_eq_ok_iff]

/-- Without a model and an endpoint for one, the command reviews and asks nobody. -/
lemma loadAnalyzer_of_model_none {w : World} {config : Option OsText} {settings : Settings}
    (h : loadSettings w.files config = .ok settings) (hmodel : settings.model = none) :
    loadAnalyzer w config none = .ok (.alone (.heuristic settings)) := by
  rw [loadAnalyzer, h]
  simp only [bind, Except.bind, Settings.withEndpoint, buildAnalyzer, Analyzer.build, hmodel]

/-- What was read is handed on exactly when it breaks no rule. -/
lemma bind_check_eq_ok_iff {read : Except RunError Settings}
    {check : Settings → Except RunError Settings} {s : Settings}
    (hrefused : ∀ r v, r.violation? = some v → check r = .error (.refusedSettings v))
    (haccepted : ∀ r, r.violation? = none → check r = .ok r) :
    (read >>= check) = .ok s ↔ read = .ok s ∧ s.violation? = none := by
  rw [bind_eq_ok_iff]
  constructor
  · rintro ⟨r, hread, hr⟩
    cases hrules : r.violation? with
    | some v =>
      rw [hrefused r v hrules] at hr
      cases hr
    | none =>
      rw [haccepted r hrules] at hr
      cases hr
      exact ⟨hread, hrules⟩
  · rintro ⟨hread, hrules⟩
    exact ⟨s, hread, haccepted s hrules⟩

/-- Settings are loaded when they are read, or are the default ones, and satisfy all rules. -/
lemma loadSettings_eq_ok_iff {files : FileTree} {named : Option OsText} {s : Settings} :
    loadSettings files named = .ok s ↔
      (settingsPath files named = .ok none ∧ s = Settings.default ∨
        ∃ path, settingsPath files named = .ok (some path) ∧ readSettings files path = .ok s) ∧
      s.violation? = none := by
  unfold loadSettings
  cases settingsPath files named with
  | error e => simp [bind, Except.bind]
  | ok found =>
    refine (bind_check_eq_ok_iff (fun r v hv => ?_) fun r hr => ?_).trans ?_
    · simp only [hv]
    · simp only [hr]
      rfl
    · cases found with
      | none => simp [settingsAt, eq_comm]
      | some path => simp [settingsAt, mapError_eq_ok_iff]

/-- The default settings are loaded where no file is named and none is found in the working
directory. -/
lemma loadSettings_default {files : FileTree}
    (hdir : (files.root.get? files.workDir).any Node.isDir = true)
    (hnone : discover files files.workPath = none) :
    loadSettings files none = .ok Settings.default := by
  have hpath : settingsPath files none = .ok none := by
    simp only [settingsPath, FileTree.currentDir]
    cases hget : files.root.get? files.workDir with
    | none => simp [hget] at hdir
    | some node => cases node <;> simp_all [Node.isDir]
  exact loadSettings_eq_ok_iff.2 ⟨.inl ⟨hpath, rfl⟩, Settings.violation?_default⟩

/-- Settings are read from a file that holds their text. -/
lemma readSettings_of_read {files : FileTree} {path : OsText} {s : Settings}
    (hread : files.read path = .ok (Utf8.encode s.toYaml)) (hyaml : s.ReadBack) :
    readSettings files path = .ok s := by
  simp only [readSettings, FileTree.readText, hread, Utf8.decode?_encode, hyaml.ofYaml?_toYaml]

/-- Settings are loaded from a file that holds their text, when they satisfy all rules. -/
lemma loadSettings_of_read {files : FileTree} {path : OsText} {s : Settings}
    (hread : files.read path = .ok (Utf8.encode s.toYaml)) (hyaml : s.ReadBack)
    (hrules : s.violation? = none) : loadSettings files (some path) = .ok s :=
  loadSettings_eq_ok_iff.2 ⟨.inr ⟨path, rfl, readSettings_of_read hread hyaml⟩, hrules⟩

lemma runSettings_eq_ok_iff {files : FileTree} {named : Option OsText} {endpoint : Option String}
    {s : Settings} :
    runSettings files named endpoint = .ok s ↔
      ∃ checked, loadSettings files named = .ok checked ∧ s = checked.withEndpoint endpoint := by
  unfold runSettings
  cases loadSettings files named with
  | error e => simp [Except.map]
  | ok checked => simp [Except.map, eq_comm]

/-- **The endpoint of the command line is not checked.**  Take any files, any name of a settings
file, and any endpoint on the command line, and suppose that the settings are there for an analyzer
to be built.

* They break a rule exactly when the endpoint of the command line is given and blank, and the rule
  is the one about endpoints.
* The limits, which are all that a review looks at, satisfy all rules in any case.
* It is these settings, and no others, from which the commands `info` and `analyze` build the
  analyzer that they use.  Only a missing client for a model can keep them from that, and they never
  stop because of a rule. -/
theorem runSettings_violation (w : World) (named : Option OsText) (endpoint : Option String)
    {s : Settings} (h : runSettings w.files named endpoint = .ok s) :
    s.violation? = (if endpoint.any isAllBlank then some .blankEndpoint else none) ∧
    ({ s with model := none } : Settings).violation? = none ∧
    (w.clientFault = none ∨ s.model = none →
      runInfo w { config := named, modelEndpoint := endpoint } =
        { code := 0
          stdout := (Analyzer.build w.transport s).describe.toJson.pretty ++ "\n"
          files := w.files } ∧
      ∀ o : AnalyzeOptions, o.config = named → o.modelEndpoint = endpoint → o.knownFormat = true →
        runAnalyze w o = runBy (.build w.transport s) w o) ∧
    ∀ fault, w.clientFault = some fault → s.model ≠ none →
      runInfo w { config := named, modelEndpoint := endpoint } =
        (RunError.noClient fault).outcome w.files ∧
      ∀ o : AnalyzeOptions, o.config = named → o.modelEndpoint = endpoint → o.knownFormat = true →
        runAnalyze w o = (RunError.noClient fault).outcome w.files := by
  have hload : loadAnalyzer w named endpoint = buildAnalyzer w s := by
    rw [loadAnalyzer_eq, h]
    rfl
  -- the settings were checked before the endpoint was put into them
  obtain ⟨checked, hchecked, rfl⟩ := runSettings_eq_ok_iff.1 h
  have hrules := (loadSettings_eq_ok_iff.1 hchecked).2
  refine ⟨Settings.violation?_withEndpoint hrules endpoint, ?_, fun hclient => ?_,
    fun fault hfault hmodel => ?_⟩
  · rw [Settings.withEndpoint_with_model_none, Settings.violation?_with_model hrules]
    rfl
  · rw [buildAnalyzer_of_clientFault_or_model_none hclient] at hload
    refine ⟨by simp only [runInfo, hload], ?_⟩
    rintro o rfl rfl hformat
    exact runAnalyze_of_loadAnalyzer hformat hload
  · rw [buildAnalyzer_of_clientFault hfault hmodel] at hload
    refine ⟨by simp only [runInfo, hload], ?_⟩
    rintro o rfl rfl hformat
    rw [runAnalyze_eq, analysis_of_knownFormat hformat, hload]
    rfl

/-- A world without any files. -/
def emptyWorld : World where
  files := { root := .dir [], workDir := [] }

lemma loadSettings_emptyWorld : loadSettings emptyWorld.files none = .ok Settings.default :=
  loadSettings_default (by decide +kernel) (by decide +kernel)

/-- An endpoint with something in it: the default settings with that endpoint satisfy all rules. -/
theorem runSettings_violation_url :
    runSettings emptyWorld.files none (some "http://model") =
        .ok (Settings.default.withEndpoint (some "http://model")) ∧
      (Settings.default.withEndpoint (some "http://model")).violation? = none := by
  have h : runSettings emptyWorld.files none (some "http://model") =
      .ok (Settings.default.withEndpoint (some "http://model")) :=
    runSettings_eq_ok_iff.2 ⟨_, loadSettings_emptyWorld, rfl⟩
  exact ⟨h, (runSettings_violation emptyWorld none _ h).1⟩

/-- An empty endpoint: the settings break a rule, and the command builds its analyzer from them and
ends well. -/
theorem runSettings_blank_endpoint :
    ∃ s, runSettings emptyWorld.files none (some "") = .ok s ∧
      s.violation? = some .blankEndpoint ∧
      runInfo emptyWorld { modelEndpoint := some "" } =
        { code := 0
          stdout := (Analyzer.build emptyWorld.transport s).describe.toJson.pretty ++ "\n"
          files := emptyWorld.files } := by
  have hload : loadAnalyzer emptyWorld none (some "") =
      .ok (.build emptyWorld.transport (Settings.default.withEndpoint (some ""))) := by
    rw [loadAnalyzer_eq, runSettings, loadSettings_emptyWorld]
    rfl
  refine ⟨Settings.default.withEndpoint (some ""), ?_, ?_, ?_⟩
  · exact runSettings_eq_ok_iff.2 ⟨_, loadSettings_emptyWorld, rfl⟩
  · exact Settings.violation?_withEndpoint Settings.violation?_default (some "")
  · simp only [runInfo, hload]

end Critique
