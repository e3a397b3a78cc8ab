import Critique.Analyzer.Session
import Mathlib.Data.List.Basic

/-!
# What a session can change

Only a load can change the analyzer of a session, and only one that answers `done`: the analyzer
is then the heuristic one with the settings of the file, which satisfy all rules.  A load goes
through three points at which it can fail (`LoadFails`), and when it fails the session is what it
was, so that nothing that is asked later can tell that it was tried.  Training and evaluation
change nothing, and an analyzer that is not heuristic can be neither saved nor loaded: a composite
does not pass these calls on to the analyzers in it.

`stored_or_loadFails` says how a load can end, and `analyzer_after` what one event can do to the
analyzer.  `run_induction` takes this along the events of a session, and
`analyzer_changed_only_by_load` collects what follows.
-/

namespace Critique

/-! ## Loading -/

/-- The file is read, understood as these settings, and they satisfy all rules. -/
structure Stored (files : FileTree) (path : OsText) (loaded : Settings) : Prop where
  text : ∃ text, files.readText path = .ok text ∧ Settings.ofYaml? text = some loaded
  valid : loaded.violation? = none

/-- The three points at which a load fails, each with its failure. -/
inductive LoadFails (files : FileTree) (path : OsText) : Failure → Prop where
  | notRead {e : IoError} (h : files.readText path = .error e) : LoadFails files path (.io e)
  | notUnderstood {text : String} (hread : files.readText path = .ok text)
      (h : Settings.ofYaml? text = none) : LoadFails files path (.settings .unreadable)
  | refused {text : String} {loaded : Settings} {v : Violation}
      (hread : files.readText path = .ok text) (htext : Settings.ofYaml? text = some loaded)
      (h : loaded.violation? = some v) : LoadFails files path (.settings (.refused v))

/-- There is no other way for a load to end. -/
lemma stored_or_loadFails (files : FileTree) (path : OsText) :
    (∃ loaded, Stored files path loaded) ∨ ∃ f, LoadFails files path f := by
  cases hread : files.readText path with
  | error e => exact .inr ⟨_, .notRead hread⟩
  | ok text =>
    cases htext : Settings.ofYaml? text with
    | none => exact .inr ⟨_, .notUnderstood hread htext⟩
    | some loaded =>
      cases hrules : loaded.violation? with
      | some v => exact .inr ⟨_, .refused hread htext hrules⟩
      | none => exact .inl ⟨loaded, ⟨text, hread, htext⟩, hrules⟩

namespace Analyzer

/-- Every heuristic analyzer in the tree has settings that satisfy all rules. -/
def Accepted : Analyzer → Prop
  | heuristic settings => settings.violation? = none
  | model _ => True
  | alone primary => primary.Accepted
  | layered primary secondary => primary.Accepted ∧ secondary.Accepted

variable {a b : Analyzer} {files : FileTree} {path : OsText} {f : Failure}

lemma save_of_settings?_eq_none (h : a.settings? = none) :
    a.save files path = (files, some (a.unsupported .save)) := by
  cases a with
  | heuristic settings => simp [settings?] at h
  | _ => rfl

lemma load_of_settings?_eq_none (h : a.settings? = none) :
    a.load files path = .error (a.unsupported .load) := by
  cases a with
  | heuristic settings => simp [settings?] at h
  | _ => rfl

lemma load_of_stored (settings : Settings) {loaded : Settings} (h : Stored files path loaded) :
    (heuristic settings).load files path = .ok (heuristic loaded) := by
  obtain ⟨⟨text, hread, htext⟩, hrules⟩ := h
  simp only [load, hread, Settings.ofValidYaml, htext, hrules]

lemma load_of_loadFails (settings : Settings) (h : LoadFails files path f) :
    (heuristic settings).load files path = .error f := by
  cases h with
  | notRead hread => simp only [load, hread]
  | notUnderstood hread htext => simp only [load, hread, Settings.ofValidYaml, htext]
  | refused hread htext hrules => simp only [load, hread, Settings.ofValidYaml, htext, hrules]

/-- Only a heuristic analyzer is ever loaded, and only from a file that holds settings. -/
lemma exists_stored_of_load_eq_ok (h : a.load files path = .ok b) :
    a.settings? ≠ none ∧ ∃ loaded, Stored files path loaded ∧ b = heuristic loaded := by
  cases a with
  | heuristic settings =>
    refine ⟨by simp [settings?], ?_⟩
    rcases stored_or_loadFails files path with ⟨loaded, hstored⟩ | ⟨f, hfails⟩
    · rw [load_of_stored settings hstored] at h
      exact ⟨loaded, hstored, (Except.ok.inj h).symm⟩
    · rw [load_of_loadFails settings hfails] at h
      cases h
  | _ => cases h

lemma load_heuristic_eq_error_iff (settings : Settings) :
    (heuristic settings).load files path = .error f ↔ LoadFails files path f := by
  refine ⟨?_, load_of_loadFails settings⟩
  intro h
  rcases stored_or_loadFails files path with ⟨loaded, hstored⟩ | ⟨own, hfails⟩
  · rw [load_of_stored settings hstored] at h
    cases h
  · rw [load_of_loadFails settings hfails] at h
    rwa [← Except.error.inj h]

end Analyzer

namespace Session

variable {s : Session} {path : OsText} {f : Failure}

/-! ## Calls -/

lemma call_save_of_settings?_eq_none (h : s.analyzer.settings? = none) :
    s.call (.save path) = (s, .failed (s.analyzer.unsupported .save)) := by
  simp only [call, Analyzer.save_of_settings?_eq_none h]

lemma call_load_of_settings?_eq_none (h : s.analyzer.settings? = none) :
    s.call (.load path) = (s, .failed (s.analyzer.unsupported .load)) := by
  simp only [call, Analyzer.load_of_settings?_eq_none h, replace]

lemma call_load_eq_failed_iff :
    s.call (.load path) = (s, .failed f) ↔ s.analyzer.load s.files path = .error f := by
  cases h : s.analyzer.load s.files path with
  | ok a => simp [call, h, replace]
  | error own => simp [call, h, replace]

/-- A load that fails leaves the session as it is. -/
lemma call_load_of_failed (h : (s.call (.load path)).2 = .failed f) :
    s.call (.load path) = (s, .failed f) := by
  cases hload : s.analyzer.load s.files path with
  | ok a => simp [call, hload, replace] at h
  | error own =>
    rw [← h]
    simp only [call, hload, replace]

/-- A load that answers `done` is one of a heuristic analyzer, which has the settings of the file
from then on. -/
lemma call_load_of_done (h : (s.call (.load path)).2 = .done) :
    s.analyzer.settings? ≠ none ∧ ∃ loaded, Stored s.files path loaded ∧
      s.call (.load path) = ({ s with analyzer := .heuristic loaded }, .done) := by
  cases hload : s.analyzer.load s.files path with
  | ok a =>
    obtain ⟨hroot, loaded, hstored, rfl⟩ := Analyzer.exists_stored_of_load_eq_ok hload
    exact ⟨hroot, loaded, hstored, by simp only [call, hload, replace]⟩
  | error f => simp [call, hload, replace] at h

/-! ## Events, and a run of events -/

/-- What one event can do to the analyzer. -/
lemma analyzer_after (s : Session) (e : Event) :
    (s.after e).analyzer = s.analyzer ∨
      ∃ path, e = .call (.load path) ∧ (s.call (.load path)).2 = .done := by
  cases e with
  | files t => exact .inl rfl
  | call c =>
    cases c with
    | save path =>
      left
      simp only [after, call]
      split <;> rfl
    | load path =>
      -- `load` is the one call that puts another analyzer in its place
      cases hload : s.analyzer.load s.files path with
      | ok a => exact .inr ⟨path, rfl, by simp only [call, hload, replace]⟩
      | error f => exact .inl (by simp only [after, call, hload, replace])
    | _ => exact .inl rfl

lemma run_append (s : Session) (first second : List Event) :
    s.run (first ++ second) = (s.run first).run second :=
  List.foldl_append

lemma answers_append (s : Session) (first second : List Event) :
    s.answers (first ++ second) = s.answers first ++ (s.run first).answers second := by
  induction first generalizing s with
  | nil => rfl
  | cons e first ih =>
    cases e with
    | call c => exact congrArg ((s.call c).2 :: ·) (ih (s.call c).1)
    | files t => exact ih { s with files := t }

/-- What every event keeps, every run keeps. -/
lemma run_induction {P : Session → Prop} (hafter : ∀ s e, P s → P (s.after e)) (h : P s)
    (events : List Event) : P (s.run events) := by
  induction events generalizing s with
  | nil => exact h
  | cons e events ih => exact ih (hafter s e h)

lemma accepted_after (s : Session) (e : Event) (h : s.analyzer.Accepted) :
    (s.after e).analyzer.Accepted := by
  rcases s.analyzer_after e with hsame | ⟨path, rfl, hdone⟩
  · rwa [hsame]
  · obtain ⟨-, loaded, hstored, heq⟩ := call_load_of_done hdone
    simp only [after, heq]
    exact hstored.valid

/-- An analyzer that is not heuristic stays what it is, with all analyzers in it. -/
lemma analyzer_run_of_settings?_eq_none (h : s.analyzer.settings? = none) (events : List Event) :
    (s.run events).analyzer = s.analyzer := by
  refine run_induction (P := fun s' => s'.analyzer = s.analyzer) ?_ rfl events
  intro s' e hs'
  rcases s'.analyzer_after e with hsame | ⟨path, -, hdone⟩
  · exact hsame.trans hs'
  · exact absurd (hs' ▸ h) (call_load_of_done hdone).1

/-- A load that fails can be left out: everything else is answered as it was. -/
lemma answers_load_of_failed (h : (s.call (.load path)).2 = .failed f) (later : List Event) :
    s.run (.call (.load path) :: later) = s.run later ∧
      s.answers (.call (.load path) :: later) = .failed f :: s.answers later := by
  have hcall := call_load_of_failed h
  constructor
  · show (s.call (.load path)).1.run later = s.run later
    rw [hcall]
  · simp only [answers, hcall]

/-- **Only a load that answers `done` changes the analyzer.**  Take a session at any moment, after
any calls and whatever else happened to the files.

* Heuristic analyzers, at the root or inside composites, have settings that satisfy all rules if
  they had such settings at the start.
* The analyzer changes only at a load that answers `done`.  It is then the heuristic one with the
  settings that the file holds.
* A load of a heuristic analyzer fails exactly at the three points of `LoadFails`.  After a load
  that failed, the session goes on and answers as if the load had not been tried.
* Training and evaluation are unsupported and change nothing.
* An analyzer that is not heuristic is what it was at the start, with all analyzers in it; to save
  and to load it is unsupported and changes nothing, the files included. -/
theorem analyzer_changed_only_by_load (start : Session) (events : List Event) {s : Session}
    (hs : start.run events = s) :
    (start.analyzer.Accepted → s.analyzer.Accepted) ∧
    (∀ e, (s.after e).analyzer ≠ s.analyzer →
      ∃ path, e = .call (.load path) ∧ (s.call (.load path)).2 = .done) ∧
    (∀ path, (s.call (.load path)).2 = .done →
      ∃ loaded, Stored s.files path loaded ∧
        s.call (.load path) = ({ s with analyzer := .heuristic loaded }, .done)) ∧
    (∀ settings path f, s.analyzer = .heuristic settings →
      ((s.call (.load path)).2 = .failed f ↔ LoadFails s.files path f)) ∧
    (∀ path f later, (s.call (.load path)).2 = .failed f →
      start.run (events ++ .call (.load path) :: later) = start.run (events ++ later) ∧
      start.answers (events ++ .call (.load path) :: later) =
        start.answers events ++ .failed f :: s.answers later ∧
      start.answers (events ++ later) = start.answers events ++ s.answers later) ∧
    (∀ samples options, s.call (.train samples options) =
      (s, .failed (.unsupported s.analyzer.describe.kind .training))) ∧
    (∀ samples, s.call (.evaluate samples) =
      (s, .failed (.unsupported s.analyzer.describe.kind .evaluation))) ∧
    (start.analyzer.settings? = none → s.analyzer = start.analyzer ∧
      ∀ path,
        s.call (.save path) = (s, .failed (.unsupported s.analyzer.describe.kind .save)) ∧
        s.call (.load path) = (s, .failed (.unsupported s.analyzer.describe.kind .load))) := by
  subst hs
  refine ⟨fun h => run_induction (P := (·.analyzer.Accepted)) accepted_after h events, ?_,
    fun path h => (call_load_of_done h).2, ?_, ?_, fun _ _ => rfl, fun _ => rfl, ?_⟩
  · intro e hne
    exact (analyzer_after _ e).resolve_left hne
  · intro settings path f hroot
    rw [← Analyzer.load_heuristic_eq_error_iff settings, ← hroot,
      ← call_load_eq_failed_iff]
    exact ⟨call_load_of_failed, congrArg Prod.snd⟩
  · intro path f later hfailed
    obtain ⟨hrun, hanswers⟩ := answers_load_of_failed hfailed later
    refine ⟨?_, ?_, answers_append start events later⟩
    · rw [run_append, run_append]
      exact hrun
    · -- the answers up to the load are the same, so only what follows is compared
      rw [answers_append]
      exact congrArg (start.answers events ++ ·) hanswers
  · intro hroot
    have hsame := analyzer_run_of_settings?_eq_none hroot events
    rw [← hsame] at hroot
    exact ⟨hsame, fun path =>
      ⟨call_save_of_settings?_eq_none hroot, call_load_of_settings?_eq_none hroot⟩⟩

/-- Files with settings whose threshold breaks a rule. -/
def brokenFiles : FileTree where
  root := .dir [("bad.yaml", .file (Text.Utf8.encode "complexity_threshold: 3.0\n"))]
  workDir := []

lemma loadFails_brokenFiles :
    ∃ v, LoadFails brokenFiles "bad.yaml" (.settings (.refused v)) := by
  have hbroken :
      ((Settings.ofYaml? "complexity_threshold: 3.0\n").bind Settings.violation?).isSome := by
    decide +kernel
  obtain ⟨v, hv⟩ := Option.isSome_iff_exists.1 hbroken
  obtain ⟨loaded, htext, hrules⟩ := Option.bind_eq_some_iff.1 hv
  have hread : brokenFiles.readText "bad.yaml" = .ok "complexity_threshold: 3.0\n" := rfl
  exact ⟨v, .refused hread htext hrules⟩

/-- The default analyzer and a file that is refused: after the load its settings still satisfy all
rules, and all that follows is answered as without it. -/
theorem analyzer_changed_only_by_load_refused :
    (Analyzer.heuristic .default).Accepted ∧
      (run ⟨.heuristic .default, brokenFiles⟩ [.call (.load "bad.yaml")]).analyzer.Accepted ∧
      ∃ v, ∀ later,
        answers ⟨.heuristic .default, brokenFiles⟩ (.call (.load "bad.yaml") :: later) =
          .failed (.settings (.refused v)) :: answers ⟨.heuristic .default, brokenFiles⟩ later := by
  have haccepted : (Analyzer.heuristic .default).Accepted := Settings.violation?_default
  -- the session after the load gets a name, so that it is not evaluated
  generalize hs : run ⟨.heuristic .default, brokenFiles⟩ [.call (.load "bad.yaml")] = s
  obtain ⟨hkept, -⟩ := analyzer_changed_only_by_load _ _ hs
  obtain ⟨v, hfails⟩ := loadFails_brokenFiles
  obtain ⟨-, -, -, hpoints, hleft, -⟩ :=
    analyzer_changed_only_by_load ⟨.heuristic .default, brokenFiles⟩ [] rfl
  have hfailed := (hpoints .default "bad.yaml" _ rfl).2 hfails
  exact ⟨haccepted, hkept haccepted, v, fun later => (hleft "bad.yaml" _ later hfailed).2.1⟩

end Session

end Critique
