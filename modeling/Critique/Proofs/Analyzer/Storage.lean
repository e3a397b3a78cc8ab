import Critique.Proofs.Analyzer.Session
import Critique.Proofs.Codec.SettingsYaml
import Critique.Proofs.FileTree.Write
import Critique.Proofs.Text.Utf8

/-!
# Saving and loading

What an analyzer saves is what another one loads.  The writer checks nothing and the reader checks
all rules, so that settings which break a rule are written and then refused.

Three layers are between the two, and each gives back what was put into it: the tree of the settings
(`Settings.ofNode?_toNode`), the bytes of the text (`Text.Utf8.decode?_encode`) and the file
(`FileTree.Writable.exists_write`).  Between the first two is the text of the tree; that it is read
as the same tree is what `Settings.ReadBack` says.
-/

namespace Critique.Analyzer

variable {files : FileTree} {path : OsText}

/-- Saving to a path that can be written leaves the text of the settings there. -/
lemma save_of_writable (c : Settings) (h : files.Writable path) :
    ∃ saved, (heuristic c).save files path = (saved, none) ∧
      saved.readText path = .ok c.toYaml := by
  obtain ⟨made, saved, hmade, hwrite, hread⟩ := h.exists_write (Text.Utf8.encode c.toYaml)
  refine ⟨saved, ?_, ?_⟩
  · simp only [save, hmade, hwrite]
  · simp only [FileTree.readText, hread, Text.Utf8.decode?_encode]

/-- **What was saved is loaded, unless it breaks a rule.**  Take any settings, saved by a heuristic
analyzer to a path that can be written, and any heuristic analyzer that loads that path.

* The load succeeds exactly when the settings satisfy all rules.
* When it succeeds, the analyzer has the settings that were saved.
* When it fails, the failure names the first rule that the settings break, and the session of the
  analyzer is what it was. -/
theorem load_saved_settings (c own : Settings) (hpath : files.Writable path) (hyaml : c.ReadBack) :
    ∃ saved, (heuristic c).save files path = (saved, none) ∧
      ((∃ a, (heuristic own).load saved path = .ok a) ↔ c.violation? = none) ∧
      (c.violation? = none → (heuristic own).load saved path = .ok (heuristic c)) ∧
      ∀ v, c.violation? = some v →
        (heuristic own).load saved path = .error (.settings (.refused v)) ∧
        Session.call ⟨heuristic own, saved⟩ (.load path) =
          (⟨heuristic own, saved⟩, .failed (.settings (.refused v))) := by
  obtain ⟨saved, hsave, hread⟩ := save_of_writable c hpath
  have htext := hyaml.ofYaml?_toYaml
  have hloaded : c.violation? = none → (heuristic own).load saved path = .ok (heuristic c) :=
    fun hrules => load_of_stored own ⟨⟨_, hread, htext⟩, hrules⟩
  have hrefused : ∀ v, c.violation? = some v →
      (heuristic own).load saved path = .error (.settings (.refused v)) :=
    fun v hv => load_of_loadFails own (.refused hread htext hv)
  refine ⟨saved, hsave, ⟨?_, fun hrules => ⟨_, hloaded hrules⟩⟩, hloaded, ?_⟩
  · rintro ⟨a, ha⟩
    cases hrules : c.violation? with
    | none => rfl
    | some v =>
      rw [hrefused v hrules] at ha
      cases ha
  · intro v hv
    exact ⟨hrefused v hv, Session.call_load_eq_failed_iff.2 (hrefused v hv)⟩

/-- Settings with an empty weight table and a model of their own are saved below a directory that
does not exist yet, and loaded by an analyzer with the default settings. -/
theorem load_saved_settings_empty_weights :
    let c : Settings := {
      maxLineLength := 1, complexityThreshold := 0.5, weights := .empty
      model := some { endpoint := "u", modelName := "m", timeoutMs := 1 } }
    let files : FileTree := { root := .dir [], workDir := [] }
    files.Writable "a/b" ∧ c.ReadBack ∧
      ∃ saved, (heuristic c).save files "a/b" = (saved, none) ∧
        (heuristic .default).load saved "a/b" = .ok (heuristic c) := by
  intro c files
  have hpath : files.Writable "a/b" := ⟨_, rfl, _, .inl rfl⟩
  have hyaml : c.ReadBack := by decide +kernel
  have hrules : c.violation? = none := by
    rw [← Option.isNone_iff_eq_none]
    decide +kernel
  obtain ⟨saved, hsave, -, hloaded, -⟩ := load_saved_settings c .default hpath hyaml
  exact ⟨hpath, hyaml, saved, hsave, hloaded hrules⟩

end Critique.Analyzer
