import Critique.Analyzer.Basic
import Critique.Codec.SettingsYaml
import Critique.Training

/-!
# Storing and training analyzers

A heuristic analyzer can be saved to a file and loaded from one; what is stored are its settings.
Loaded settings must satisfy all rules, and after a failure the analyzer is what it was.  No other
analyzer can be stored, and none can be trained or evaluated.
-/

namespace Critique

/-- Read settings that satisfy all rules from a text. -/
def Settings.ofValidYaml (text : String) : Except SettingsFault Settings :=
  match Settings.ofYaml? text with
  | none => .error .unreadable
  | some settings =>
    match settings.violation? with
    | some v => .error (.refused v)
    | none => .ok settings

namespace Analyzer

/-- The failure of an analyzer that has no such operation. -/
def unsupported (a : Analyzer) (operation : Operation) : Failure :=
  .unsupported a.describe.kind operation

/-- Train with labelled snippets. -/
def train (a : Analyzer) (_samples : List TrainingSample) (_options : TrainingOptions) :
    Except Failure Analyzer :=
  .error (a.unsupported .training)

/-- Evaluate with labelled snippets: named measurements. -/
def evaluate (a : Analyzer) (_samples : List TrainingSample) : Except Failure (Table Float) :=
  .error (a.unsupported .evaluation)

/-- Save to a file: the files afterwards, and why it failed if it did. -/
def save (a : Analyzer) (files : FileTree) (path : OsText) : FileTree × Option Failure :=
  match a with
  | heuristic settings =>
    match files.makeParents path with
    | ⟨files, some e⟩ => (files, some (.io e))
    | ⟨files, none⟩ =>
      match files.write path (Text.Utf8.encode settings.toYaml) with
      | .ok files => (files, none)
      | .error e => (files, some (.io e))
  | a => (files, some (a.unsupported .save))

/-- Load from a file. -/
def load (a : Analyzer) (files : FileTree) (path : OsText) : Except Failure Analyzer :=
  match a with
  | heuristic _ =>
    match files.readText path with
    | .error e => .error (.io e)
    | .ok text =>
      match Settings.ofValidYaml text with
      | .error fault => .error (.settings fault)
      | .ok settings => .ok (.heuristic settings)
  | a => .error (a.unsupported .load)

end Analyzer

end Critique
