import Critique.Codec.SettingsYaml
import Critique.FileTree.Basic

/-!
# Finding settings

Settings are read from a file with one of two names, unless the user names another one.
-/

namespace Critique

/-- The names of settings files, the one to look for first in front. -/
def settingsNames : List String := ["codecritic.yaml", ".codecritic.yaml"]

/-- The settings file in a directory, if there is one. -/
def discover (files : FileTree) (dir : OsText) : Option OsText :=
  (settingsNames.map fun name : String => Path.join dir name).find? files.hasFile

/-- Why a settings file cannot be read. -/
inductive FileFault where
  | io (e : IoError)
  | notSettings
  deriving Repr, DecidableEq

/-- The message about a settings file. -/
def FileFault.message : FileFault → String
  | io e => e.message
  | notSettings => "the text is not a settings document"

/-- Read settings from a file.  The rules that settings can break are not checked. -/
def readSettings (files : FileTree) (path : OsText) : Except FileFault Settings :=
  match files.readText path with
  | .error e => .error (.io e)
  | .ok text =>
    match Settings.ofYaml? text with
    | none => .error .notSettings
    | some settings => .ok settings

end Critique
