import ScriptHost.Files.Tree
import ScriptHost.Settings.Document

/-!
# Loading settings from a file
-/

namespace ScriptHost

/-- Why settings could not be loaded. -/
inductive SettingsError where
  | notFound (path : Path)
  /-- The file is there and cannot be read. -/
  | unreadable (fault : FileFault)
  /-- The file does not describe settings. -/
  | unusable
deriving DecidableEq, Repr

/-- The text of a loading error, without the details of its cause. -/
def SettingsError.message : SettingsError → String
  | .notFound path => s!"Config file not found: {path}"
  | .unreadable _ => "IO error reading config"
  | .unusable => "Failed to parse config"

/-- Settings from a text. -/
def Settings.read (text : String) : Except SettingsError Settings :=
  match Settings.parse? text with
  | some s => .ok s
  | none => .error .unusable

/-- Settings from a file. -/
def Settings.load (t : Files) (path : Path) : Except SettingsError Settings :=
  if t.pathExists path then
    match t.readText path with
    | .ok text => Settings.read text
    | .error fault => .error (.unreadable fault)
  else .error (.notFound path)

end ScriptHost
