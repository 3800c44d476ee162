import ScriptHost.Path.Name

/-!
# Settings

How scripts are found, run and reloaded.  Everything has a default; a script is
enabled unless the settings say otherwise for its name.

A file is an **autorun** script if it has one of the script extensions and its
name begins with the autorun prefix; package markers, whose names begin with
`__init__.`, never are.
-/

namespace ScriptHost

/-- Where a user keeps data and settings. -/
structure Surroundings where
  home : String
  /-- Where data is kept instead of in the home directory. -/
  dataHome : Option String
  /-- Where settings are kept instead of in the home directory. -/
  configHome : Option String

namespace Surroundings

/-- A directory of the user: the given one if it is absolute, else the usual one
in the home directory. -/
def directory (s : Surroundings) (given : Option String) (usual : String) : Path :=
  match given with
  | some dir => if (Path.mk dir).isAbsolute then ⟨dir⟩ else (Path.mk s.home).child usual
  | none => (Path.mk s.home).child usual

/-- Where the host keeps its data. -/
def dataDir (s : Surroundings) : Path :=
  (s.directory s.dataHome ".local/share").child "hookshot"

/-- Where the host looks for its settings. -/
def configPath (s : Surroundings) : Path :=
  ((s.directory s.configHome ".config").child "hookshot").child "config.toml"

/-- Where the host looks for scripts unless told otherwise. -/
def defaultScriptDir (s : Surroundings) : Path :=
  s.dataDir.child "scripts"

end Surroundings

/-- The settings of the scripting host; times are in milliseconds. -/
structure ScriptSettings where
  enabled : Bool
  scriptDir : Option Path
  /-- Whether more than one script may run at a time. -/
  concurrent : Bool
  autorunPrefix : String
  extensions : List String
  hotReload : Bool
  hotReloadInterval : Nat
  tickInterval : Nat
  /-- The scripts the settings speak of, and whether each is to be enabled. -/
  scripts : List (String × Bool)
deriving DecidableEq, Repr

namespace ScriptSettings

/-- What holds where nothing is said. -/
def default : ScriptSettings :=
  { enabled := true, scriptDir := none, concurrent := true, autorunPrefix := "_",
    extensions := ["py", "py3"], hotReload := true, hotReloadInterval := 1000,
    tickInterval := 50, scripts := [] }

/-- The directory scripts are found in. -/
def directory (s : ScriptSettings) (around : Surroundings) : Path :=
  s.scriptDir.getD around.defaultScriptDir

/-- Whether an extension marks a script. -/
def isScriptExtension (s : ScriptSettings) (ext : String) : Bool :=
  s.extensions.contains ext

/-- Whether a path has a script extension. -/
def isScriptFile (s : ScriptSettings) (p : Path) : Bool :=
  p.extension?.any s.isScriptExtension

/-- Whether a name marks a package rather than a script. -/
def isPackageMarker (name : String) : Bool :=
  "__init__.".toList.isPrefixOf name.toList

/-- Whether a path is that of an autorun script. -/
def isAutorun (s : ScriptSettings) (p : Path) : Bool :=
  p.fileName?.any fun name =>
    !isPackageMarker name && s.isScriptFile p
      && s.autorunPrefix.toList.isPrefixOf name.toList

/-- Whether a script is to be enabled. -/
def scriptEnabled (s : ScriptSettings) (stem : String) : Bool :=
  (s.scripts.lookup stem).getD true

/-- Whether the script at a path is to be enabled. -/
def pathEnabled (s : ScriptSettings) (p : Path) : Bool :=
  p.stem?.all s.scriptEnabled

end ScriptSettings

/-- What a settings file says. -/
structure Settings where
  scripting : ScriptSettings
  /-- Whether log lines also go to a file. -/
  fileLogging : Bool
deriving DecidableEq, Repr

/-- What holds where nothing is said. -/
def Settings.default : Settings :=
  ⟨.default, false⟩

end ScriptHost
