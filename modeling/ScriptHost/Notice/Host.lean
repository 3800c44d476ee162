import ScriptHost.Files.Fault
import ScriptHost.Notice.Level
import ScriptHost.Registry.Fault

/-!
# Notices about the registry, the script directory and the session

What the host reports about the scripts it keeps, the directory it watches and
the run it drives.
-/

namespace ScriptHost

/-- Notices of the registry. -/
inductive RegistryNotice where
  | created (concurrent : Bool)
  | adding (path : Path) (enabled : Bool)
  | removed (path : Path)
  | startingAll (scripts : Nat)
  | stoppingAll (scripts : Nat)
  | restartingAll (scripts : Nat)
  | notRestarting (path : Path)
  | rejected (requested live : Path)
  /-- An operation on several entries failed for one of them. -/
  | failed (error : RegistryError)
  | autorunFailed (error : RegistryError)
  | discovered (scripts : Nat) (dir : Path)
  | ignoredStop (path : Path)
  | requestFailed (error : RegistryError)
deriving DecidableEq, Repr

namespace RegistryNotice

/-- How pressing such a notice is. -/
def level : RegistryNotice → Level
  | created .. | notRestarting .. => .debug
  | adding .. | removed .. | startingAll .. | stoppingAll .. | restartingAll .. | discovered .. =>
    .info
  | rejected .. | ignoredStop .. => .warn
  | failed .. | autorunFailed .. | requestFailed .. => .error

/-- The text of such a notice. -/
def message : RegistryNotice → String
  | created concurrent =>
    s!"Creating script registry (engine: native, concurrent instances: {concurrent})"
  | adding path enabled => s!"Adding script {path} (enabled: {enabled})"
  | removed path => s!"Removed script {path}"
  | startingAll n => s!"Starting {n} script(s)"
  | stoppingAll n => s!"Stopping {n} script(s)"
  | restartingAll n => s!"Restarting {n} script(s)"
  | notRestarting path => s!"Not restarting disabled script {path}"
  | rejected requested live => s!"Rejected {requested}: {live} is already running"
  | failed error => error.message
  | autorunFailed error => s!"Autorun: {error.message}"
  | discovered n dir => s!"Discovered {n} autorun script(s) in {dir}"
  | ignoredStop path => s!"Ignoring stop request for unknown script {path}"
  | requestFailed error => s!"Deferred request failed: {error.message}"

end RegistryNotice

/-- Notices of the walk through the script directory. -/
inductive ScanNotice where
  | scanning (dir : Path)
  | changed (path : Path)
  | added (path : Path)
  | removed (path : Path)
  | noDirectory (dir : Path)
  | unreadable (dir : Path) (fault : FileFault)
  | noModificationTime (path : Path) (fault : FileFault)
deriving DecidableEq, Repr

namespace ScanNotice

/-- How pressing such a notice is. -/
def level : ScanNotice → Level
  | unreadable .. | noModificationTime .. => .warn
  | _ => .debug

/-- The text of such a notice. -/
def message : ScanNotice → String
  | scanning dir => s!"Scanning script directory for changes: {dir}"
  | changed path => s!"Script changed: {path}"
  | added path => s!"Script added: {path}"
  | removed path => s!"Script removed: {path}"
  | noDirectory dir => s!"Script directory does not exist: {dir}"
  | unreadable dir fault => s!"Failed to read script directory {dir}: {fault.message}"
  | noModificationTime path fault =>
    s!"Failed to get modification time for {path}: {fault.message}"

end ScanNotice

/-- What one housekeeping cycle of a session did. -/
structure CycleReport where
  /-- Deferred requests that failed. -/
  failed : Nat
  /-- Whether a timer tick was emitted. -/
  ticked : Bool
  /-- Scripts restarted, added or removed by reloading. -/
  reloaded : Nat
deriving DecidableEq, Repr

/-- A cycle report as diagnostics show it. -/
def CycleReport.describe (r : CycleReport) : String :=
  "CycleReport \x7b failed_requests: " ++ toString r.failed ++ ", ticked: " ++ toString r.ticked
    ++ ", reloaded: " ++ toString r.reloaded ++ " \x7d"

/-- Notices of a session and of the program around it. -/
inductive SessionNotice where
  | scriptingDisabled
  | loadingFrom (dir : Path)
  | emulationStarted
  | emulationStopped
  | startFailed (error : RegistryError)
  | restartFailed (error : RegistryError)
  | reloadRequested
  | changedOnDisk (path : Path)
  | removedFromDisk (path : Path)
  | reloadFailed (path : Path) (error : RegistryError)
  | addFailed (path : Path) (error : RegistryError)
  | frameReport (frame : Nat) (report : CycleReport)
  | shutdownRequested (frames : Nat)
  | alreadyLoaded (name : String)
  | loggingTo (path : Path)
  | greeting
  | autorunIncomplete (error : RegistryError)
  | framesRun (frames : Nat)
deriving DecidableEq, Repr

namespace SessionNotice

/-- How pressing such a notice is. -/
def level : SessionNotice → Level
  | startFailed .. | restartFailed .. | reloadFailed .. => .error
  | addFailed .. | autorunIncomplete .. => .warn
  | loadingFrom .. | frameReport .. => .debug
  | _ => .info

/-- The text of such a notice. -/
def message : SessionNotice → String
  | scriptingDisabled => "Scripting disabled, not loading scripts"
  | loadingFrom dir => s!"Loading scripts from: {dir}"
  | emulationStarted => "Emulation started"
  | emulationStopped => "Emulation stopped"
  | startFailed error => s!"Some scripts failed to start: {error.message}"
  | restartFailed error => s!"Restart after reload signal failed: {error.message}"
  | reloadRequested => "Received SIGUSR2 - restarting scripts"
  | changedOnDisk path => s!"Script changed on disk, restarting: {path}"
  | removedFromDisk path => s!"Script removed from disk: {path}"
  | reloadFailed path error => s!"Failed to restart {path}: {error.message}"
  | addFailed path error => s!"Failed to add {path}: {error.message}"
  | frameReport frame report => s!"Frame {frame}: {report.describe}"
  | shutdownRequested frames => s!"Shutdown requested after {frames} frame(s)"
  | alreadyLoaded name => s!"Script '{name}' is already loaded"
  | loggingTo path => s!"Logging to file: {path}"
  | greeting => "Starting hookshot..."
  | autorunIncomplete error => s!"Some autorun scripts failed to load: {error.message}"
  | framesRun frames => s!"Ran {frames} frame(s)"

end SessionNotice

end ScriptHost
