import ScriptHost.Notice.Host
import ScriptHost.Notice.Scripts
import ScriptHost.Text.Terminal

/-!
# Notices

A notice is a line for whoever watches the host: it has a level, a *target*
(the part of the host that speaks) and a text.
-/

namespace ScriptHost

/-- Everything the host has to report. -/
inductive Notice where
  | hub (n : HubNotice)
  | coroutine (n : CoroutineNotice)
  | script (n : ScriptNotice)
  | builtin (n : BuiltinNotice)
  | registry (n : RegistryNotice)
  | scan (n : ScanNotice)
  | session (n : SessionNotice)
  | settingsLoaded (path : Path)
deriving DecidableEq, Repr

namespace Notice

/-- How pressing a notice is. -/
def level : Notice → Level
  | hub n => n.level
  | coroutine n => n.level
  | script n => n.level
  | builtin n => n.level
  | registry n => n.level
  | scan n => n.level
  | session n => n.level
  | settingsLoaded _ => .info

/-- The part of the host that speaks. -/
def target : Notice → String
  | hub _ => "events"
  | coroutine _ | script _ | builtin _ | registry _ | scan _ => "scripting"
  | session _ => "runner"
  | settingsLoaded _ => "hookshot_scripting_host::config"

/-- The text of a notice. -/
def message : Notice → String
  | hub n => n.message
  | coroutine n => n.message
  | script n => n.message
  | builtin n => n.message
  | registry n => n.message
  | scan n => n.message
  | session n => n.message
  | settingsLoaded path => s!"Loaded config from {path}"

/-- A notice as a log has it: one line, unless a name in it goes over several. -/
def line (n : Notice) : String :=
  s!"{n.level.label} {n.target}: {Text.forTerminal n.message}"

end Notice

end ScriptHost
