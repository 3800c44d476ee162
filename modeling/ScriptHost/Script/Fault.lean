import ScriptHost.Event.Fault
import ScriptHost.Path.Basic

/-!
# What script code can fail with

Errors of script code and of its subscriptions.  A *cancelled* coroutine ended
quietly; everything else is reported where it surfaces.
-/

namespace ScriptHost

/-- Why a script file could not be loaded. -/
inductive LoadFault where
  /-- The engine knows no entry point for the file. -/
  | noEntryPoint
  /-- A reason in the script's own words. -/
  | stated (message : String)
deriving DecidableEq, Repr

/-- The text of a load fault. -/
def LoadFault.message : LoadFault → String
  | .noEntryPoint => "no native entry point registered for this file"
  | .stated message => message

/-- An error of script code, or of wiring up its subscriptions. -/
inductive ScriptError where
  /-- A value registered as a callback cannot be called. -/
  | notCallable (kind : EventKind)
  | raised (message : String)
  | cancelled
  /-- A coroutine suspended with something that is no await request. -/
  | unexpectedYield (tag : String)
  | load (path : Path) (fault : LoadFault)
  | event (error : EventError)
deriving DecidableEq, Repr

/-- The text of a script error. -/
def ScriptError.message : ScriptError → String
  | .notCallable kind => s!"callback for '{kind.name}' is not callable"
  | .raised message => s!"script raised: {message}"
  | .cancelled => "coroutine cancelled"
  | .unexpectedYield tag => s!"coroutine yielded unexpected value tagged '{tag}'"
  | .load path fault => s!"failed to load script {path}: {fault.message}"
  | .event error => error.message

end ScriptHost
