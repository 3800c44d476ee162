import ScriptHost.Event.Args
import ScriptHost.Notice.Level
import ScriptHost.Script.Fault

/-!
# Notices about events and running scripts

What the hub, the schedulers, the script instances and the scripts themselves
report.  Each notice is recorded as what happened; its words are given here
once.
-/

namespace ScriptHost

/-- A request that a script be started or stopped at the next cycle. -/
inductive RequestKind where
  | start
  | stop
deriving DecidableEq, Repr

/-- The name of a kind of request in notices. -/
def RequestKind.name : RequestKind → String
  | .start => "Start"
  | .stop => "Stop"

/-- Notices of the hub. -/
inductive HubNotice where
  | registered (id : ListenerId) (kind : EventKind)
  | removed (id : ListenerId) (kind : EventKind)
  | emitting (kind : EventKind) (listeners : Nat)
deriving DecidableEq, Repr

namespace HubNotice

/-- How pressing such a notice is. -/
def level : HubNotice → Level
  | registered .. | removed .. => .debug
  | emitting .. => .trace

/-- The text of such a notice. -/
def message : HubNotice → String
  | registered id kind => s!"Registered {id} for {kind.name}"
  | removed id kind => s!"Removed {id} from {kind.name}"
  | emitting kind n => s!"Emitting {kind.name} to {n} listener(s)"

end HubNotice

/-- Notices about coroutines; `label` names the scheduler that holds them. -/
inductive CoroutineNotice where
  | awaiting (label : String) (kind : EventKind)
  /-- A resumption pass ended early with this many coroutines left over. -/
  | cutShort (label : String) (left : Nat) (kind : EventKind)
  | finished (label : String)
  | cancelled (label : String)
  | raised (label : String) (error : ScriptError)
  /-- A coroutine suspended on something it cannot wait for. -/
  | dropped (label : String) (error : ScriptError)
deriving DecidableEq, Repr

namespace CoroutineNotice

/-- How pressing such a notice is. -/
def level : CoroutineNotice → Level
  | awaiting .. | finished .. | cancelled .. => .trace
  | cutShort .. => .debug
  | raised .. | dropped .. => .error

/-- The text of such a notice. -/
def message : CoroutineNotice → String
  | awaiting label kind => s!"{label}: coroutine awaiting {kind.name}"
  | cutShort label n kind =>
    s!"{label}: dropping {n} coroutine(s) awaiting {kind.name} after termination"
  | finished label => s!"{label}: coroutine finished"
  | cancelled label => s!"{label}: coroutine cancelled"
  | raised label error => s!"{label}: coroutine raised: {error.message}"
  | dropped label error => s!"{label}: coroutine dropped: {error.message}"

end CoroutineNotice

/-- Notices about one script instance. -/
inductive ScriptNotice where
  | starting (id : ScriptId) (path : Path)
  | startupRaised (id : ScriptId) (path : Path) (error : ScriptError)
  | stopping (id : ScriptId) (path : Path)
  /-- A listener of the script was gone from the hub when the script ended. -/
  | detachFailed (id : ScriptId) (error : EventError)
  | released (id : ScriptId) (slots : Nat)
  | notDelivering (id : ScriptId) (kind : EventKind) (error : EventError)
  | callbackRaised (id : ScriptId) (path : Path) (kind : EventKind) (error : ScriptError)
  | callbackChanged (id : ScriptId) (isSet : Bool) (kind : EventKind)
  | notAwaiting (id : ScriptId) (kind : EventKind)
  | notSpawning (id : ScriptId)
  | queued (kind : RequestKind) (path : Path)
  | entryPointRegistered (name : String)
deriving DecidableEq, Repr

namespace ScriptNotice

/-- How pressing such a notice is. -/
def level : ScriptNotice → Level
  | starting .. | stopping .. => .info
  | startupRaised .. | notDelivering .. | callbackRaised .. => .error
  | detachFailed .. => .warn
  | released .. | callbackChanged .. | notAwaiting .. | notSpawning .. | queued ..
  | entryPointRegistered .. => .debug

/-- The text of such a notice. -/
def message : ScriptNotice → String
  | starting id path => s!"Starting script {id} ({path})"
  | startupRaised id path error => s!"Script {id} ({path}) raised during startup: {error.message}"
  | stopping id path => s!"Stopping script {id} ({path})"
  | detachFailed id error => s!"Script {id}: {error.message}"
  | released id slots => s!"Script {id} released {slots} subscription slot(s)"
  | notDelivering id kind error => s!"Script {id}: not delivering {kind.name}: {error.message}"
  | callbackRaised id path kind error =>
    s!"Script {id} ({path}) raised in {kind.name} callback: {error.message}"
  | callbackChanged id isSet kind =>
    let verb := if isSet then "set" else "cleared"
    s!"Script {id}: {verb} callback for {kind.name}"
  | notAwaiting id kind => s!"Script {id}: not awaiting {kind.name} after termination"
  | notSpawning id => s!"Script {id}: not spawning coroutine after termination"
  | queued kind path => s!"Queued {kind.name} request for {path}"
  | entryPointRegistered name => s!"Registered native script entry point '{name}'"

end ScriptNotice

/-- What the scripts that ship with the host report. -/
inductive BuiltinNotice where
  | framesReached (id : ScriptId) (frames : Nat)
  | eventSeen (id : ScriptId) (kind : EventKind) (args : Args)
  | scriptEnded (id : ScriptId) (ended : Int64) (ticks : Nat)
deriving DecidableEq, Repr

namespace BuiltinNotice

/-- How pressing such a notice is. -/
def level : BuiltinNotice → Level
  | framesReached .. | scriptEnded .. => .info
  | eventSeen .. => .debug

/-- The text of such a notice. -/
def message : BuiltinNotice → String
  | framesReached id frames => s!"Script {id}: {frames} frames"
  | eventSeen id kind args => s!"Script {id}: {kind.name} {args.describe}"
  | scriptEnded id ended ticks => s!"Script {id}: script {ended} ended after {ticks} tick(s)"

end BuiltinNotice

end ScriptHost
