import ScriptHost.Event.Basic

/-!
# What can be wrong with an event

Three things: a listener handle that names no listener, a name that is not in
the catalog, and a payload that does not have the shape its kind promises.
-/

namespace ScriptHost

/-- Why a payload does not have the shape of its kind. -/
inductive PayloadFault where
  /-- The byte count of the frame does not fit a 64-bit size. -/
  | frameOverflows (width height : UInt32)
  /-- The buffer ends before the frame does. -/
  | frameShort (width height : UInt32) (needs has : Nat)
  /-- A reason in someone else's words. -/
  | stated (reason : String)
deriving DecidableEq, Repr

/-- The reason in words. -/
def PayloadFault.reason : PayloadFault → String
  | .frameOverflows w h => s!"{w}x{h} frame size overflows"
  | .frameShort w h needs has => s!"{w}x{h} frame needs {needs} bytes, buffer has {has}"
  | .stated reason => reason

/-- A fault of the event catalog or the hub. -/
inductive EventError where
  | unknownListener (id : ListenerId)
  | unknownEvent (name : String)
  | malformed (kind : EventKind) (fault : PayloadFault)
deriving DecidableEq, Repr

/-- The text of an event fault. -/
def EventError.message : EventError → String
  | .unknownListener id => s!"no listener registered with id {id}"
  | .unknownEvent name => s!"unknown event name '{name}'"
  | .malformed kind fault => s!"malformed {kind.name} payload: {fault.reason}"

end ScriptHost
