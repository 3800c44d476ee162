import ScriptHost.Script.Dialect

/-!
# Playbooks: scripts written as data

A playbook says what a script does, move by move.  A coroutine or a callback is
a **routine**: a list of bodies, one for each time it runs.  When the bodies run
out the last one is played again and again, or, if the routine *cycles*, they
start over.  A body makes its moves and then gives a reply: how the coroutine
suspends, or what the callback returns.
-/

namespace ScriptHost

mutual

/-- One move of a script. -/
inductive Move where
  | say (text : String)
  | emit (event : Event)
  | listen (kind : EventKind) (label : String) (moves : List Move)
  | unlisten (id : Nat)
  | terminate (name : String)
  | shutdown (value : Bool)
  | await (kind : EventKind) (routine : Routine)
  | schedule (event : String) (tag : Option String) (routine : Routine)
  | spawn (routine : Routine)
  | count (kind : EventKind)
  | on (event : String) (callback : Option Routine)
  | setCallback (kind : EventKind) (callback : Option Routine)
  | clearCallbacks
  | reset
  | stopSelf
  | requestStart (path : Path)
  | requestStop (path : Path)
  | whoami

/-- A coroutine or a callback.  A callback that is not `callable` is refused
when it is registered. -/
inductive Routine where
  | mk (label : String) (bodies : List Body) (cycles : Bool) (callable : Bool)

/-- What a routine does in one run. -/
inductive Body where
  | mk (moves : List Move) (reply : Reply)

/-- How a run ends. -/
inductive Reply where
  /-- The coroutine has finished; the callback has nothing to add. -/
  | plain
  | fail (error : ScriptError)
  /-- The coroutine waits for the next event of a kind. -/
  | await (kind : EventKind)
  /-- The coroutine waits for an event by name, under a tag of its choice. -/
  | awaitNamed (event : String) (tag : Option String)
  /-- The callback starts a coroutine. -/
  | spawn (routine : Routine)

end

namespace Routine

/-- The name a routine leaves on record. -/
def label : Routine → String
  | mk label _ _ _ => label

/-- What it does, run by run. -/
def bodies : Routine → List Body
  | mk _ bodies _ _ => bodies

/-- Whether it starts over when its bodies run out. -/
def cycles : Routine → Bool
  | mk _ _ cycles _ => cycles

/-- Whether it can be registered as a callback. -/
def callable : Routine → Bool
  | mk _ _ _ callable => callable

/-- The body of the `n`-th run, counted from zero. -/
def body (r : Routine) (n : Nat) : Body :=
  let last := r.bodies.length - 1
  let k := if r.cycles then n % r.bodies.length else min n last
  (r.bodies[k]?).getD (.mk [] .plain)

end Routine

/-- A script: its name, the moves of its top-level code, and what that code
comes to — an error, or perhaps a main coroutine. -/
structure Playbook where
  name : String
  entry : List Move
  main : Option Routine
  failure : Option ScriptError

end ScriptHost
