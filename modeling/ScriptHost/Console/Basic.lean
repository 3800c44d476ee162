import ScriptHost.Console.Describe
import ScriptHost.Files.Edit
import ScriptHost.Registry.Named
import ScriptHost.Script.Builtin
import ScriptHost.Session.Emulation

/-!
# The console: a host operated by hand

A console has a world of playbooks and built-in scripts before it, a registry or
a session in it, a file tree, and the handles it keeps: contexts of instances by
name.  It carries out one command at a time and replies.

Commands for a session mean nothing where there is only a registry, and commands
for either mean nothing once they were dropped.
-/

namespace ScriptHost.Console

/-- Who runs the scripts. -/
inductive Keeper where
  | registry (h : Host Repertoire)
  | session (s : Session Repertoire)
  /-- Registry or session were dropped; the world is left. -/
  | nobody (w : World Repertoire)

namespace Keeper

/-- The world. -/
def world : Keeper → World Repertoire
  | registry h => h.world
  | session s => s.host.world
  | nobody w => w

/-- The registry and its world, while there is a registry. -/
def host? : Keeper → Option (Host Repertoire)
  | registry h => some h
  | session s => some s.host
  | nobody _ => none

/-- The session, where there is one. -/
def session? : Keeper → Option (Session Repertoire)
  | session s => some s
  | _ => none

/-- Replace the world. -/
def setWorld (k : Keeper) (w : World Repertoire) : Keeper :=
  match k with
  | registry h => registry { h with world := w }
  | session s => session { s with host := { s.host with world := w } }
  | nobody _ => nobody w

/-- Replace the registry and its world. -/
def setHost (k : Keeper) (h : Host Repertoire) : Keeper :=
  match k with
  | registry _ => registry h
  | session s => session { s with host := h }
  | nobody w => nobody w

end Keeper

/-- Whose context is meant: that of the live instance of an entry, or that of an
instance held under a name. -/
inductive ContextOf where
  | entry (s : Selector)
  | held (name : String)

/-- What comes over the reload channel. -/
inductive ReloadMessage where
  | restart
  | nothing
  | hangUp

/-- What a console can be told to do. -/
inductive Command where
  | emit (event : Event) (times : Nat)
  | listen (kind : EventKind) (label : String) (moves : List Move)
  | unlisten (id : Nat)
  | counts
  | add (path : Path) (enabled : Bool)
  | setEnabled (s : Selector) (value : Bool)
  | restart (s : Selector)
  | restartAll
  | remove (s : Selector)
  | startAll
  | stopAll
  | status (s : Selector)
  | contains (path : Path)
  | script (s : Selector)
  | requestStart (path : Path)
  | requestStop (path : Path)
  | process
  | discover (dir : Path)
  | addBuiltin (dir : Path) (names : List String)
  | keepContext (of : ContextOf) (as : String)
  | act (as : String) (moves : List Move)
  | spawn (as : String) (path : Path) (id : ScriptId)
  | terminate (as : String)
  | drop (as : String)
  | edit (edits : List FileEdit)
  | loadScripts
  | beginEmulation
  | endEmulation
  | cycle (now : Int)
  | reload (message : ReloadMessage)
  | requestReload
  | emulate (frames : Option Nat) (interval : Nat)
  | debug
  | dropAll

/-- The texts a console shows of what it sees. -/
structure DebugTexts where
  hub : String
  registry : Option String
  contexts : List (String × String)
  loose : List (String × String)

/-- What a console replies. -/
inductive Reply where
  | nothing
  | ok
  | absent
  | flag (b : Bool)
  | number (n : Nat)
  | listener (id : ListenerId)
  | path (p : Path)
  | counts (hub : Hub Repertoire)
  | status (s : Status)
  | script (x : Option (Instance Repertoire))
  | failures (es : List RegistryError)
  | cycle (r : CycleReport)
  | frames (n : Nat)
  | debug (t : DebugTexts)
  | eventError (e : EventError)
  | registryError (e : RegistryError)

end Console

/-- A host operated by hand. -/
structure Console where
  keeper : Console.Keeper
  engine : Engine Repertoire
  settings : ScriptSettings
  files : Files
  around : Surroundings
  /-- The contexts kept by name, by the place of their instance. -/
  contexts : List (String × Nat)

end ScriptHost
