import ScriptHost.Registry.Fault
import ScriptHost.Stage.Chore

/-!
# The registry of scripts

The registry is a table of known scripts.  An entry has a path, a flag that
says whether the script is wanted, and — while it runs — a live instance.
Wanted scripts run only while the registry is **started**; enabling one before
that has it wait.  A registry that does not allow concurrent scripts runs at
most one at a time.

Entries are found by path, where paths that name the same components are the
same, or by position.
-/

namespace ScriptHost

/-- A known script. -/
structure Entry where
  path : Path
  enabled : Bool
  /-- The place of its live instance. -/
  live : Option Nat
deriving DecidableEq, Repr

/-- The table of scripts, and how they are to be run. -/
structure Registry (D : Dialect) where
  entries : List Entry
  started : Bool
  /-- Whether more than one script may run at a time. -/
  concurrent : Bool
  /-- The id of the next instance. -/
  nextId : UInt32
  engine : Engine D

namespace Registry

variable {D : Dialect}

/-- A registry that knows no scripts and is not started. -/
def new (engine : Engine D) (concurrent : Bool) : Registry D :=
  { entries := [], started := false, concurrent, nextId := 1, engine }

/-- The position of the entry for a path. -/
def position? (r : Registry D) (path : Path) : Option Nat :=
  r.entries.findIdx? fun e => path.Same e.path

/-- Whether a path is registered. -/
def contains (r : Registry D) (path : Path) : Bool :=
  (r.position? path).isSome

/-- The position a selector names. -/
def resolve (r : Registry D) (s : Selector) : Except RegistryError Nat :=
  let found :=
    match s with
    | .path p => r.position? p
    | .index i => if i < r.entries.length then some i else none
  match found with
  | some i => .ok i
  | none => .error (.unknownScript s)

/-- The live instance of the entry at a position. -/
def live? (r : Registry D) (i : Nat) : Option Nat :=
  r.entries[i]?.bind Entry.live

/-- The positions of the entries that satisfy a test. -/
def positions (r : Registry D) (p : Entry → Bool) : List Nat :=
  (List.range r.entries.length).filter fun i => r.entries[i]?.any p

/-- The positions of the entries with a live instance. -/
def livePositions (r : Registry D) : List Nat :=
  r.positions fun e => e.live.isSome

/-- How many instances are live. -/
def liveCount (r : Registry D) : Nat :=
  r.livePositions.length

/-- Change the entry at a position. -/
def modifyEntry (r : Registry D) (i : Nat) (f : Entry → Entry) : Registry D :=
  { r with entries := r.entries.modify i f }

/-- The path of the live script that keeps the entry at a position from
starting: the first other live one, where only one may run. -/
def blocker? (r : Registry D) (i : Nat) : Option Path :=
  if r.concurrent then none
  else (r.livePositions.find? (· ≠ i)).bind fun j => r.entries[j]?.map Entry.path

end Registry

/-- A registry and the world its scripts act in. -/
structure Host (D : Dialect) where
  world : World D
  registry : Registry D

/-- What is known about an entry. -/
structure Status where
  index : Nat
  path : Path
  enabled : Bool
  /-- The id of the live instance. -/
  script : Option ScriptId
deriving DecidableEq, Repr

namespace Host

variable {D : Dialect}

/-- Set up a registry in a world. -/
def new (world : World D) (engine : Engine D) (concurrent : Bool) : Host D :=
  ⟨world.log (.registry (.created concurrent)), Registry.new engine concurrent⟩

instance : HasWorld D (Host D) where
  world := Host.world
  setWorld w h := { h with world := w }
  world_setWorld _ _ := rfl
  setWorld_world _ := rfl

/-- Report a notice. -/
def report (n : RegistryNotice) : Chore D (Host D) Unit :=
  .report (.registry n)

/-- Change the registry. -/
def modifyRegistry (f : Registry D → Registry D) : Chore D (Host D) Unit :=
  .change fun h => { h with registry := f h.registry }

/-- The status of the entry at a position. -/
def status? (h : Host D) (i : Nat) : Option Status :=
  h.registry.entries[i]?.map fun e =>
    { index := i, path := e.path, enabled := e.enabled,
      script := e.live.bind fun k => (h.world.instance? k).map Instance.id }

/-- The status of every entry. -/
def statuses (h : Host D) : List Status :=
  (List.range h.registry.entries.length).filterMap h.status?

end Host

end ScriptHost
