import ScriptHost.Script.Code
import ScriptHost.Script.Playbook

/-!
# The repertoire: the dialect of playbooks and of the scripts that ship

Two sorts of scripts run side by side: playbooks, and the scripts built into the
host.  Both keep their counters in numbered **cells** of the shared memory, so
that a counter outlives the run that changes it and is shared by all who know
its number.
-/

namespace ScriptHost

/-- A routine that was made into a coroutine or a callback.  The cell counts how
often it has run. -/
structure Player where
  cell : Nat
  routine : Routine
  /-- The desk it acts for; a routine outside any script acts for none. -/
  desk : Option Desk

/-- The coroutines of the repertoire. -/
inductive Performer where
  | player (p : Player)
  /-- Counts frames; before its first suspension it has no count. -/
  | frameCounter (id : ScriptId) (frames : Option Nat)

/-- The callbacks of the repertoire. -/
inductive Responder where
  | player (p : Player)
  /-- Reports every event of a kind. -/
  | eventLogger (id : ScriptId) (kind : EventKind)
  /-- Counts events in a cell. -/
  | tickCounter (cell : Nat)
  /-- Reports the count in a cell when a script ends. -/
  | endReporter (id : ScriptId) (cell : Nat)

/-- A handler of the host's own: it makes moves, on behalf of no script. -/
structure Onlooker where
  label : String
  moves : List Move

/-- What playbooks leave on record. -/
inductive Remark where
  | entry (name : String) (id : ScriptId) (path : Path)
  | coroutine (label : String) (args : Args)
  | callback (label : String) (args : Args)
  | host (label : String) (kind : EventKind)
  | say (text : String)
  /-- A move by its name, and how it was answered. -/
  | move (name : String) (answer : Answer)
  /-- An emission that was not made, because too many are under way inside each
  other. -/
  | tooDeep

/-- The memory of the repertoire.  The host's counters have 64 bits each and agree with the
cells as long as no count reaches 2^64. -/
structure Memory where
  cells : Array Nat
  /-- How many emissions of playbooks are under way inside each other. -/
  depth : Nat

namespace Memory

/-- No cells, no emission under way. -/
def empty : Memory :=
  ⟨#[], 0⟩

/-- The count in a cell. -/
def count (m : Memory) (cell : Nat) : Nat :=
  (m.cells[cell]?).getD 0

/-- Count one more in a cell. -/
def increment (m : Memory) (cell : Nat) : Memory :=
  { m with cells := m.cells.modify cell (· + 1) }

/-- The cell that `extend` adds. -/
def nextCell (m : Memory) : Nat :=
  m.cells.size

/-- Add a cell with count zero. -/
def extend (m : Memory) : Memory :=
  { m with cells := m.cells.push 0 }

end Memory

/-- The dialect of playbooks and built-in scripts. -/
abbrev Repertoire : Dialect where
  Memory := Memory
  Coroutine := Performer
  Callback := Responder
  Handler := Onlooker
  Remark := Remark

/-- A fresh cell. -/
def newCell : Code Repertoire Nat := do
  let m ← Code.memory
  Code.modifyMemory .extend
  pure m.nextCell

/-- Count one more in a cell; the count before. -/
def countIn (cell : Nat) : Code Repertoire Nat := do
  let m ← Code.memory
  Code.modifyMemory (·.increment cell)
  pure (m.count cell)

end ScriptHost
