/-!
# Lists that can be kept as they were

Whoever goes through a list while others change it keeps the list as it was.
Here the copies that are kept go by names, so that one can be let go again.
-/

namespace ScriptHost

/-- A list, and copies of it kept by name. -/
structure Snapshots (α : Type) where
  current : List α
  held : List (String × List α)

namespace Snapshots

variable {α : Type}

/-- The empty list, and no copies. -/
def empty : Snapshots α :=
  ⟨[], []⟩

/-- Append an item. -/
def push (s : Snapshots α) (a : α) : Snapshots α :=
  { s with current := s.current ++ [a] }

/-- Take the last item off. -/
def pop (s : Snapshots α) : Option α × Snapshots α :=
  (s.current.getLast?, { s with current := s.current.dropLast })

/-- Take every item that equals `a` off; how many there were. -/
def remove [DecidableEq α] (s : Snapshots α) (a : α) : Nat × Snapshots α :=
  (s.current.count a, { s with current := s.current.filter (· ≠ a) })

/-- Keep the list as it is now. -/
def hold (s : Snapshots α) (name : String) : Snapshots α :=
  { s with held := s.held.filter (fun p => p.1 ≠ name) ++ [(name, s.current)] }

/-- Let go of a copy; the list that was kept. -/
def release (s : Snapshots α) (name : String) : Option (List α) × Snapshots α :=
  (s.held.lookup name, { s with held := s.held.filter fun p => p.1 ≠ name })

end Snapshots

end ScriptHost
