/-!
# A watched value

A sender puts values where a watcher looks at them when it likes: values sent
in quick succession overwrite each other, and the watcher knows whether the
current one is **new** to it.  The sender may go away; the last value stays.
-/

namespace ScriptHost

/-- A value, whether the watcher has seen it, and whether a sender is left. -/
structure Watch (α : Type) where
  value : α
  unseen : Bool
  hasSender : Bool
deriving Repr

namespace Watch

variable {α : Type}

/-- A fresh channel: its first value counts as seen. -/
def new (a : α) : Watch α :=
  ⟨a, false, true⟩

/-- Send a value.  Without a sender nothing is sent. -/
def send (w : Watch α) (a : α) : Watch α :=
  if w.hasSender then { w with value := a, unseen := true } else w

/-- The sender goes away. -/
def hangUp (w : Watch α) : Watch α :=
  { w with hasSender := false }

/-- The watcher has seen the current value. -/
def see (w : Watch α) : Watch α :=
  { w with unseen := false }

/-- Whether a change is reported: there is an unseen value, and still someone
who could send. -/
def hasChanged (w : Watch α) : Bool :=
  w.hasSender && w.unseen

end Watch

end ScriptHost
