import ScriptHost.Event.PerKind
import ScriptHost.Script.Dialect

/-!
# The hub's listener lists

The hub keeps, per kind of event, the listeners registered for it, oldest
first.  A listener belongs to a script instance or is a handler of the host's
own.  Ids count up, so none is given twice.  The host counts in 64 bits: it can be told by
as many ids as there are such numbers (`Hub.Registers.nodup_words`, in
`Proofs.Registrations`).

These are the plain operations on the lists; an emission works on the list it
found when it began (`Stage.Step`).
-/

namespace ScriptHost

/-- Whom a listener calls. -/
inductive Hook (D : Dialect) where
  | script (i : Nat)
  | host (handler : D.Handler)

/-- A registered listener. -/
structure Listener (D : Dialect) where
  id : ListenerId
  hook : Hook D

/-- The listener lists, and the number of ids given so far. -/
structure Hub (D : Dialect) where
  lists : PerKind (List (Listener D))
  given : Nat

namespace Hub

variable {D : Dialect}

/-- A hub nobody listens to. -/
def empty : Hub D :=
  ⟨PerKind.const [], 0⟩

/-- The listeners of a kind, oldest first. -/
def listeners (h : Hub D) (kind : EventKind) : List (Listener D) :=
  h.lists.get kind

/-- How many listeners a kind has. -/
def count (h : Hub D) (kind : EventKind) : Nat :=
  (h.listeners kind).length

/-- How many listeners there are. -/
def total (h : Hub D) : Nat :=
  (EventKind.all.flatMap h.listeners).length

/-- The id the next listener gets. -/
def nextId (h : Hub D) : ListenerId :=
  ⟨h.given⟩

/-- Register a listener under the next id, behind the others of its kind; the id it got. -/
def enlist (h : Hub D) (kind : EventKind) (hook : Hook D) : ListenerId × Hub D :=
  let id := h.nextId
  (id, { lists := h.lists.modify kind (· ++ [⟨id, hook⟩]), given := h.given + 1 })

/-- The hub once a listener is registered. -/
def listen (h : Hub D) (kind : EventKind) (hook : Hook D) : Hub D :=
  (h.enlist kind hook).2

/-- The first kind with a listener of an id. -/
def kindOf? (h : Hub D) (id : ListenerId) : Option EventKind :=
  EventKind.all.find? fun kind => (h.listeners kind).any fun l => l.id = id

/-- Take a listener off the list of a kind. -/
def detach (h : Hub D) (kind : EventKind) (id : ListenerId) : Hub D :=
  { h with lists := h.lists.modify kind (·.filter fun l => l.id ≠ id) }

@[simp] theorem listeners_empty (kind : EventKind) : (empty : Hub D).listeners kind = [] := by
  simp [empty, listeners]

/-- A new listener is the last of its kind; the other lists stay. -/
theorem listeners_listen (h : Hub D) (kind kind' : EventKind) (hook : Hook D) :
    (h.listen kind hook).listeners kind'
      = if kind = kind' then h.listeners kind' ++ [⟨h.nextId, hook⟩] else h.listeners kind' := by
  simp [listen, enlist, listeners, PerKind.get_modify]

/-- Detaching removes the listener of an id from one list and keeps the order
of the others. -/
theorem listeners_detach (h : Hub D) (kind kind' : EventKind) (id : ListenerId) :
    (h.detach kind id).listeners kind'
      = if kind = kind' then (h.listeners kind').filter (fun l => l.id ≠ id)
        else h.listeners kind' := by
  simp [detach, listeners, PerKind.get_modify]

end Hub

end ScriptHost
