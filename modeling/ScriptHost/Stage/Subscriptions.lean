import ScriptHost.Event.PerKind
import ScriptHost.Script.Dialect

/-!
# What a script is subscribed to

For each kind of event a script has a **slot**: at most one callback, and a
queue of coroutines that wait for the next event of that kind, oldest first.
Every coroutine handed to a script gets a serial number of its own, which it
keeps through all its suspensions; so one can say which of them is where.
-/

namespace ScriptHost

/-- A coroutine under the serial number it got when it was handed over. -/
structure Task (D : Dialect) where
  serial : Nat
  routine : D.Coroutine

/-- A script's subscription to one kind of event. -/
structure Slot (D : Dialect) where
  callback : Option D.Callback
  waiting : List (Task D)

namespace Slot

variable {D : Dialect}

/-- No callback, nobody waiting. -/
def empty : Slot D :=
  ⟨none, []⟩

/-- Whether a slot holds nothing. -/
def isEmpty (s : Slot D) : Bool :=
  s.callback.isNone && s.waiting.isEmpty

end Slot

/-- A script's slots, and how many coroutines it was ever handed. -/
structure Subscriptions (D : Dialect) where
  slots : PerKind (Slot D)
  handed : Nat

namespace Subscriptions

variable {D : Dialect}

/-- Subscribed to nothing. -/
def empty : Subscriptions D :=
  ⟨PerKind.const Slot.empty, 0⟩

/-- The callback of a kind. -/
def callback (s : Subscriptions D) (kind : EventKind) : Option D.Callback :=
  (s.slots.get kind).callback

/-- The coroutines waiting for a kind, oldest first. -/
def waiting (s : Subscriptions D) (kind : EventKind) : List (Task D) :=
  (s.slots.get kind).waiting

/-- Whether there is nothing to do for events of a kind. -/
def isIdle (s : Subscriptions D) (kind : EventKind) : Bool :=
  (s.slots.get kind).isEmpty

/-- Replace or clear the callback of a kind. -/
def setCallback (s : Subscriptions D) (kind : EventKind) (callback : Option D.Callback) :
    Subscriptions D :=
  { s with slots := s.slots.modify kind fun slot => { slot with callback } }

/-- Append a coroutine to the queue of a kind. -/
def park (s : Subscriptions D) (kind : EventKind) (task : Task D) : Subscriptions D :=
  { s with slots := s.slots.modify kind fun slot =>
      { slot with waiting := slot.waiting ++ [task] } }

/-- Leave the queue of a kind empty. -/
def drain (s : Subscriptions D) (kind : EventKind) : Subscriptions D :=
  { s with slots := s.slots.modify kind fun slot => { slot with waiting := [] } }

/-- The serial number for the next coroutine counts as given. -/
def accept (s : Subscriptions D) : Subscriptions D :=
  { s with handed := s.handed + 1 }

/-- Drop every callback and every waiting coroutine. -/
def clear (s : Subscriptions D) : Subscriptions D :=
  { s with slots := PerKind.const Slot.empty }

/-- Drop every callback. -/
def clearCallbacks (s : Subscriptions D) : Subscriptions D :=
  { s with slots := s.slots.map fun slot => { slot with callback := none } }

/-- The kinds with a callback, in catalog order. -/
def callbackKinds (s : Subscriptions D) : List EventKind :=
  EventKind.all.filter fun kind => (s.callback kind).isSome

/-- How many coroutines wait for a kind. -/
def awaiting (s : Subscriptions D) (kind : EventKind) : Nat :=
  (s.waiting kind).length

/-- How many coroutines wait. -/
def totalAwaiting (s : Subscriptions D) : Nat :=
  (EventKind.all.flatMap s.waiting).length

/-- How many slots hold something. -/
def filled (s : Subscriptions D) : Nat :=
  (EventKind.all.filter fun kind => !s.isIdle kind).length

/-- The serial numbers of all waiting coroutines, kind by kind. -/
def waitingSerials (s : Subscriptions D) : List Nat :=
  EventKind.all.flatMap fun kind => (s.waiting kind).map Task.serial

@[simp] theorem callback_empty (kind : EventKind) :
    (empty : Subscriptions D).callback kind = none := by
  simp [empty, callback, Slot.empty]

@[simp] theorem waiting_empty (kind : EventKind) :
    (empty : Subscriptions D).waiting kind = [] := by
  simp [empty, waiting, Slot.empty]

/-- Setting a callback changes that one callback. -/
theorem callback_setCallback (s : Subscriptions D) (kind kind' : EventKind)
    (cb : Option D.Callback) :
    (s.setCallback kind cb).callback kind' = if kind = kind' then cb else s.callback kind' := by
  simp only [setCallback, callback, PerKind.get_modify]
  split <;> rfl

@[simp] theorem waiting_setCallback (s : Subscriptions D) (kind kind' : EventKind)
    (cb : Option D.Callback) : (s.setCallback kind cb).waiting kind' = s.waiting kind' := by
  simp only [setCallback, waiting, PerKind.get_modify]
  split <;> rfl

@[simp] theorem callback_park (s : Subscriptions D) (kind kind' : EventKind) (task : Task D) :
    (s.park kind task).callback kind' = s.callback kind' := by
  simp only [park, callback, PerKind.get_modify]
  split <;> rfl

/-- A parked coroutine stands last in its queue. -/
theorem waiting_park (s : Subscriptions D) (kind kind' : EventKind) (task : Task D) :
    (s.park kind task).waiting kind'
      = if kind = kind' then s.waiting kind' ++ [task] else s.waiting kind' := by
  simp only [park, waiting, PerKind.get_modify]
  split <;> rfl

@[simp] theorem callback_drain (s : Subscriptions D) (kind kind' : EventKind) :
    (s.drain kind).callback kind' = s.callback kind' := by
  simp only [drain, callback, PerKind.get_modify]
  split <;> rfl

/-- Draining empties one queue. -/
theorem waiting_drain (s : Subscriptions D) (kind kind' : EventKind) :
    (s.drain kind).waiting kind' = if kind = kind' then [] else s.waiting kind' := by
  simp only [drain, waiting, PerKind.get_modify]
  split <;> rfl

@[simp] theorem callback_clear (s : Subscriptions D) (kind : EventKind) :
    s.clear.callback kind = none := by
  simp [clear, callback, Slot.empty]

@[simp] theorem waiting_clear (s : Subscriptions D) (kind : EventKind) :
    s.clear.waiting kind = [] := by
  simp [clear, waiting, Slot.empty]

@[simp] theorem callback_clearCallbacks (s : Subscriptions D) (kind : EventKind) :
    s.clearCallbacks.callback kind = none := by
  simp [clearCallbacks, callback]

@[simp] theorem waiting_clearCallbacks (s : Subscriptions D) (kind : EventKind) :
    s.clearCallbacks.waiting kind = s.waiting kind := by
  simp [clearCallbacks, waiting]

end Subscriptions

end ScriptHost
