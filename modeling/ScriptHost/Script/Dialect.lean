import ScriptHost.Event.Args
import ScriptHost.Notice.Basic

/-!
# Script languages

The host does not fix a script language.  A language brings its own types — a
**dialect**: the memory its scripts share, its suspended coroutines, its
callbacks, its handlers for the hub, its remarks.  What the values of these
types do is said by an interpreter (`Script.Code`).

Here are the types, and what the host and a script tell each other: where a
coroutine waits, what it waits for, and what it comes to when it runs.
-/

namespace ScriptHost

/-- The types a script language brings with it. -/
structure Dialect where
  /-- What its scripts share and change. -/
  Memory : Type
  /-- A suspended coroutine. -/
  Coroutine : Type
  /-- A value registered as a callback. -/
  Callback : Type
  /-- A listener of the hub that belongs to no script instance. -/
  Handler : Type
  /-- What scripts say for the record. -/
  Remark : Type

/-- Where coroutines wait: with a script instance, or at a bench of their own
that belongs to no script. -/
inductive Desk where
  | script (i : Nat)
  | bench (n : Nat)
deriving DecidableEq, Repr

/-- What a coroutine suspends with: the name of the event to wake it on, under
a tag that marks it as such a request. -/
structure AwaitRequest where
  tag : String
  event : String
deriving DecidableEq, Repr

namespace AwaitRequest

/-- The tag of every well-formed await request. -/
def wellFormedTag : String :=
  "hookshot_async_event"

/-- The well-formed request for the event of a name. -/
def ofName (event : String) : AwaitRequest :=
  ⟨wellFormedTag, event⟩

/-- The well-formed request for the next event of a kind. -/
def ofKind (kind : EventKind) : AwaitRequest :=
  ofName kind.name

end AwaitRequest

/-- The kind a script means by a name. -/
def resolveKind (name : String) : Except ScriptError EventKind :=
  match EventKind.ofName? name with
  | some kind => .ok kind
  | none => .error (.event (.unknownEvent name))

/-- The kind an await request means.  The tag is looked at first. -/
def AwaitRequest.resolve (r : AwaitRequest) : Except ScriptError EventKind :=
  if r.tag = wellFormedTag then resolveKind r.event else .error (.unexpectedYield r.tag)

/-- What a coroutine does when it gives control back. -/
inductive Yield (D : Dialect) where
  | finished
  /-- It wants to be resumed, as `rest`, by the event of a request. -/
  | await (request : AwaitRequest) (rest : D.Coroutine)

/-- What a callback produces. -/
inductive Outcome (D : Dialect) where
  | done
  /-- A coroutine for the host to drive to its first suspension. -/
  | spawn (coroutine : D.Coroutine)

end ScriptHost
