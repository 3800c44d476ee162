import ScriptHost.Stage.World

/-!
# Script code

An **interpreter** says what resuming a coroutine or calling a callback of a
dialect *does*.  What it does is `Code`: a tree of acts on the host.  Each act
names the script it is done for by the `Desk` of that script, and is answered
before the code goes on; so code is finite between two suspensions, but what an
answer is, and what else runs before it arrives, is up to the host.
-/

namespace ScriptHost

/-- What script code can do to the host. -/
inductive Act (D : Dialect) where
  | emit (event : Event)
  | listen (kind : EventKind) (handler : D.Handler)
  | unlisten (id : ListenerId)
  /-- End the script instance that is held under a name. -/
  | terminate (name : String)
  /-- Tell the running emulation whether to shut down. -/
  | shutdown (value : Bool)
  /-- Suspend a coroutine until the next event of a kind. -/
  | awaitNext (desk : Desk) (kind : EventKind) (coroutine : D.Coroutine)
  /-- Suspend a coroutine on the event a request names. -/
  | schedule (desk : Desk) (request : AwaitRequest) (coroutine : D.Coroutine)
  /-- Run a new coroutine up to its first suspension. -/
  | spawn (desk : Desk) (coroutine : D.Coroutine)
  | awaiting (desk : Desk) (kind : EventKind)
  | setCallback (i : Nat) (kind : EventKind) (callback : Option D.Callback)
  /-- Set a callback for the event of a name. -/
  | on (i : Nat) (event : String) (callback : Option D.Callback)
  | clearCallbacks (i : Nat)
  /-- Drop every callback and every waiting coroutine. -/
  | reset (i : Nat)
  | request (i : Nat) (kind : RequestKind) (path : Path)
  | requestStopSelf (i : Nat)
  | identity (i : Nat)
  /-- Resume the coroutines that wait at a bench for a kind, as long as a test says so, which
  is told how often it has been asked before. -/
  | notify (n : Nat) (kind : EventKind) (args : Args) (test : Nat → World D → Bool)
  /-- Ask how many coroutines the pass has resumed that ended last at a bench. -/
  | resumed (n : Nat)

/-- How the host answers an act. -/
inductive Answer where
  | done
  | listener (id : ListenerId)
  | kind (k : EventKind)
  | count (n : Nat)
  | identity (id : ScriptId) (path : Path)
  /-- There is nothing of that name to act on. -/
  | absent
  | failed (error : ScriptError)
deriving DecidableEq, Repr

/-- Script code that comes to an `α`. -/
inductive Code (D : Dialect) (α : Type) where
  | ret (a : α)
  /-- Look at the memory of the language. -/
  | read (k : D.Memory → Code D α)
  /-- Replace the memory of the language. -/
  | write (m : D.Memory) (k : Code D α)
  | remark (r : D.Remark) (k : Code D α)
  | log (n : Notice) (k : Code D α)
  | act (a : Act D) (k : Answer → Code D α)

namespace Code

variable {D : Dialect} {α β : Type}

/-- Code followed by more code. -/
def bind : Code D α → (α → Code D β) → Code D β
  | ret a, f => f a
  | read k, f => read fun m => (k m).bind f
  | write m k, f => write m (k.bind f)
  | remark r k, f => remark r (k.bind f)
  | log n k, f => log n (k.bind f)
  | act a k, f => act a fun answer => (k answer).bind f

instance : Monad (Code D) where
  pure := ret
  bind := bind

/-- Do an act and go on with its answer. -/
def perform (a : Act D) : Code D Answer :=
  act a ret

/-- Resume the coroutines that wait at a bench for a kind, and go on with how many were
resumed. -/
def notify (n : Nat) (kind : EventKind) (args : Args) (test : Nat → World D → Bool) :
    Code D Answer :=
  act (.notify n kind args test) fun _ => perform (.resumed n)

/-- Say something for the record. -/
def say (r : D.Remark) : Code D Unit :=
  remark r (ret ())

/-- Report a notice. -/
def report (n : Notice) : Code D Unit :=
  log n (ret ())

/-- The memory of the language. -/
def memory : Code D D.Memory :=
  read ret

/-- Change the memory of the language. -/
def modifyMemory (f : D.Memory → D.Memory) : Code D Unit :=
  read fun m => write (f m) (ret ())

end Code

/-- What the values of a dialect do. -/
structure Interpreter (D : Dialect) where
  /-- Resume a coroutine with the arguments of the event that woke it. -/
  resume : D.Coroutine → Args → Code D (Except ScriptError (Yield D))
  /-- Whether a value can be called at all. -/
  callable : D.Callback → Bool
  call : D.Callback → Args → Code D (Except ScriptError (Outcome D))
  handle : D.Handler → Event → Code D Unit
  /-- How many steps of script code the host waits for the scripts to come to
  rest before it gives the run up. -/
  patience : Nat

/-- What a script's top-level code comes to: an error, or perhaps a main
coroutine to drive to its first suspension. -/
abbrev EntryCode (D : Dialect) : Type :=
  Code D (Except ScriptError (Option D.Coroutine))

end ScriptHost
