import ScriptHost.Stage.Run

/-!
# Chores of the host

An operation of the host on its scripts takes several steps, and script code runs
between them: what an instance does while it starts, or while its end is announced,
it does in the middle of an operation.  So an operation is a **chore**, step by step.
A chore looks at a state, changes what in it is the host's own, and gives **orders**
to the machine, each of which is carried out to its end before the chore goes on.

`Chore.run` does a chore in one go.  Like everything the host waits for, it has no
result where the host had to give an order up.
-/

namespace ScriptHost

/-- What the host can order of the machine. -/
inductive Order (D : Dialect) where
  /-- Run code of the host's own. -/
  | code (code : Code D Unit)
  /-- Bring an instance into being, with the top-level code it has at its place. -/
  | spawn (id : ScriptId) (path : Path) (code : Nat → EntryCode D)
  | terminate (i : Nat)
  | dropRequests
  | setShutdown (channel : Option (Watch Bool))

namespace World

variable {D : Dialect}

/-- Begin to carry out an order: the world right after it, and the activities it
starts. -/
def beginOrder (w : World D) : Order D → World D × List (Frame D)
  | .code code => (w, [.handler code])
  | .spawn id path code =>
    let i := w.instances.length
    (w.beginLife id path false, [.entry i (code i), .settle i])
  | .terminate i => w.beginEnding i
  | .dropRequests => (w.dropRequests, [])
  | .setShutdown channel => ({ w with shutdown := channel }, [])

/-- Carry out an order. -/
def obey (I : Interpreter D) (w : World D) (o : Order D) : Option (World D) :=
  let (w, frames) := w.beginOrder o
  w.await I frames

end World

/-- A state of the host, with a world in it. -/
class HasWorld (D : outParam Dialect) (σ : Type) where
  world : σ → World D
  setWorld : World D → σ → σ
  world_setWorld : ∀ w s, world (setWorld w s) = w
  setWorld_world : ∀ s, setWorld (world s) s = s

attribute [simp] HasWorld.world_setWorld HasWorld.setWorld_world

/-- A job of the host that comes to an `α`. -/
inductive Chore (D : Dialect) (σ α : Type) where
  | done (a : α)
  | look (k : σ → Chore D σ α)
  /-- Change what is the host's own: the world stays. -/
  | keep (f : σ → σ) (k : Chore D σ α)
  | order (o : Order D) (k : Chore D σ α)

namespace Chore

variable {D : Dialect} {σ α β : Type}

/-- A chore followed by another. -/
def bind : Chore D σ α → (α → Chore D σ β) → Chore D σ β
  | done a, f => f a
  | look k, f => look fun s => (k s).bind f
  | keep g k, f => keep g (k.bind f)
  | order o k, f => order o (k.bind f)

instance : Monad (Chore D σ) where
  pure := done
  bind := bind

/-- Nothing follows a chore that is followed by its own result. -/
theorem bind_done (c : Chore D σ α) : c.bind done = c := by
  induction c with
  | done a => rfl
  | look k ih => exact congrArg look (funext ih)
  | keep f k ih => exact congrArg (keep f) ih
  | order o k ih => exact congrArg (order o) ih

/-- The state. -/
def state : Chore D σ σ :=
  look done

/-- Change what is the host's own. -/
def change (f : σ → σ) : Chore D σ Unit :=
  keep f (done ())

/-- Report a notice. -/
def report (n : Notice) : Chore D σ Unit :=
  order (.code (.report n)) (done ())

/-- Report notices, one after another. -/
def reportAll : List Notice → Chore D σ Unit
  | [] => done ()
  | n :: rest => order (.code (.report n)) (reportAll rest)

/-- Emit an event. -/
def emit (event : Event) : Chore D σ Unit :=
  order (.code (.act (.emit event) fun _ => .ret ())) (done ())

/-- End an instance. -/
def terminate (i : Nat) : Chore D σ Unit :=
  order (.terminate i) (done ())

/-- Set the shutdown channel. -/
def setShutdown (channel : Option (Watch Bool)) : Chore D σ Unit :=
  order (.setShutdown channel) (done ())

section World

variable [HasWorld D σ]

open HasWorld

/-- Bring an instance into being and run its top-level code; its place. -/
def spawn (id : ScriptId) (path : Path) (code : Nat → EntryCode D) : Chore D σ Nat :=
  look fun s => order (.spawn id path code) (done (world s).instances.length)

/-- Take the deferred requests out of their queue. -/
def takeRequests : Chore D σ (List Request) :=
  look fun s => order .dropRequests (done (world s).requests)

/-- Do a chore in one go. -/
def run (I : Interpreter D) : Chore D σ α → σ → Option (α × σ)
  | done a, s => some (a, s)
  | look k, s => (k s).run I s
  | keep f k, s => k.run I (setWorld (world s) (f s))
  | order o k, s => ((world s).obey I o).bind fun w => k.run I (setWorld w s)

end World

/-- A chore on a part of a larger state. -/
def onPart {τ : Type} (part : τ → σ) (setPart : σ → τ → τ) : Chore D σ α → Chore D τ α
  | done a => done a
  | look k => look fun t => (k (part t)).onPart part setPart
  | keep f k => keep (fun t => setPart (f (part t)) t) (k.onPart part setPart)
  | order o k => order o (k.onPart part setPart)

end Chore

end ScriptHost
