import ScriptHost.Script.Engine
import ScriptHost.Stage.Step

/-!
# What the host does with the machine

The host starts an activity and waits until everything it set off is over.
It waits no longer than the interpreter's patience; a run it had to give up has
no result, so every operation here answers with an `Option`.
-/

namespace ScriptHost

namespace World

variable {D : Dialect} (I : Interpreter D)

/-- Wait until these activities, and whatever they start, are over. -/
def await (w : World D) (activities : List (Frame D)) : Option (World D) :=
  Config.run I I.patience ⟨w, activities⟩

/-- Emit an event: every listener registered for its kind is called in turn. -/
def emit (w : World D) (event : Event) : Option (World D) :=
  let (w, emission) := w.beginEmission event
  w.await I [emission]

/-- Emit an event several times in a row. -/
def emitTimes (w : World D) (event : Event) : Nat → Option (World D)
  | 0 => some w
  | n + 1 => (w.emit I event).bind fun w => w.emitTimes event n

/-- The number of coroutines that the pass which ended last has resumed. -/
def lastPass (w : World D) : Nat :=
  match w.journal with
  | .passEnded _ _ n :: _ => n
  | _ => 0

/-- Resume the coroutines that wait at a desk for a kind; how many were
resumed. -/
def notify (w : World D) (desk : Desk) (kind : EventKind) (args : Args) (pulse : Pulse D) :
    Option (Nat × World D) :=
  let (w, pass) := w.beginPass desk kind args pulse
  (w.await I [pass]).map fun w => (w.lastPass, w)

/-- Bring a script instance into being and run its top-level code; its place. -/
def spawn (w : World D) (engine : Engine D) (id : ScriptId) (path : Path) (detached : Bool) :
    Option (Nat × World D) :=
  let i := w.instances.length
  let w := w.beginLife id path detached
  (w.await I [.entry i (engine.entry path id i), .settle i]).map fun w => (i, w)

/-- End a script instance: its end is announced, then it leaves the hub and
drops what it was subscribed to. -/
def terminate (w : World D) (i : Nat) : Option (World D) :=
  let (w, frames) := w.beginEnding i
  w.await I frames

/-- End the instance held under a name, as script code can; whether there was
one. -/
def terminateHeld (w : World D) (name : String) : Option (Bool × World D) :=
  let (answer, w, frames) := w.act I (.terminate name)
  (w.await I frames).map fun w => (answer ≠ .absent, w)

end World

/-- Run code on behalf of the host itself: each act is complete before the code
goes on. -/
def Code.run {D : Dialect} (I : Interpreter D) {α : Type} :
    Code D α → World D → Option (α × World D)
  | .ret a, w => some (a, w)
  | .read k, w => (k w.memory).run I w
  | .write m k, w => k.run I { w with memory := m }
  | .remark r k, w => k.run I (w.record (.remark r))
  | .log n k, w => k.run I (w.log n)
  | .act a k, w =>
    let (answer, w, started) := w.act I a
    (w.await I started).bind fun w => (k answer).run I w

end ScriptHost
