import ScriptHost.Script.Engine
import ScriptHost.Script.Repertoire

/-!
# Playing a playbook

Moves and routines as script code.  Each routine that is made into a coroutine
or a callback gets a cell of its own and starts with its first body.  Moves that
need a script or a scheduler are passed over where there is none.
-/

namespace ScriptHost

/-- Playbooks emit inside each other at most this deep. -/
def maxDepth : Nat :=
  6

/-- Make a routine into something that can run, acting for a desk. -/
def Routine.engage (r : Routine) (desk : Option Desk) : Code Repertoire Player := do
  let cell ← newCell
  pure ⟨cell, r, desk⟩

/-- Do an act and leave its answer on record. -/
def showAnswer (name : String) (a : Act Repertoire) : Code Repertoire Unit := do
  let answer ← Code.perform a
  Code.say (.move name answer)

/-- Do an act whose answer is nobody's business. -/
def silently (a : Act Repertoire) : Code Repertoire Unit := do
  let _ ← Code.perform a

namespace Move

/-- Emit an event, unless too many emissions are under way already. -/
def emitCode (event : Event) : Code Repertoire Unit := do
  let m ← Code.memory
  if maxDepth ≤ m.depth then
    Code.say .tooDeep
  else
    Code.modifyMemory fun m => { m with depth := m.depth + 1 }
    silently (.emit event)
    Code.modifyMemory fun m => { m with depth := m.depth - 1 }

/-- The callback a move sets. -/
def engageCallback (desk : Desk) : Option Routine → Code Repertoire (Option Responder)
  | none => pure none
  | some r => do
    let p ← r.engage (some desk)
    pure (some (.player p))

/-- A move that anyone can make. -/
def freeCode : Move → Code Repertoire Unit
  | say text => Code.say (.say text)
  | emit event => emitCode event
  | listen kind label moves => showAnswer "listen" (.listen kind ⟨label, moves⟩)
  | unlisten id => showAnswer "unlisten" (.unlisten ⟨id⟩)
  | terminate name => showAnswer "terminate" (.terminate name)
  | shutdown value => silently (.shutdown value)
  | _ => pure ()

/-- A move that needs a desk to make it at. -/
def deskCode (desk : Desk) : Move → Code Repertoire Unit
  | await kind routine => do
    let p ← routine.engage (some desk)
    silently (.awaitNext desk kind (.player p))
  | schedule event tag routine => do
    let p ← routine.engage (some desk)
    let request : AwaitRequest := ⟨tag.getD AwaitRequest.wellFormedTag, event⟩
    showAnswer "schedule" (.schedule desk request (.player p))
  | spawn routine => do
    let p ← routine.engage (some desk)
    silently (.spawn desk (.player p))
  | count kind => showAnswer "count" (.awaiting desk kind)
  | move => move.freeCode

/-- A move of a script. -/
def scriptCode (i : Nat) : Move → Code Repertoire Unit
  | on event callback => do
    let c ← engageCallback (.script i) callback
    showAnswer "on" (.on i event c)
  | setCallback kind callback => do
    let c ← engageCallback (.script i) callback
    showAnswer "set_callback" (.setCallback i kind c)
  | clearCallbacks => silently (.clearCallbacks i)
  | reset => silently (.reset i)
  | stopSelf => silently (.requestStopSelf i)
  | requestStart path => silently (.request i .start path)
  | requestStop path => silently (.request i .stop path)
  | whoami => showAnswer "whoami" (.identity i)
  | move => move.deskCode (.script i)

/-- A move made for a desk, or for none. -/
def code (desk : Option Desk) (move : Move) : Code Repertoire Unit :=
  match desk with
  | none => move.freeCode
  | some (.bench n) => move.deskCode (.bench n)
  | some (.script i) => move.scriptCode i

/-- Moves one after another. -/
def sequence (desk : Option Desk) : List Move → Code Repertoire Unit
  | [] => pure ()
  | move :: rest => do
    move.code desk
    sequence desk rest

end Move

namespace Player

/-- Run a routine: leave on record that it runs, make the moves of the body
whose turn it is, and come to its reply. -/
def play (p : Player) (remark : Remark) : Code Repertoire Reply := do
  let n ← countIn p.cell
  Code.say remark
  let ⟨moves, reply⟩ := p.routine.body n
  Move.sequence p.desk moves
  pure reply

/-- Run a routine as a coroutine. -/
def resume (p : Player) (args : Args) :
    Code Repertoire (Except ScriptError (Yield Repertoire)) := do
  match ← p.play (.coroutine p.routine.label args) with
  | .plain | .spawn _ => pure (.ok .finished)
  | .fail e => pure (.error e)
  | .await kind => pure (.ok (.await (.ofKind kind) (.player p)))
  | .awaitNamed event tag =>
    pure (.ok (.await ⟨tag.getD AwaitRequest.wellFormedTag, event⟩ (.player p)))

/-- Run a routine as a callback. -/
def call (p : Player) (args : Args) :
    Code Repertoire (Except ScriptError (Outcome Repertoire)) := do
  match ← p.play (.callback p.routine.label args) with
  | .plain | .await _ | .awaitNamed _ _ => pure (.ok .done)
  | .fail e => pure (.error e)
  | .spawn routine => do
    let q ← routine.engage p.desk
    pure (.ok (.spawn (.player q)))

end Player

/-- Call a handler of the host's own. -/
def Onlooker.handle (o : Onlooker) (event : Event) : Code Repertoire Unit := do
  Code.say (.host o.label event.kind)
  Move.sequence none o.moves

/-- The top-level code of a playbook. -/
def Playbook.entryPoint (b : Playbook) : EntryPoint Repertoire := fun i id path => do
  Code.say (.entry b.name id path)
  Move.sequence (some (.script i)) b.entry
  match b.failure, b.main with
  | some e, _ => pure (.error e)
  | none, none => pure (.ok none)
  | none, some routine => do
    let p ← routine.engage (some (.script i))
    pure (.ok (some (.player p)))

end ScriptHost
