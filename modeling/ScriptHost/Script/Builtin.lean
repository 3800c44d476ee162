import ScriptHost.Script.Play

/-!
# The scripts built into the host

Three scripts ship with the host.  An empty file of the right name in the script
directory is enough to run one.

* `_frame_counter` waits for every frame and reports each sixtieth;
* `_event_logger` reports every event it is called for;
* `_tick_watch` counts timer ticks and reports the count when a script ends.
-/

namespace ScriptHost

namespace Builtin

/-- The name of the frame counter. -/
def frameCounterName : String :=
  "_frame_counter"

/-- The name of the event logger. -/
def eventLoggerName : String :=
  "_event_logger"

/-- The name of the tick watch. -/
def tickWatchName : String :=
  "_tick_watch"

/-- Frames between two reports of the frame counter. -/
def reportEvery : Nat :=
  60

/-- A run of the frame counter.  The first run only starts the count; each later
one counts a frame.  The host counts in 64 bits, so this is its counter for fewer than
2^64 frames. -/
def countFrame (id : ScriptId) (frames : Option Nat) :
    Code Repertoire (Except ScriptError (Yield Repertoire)) := do
  let n := frames.elim 0 (· + 1)
  if frames.isSome && n % reportEvery = 0 then
    Code.report (.builtin (.framesReached id n))
  pure (.ok (.await (.ofKind .frameAdvance) (.frameCounter id (some n))))

/-- The number of the script an end event is about. -/
def endedScript (args : Args) : Int64 :=
  ((args[0]?).bind Arg.asInt?).getD 0

/-- Register callbacks one after another; the first refusal ends it. -/
def registerAll (i : Nat) : List (EventKind × Responder) → EntryCode Repertoire
  | [] => pure (.ok none)
  | (kind, c) :: rest => do
    match ← Code.perform (.setCallback i kind (some c)) with
    | .failed e => pure (.error e)
    | _ => registerAll i rest

/-- Top-level code of the frame counter. -/
def frameCounter : EntryPoint Repertoire := fun _ id _ =>
  pure (.ok (some (.frameCounter id none)))

/-- Top-level code of the event logger. -/
def eventLogger : EntryPoint Repertoire := fun i id _ =>
  registerAll i (EventKind.all.map fun kind => (kind, .eventLogger id kind))

/-- Top-level code of the tick watch. -/
def tickWatch : EntryPoint Repertoire := fun i id _ => do
  let cell ← newCell
  registerAll i [(.timerTick, .tickCounter cell), (.scriptEnd, .endReporter id cell)]

/-- The built-in scripts and their names. -/
def scripts : List (String × EntryPoint Repertoire) :=
  [(frameCounterName, frameCounter), (eventLoggerName, eventLogger), (tickWatchName, tickWatch)]

/-- The engine that knows the built-in scripts. -/
def engine : Engine Repertoire :=
  scripts.foldl (fun e p => e.register p.1 p.2) .empty

end Builtin

/-- The interpreter of the repertoire. -/
def repertoire : Interpreter Repertoire where
  resume
    | .player p, args => p.resume args
    | .frameCounter id frames, _ => Builtin.countFrame id frames
  callable
    | .player p => p.routine.callable
    | _ => true
  call
    | .player p, args => p.call args
    | .eventLogger id kind, args => do
      Code.report (.builtin (.eventSeen id kind args))
      pure (.ok .done)
    | .tickCounter cell, _ => do
      let _ ← countIn cell
      pure (.ok .done)
    | .endReporter id cell, args => do
      let m ← Code.memory
      Code.report (.builtin (.scriptEnded id (Builtin.endedScript args) (m.count cell)))
      pure (.ok .done)
  handle o event := o.handle event
  patience := 1000000000000

/-- Register playbooks with an engine; each registration is reported. -/
def Engine.registerPlaybooks (e : Engine Repertoire) (bs : List Playbook) : Engine Repertoire :=
  bs.foldl (fun e b => e.register b.name b.entryPoint) e

end ScriptHost
