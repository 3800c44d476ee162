import ScriptHost.Session.Basic

/-!
# The emulation loop

The loop starts every script, then runs frames — a frame begins, the frame
advances, one cycle of housekeeping — and in the end stops every script.  It
ends when it has run as many frames as it was to run, or when it hears that it is
to shut down.

Before each frame it waits for one of two things: the next tick of its clock, or
a message on the shutdown channel.  Which it takes when both are there is not
its to say: that, the time, and what others do with the channel meanwhile make
up the **turn**.

A clock that is to tick without any time in between does not start.  By then the
scripts have started, and nobody stops them.
-/

namespace ScriptHost

/-- How the emulation is to run. -/
structure EmulationOptions where
  /-- How many frames there are to be; as many as there is time for, if it is not said. -/
  frames : Option Nat
  /-- The time between two frames, in milliseconds. -/
  interval : Nat
deriving DecidableEq, Repr

/-- How the emulation came out. -/
inductive EmulationResult where
  /-- So many frames were run. -/
  | ran (frames : Nat)
  /-- The turns did not suffice. -/
  | unfinished
  /-- The clock did not start. -/
  | noClock
deriving DecidableEq, Repr

/-- What others do with the shutdown channel. -/
inductive ShutdownMessage where
  | send (value : Bool)
  | hangUp
deriving DecidableEq, Repr

/-- What comes to the loop before a frame. -/
structure Turn where
  moment : Moment
  messages : List ShutdownMessage
  /-- Whether a message is taken before the tick if there is one. -/
  messageFirst : Bool

namespace Session

variable {D : Dialect}

/-- Change the shutdown channel. -/
def modifyShutdown (f : Watch Bool → Watch Bool) : Chore D (Session D) Unit := do
  let s ← .state
  .setShutdown (s.host.world.shutdown.map f)

/-- What others do with the channel takes effect. -/
def deliverMessages : List ShutdownMessage → Chore D (Session D) Unit
  | [] => return ()
  | m :: rest => do
    match m with
    | .send value => modifyShutdown (·.send value)
    | .hangUp => modifyShutdown .hangUp
    deliverMessages rest

/-- What the loop hears on the shutdown channel: nothing, or whether it is to
shut down.  A channel without a sender says so for good. -/
def heard (s : Session D) : Option Bool :=
  match s.host.world.shutdown with
  | none => none
  | some w => if w.unseen then some w.value else if w.hasSender then none else some true

/-- Report on the cycle after a frame, if something failed or was reloaded in it. -/
def reportCycle (frame : Nat) (r : CycleReport) : Chore D (Session D) Unit :=
  if 0 < r.failed || 0 < r.reloaded then report (.frameReport frame r) else return ()

/-- One frame and the cycle after it. -/
def runFrame (files : Files) (frame : Nat) (t : Moment) : Chore D (Session D) Unit := do
  .emit .frameBegin
  .emit .frameAdvance
  reportCycle frame (← runCycle files t)

/-- The frames of the loop, at most `fuel` turns of them, with the files as they are
at each turn; how many frames were run in all, unless the turns did not suffice. -/
def frames (files : Nat → Files) (limit : Option Nat) (turns : Nat → Turn) :
    Nat → Nat → Nat → Chore D (Session D) (Option Nat)
  | 0, _, _ => return none
  | fuel + 1, k, frame => do
    if limit.any (· ≤ frame) then return some frame
    let turn := turns k
    deliverMessages turn.messages
    let s ← .state
    match turn.messageFirst, s.heard with
    | true, some true =>
      modifyShutdown .see
      report (.shutdownRequested frame)
      return some frame
    | true, some false =>
      modifyShutdown .see
      frames files limit turns fuel (k + 1) frame
    | _, _ =>
      runFrame (files k) (frame + 1) turn.moment
      frames files limit turns fuel (k + 1) (frame + 1)

/-- Report what kept scripts from starting. -/
def reportStart : Except RegistryError Unit → Chore D (Session D) Unit
  | .ok () => return ()
  | .error e => report (.startFailed e)

/-- The emulation opens, with a shutdown channel: every enabled script starts.  A
failure is reported and does not keep the loop from running. -/
def openEmulation (channel : Watch Bool) : Chore D (Session D) Unit := do
  .setShutdown (some channel)
  reportStart (← beginEmulation)

/-- The emulation closes: every script stops. -/
def closeEmulation : Chore D (Session D) Unit := do
  endEmulation
  .setShutdown none

/-- Run the emulation, for at most so many turns. -/
def emulate (o : EmulationOptions) (channel : Watch Bool) (files : Nat → Files)
    (turns : Nat → Turn) (fuel : Nat) : Chore D (Session D) EmulationResult := do
  openEmulation channel
  if o.interval = 0 then return .noClock
  match ← frames files o.frames turns fuel 0 0 with
  | some n =>
    closeEmulation
    return .ran n
  | none => return .unfinished

/-- Turns at a steady pace: every message is taken at once, and nobody else uses
the channel. -/
def steadyTurns (interval : Nat) (k : Nat) : Turn :=
  let t : Int := k * interval
  { moment := ⟨t, t⟩, messages := [], messageFirst := true }

end Session

end ScriptHost
