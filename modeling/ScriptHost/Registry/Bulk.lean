import ScriptHost.Registry.Entries

/-!
# Operations on all entries

Starting, stopping and restarting everything, and working off the deferred
requests.  Every entry is attempted; where several fail, each failure is
reported and the first is the result.
-/

namespace ScriptHost.Host

variable {D : Dialect}

/-- Attempt an operation on each of some entries; the first failure is the
result. -/
def attemptAll (op : Nat → Chore D (Host D) (Except RegistryError Unit)) :
    List Nat → Chore D (Host D) (Except RegistryError Unit)
  | [] => return .ok ()
  | i :: rest => do
    match ← op i with
    | .ok () => attemptAll op rest
    | .error e =>
      report (.failed e)
      let _ ← attemptAll op rest
      return .error e

/-- Restart every entry that has an instance. -/
def restartAll : Chore D (Host D) (Except RegistryError Unit) := do
  let h ← .state
  let live := h.registry.livePositions
  report (.restartingAll live.length)
  attemptAll restartAt live

/-- Start the registry: every enabled entry without an instance gets one. -/
def startAll : Chore D (Host D) (Except RegistryError Unit) := do
  modifyRegistry fun r => { r with started := true }
  let h ← .state
  let pending := h.registry.positions fun e => e.enabled && e.live.isNone
  report (.startingAll pending.length)
  attemptAll instantiate pending

/-- End the instances of entries one after another. -/
def destroyAll : List Nat → Chore D (Host D) Unit
  | [] => return ()
  | i :: rest => do
    destroy i
    destroyAll rest

/-- Stop the registry: every instance ends, and the flags stay. -/
def stopAll : Chore D (Host D) Unit := do
  modifyRegistry fun r => { r with started := false }
  let h ← .state
  let live := h.registry.liveCount
  if 0 < live then report (.stoppingAll live)
  destroyAll (List.range h.registry.entries.length)

/-- Do what one deferred request asks for. -/
def applyRequest (r : Request) : Chore D (Host D) (Except RegistryError Unit) := do
  let h ← .state
  match r.kind, h.registry.position? r.path with
  | .start, some i => setEnabledAt i true
  | .start, none =>
    let added ← add r.path true
    return added.map fun _ => ()
  | .stop, some i => setEnabledAt i false
  | .stop, none =>
    report (.ignoredStop r.path)
    return .ok ()

/-- Do what deferred requests ask for, in order; the failures. -/
def applyRequests : List Request → Chore D (Host D) (List RegistryError)
  | [] => return []
  | r :: rest => do
    match ← applyRequest r with
    | .ok () => applyRequests rest
    | .error e =>
      report (.requestFailed e)
      return e :: (← applyRequests rest)

/-- Work off the requests queued so far.  What scripts request meanwhile waits
for the next time. -/
def processRequests : Chore D (Host D) (List RegistryError) := do
  applyRequests (← .takeRequests)

end ScriptHost.Host
