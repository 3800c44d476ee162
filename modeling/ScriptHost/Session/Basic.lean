import ScriptHost.Registry.Discovery

/-!
# Sessions

A session is one run of the host: it owns a registry, ticks at the interval of
its settings, watches the script directory, and restarts every script when it is
signalled to reload.

Between two steps of the emulation it does its housekeeping in a **cycle**: the
deferred requests first, then a timer tick if one is due, then a requested
reload, then what changed on disk.
-/

namespace ScriptHost

/-- One run of the host. -/
structure Session (D : Dialect) where
  host : Host D
  settings : ScriptSettings
  /-- The time of the last timer tick. -/
  lastTick : Option Int
  /-- The watch over the script directory, where scripts are reloaded. -/
  scanner : Option Scanner
  /-- When the directory was scanned last, by the wall clock. -/
  lastScan : Int
  /-- The channel of reload requests; its value says whether the last message was
  one. -/
  reload : Option (Watch Bool)

/-- The time of a cycle, in milliseconds: what its caller says, and what the
wall clock shows. -/
structure Moment where
  now : Int
  clock : Int

namespace Session

variable {D : Dialect}

instance : HasWorld D (Session D) where
  world s := s.host.world
  setWorld w s := { s with host := { s.host with world := w } }
  world_setWorld _ _ := rfl
  setWorld_world _ := rfl

/-- Set up a session in a world. -/
def new (world : World D) (engine : Engine D) (settings : ScriptSettings)
    (reload : Option (Watch Bool)) (files : Files) (around : Surroundings) : Session D :=
  let host := Host.new world engine settings.concurrent
  if settings.enabled && settings.hotReload then
    let (scanner, notices) := Scanner.ofSettings files settings around
    let world := notices.foldl (fun w n => w.log (.scan n)) host.world
    { host := { host with world }, settings, lastTick := none, scanner := some scanner,
      lastScan := 0, reload }
  else { host, settings, lastTick := none, scanner := none, lastScan := 0, reload }

/-- Report a notice. -/
def report (n : SessionNotice) : Chore D (Session D) Unit :=
  .report (.session n)

/-- Do something with the registry. -/
def withHost {α : Type} (c : Chore D (Host D) α) : Chore D (Session D) α :=
  c.onPart Session.host fun host s => { s with host }

/-- Register every autorun script; how many were new. -/
def loadScripts (files : Files) (around : Surroundings) :
    Chore D (Session D) (Except RegistryError Nat) := do
  let s ← .state
  if s.settings.enabled then
    let dir := s.settings.directory around
    report (.loadingFrom dir)
    withHost (Host.discover files dir s.settings)
  else
    report .scriptingDisabled
    return .ok 0

/-- The emulation starts: so does every enabled script. -/
def beginEmulation : Chore D (Session D) (Except RegistryError Unit) := do
  report .emulationStarted
  withHost Host.startAll

/-- The emulation stops: so does every script. -/
def endEmulation : Chore D (Session D) Unit := do
  report .emulationStopped
  withHost Host.stopAll

/-! ## The phases of a cycle -/

/-- Whether a tick is due: none was made yet, or the interval has passed.  Time
that runs backwards counts as no time. -/
def tickDue (s : Session D) (now : Int) : Bool :=
  match s.lastTick with
  | none => true
  | some last => s.settings.tickInterval ≤ (now - last).toNat

/-- Emit a timer tick if one is due; whether one was. -/
def tick (now : Int) : Chore D (Session D) Bool := do
  let s ← .state
  if s.tickDue now then
    .change fun s => { s with lastTick := some now }
    .emit .timerTick
    return true
  else return false

/-- Take a reload request off its channel; whether there was one. -/
def takeReload : Chore D (Session D) Bool := do
  let s ← .state
  match s.reload with
  | some w =>
    if w.hasChanged then
      .change fun s => { s with reload := some w.see }
      return w.value
    else return false
  | none => return false

/-- Restart every live script if a reload was requested; how many were live. -/
def reloadOnSignal : Chore D (Session D) Nat := do
  if ← takeReload then
    let s ← .state
    let live := s.host.registry.liveCount
    match ← withHost Host.restartAll with
    | .ok () => return live
    | .error e =>
      report (.restartFailed e)
      return live
  else return 0

/-- Restart the registered scripts whose files changed; how many were. -/
def restartChanged : List Path → Chore D (Session D) Nat
  | [] => return 0
  | p :: rest => do
    let s ← .state
    if s.host.registry.contains p then
      report (.changedOnDisk p)
      match ← withHost (Host.restart (.path p)) with
      | .ok () => return (← restartChanged rest) + 1
      | .error e =>
        report (.reloadFailed p e)
        restartChanged rest
    else restartChanged rest

/-- Remove the registered scripts whose files are gone; how many were. -/
def removeMissing : List Path → Chore D (Session D) Nat
  | [] => return 0
  | p :: rest => do
    let s ← .state
    if s.host.registry.contains p then
      report (.removedFromDisk p)
      match ← withHost (Host.remove (.path p)) with
      | .ok _ => return (← removeMissing rest) + 1
      | .error _ => removeMissing rest
    else removeMissing rest

/-- Register the autorun scripts whose files are new; how many were. -/
def addFound : List Path → Chore D (Session D) Nat
  | [] => return 0
  | p :: rest => do
    let s ← .state
    if s.settings.isAutorun p && !s.host.registry.contains p then
      match ← withHost (Host.add p (s.settings.pathEnabled p)) with
      | .ok _ => return (← addFound rest) + 1
      | .error e =>
        report (.addFailed p e)
        addFound rest
    else addFound rest

/-- Bring the registry in step with what changed on disk; how many scripts were
restarted, removed or added.  The lists may come in any order: scripts that are new to the
registry are appended in the order of the list, and nothing else depends on it. -/
def applyChanges (changes : ScanResult) : Chore D (Session D) Nat := do
  let changed ← restartChanged (changes.changed.map Prod.fst)
  let removed ← removeMissing changes.removed
  let added ← addFound changes.added
  return changed + removed + added

/-- Scan the directory if it is time to, and apply what changed. -/
def reloadFromDisk (files : Files) (clock : Int) : Chore D (Session D) Nat := do
  let s ← .state
  match s.scanner with
  | none => return 0
  | some scanner =>
    if scanner.isDue (clock - s.lastScan).toNat then
      let (changes, scanner, notices) := scanner.scan files
      .reportAll (notices.map .scan)
      .change fun s => { s with scanner := some scanner, lastScan := clock }
      applyChanges changes
    else return 0

/-- The housekeeping between two steps of the emulation. -/
def runCycle (files : Files) (t : Moment) : Chore D (Session D) CycleReport := do
  let failures ← withHost Host.processRequests
  let ticked ← tick t.now
  let restarted ← reloadOnSignal
  let changed ← reloadFromDisk files t.clock
  return { failed := failures.length, ticked, reloaded := restarted + changed }

/-! ## The reload channel -/

/-- Put something on the reload channel. -/
def sendReload (request : Bool) : Chore D (Session D) Unit :=
  .change fun s => { s with reload := s.reload.map (·.send request) }

/-- The sender of reload requests goes away. -/
def closeReload : Chore D (Session D) Unit :=
  .change fun s => { s with reload := s.reload.map Watch.hangUp }

/-- The user asks for a reload from outside. -/
def requestReload : Chore D (Session D) Unit := do
  report .reloadRequested
  sendReload true

end Session

end ScriptHost
