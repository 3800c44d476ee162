import ScriptHost.Console.Basic
import ScriptHost.Session.Setup

/-!
# Carrying out commands
-/

namespace ScriptHost.Console

/-- The interpreter of a console. -/
abbrev I : Interpreter Repertoire :=
  repertoire

/-- A console after a command, and its reply. -/
abbrev Executed : Type :=
  Option (Reply × Console)

/-- The world before the console. -/
def world (c : Console) : World Repertoire :=
  c.keeper.world

/-- Replace the world. -/
def setWorld (c : Console) (w : World Repertoire) : Console :=
  { c with keeper := c.keeper.setWorld w }

/-- Reply without doing anything. -/
def reply (c : Console) (r : Reply) : Executed :=
  some (r, c)

/-- Change the world. -/
def onWorld (c : Console) (r : Option (World Repertoire)) (reply : Reply) : Executed :=
  r.map fun w => (reply, c.setWorld w)

/-- Do something with the registry, if there is one. -/
def onHost {α : Type} (c : Console) (f : α → Reply) (op : Chore Repertoire (Host Repertoire) α) :
    Executed :=
  match c.keeper.host? with
  | some h => (op.run I h).map fun (a, h) => (f a, { c with keeper := c.keeper.setHost h })
  | none => c.reply .nothing

/-- Do something with the session, if there is one. -/
def onSession {α : Type} (c : Console) (f : α → Reply)
    (op : Chore Repertoire (Session Repertoire) α) : Executed :=
  match c.keeper.session? with
  | some s => (op.run I s).map fun (a, s) => (f a, { c with keeper := .session s })
  | none => c.reply .nothing

/-- A registry result as a reply. -/
def replyOf {α : Type} (f : α → Reply) : Except RegistryError α → Reply
  | .ok a => f a
  | .error e => .registryError e

/-- A status as a reply. -/
def replyOfStatus (h : Host Repertoire) (s : Selector) : Reply :=
  match h.registry.resolve s with
  | .error e => .registryError e
  | .ok i =>
    match h.status? i with
    | some status => .status status
    | none => .nothing

/-- The place of the live instance a selector names. -/
def livePlace? (c : Console) (s : Selector) : Option Nat :=
  c.keeper.host?.bind fun h =>
    match h.registry.resolve s with
    | .ok i => h.registry.live? i
    | .error _ => none

/-- The place of the instance whose context is meant. -/
def contextPlace? (c : Console) : ContextOf → Option Nat
  | .entry s => c.livePlace? s
  | .held name => c.world.held.lookup name

/-- Keep a context under a name. -/
def keepContext (c : Console) (name : String) (i : Nat) : Console :=
  { c with contexts := c.contexts.filter (fun p => p.1 ≠ name) ++ [(name, i)] }

/-- End the instance at a place, if there is one. -/
def endAt (w : World Repertoire) : Option Nat → Option (World Repertoire)
  | some i => w.terminate I i
  | none => some w

/-- Create an instance outside the registry and hold it under a name; the one it
replaces ends. -/
def spawnHeld (w : World Repertoire) (engine : Engine Repertoire) (name : String) (path : Path)
    (id : ScriptId) : Option (World Repertoire) :=
  (w.spawn I engine id path true).bind fun (i, w) =>
    let replaced := w.held.lookup name
    endAt (w.hold name i) replaced

/-- Let go of the instance held under a name; it ends.  Whether there was one. -/
def dropHeld (w : World Repertoire) (name : String) : Option (Bool × World Repertoire) :=
  let held := w.held.lookup name
  (endAt (w.takeHeld name) held).map fun w => (held.isSome, w)

/-- Drop the registry or the session: every script it runs ends. -/
def dropAll (c : Console) : Executed :=
  match c.keeper.host? with
  | some h =>
    (Host.stopAll.run I h).map fun (_, h) => (.nothing, { c with keeper := .nobody h.world })
  | none => c.reply .nothing

/-- The texts the console shows. -/
def debugTexts (c : Console) : DebugTexts :=
  let texts (f : Instance Repertoire → String) (ps : List (String × Nat)) :=
    ps.filterMap fun (name, i) => (c.world.instance? i).map fun x => (name, f x)
  { hub := c.world.hub.describe
    registry := c.keeper.host?.map fun h => h.registry.describe
    contexts := texts Instance.describeContext c.contexts
    loose := texts Instance.describe c.world.held }

/-- Carry out a command. -/
def execute (c : Console) : Command → Executed
  | .emit event times => c.onWorld (c.world.emitTimes I event times) .nothing
  | .listen kind label moves =>
    let (id, w) := c.world.enlist kind (.host ⟨label, moves⟩)
    c.onWorld (some w) (.listener id)
  | .unlisten id =>
    match c.world.unlisten ⟨id⟩ with
    | .ok w => c.onWorld (some w) .ok
    | .error e => c.reply (.eventError e)
  | .counts => c.reply (.counts c.world.hub)
  | .add path enabled => c.onHost (replyOf .number) (Host.add path enabled)
  | .setEnabled s value => c.onHost (replyOf fun _ => .ok) (Host.setEnabled s value)
  | .restart s => c.onHost (replyOf fun _ => .ok) (Host.restart s)
  | .restartAll => c.onHost (replyOf fun _ => .ok) Host.restartAll
  | .remove s => c.onHost (replyOf .path) (Host.remove s)
  | .startAll => c.onHost (replyOf fun _ => .ok) Host.startAll
  | .stopAll => c.onHost (fun _ => .nothing) Host.stopAll
  | .status s => c.onHost (replyOfStatus · s) .state
  | .contains path => c.onHost (fun h => .flag (h.registry.contains path)) .state
  | .script s => c.reply (.script ((c.livePlace? s).bind c.world.instance?))
  | .requestStart path => c.onWorld (some (c.world.pushRequest .start path)) .nothing
  | .requestStop path => c.onWorld (some (c.world.pushRequest .stop path)) .nothing
  | .process => c.onHost .failures Host.processRequests
  | .discover dir => c.onHost (replyOf .number) (Host.discover c.files dir c.settings)
  | .addBuiltin dir names => c.onHost (replyOf .number) (Host.addNamed dir names)
  | .keepContext of as =>
    match c.contextPlace? of with
    | some i => (c.keepContext as i).reply (.flag true)
    | none => c.reply (.flag false)
  | .act as moves =>
    match c.contexts.lookup as with
    | some i =>
      ((Move.sequence (some (.script i)) moves).run I c.world).map fun (_, w) =>
        (.ok, c.setWorld w)
    | none => c.reply .absent
  | .spawn as path id => c.onWorld (spawnHeld c.world c.engine as path id) .nothing
  | .terminate as =>
    (c.world.terminateHeld I as).map fun (there, w) =>
      (if there then .ok else .absent, c.setWorld w)
  | .drop as => (dropHeld c.world as).map fun (there, w) => (.flag there, c.setWorld w)
  | .edit edits => some (.nothing, { c with files := c.files.editAll edits })
  | .loadScripts => c.onSession (replyOf .number) (Session.loadScripts c.files c.around)
  | .beginEmulation => c.onSession (replyOf fun _ => .ok) Session.beginEmulation
  | .endEmulation => c.onSession (fun _ => .nothing) Session.endEmulation
  | .cycle now => c.onSession .cycle (Session.runCycle c.files ⟨now, 0⟩)
  | .reload .restart => c.onSession (fun _ => .nothing) (Session.sendReload true)
  | .reload .nothing => c.onSession (fun _ => .nothing) (Session.sendReload false)
  | .reload .hangUp => c.onSession (fun _ => .nothing) Session.closeReload
  | .requestReload => c.onSession (fun _ => .flag true) Session.requestReload
  | .emulate frames interval =>
    match c.keeper.session? with
    | some s =>
      let turns := Session.steadyTurns interval
      let op := Session.emulate ⟨frames, interval⟩ (.new false) (fun _ => c.files) turns I.patience
      (op.run I s).bind fun (result, s) =>
        match result with
        | .ran n => some (.frames n, { c with keeper := .session s })
        | .unfinished | .noClock => none
    | none => c.reply .nothing
  | .debug => c.reply (.debug c.debugTexts)
  | .dropAll => c.dropAll

/-- Register scripts with an engine: the built-in ones if wanted, then playbooks.
Each registration is reported. -/
def engineOf (builtin : Bool) (playbooks : List Playbook) (w : World Repertoire) :
    Engine Repertoire × World Repertoire :=
  let known := if builtin then Builtin.scripts else []
  (known ++ playbooks.map fun b => (b.name, b.entryPoint)).foldl
    (fun (e, w) (name, entry) =>
      (e.register name entry, w.log (.script (.entryPointRegistered name))))
    (.empty, w)

/-- Set up a console with a registry. -/
def withRegistry (builtin : Bool) (playbooks : List Playbook) (settings : ScriptSettings)
    (files : Files) (around : Surroundings) : Console :=
  let (engine, w) := engineOf builtin playbooks (.new .empty)
  { keeper := .registry (Host.new w engine settings.concurrent), engine, settings, files, around,
    contexts := [] }

/-- Set up a console with a session; without an engine there is none. -/
def withSession (withEngine builtin : Bool) (playbooks : List Playbook)
    (settings : Option ScriptSettings) (reload : Option (Watch Bool)) (files : Files)
    (around : Surroundings) : Except SetupError Console := do
  let (engine, w) := engineOf builtin playbooks (.new .empty)
  let setup : SessionSetup Repertoire :=
    { engine := if withEngine then some engine else none, settings, reload }
  let session ← setup.build w files around
  pure { keeper := .session session, engine, settings := session.settings, files, around,
         contexts := [] }

end ScriptHost.Console
