import ScriptHost.Registry.Basic

/-!
# Operations on one entry

Adding, enabling, restarting and removing a script.  An operation that is
refused changes nothing but what its description says it keeps: `add` keeps the
entry it appended and `setEnabled` the flag, also when the script may not start.
-/

namespace ScriptHost.Host

variable {D : Dialect}

/-- Create an instance for the entry at a position, unless another script that
runs forbids it. -/
def instantiate (i : Nat) : Chore D (Host D) (Except RegistryError Unit) := do
  let h ← .state
  match h.registry.entries[i]? with
  | none => return .ok ()
  | some e =>
    match h.registry.blocker? i with
    | some live =>
      report (.rejected e.path live)
      return .error (.concurrentRejected e.path live)
    | none =>
      let id : ScriptId := ⟨h.registry.nextId⟩
      modifyRegistry fun r => { r with nextId := r.nextId + 1 }
      let k ← .spawn id e.path (h.registry.engine.entry e.path id)
      modifyRegistry (·.modifyEntry i fun e => { e with live := some k })
      return .ok ()

/-- End the instance of the entry at a position, if it has one.  The entry
counts as stopped while the end is announced. -/
def destroy (i : Nat) : Chore D (Host D) Unit := do
  let h ← .state
  match h.registry.live? i with
  | none => return ()
  | some k =>
    modifyRegistry (·.modifyEntry i fun e => { e with live := none })
    .terminate k

/-- Append an entry.  It starts at once if it is enabled and the registry is
started; it is kept even if it may not start. -/
def add (path : Path) (enabled : Bool) : Chore D (Host D) (Except RegistryError Nat) := do
  let h ← .state
  if h.registry.contains path then return .error (.duplicateScript path)
  let i := h.registry.entries.length
  report (.adding path enabled)
  modifyRegistry fun r => { r with entries := r.entries ++ [⟨path, enabled, none⟩] }
  if enabled && h.registry.started then
    let r ← instantiate i
    return r.map fun _ => i
  else return .ok i

/-- Set the flag of the entry at a position, and start or end its instance to
match.  The flag is set even if the script may not start. -/
def setEnabledAt (i : Nat) (value : Bool) : Chore D (Host D) (Except RegistryError Unit) := do
  modifyRegistry (·.modifyEntry i fun e => { e with enabled := value })
  if value then
    let h ← .state
    if h.registry.started && (h.registry.live? i).isNone then instantiate i else return .ok ()
  else
    destroy i
    return .ok ()

/-- Set the flag of the selected entry. -/
def setEnabled (s : Selector) (value : Bool) : Chore D (Host D) (Except RegistryError Unit) := do
  let h ← .state
  match h.registry.resolve s with
  | .ok i => setEnabledAt i value
  | .error e => return .error e

/-- End the instance of the entry at a position and start a new one.  A disabled
entry is left alone. -/
def restartAt (i : Nat) : Chore D (Host D) (Except RegistryError Unit) := do
  let h ← .state
  match h.registry.entries[i]? with
  | none => return .ok ()
  | some e =>
    if e.enabled then
      destroy i
      let h ← .state
      if h.registry.started then instantiate i else return .ok ()
    else
      report (.notRestarting e.path)
      return .ok ()

/-- Restart the selected entry. -/
def restart (s : Selector) : Chore D (Host D) (Except RegistryError Unit) := do
  let h ← .state
  match h.registry.resolve s with
  | .ok i => restartAt i
  | .error e => return .error e

/-- End the instance of the selected entry and take the entry out of the table;
its path. -/
def remove (s : Selector) : Chore D (Host D) (Except RegistryError Path) := do
  let h ← .state
  match h.registry.resolve s with
  | .error e => return .error e
  | .ok i =>
    destroy i
    let h ← .state
    match h.registry.entries[i]? with
    | none => return .error (.unknownScript s)
    | some e =>
      modifyRegistry fun r => { r with entries := r.entries.eraseIdx i }
      report (.removed e.path)
      return .ok e.path

end ScriptHost.Host
