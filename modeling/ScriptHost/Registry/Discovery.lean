import ScriptHost.Files.Scanner
import ScriptHost.Registry.Bulk

/-!
# Registering what is found on disk

Discovery registers every autorun script of a directory that is not registered
yet, in path order, each enabled as the settings say.  A script that may not
start is registered all the same, and discovery goes on with the next.
-/

namespace ScriptHost.Host

variable {D : Dialect}

/-- Report what a walk has to report. -/
def reportWalk (ns : List ScanNotice) : Chore D (Host D) Unit :=
  .reportAll (ns.map .scan)

/-- Register paths that are not registered yet: how many were, and the first
failure. -/
def enlist (settings : ScriptSettings) :
    List Path → Chore D (Host D) (Nat × Option RegistryError)
  | [] => return (0, none)
  | p :: rest => do
    let h ← .state
    if h.registry.contains p then enlist settings rest
    else
      match ← add p (settings.pathEnabled p) with
      | .ok _ =>
        let (n, failure) ← enlist settings rest
        return (n + 1, failure)
      | .error e =>
        let counted :=
          match e with
          | .concurrentRejected .. => 1
          | _ => 0
        report (.autorunFailed e)
        let (n, _) ← enlist settings rest
        return (n + counted, some e)

/-- Register every autorun script in a directory; how many were new. -/
def discover (files : Files) (dir : Path) (settings : ScriptSettings) :
    Chore D (Host D) (Except RegistryError Nat) := do
  let (found, notices) := Walk.autorun files dir settings
  reportWalk notices
  let (n, failure) ← enlist settings found
  report (.discovered n dir)
  match failure with
  | some e => return .error e
  | none => return .ok n

end ScriptHost.Host
