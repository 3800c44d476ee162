import ScriptHost.Path.Basic

/-!
# Naming registry entries, and what can go wrong with them
-/

namespace ScriptHost

/-- How a caller names an entry: by its path or by its position. -/
inductive Selector where
  | path (p : Path)
  | index (i : Nat)
deriving DecidableEq, Repr

instance : ToString Selector where
  toString
    | .path p => p.text
    | .index i => s!"#{i}"

/-- A refusal of the registry. -/
inductive RegistryError where
  /-- Only one script may run at a time, and one is running. -/
  | concurrentRejected (requested live : Path)
  | unknownScript (selector : Selector)
  | duplicateScript (path : Path)
deriving DecidableEq, Repr

/-- The text of a refusal. -/
def RegistryError.message : RegistryError → String
  | .concurrentRejected requested live =>
    s!"cannot start {requested}: concurrent scripts are disabled and {live} is already running"
  | .unknownScript selector => s!"no script registered for {selector}"
  | .duplicateScript path => s!"script {path} is already registered"

end ScriptHost
