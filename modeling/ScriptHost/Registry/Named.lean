import ScriptHost.Registry.Bulk

/-!
# Adding scripts by name
-/

namespace ScriptHost.Host

variable {D : Dialect}

/-- The file a script of a name has in a directory. -/
def scriptFile (dir : Path) (name : String) : Path :=
  dir.child (name ++ ".py")

/-- Add scripts by their names in a directory, skipping those that are
registered; how many were added.  The first refusal ends it. -/
def addNamed (dir : Path) : List String → Chore D (Host D) (Except RegistryError Nat)
  | [] => return .ok 0
  | name :: rest => do
    let h ← .state
    let path := scriptFile dir name
    if h.registry.contains path then
      .report (.session (.alreadyLoaded name))
      addNamed dir rest
    else
      match ← add path true with
      | .error e => return .error e
      | .ok _ =>
        let r ← addNamed dir rest
        return r.map (· + 1)

end ScriptHost.Host
