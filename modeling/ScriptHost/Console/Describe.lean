import ScriptHost.Registry.Basic
import ScriptHost.Text.Quoted

/-!
# How diagnostics show the parts of the host

Each part is shown by its name and its fields, in braces.
-/

namespace ScriptHost

/-- Something with fields. -/
def describeFields (name : String) (fields : List (String × String)) : String :=
  name ++ " \x7b " ++ ", ".intercalate (fields.map fun (k, v) => k ++ ": " ++ v) ++ " \x7d"

/-- A script id. -/
def ScriptId.describe (i : ScriptId) : String :=
  s!"ScriptId({i})"

/-- The hub. -/
def Hub.describe {D : Dialect} (h : Hub D) : String :=
  describeFields "EventHub" [("total_listeners", toString h.total)]

/-- The registry. -/
def Registry.describe {D : Dialect} (r : Registry D) : String :=
  describeFields "ScriptRegistry"
    [("entries", toString r.entries.length), ("live", toString r.liveCount),
     ("started", toString r.started), ("allow_concurrent", toString r.concurrent)]

/-- The handle of a script on the host. -/
def Instance.describeContext {D : Dialect} (x : Instance D) : String :=
  describeFields "ScriptContext"
    [("script_id", x.id.describe), ("script_path", Text.quoted x.path.text)]

/-- A script instance. -/
def Instance.describe {D : Dialect} (x : Instance D) : String :=
  describeFields "ScriptInstance"
    [("id", x.id.describe), ("path", Text.quoted x.path.text), ("state", x.state.name)]

end ScriptHost
