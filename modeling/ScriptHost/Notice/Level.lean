/-!
# How pressing a notice is

Five levels, from errors to traces.  A listener to notices sets the most
verbose level it wants and hears that level and everything more pressing.
-/

namespace ScriptHost

/-- The levels, the most pressing first. -/
inductive Level where
  | error
  | warn
  | info
  | debug
  | trace
deriving DecidableEq, Repr

namespace Level

/-- The name of a level. -/
def name : Level → String
  | error => "error"
  | warn => "warn"
  | info => "info"
  | debug => "debug"
  | trace => "trace"

/-- The name of a level in log lines. -/
def label : Level → String
  | error => "ERROR"
  | warn => "WARN"
  | info => "INFO"
  | debug => "DEBUG"
  | trace => "TRACE"

/-- How verbose a level is. -/
def verbosity : Level → Nat
  | error => 0
  | warn => 1
  | info => 2
  | debug => 3
  | trace => 4

/-- Whether a listener at level `limit` hears a notice of level `l`. -/
def admits (limit l : Level) : Bool :=
  l.verbosity ≤ limit.verbosity

/-- The level of a name. -/
def ofName? (s : String) : Option Level :=
  [error, warn, info, debug, trace].find? fun l => l.name == s

/-- The level for a number of requests to say more: none, one, several. -/
def ofCount : Nat → Level
  | 0 => info
  | 1 => debug
  | _ => trace

end Level

end ScriptHost
