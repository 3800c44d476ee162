import ScriptHost.Session.Basic

/-!
# Setting up a session

A session needs an engine; everything else has a default.
-/

namespace ScriptHost

/-- Why a session could not be set up. -/
inductive SetupError where
  | missingEngine
deriving DecidableEq, Repr

/-- The text of a setup error. -/
def SetupError.message : SetupError → String
  | .missingEngine => "Script engine not specified - use .with_engine()"

/-- What a session is to be made of. -/
structure SessionSetup (D : Dialect) where
  engine : Option (Engine D)
  settings : Option ScriptSettings
  reload : Option (Watch Bool)

/-- Set up a session in a world. -/
def SessionSetup.build {D : Dialect} (s : SessionSetup D) (world : World D) (files : Files)
    (around : Surroundings) : Except SetupError (Session D) :=
  match s.engine with
  | none => .error .missingEngine
  | some engine => .ok (Session.new world engine (s.settings.getD .default) s.reload files around)

end ScriptHost
