import ScriptHost.CommandLine.LogFile
import ScriptHost.CommandLine.Usage
import ScriptHost.Registry.Named
import ScriptHost.Script.Builtin
import ScriptHost.Session.Emulation
import ScriptHost.Settings.Load

/-!
# The program

The program runs the built-in scripts in one session: it loads the settings,
makes the log file ready, registers the autorun scripts and the scripts it was
asked for, and runs the emulation.

`run` is the whole program as a function of the arguments and of the files the
program finds; it answers with everything that can be seen afterwards.
-/

namespace ScriptHost.CommandLine

/-- What can be seen when the program has ended. -/
structure Outcome where
  /-- The exit code. -/
  code : Nat
  /-- The lines of the standard output. -/
  output : List String
  /-- What the program complains about. -/
  complaint : Option String
  files : Files

/-- Why the program could not run. -/
inductive StartError where
  /-- The settings in the file that was asked for, or in the usual one, could not
  be loaded. -/
  | settings (given : Option Path) (error : SettingsError)
  | logFile (fault : FileFault)
  | scripts (error : RegistryError)

/-- The text of a start error. -/
def StartError.message : StartError → String
  | settings (some path) _ => s!"Failed to load config from {path}"
  | settings none _ => "Failed to load config"
  | logFile fault => fault.message
  | scripts _ => "Failed to add scripts"

/-- A start error as a complaint. -/
def StartError.complaint (e : StartError) : String :=
  s!"Error: {e.message}"

namespace Options

/-- The level of the lines that are wanted. -/
def level (o : Options) : Level :=
  .ofCount o.verbosity

/-- The time between two frames, in milliseconds. -/
def interval (o : Options) : Nat :=
  o.frameInterval.getD defaultFrameInterval

/-- The settings the options lead to.  The usual settings file may be missing;
one that was asked for may not. -/
def loadSettings (o : Options) (files : Files) (around : Surroundings) :
    Except StartError Settings :=
  let loaded :=
    match o.config with
    | some path => Settings.load files path
    | none =>
      match Settings.load files around.configPath with
      | .error (.notFound _) => .ok .default
      | r => r
  match loaded with
  | .error e => .error (.settings o.config e)
  | .ok s =>
    .ok { s with
      scripting := { s.scripting with scriptDir := o.scriptDir <|> s.scripting.scriptDir } }

end Options

/-- A program that is set up. -/
structure Program where
  options : Options
  around : Surroundings
  files : Files
  /-- Whether the lines also go to the log file. -/
  fileLogging : Bool
  session : Session Repertoire

namespace Program

/-- The lines written so far. -/
def lines (p : Program) : List String :=
  (p.session.host.world.transcript p.options.level).map Notice.line

/-- The lines written so far, and the program with a journal that starts anew. -/
def handOut (p : Program) : List String × Program :=
  let s := p.session
  let world := { s.host.world with journal := [] }
  (p.lines, { p with session := { s with host := { s.host with world } } })

/-- Do a chore of the session. -/
def doing {α : Type} (p : Program) (op : Chore Repertoire (Session Repertoire) α) :
    Option (α × Program) :=
  (op.run repertoire p.session).map fun (a, session) => (a, { p with session })

/-- Set up the program with settings. -/
def setUp (o : Options) (files : Files) (around : Surroundings) (s : Settings) :
    Except StartError Program :=
  let ready := if s.fileLogging then LogFile.prepare files around else .ok files
  match ready with
  | .error fault => .error (.logFile fault)
  | .ok files =>
    let world := World.new (D := Repertoire) .empty
    let world :=
      if s.fileLogging then world.log (.session (.loggingTo (LogFile.path around))) else world
    let world := world.log (.session .greeting)
    .ok
      { options := o, around, files, fileLogging := s.fileLogging
        session :=
          Session.new world Builtin.engine s.scripting (some (.new false)) files around }

/-- Register the autorun scripts, and the scripts of some names. -/
def registration (files : Files) (around : Surroundings) (scripts : List String) :
    Chore Repertoire (Session Repertoire) (Except StartError Unit) := do
  if let .error e := ← Session.loadScripts files around then
    Session.report (.autorunIncomplete e)
  let s ← .state
  match ← Session.withHost (Host.addNamed (s.settings.directory around) scripts) with
  | .ok _ => return .ok ()
  | .error e => return .error (.scripts e)

/-- Register the autorun scripts and the scripts that were asked for. -/
def register (p : Program) : Option (Except StartError Unit × Program) :=
  p.doing (registration p.files p.around p.options.scripts)

/-- The end of the program. -/
def exit (p : Program) (code : Nat) (complaint : Option String) : Outcome :=
  { code, output := p.lines, complaint
    files := if p.fileLogging then LogFile.extend p.files p.around p.lines else p.files }

/-- Without a clock the program breaks off: the scripts stop, and nothing more is
said. -/
def breakOff : Chore Repertoire (Session Repertoire) Unit :=
  Session.withHost Host.stopAll

/-- How the emulation is to run. -/
def emulation (p : Program) : EmulationOptions :=
  { frames := p.options.frames, interval := p.options.interval }

/-- Run the emulation. -/
def emulate (p : Program) : Option Outcome :=
  let turns := Session.steadyTurns p.options.interval
  let op := Session.emulate p.emulation (.new false) (fun _ => p.files) turns repertoire.patience
  (p.doing op).bind fun (result, p) =>
    match result with
    | .ran n => (p.doing (Session.report (.framesRun n))).map fun (_, p) => p.exit 0 none
    | .noClock => (p.doing breakOff).map fun (_, p) => p.exit 101 none
    | .unfinished => none

end Program

/-- The outcome of a program that ran nothing. -/
def Outcome.early (files : Files) (code : Nat) (output : List String) (complaint : Option String) :
    Outcome :=
  { code, output, complaint, files }

/-- The outcome of arguments that ask for no run. -/
def Interruption.outcome (files : Files) : Interruption → Outcome
  | help => .early files 0 helpLines none
  | version => .early files 0 [versionLine] none
  | usage e => .early files 2 [] (some e.message)

/-- Run the program as the options say. -/
def Options.run (o : Options) (files : Files) (around : Surroundings) : Option Outcome :=
  if o.listScripts then some (.early files 0 Builtin.engine.names none)
  else
    match (o.loadSettings files around).bind (Program.setUp o files around) with
    | .error e => some (.early files 1 [] (some e.complaint))
    | .ok p =>
      p.register.bind fun (r, p) =>
        match r with
        | .ok () => p.emulate
        | .error e => some (p.exit 1 (some e.complaint))

/-- The whole program. -/
def run (files : Files) (around : Surroundings) (args : List String) : Option Outcome :=
  match Options.parse args with
  | .ok o => o.run files around
  | .error i => some (i.outcome files)

end ScriptHost.CommandLine
