import ScriptHost.Path.Basic

/-!
# What the program is asked to do

The arguments of the command line are read from left to right.  A *switch*
stands alone; a *setting* takes a value, which is attached to it or is the next
argument.  An argument that begins with a dash and goes on is never taken for a
value: a setting before it has none.

The first thing that makes no sense ends the reading, and so does a call for
help or for the version.  So a mistake counts only if it comes before the call.
-/

namespace ScriptHost.CommandLine

/-- What takes a value. -/
inductive Setting where
  | config
  | scriptDir
  | script
  | frames
  | frameInterval
deriving DecidableEq, Repr

/-- What stands alone. -/
inductive Switch where
  | debug
  | listScripts
  | help
  | version
deriving DecidableEq, Repr

/-- What an argument with a dash can name. -/
inductive Flag where
  | switch (s : Switch)
  | setting (s : Setting)
deriving DecidableEq, Repr

/-- A flag with its names and what is said about it. -/
structure FlagEntry where
  flag : Flag
  long : String
  short : Option Char
  /-- What the value is called. -/
  value : Option String
  about : String
deriving Repr

/-- The value of the frame interval where none is given, in milliseconds. -/
def defaultFrameInterval : Nat :=
  16

/-- Every flag. -/
def flags : List FlagEntry :=
  [⟨.switch .debug, "debug", some 'd', none, "Enables debug mode (repeat for trace)"⟩,
   ⟨.setting .config, "config", some 'c', some "CONFIG",
    "Config file to use instead of the default location"⟩,
   ⟨.setting .scriptDir, "script-dir", none, some "SCRIPT_DIR",
    "Directory to load autorun scripts from"⟩,
   ⟨.setting .script, "script", some 's', some "SCRIPTS",
    "Builtin script to run in addition to autorun scripts (repeatable)"⟩,
   ⟨.switch .listScripts, "list-scripts", none, none, "List builtin scripts and exit"⟩,
   ⟨.setting .frames, "frames", none, some "FRAMES",
    "Number of frames to run; runs until ctrl-c if omitted"⟩,
   ⟨.setting .frameInterval, "frame-interval-ms", none, some "FRAME_INTERVAL_MS",
    s!"Milliseconds between frames [default: {defaultFrameInterval}]"⟩,
   ⟨.switch .help, "help", some 'h', none, "Print help"⟩,
   ⟨.switch .version, "version", some 'V', none, "Print version"⟩]

/-- The flag of a long name. -/
def Flag.ofLong? (name : String) : Option Flag :=
  (flags.find? fun e => e.long = name).map FlagEntry.flag

/-- The flag of a letter. -/
def Flag.ofShort? (letter : Char) : Option Flag :=
  (flags.find? fun e => e.short = some letter).map FlagEntry.flag

/-- Why the arguments make no sense. -/
inductive UsageError where
  | unknownFlag (text : String)
  | strayArgument (text : String)
  | missingValue (s : Setting)
  | unwantedValue (s : Switch)
  | badValue (s : Setting) (text : String)
  | repeated (flag : Flag)
deriving DecidableEq, Repr

/-- What the program is asked to do. -/
structure Options where
  /-- How often more detail was asked for. -/
  verbosity : Nat
  config : Option Path
  scriptDir : Option Path
  /-- Names of built-in scripts to run besides the autorun scripts. -/
  scripts : List String
  listScripts : Bool
  /-- How many frames to run. -/
  frames : Option Nat
  frameInterval : Option Nat
deriving DecidableEq, Repr

/-- Why the arguments were not read to the end as options. -/
inductive Interruption where
  | help
  | version
  | usage (e : UsageError)
deriving DecidableEq, Repr

namespace Options

/-- Nothing was asked for. -/
def empty : Options :=
  { verbosity := 0, config := none, scriptDir := none, scripts := [], listScripts := false,
    frames := none, frameInterval := none }

/-- The largest count of requests for detail. -/
def maxVerbosity : Nat :=
  255

/-- A number of at most 64 bits, in decimal digits, after a plus sign if there is
one. -/
def number? (text : String) : Option Nat :=
  let digits :=
    match text.toList with
    | '+' :: cs => cs
    | cs => cs
  if digits ≠ [] ∧ digits.all Char.isDigit then
    let n := digits.foldl (fun n c => 10 * n + (c.toNat - '0'.toNat)) 0
    if n < UInt64.size then some n else none
  else none

/-- The value of a setting that may be given once only. -/
def once {α : Type} (s : Setting) (old : Option α) (text : String) (new : Option α) :
    Except Interruption (Option α) :=
  match old, new with
  | some _, _ => .error (.usage (.repeated (.setting s)))
  | none, some a => .ok (some a)
  | none, none => .error (.usage (.badValue s text))

/-- A path that is not empty. -/
def path? (text : String) : Option Path :=
  if text.isEmpty then none else some ⟨text⟩

/-- Give a setting its value. -/
def assign (o : Options) (s : Setting) (text : String) : Except Interruption Options :=
  match s with
  | .config => (once s o.config text (path? text)).map fun config => { o with config }
  | .scriptDir => (once s o.scriptDir text (path? text)).map fun scriptDir => { o with scriptDir }
  | .script => .ok { o with scripts := o.scripts ++ [text] }
  | .frames => (once s o.frames text (number? text)).map fun frames => { o with frames }
  | .frameInterval =>
    (once s o.frameInterval text (number? text)).map fun frameInterval => { o with frameInterval }

/-- Turn a switch on. -/
def turnOn (o : Options) (s : Switch) : Except Interruption Options :=
  match s with
  | .debug => .ok { o with verbosity := min maxVerbosity (o.verbosity + 1) }
  | .listScripts =>
    if o.listScripts then .error (.usage (.repeated (.switch s)))
    else .ok { o with listScripts := true }
  | .help => .error .help
  | .version => .error .version

end Options

/-- Options on the way: what was read, and the setting whose value is to come. -/
structure Reading where
  options : Options
  pending : Option Setting

namespace Reading

/-- Read what stands after two dashes: a long name, and after an equals sign its
value. -/
def long (o : Options) (text : List Char) : Except Interruption Reading :=
  let name := String.ofList (text.takeWhile (· ≠ '='))
  match Flag.ofLong? name, text.dropWhile (· ≠ '=') with
  | none, _ => .error (.usage (.unknownFlag name))
  | some (.switch s), [] => (o.turnOn s).map fun o => ⟨o, none⟩
  | some (.switch s), _ => .error (.usage (.unwantedValue s))
  | some (.setting s), [] => .ok ⟨o, some s⟩
  | some (.setting s), _ :: value => (o.assign s (String.ofList value)).map fun o => ⟨o, none⟩

/-- Read what stands after one dash: letters of switches, and at the end perhaps
that of a setting with its value, before which an equals sign may stand. -/
def letters (o : Options) : List Char → Except Interruption Reading
  | [] => .ok ⟨o, none⟩
  | c :: cs =>
    match Flag.ofShort? c, cs with
    | none, _ => .error (.usage (.unknownFlag (String.singleton c)))
    | some (.switch s), _ => (o.turnOn s).bind fun o => letters o cs
    | some (.setting s), [] => .ok ⟨o, some s⟩
    | some (.setting s), '=' :: value | some (.setting s), value =>
      (o.assign s (String.ofList value)).map fun o => ⟨o, none⟩

/-- Read one argument. -/
def argument (r : Reading) (text : String) : Except Interruption Reading :=
  match r.pending, text.toList with
  | some s, '-' :: _ :: _ => .error (.usage (.missingValue s))
  | some s, _ => (r.options.assign s text).map fun o => ⟨o, none⟩
  | none, '-' :: '-' :: rest => long r.options rest
  | none, '-' :: c :: rest => letters r.options (c :: rest)
  | none, _ => .error (.usage (.strayArgument text))

/-- Read arguments.  After two dashes alone only stray arguments can follow. -/
def arguments (r : Reading) : List String → Except Interruption Reading
  | [] => .ok r
  | "--" :: rest =>
    match rest with
    | [] => .ok r
    | text :: _ => .error (.usage (.strayArgument text))
  | text :: rest => (r.argument text).bind fun r => arguments r rest

/-- The options, once no value is to come any more. -/
def finish (r : Reading) : Except Interruption Options :=
  match r.pending with
  | none => .ok r.options
  | some s => .error (.usage (.missingValue s))

end Reading

/-- Read the arguments of a command line. -/
def Options.parse (args : List String) : Except Interruption Options :=
  (Reading.arguments ⟨.empty, none⟩ args).bind Reading.finish

end ScriptHost.CommandLine
