import ScriptHost.CommandLine.Options

/-!
# What the program says about itself

The help text is made from the table of flags: a line with the names of the flag
and below it, further in, what it does.
-/

namespace ScriptHost.CommandLine

/-- The name and the version of the program. -/
def versionLine : String :=
  "hookshot-cli 0.1.0-beta"

namespace FlagEntry

/-- The names of a flag as the help text shows them. -/
def heading (e : FlagEntry) : String :=
  let letter :=
    match e.short with
    | some c => s!"  -{c}, "
    | none => "      "
  let value :=
    match e.value with
    | some v => s!" <{v}>"
    | none => if e.flag = .switch .debug then "..." else ""
  letter ++ "--" ++ e.long ++ value

/-- The lines of the help text about a flag. -/
def help (e : FlagEntry) : List String :=
  [e.heading, "          " ++ e.about]

end FlagEntry

/-- The help text. -/
def helpLines : List String :=
  ["Run scripts against a simulated emulation loop", "", "Usage: hookshot [OPTIONS]", "",
   "Options:"] ++ flags.flatMap FlagEntry.help

/-- How a flag is written in messages. -/
def Flag.shown (f : Flag) : String :=
  match flags.find? fun e => e.flag = f with
  | some e => "--" ++ e.long
  | none => ""

/-- The text of a usage error. -/
def UsageError.message : UsageError → String
  | unknownFlag text => s!"unexpected argument '{text}' found"
  | strayArgument text => s!"unexpected argument '{text}' found"
  | missingValue s => s!"a value is required for '{(Flag.setting s).shown}' but none was supplied"
  | unwantedValue s => s!"no value is wanted for '{(Flag.switch s).shown}'"
  | badValue s text => s!"invalid value '{text}' for '{(Flag.setting s).shown}'"
  | repeated flag => s!"the argument '{flag.shown}' cannot be used multiple times"

end ScriptHost.CommandLine
