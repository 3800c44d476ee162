import ScriptHost.Settings.Basic
import ScriptHost.Toml.Document

/-!
# Settings from a TOML document

A settings document is a table with the keys `scripting` and `file_logging`;
keys it does not know are passed over, and what it does not say has its default.
The scripting settings may be given as a table by name or as an array by
position.  A date stands for a table with one key of its own.  A value of the
wrong sort anywhere makes the document unusable.

What is said about a single script may be of any sort, down to the tables in it.
There the key of dates works the other way round, too: a table that begins with
it is a date, so the key has to hold one, and what else is in the table does not
count.
-/

namespace ScriptHost

open Toml (Value)

namespace Settings

/-- The key a date stands under when it is taken for a table. -/
def dateKey : String :=
  "$__toml_private_datetime"

/-- The entries of what can be taken for a table. -/
def entries? : Value → Option Toml.Table
  | .table entries => some entries
  | .datetime spelling => some [(dateKey, .string spelling)]
  | _ => none

/-- A truth value. -/
def boolean? : Value → Option Bool
  | .boolean b => some b
  | _ => none

/-- A text. -/
def string? : Value → Option String
  | .string s => some s
  | _ => none

/-- A number of milliseconds: an integer that is not negative. -/
def milliseconds? : Value → Option Nat
  | .integer i => if 0 ≤ i then some i.toNat else none
  | _ => none

/-- A list of texts. -/
def strings? : Value → Option (List String)
  | .array items => items.mapM string?
  | _ => none

/-- Whether a table begins with the key of dates. -/
def isDateTable (entries : Toml.Table) : Bool :=
  entries.head?.any fun (key, _) => key = dateKey

/-- Whether a value is the text of a date. -/
def isDateText : Value → Bool
  | .string s => Toml.isDatetime s.toList
  | _ => false

mutual

/-- Whether a value can be taken as a value of any sort: where it has the key of
dates at the beginning of a table, it has a date there. -/
def isSound : Value → Bool
  | .array items => areSound items
  | .table entries => isSoundTable entries
  | _ => true

/-- Whether values can be taken as values of any sort. -/
def areSound : List Value → Bool
  | [] => true
  | v :: rest => isSound v && areSound rest

/-- Whether a table can be taken as a value of any sort. -/
def isSoundTable : List (String × Value) → Bool
  | [] => true
  | (key, v) :: rest =>
    if key = dateKey then isDateText v else isSound v && areSoundEntries rest

/-- Whether the entries of a table behind its first can be taken as values of any
sort. -/
def areSoundEntries : List (String × Value) → Bool
  | [] => true
  | (_, v) :: rest => isSound v && areSoundEntries rest

end

/-- What the settings of one script say about enabling it. -/
def enabledIn (v : Value) : Bool :=
  match v with
  | .table entries =>
    if isDateTable entries then true else ((entries.lookup "enabled").bind boolean?).getD true
  | _ => true

/-- What is said about each script, by name. -/
def scripts? (v : Value) : Option (List (String × Bool)) :=
  (entries? v).bind fun entries =>
    if areSoundEntries entries then some (entries.map fun (name, v) => (name, enabledIn v))
    else none

/-- Read what a source says about a setting, if it says anything. -/
def setting {α : Type} (said : Option Value) (read : Value → Option α) (otherwise : α) :
    Option α :=
  match said with
  | some v => read v
  | none => some otherwise

/-- The names of the scripting settings, in order. -/
def keys : List String :=
  ["enabled", "script_dir", "allow_concurrent_instances", "autorun_prefix", "extensions",
   "hot_reload", "hot_reload_interval_ms", "timer_tick_interval_ms", "scripts"]

/-- Scripting settings from what is said under each key. -/
def scriptingFrom (said : String → Option Value) : Option ScriptSettings := do
  let d := ScriptSettings.default
  let enabled ← setting (said "enabled") boolean? d.enabled
  let scriptDir ← setting (said "script_dir") (fun v => (string? v).map fun s => some ⟨s⟩)
    d.scriptDir
  let concurrent ← setting (said "allow_concurrent_instances") boolean? d.concurrent
  let autorunPrefix ← setting (said "autorun_prefix") string? d.autorunPrefix
  let extensions ← setting (said "extensions") strings? d.extensions
  let hotReload ← setting (said "hot_reload") boolean? d.hotReload
  let hotReloadInterval ← setting (said "hot_reload_interval_ms") milliseconds? d.hotReloadInterval
  let tickInterval ← setting (said "timer_tick_interval_ms") milliseconds? d.tickInterval
  let scripts ← setting (said "scripts") scripts? d.scripts
  some { enabled, scriptDir, concurrent, autorunPrefix, extensions, hotReload,
         hotReloadInterval, tickInterval, scripts }

/-- Scripting settings from a table by name, or from an array by position. -/
def scripting? : Value → Option ScriptSettings
  | .array items => scriptingFrom fun key => (keys.zip items).lookup key
  | v => (entries? v).bind fun entries => scriptingFrom fun key => entries.lookup key

/-- Settings from a document. -/
def ofTable? (t : Toml.Table) : Option Settings := do
  let scripting ← setting (t.lookup "scripting") scripting? .default
  let fileLogging ← setting (t.lookup "file_logging") boolean? false
  some { scripting, fileLogging }

/-- Settings from the text of a document. -/
def parse? (text : String) : Option Settings :=
  (Toml.parse text).bind ofTable?

end Settings

end ScriptHost
