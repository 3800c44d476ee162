import ScriptHost.Path.Name
import ScriptHost.Script.Code

/-!
# Engines

An engine knows the top-level code of scripts by name.  A script file runs the
entry point registered under the **stem** of its file name, so `x/_watch.py`
and `_watch.lua` both run `_watch`.  Registering a name again replaces what was
registered before.
-/

namespace ScriptHost

/-- Top-level code, given the place of the instance it runs for and that
instance's id and path. -/
abbrev EntryPoint (D : Dialect) : Type :=
  Nat → ScriptId → Path → EntryCode D

/-- The entry points an engine knows, each name once. -/
structure Engine (D : Dialect) where
  entries : List (String × EntryPoint D)

namespace Engine

variable {D : Dialect}

/-- The short name of the engine. -/
def name : String :=
  "native"

/-- An engine that knows nothing. -/
def empty : Engine D :=
  ⟨[]⟩

/-- Register an entry point. -/
def register (e : Engine D) (name : String) (entry : EntryPoint D) : Engine D :=
  ⟨e.entries.filter (fun p => p.1 ≠ name) ++ [(name, entry)]⟩

/-- The names with an entry point, in alphabetical order. -/
def names (e : Engine D) : List String :=
  (e.entries.map Prod.fst).mergeSort fun s t => s ≤ t

/-- The entry point for a script file. -/
def entryFor? (e : Engine D) (path : Path) : Option (EntryPoint D) :=
  path.stem?.bind fun stem => e.entries.lookup stem

/-- Whether the engine can run a script file. -/
def supports (e : Engine D) (path : Path) : Bool :=
  (e.entryFor? path).isSome

/-- The top-level code of a script file; a file without an entry point fails
to load. -/
def entry (e : Engine D) (path : Path) (id : ScriptId) (i : Nat) : EntryCode D :=
  match e.entryFor? path with
  | some entry => entry i id path
  | none => .ret (.error (.load path .noEntryPoint))

end Engine

end ScriptHost
