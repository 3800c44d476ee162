import ScriptHost.Files.Tree
import ScriptHost.Notice.Host
import ScriptHost.Settings.Basic

/-!
# Walking through the script directory

The walk goes through a directory and the directories in it, and finds the
entries with a script extension.  It enters real directories only: a link is an
entry like a file, whatever it leads to.  The modification time of an entry is
that of what its path leads to; an entry that leads nowhere is reported and left
out, and so is a directory whose path has become too long to enter.
-/

namespace ScriptHost

/-- Something the walk came upon. -/
inductive Sighting where
  /-- An entry with a script extension and its modification time. -/
  | script (path : Path) (mtime : Int)
  /-- An entry with a script extension that leads nowhere. -/
  | stray (path : Path) (fault : FileFault)
  /-- A directory that cannot be entered. -/
  | closed (path : Path) (fault : FileFault)

namespace Sighting

/-- The script that was sighted, with its modification time. -/
def script? : Sighting → Option (Path × Int)
  | script path mtime => some (path, mtime)
  | _ => none

/-- What there is to report of a sighting. -/
def notice? : Sighting → Option ScanNotice
  | script .. => none
  | stray path fault => some (.noModificationTime path fault)
  | closed path fault => some (.unreadable path fault)

end Sighting

/-- The modification time of what a path leads to. -/
def Files.mtimeOf (t : Files) (path : Path) : Except FileFault Int :=
  (t.stat path).bind fun x =>
    match x.mtime? with
    | some mtime => .ok mtime
    | none => .error .notFound

/-- The sighting of an entry with a script extension. -/
def Files.sight (t : Files) (path : Path) : Sighting :=
  match t.mtimeOf path with
  | .ok mtime => .script path mtime
  | .error fault => .stray path fault

/-- Whether a name ends in one of some extensions. -/
def hasExtension (extensions : List String) (name : String) : Bool :=
  (Path.extensionOf? name).any extensions.contains

mutual

/-- What the walk comes upon at a node that goes by a path. -/
def Node.sightings (t : Files) (extensions : List String) (path : Path) : Node → List Sighting
  | .dir _ entries _ =>
    match t.locate path true with
    | .ok _ => sightingsIn t extensions path entries
    | .error fault => [.closed path fault]
  | .file name _ _ => if hasExtension extensions name then [t.sight path] else []
  | .link name _ => if hasExtension extensions name then [t.sight path] else []

/-- What the walk comes upon among the entries of a directory. -/
def sightingsIn (t : Files) (extensions : List String) (path : Path) : List Node → List Sighting
  | [] => []
  | x :: rest =>
    Node.sightings t extensions (path.child x.name) x ++ sightingsIn t extensions path rest

end

/-- The scripts the walk found and what it has to report. -/
structure Walk where
  /-- Paths with modification times, in path order. -/
  scripts : List (Path × Int)
  notices : List ScanNotice

namespace Walk

/-- Sort sightings into scripts and reports. -/
def ofSightings (seen : List Sighting) : Walk :=
  { scripts := (seen.filterMap Sighting.script?).mergeSort fun a b => a.1.le b.1
    notices := seen.filterMap Sighting.notice? }

/-- Walk through a directory. -/
def run (t : Files) (dir : Path) (extensions : List String) : Walk :=
  match t.locate dir true with
  | .error _ => ⟨[], [.noDirectory dir]⟩
  | .ok place =>
    match t.root.get? place with
    | some (.dir _ entries _) => ofSightings (sightingsIn t extensions dir entries)
    | _ => ⟨[], [.unreadable dir .notADirectory]⟩

/-- The autorun scripts in a directory, in path order. -/
def autorun (t : Files) (dir : Path) (settings : ScriptSettings) : List Path × List ScanNotice :=
  let walk := run t dir settings.extensions
  ((walk.scripts.map Prod.fst).filter settings.isAutorun, walk.notices)

end Walk

end ScriptHost
