import ScriptHost.Files.Walk

/-!
# Watching the script directory

A scanner remembers the scripts it found last, with their modification times,
and reports how the next scan differs: what was added, what was removed, and
what has another modification time — an earlier one as well as a later one.

The host keeps the scripts it knows in a hash map, so the lists of its reports come in no
particular order; here they come in path order.  The order is immaterial: what a report is
claimed to say (`ScanResult.IsDifference`, in `Proofs.Scans`) speaks of who is on a list,
and what applying it comes to (`Session.trace_applyChanges`, in `Proofs.Changes`) is
shown for lists in any order.
-/

namespace ScriptHost

/-- How a scan differs from the one before. -/
structure ScanResult where
  changed : List (Path × Int)
  added : List Path
  removed : List Path
deriving DecidableEq, Repr

namespace ScanResult

/-- Whether there is any difference. -/
def hasChanges (r : ScanResult) : Bool :=
  !(r.changed.isEmpty && r.added.isEmpty && r.removed.isEmpty)

end ScanResult

/-- A watch over a script directory; the interval is in milliseconds. -/
structure Scanner where
  dir : Path
  extensions : List String
  interval : Nat
  /-- Whether it has scanned since it was set up. -/
  hasScanned : Bool
  /-- The scripts found last, with their modification times. -/
  known : List (Path × Int)

/-- The interval between scans unless told otherwise. -/
def defaultScanInterval : Nat :=
  1000

namespace Scanner

/-- The modification time under which a path is known. -/
def timeOf? (known : List (Path × Int)) (p : Path) : Option Int :=
  (known.find? fun e => p.Same e.1).map Prod.snd

/-- Set up a scanner; what is there already will not count as added. -/
def new (t : Files) (dir : Path) (extensions : List String) (interval : Nat) :
    Scanner × List ScanNotice :=
  let walk := Walk.run t dir extensions
  ({ dir, extensions, interval, hasScanned := false, known := walk.scripts }, walk.notices)

/-- Set up a scanner as the settings say. -/
def ofSettings (t : Files) (settings : ScriptSettings) (around : Surroundings) :
    Scanner × List ScanNotice :=
  new t (settings.directory around) settings.extensions settings.hotReloadInterval

/-- How one set of scripts differs from another.  The lists are in path order because the
sets are; nothing relies on it. -/
def difference (old new : List (Path × Int)) : ScanResult :=
  { changed := new.filter fun e =>
      match timeOf? old e.1 with
      | some t => t ≠ e.2
      | none => false
    added := (new.filter fun e => (timeOf? old e.1).isNone).map Prod.fst
    removed := (old.filter fun e => (timeOf? new e.1).isNone).map Prod.fst }

/-- What is reported about a difference. -/
def differenceNotices (r : ScanResult) : List ScanNotice :=
  r.changed.map (.changed ·.1) ++ r.added.map .added ++ r.removed.map .removed

/-- Scan the directory: the difference to the last scan, and what is to be
reported. -/
def scan (s : Scanner) (t : Files) : ScanResult × Scanner × List ScanNotice :=
  let walk := Walk.run t s.dir s.extensions
  let result := difference s.known walk.scripts
  (result, { s with hasScanned := true, known := walk.scripts },
    .scanning s.dir :: walk.notices ++ differenceNotices result)

/-- Whether it is time to scan when this many milliseconds have passed since the
last scan. -/
def isDue (s : Scanner) (elapsed : Nat) : Bool :=
  !s.hasScanned || s.interval ≤ elapsed

end Scanner

end ScriptHost
