import ScriptHost.Files.Edit
import ScriptHost.Settings.Basic
import ScriptHost.Stage.World

/-!
# The log

Notices become lines as far as they are pressing enough.  On demand the lines
also go to a file among the user's data; a file that has grown too large is
emptied when the program starts.
-/

namespace ScriptHost

/-- The notices in the journal of a world that a listener at level `limit` hears,
the earliest first. -/
def World.transcript {D : Dialect} (w : World D) (limit : Level) : List Notice :=
  w.journal.reverse.filterMap fun h =>
    match h with
    | .notice n => if limit.admits n.level then some n else none
    | _ => none

namespace LogFile

/-- The size, in bytes, up to which a log file is continued. -/
def sizeLimit : Nat :=
  1048576

/-- The directory of log files. -/
def directory (around : Surroundings) : Path :=
  around.dataDir.child "logs"

/-- The log file of the program. -/
def path (around : Surroundings) : Path :=
  (directory around).child "cli.log"

/-- Make the log file ready to be continued: it is there, and it is not too
large. -/
def prepare (t : Files) (around : Surroundings) : Except FileFault Files :=
  (t.makeDirs (directory around)).bind fun t =>
    let t :=
      match t.read (path around) with
      | .ok old =>
        if sizeLimit < old.size then t.write (path around) .empty t.clock else t
      | .error _ => t
    t.append (path around) .empty

/-- Continue the log file by lines. -/
def extend (t : Files) (around : Surroundings) (lines : List String) : Files :=
  match t.append (path around) (String.join (lines.map (· ++ "\n"))).toUTF8 with
  | .ok t => t
  | .error _ => t

end LogFile

end ScriptHost
