import ScriptHost.CommandLine.Program

/-!
# The program on a real machine

What `CommandLine.run` does to a file tree is done here to the disk and in real
time: the files the program looks at are copied from the disk into a tree, the
program goes through its stages one by one, and after each its lines are printed
and go to the log file.
-/

namespace ScriptHost.Machine

open CommandLine

/-- Where the user keeps data and settings. -/
def surroundings : IO Surroundings := do
  pure
    { home := (← IO.getEnv "HOME").getD "", dataHome := ← IO.getEnv "XDG_DATA_HOME",
      configHome := ← IO.getEnv "XDG_CONFIG_HOME" }

/-- Copy what stands at a path of the disk into a tree.  A link below it counts as
a file, with the time of what it leads to. -/
partial def copy (t : Files) (p : Path) (top : Bool) : IO Files := do
  let place := (← IO.currentDir) / p.text
  match ← place.metadata.toBaseIO with
  | .error _ => pure t
  | .ok found =>
    let mtime := found.modified.sec * 1000000000 + found.modified.nsec.toNat
    let own ← place.symlinkMetadata
    if found.type == .dir && (top || own.type == .dir) then
      let mut t := t.edit (.makeDir p)
      for entry in ← place.readDir do
        t ← copy t (p.child entry.fileName) false
      pure (t.edit (.touch p mtime))
    else if top then
      pure (t.edit (.write p (← IO.FS.readBinFile place) mtime))
    else pure (t.edit (.write p .empty mtime))

/-- Open the log file, emptied if it has grown too large. -/
def openLog (around : Surroundings) : IO IO.FS.Handle := do
  let here ← IO.currentDir
  let file := here / (LogFile.path around).text
  IO.FS.createDirAll (here / (LogFile.directory around).text)
  match ← file.metadata.toBaseIO with
  | .ok found =>
    if LogFile.sizeLimit < found.byteSize.toNat then IO.FS.writeFile file ""
  | .error _ => pure ()
  IO.FS.Handle.mk file .append

/-- Print the lines the program has written, also to the log file if there is
one. -/
def print (log : Option IO.FS.Handle) (p : Program) : IO Program := do
  let (lines, p) := p.handOut
  for line in lines do
    IO.println line
    if let some h := log then
      h.putStrLn line
      h.flush
  pure p

/-- The program after a stage. -/
def stage (log : Option IO.FS.Handle) (p : Program)
    (op : Chore Repertoire (Session Repertoire) Unit) : IO Program :=
  match p.doing op with
  | some (_, p) => print log p
  | none => throw (IO.userError "the scripts did not come to rest")

/-- The frames of the emulation, at their pace; how many were run. -/
partial def frames (log : Option IO.FS.Handle) (p : Program) (done : Nat) :
    IO (Nat × Program) := do
  if p.options.frames.any (· ≤ done) then return (done, p)
  let now ← IO.monoMsNow
  let s := p.session
  let due := s.scanner.any fun scanner => scanner.isDue ((now : Int) - s.lastScan).toNat
  let files ← if due then copy .empty (s.settings.directory p.around) true else pure p.files
  let p ← stage log p (Session.runFrame files (done + 1) ⟨now, now⟩)
  if p.options.frames.all (done + 1 < ·) then IO.sleep p.options.interval.toUInt32
  frames log p (done + 1)

/-- Run the emulation. -/
def emulate (log : Option IO.FS.Handle) (p : Program) : IO UInt32 := do
  let p ← stage log p (Session.openEmulation (.new false))
  if p.options.interval = 0 then
    let _ ← stage log p Program.breakOff
    return 101
  let (n, p) ← frames log p 0
  let p ← stage log p Session.closeEmulation
  let _ ← stage log p (Session.report (.framesRun n))
  return 0

/-- Complain and end. -/
def fail (complaint : String) (code : UInt32) : IO UInt32 := do
  IO.eprintln complaint
  return code

/-- Run the program with settings. -/
def runWith (o : Options) (around : Surroundings) (s : Settings) : IO UInt32 := do
  let log ← if s.fileLogging then some <$> openLog around else pure none
  let files ← copy .empty (s.scripting.directory around) true
  match Program.setUp o files around s with
  | .error e => fail e.complaint 1
  | .ok p =>
    match p.register with
    | none => fail "the scripts did not come to rest" 1
    | some (r, p) =>
      let p ← print log p
      match r with
      | .error e => fail e.complaint 1
      | .ok () => emulate log p

/-- Run the program as the options say. -/
def run (o : Options) : IO UInt32 := do
  let around ← surroundings
  if o.listScripts then
    Builtin.engine.names.forM IO.println
    return 0
  let files ← copy .empty (o.config.getD around.configPath) true
  match o.loadSettings files around with
  | .error e => fail e.complaint 1
  | .ok s =>
    try runWith o around s
    catch e => fail s!"Error: {e}" 1

end ScriptHost.Machine

/-- The program. -/
def main (args : List String) : IO UInt32 := do
  match ScriptHost.CommandLine.Options.parse args with
  | .ok o => ScriptHost.Machine.run o
  | .error i =>
    let outcome := i.outcome .empty
    outcome.output.forM IO.println
    if let some complaint := outcome.complaint then IO.eprintln complaint
    return outcome.code.toUInt32
