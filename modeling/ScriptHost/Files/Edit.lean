import ScriptHost.Files.Tree

/-!
# Changing a file tree

Files are written, touched, renamed and removed; directories are made and
removed with all they hold.  A directory whose entries change gets a new
modification time from a clock that only moves on.

`Files.makeDirs` and `Files.append` say why they fail; an edit that cannot be
made is not made.

A file is opened for writing where `Node.spot` says: at the end of a path, with
the links there followed, whether the file is there yet or not.
-/

namespace ScriptHost

/-- One change of a tree. -/
inductive FileEdit where
  | write (path : Path) (contents : ByteArray) (mtime : Int)
  | touch (path : Path) (mtime : Int)
  | makeDir (path : Path)
  | remove (path : Path)
  | removeDir (path : Path)
  | rename (path dest : Path)
  | link (path : Path) (target : String)

namespace Node

/-- Put a node under a name into a list of entries, in the place of what was
there. -/
def insertEntry (entries : List Node) (x : Node) : List Node :=
  if entries.any fun e => e.name = x.name then
    entries.map fun e => if e.name = x.name then x else e
  else entries ++ [x]

/-- Change the entry of a name in the directory at a place: `f` gets the entry,
if there is one, and gives what is to stand there. -/
def alter (now : Int) (name : String) (f : Option Node → Option Node) : List String → Node → Node
  | [], dir n entries _ =>
    let entries :=
      match f (entries.find? fun e => e.name = name) with
      | some x => insertEntry entries x
      | none => entries.filter fun e => e.name ≠ name
    dir n entries now
  | next :: rest, dir n entries mtime =>
    match entries.find? fun e => e.name = next with
    | some x => dir n (insertEntry entries (alter now name f rest x)) mtime
    | none => dir n entries mtime
  | _, x => x

/-- Change the node at a place; the directories on the way stay as they were. -/
def updateAt (f : Node → Node) : List String → Node → Node
  | [], x => f x
  | next :: rest, dir n entries mtime =>
    match entries.find? fun e => e.name = next with
    | some x => dir n (insertEntry entries (updateAt f rest x)) mtime
    | none => dir n entries mtime
  | _ :: _, x => x

/-- A node with another modification time. -/
def touched (mtime : Int) : Node → Node
  | file n contents _ => file n contents mtime
  | dir n entries _ => dir n entries mtime
  | link n target => link n target

/-- A file with other contents. -/
def refilled (contents : ByteArray) (mtime : Int) : Node → Node
  | file n _ _ => file n contents mtime
  | x => x

/-- A node under another name. -/
def renamed (name : String) : Node → Node
  | file _ contents mtime => file name contents mtime
  | link _ target => link name target
  | dir _ entries mtime => dir name entries mtime

/-- Whether a node can be moved to where another one stands, if there is one: a
directory in the place of an empty one, anything else in the place of anything
else. -/
def canReplace (x : Node) : Option Node → Bool
  | none => true
  | some y => if x.isDir then y.isDir && y.entries.isEmpty else !y.isDir

/-- Whether segments lead to a directory. -/
def leadsToDir (root : Node) (place segs : List String) : Bool :=
  match root.resolve true place segs with
  | .ok place => (root.get? place).any isDir
  | .error _ => false

/-- Make the directory at the end of some segments; those before it lead to one. -/
def makeDir (root : Node) (now : Int) (place segs : List String) : Except FileFault Node :=
  match segs.getLast? with
  | none => .error .alreadyExists
  | some name =>
    (root.resolve true place segs.dropLast).bind fun parent =>
      match root.get? parent with
      | some x =>
        if !x.isDir then .error .notADirectory
        else if name = ".." || (x.child? name).isSome then .error .alreadyExists
        else if isTooLong name then .error .nameTooLong
        else .ok (root.alter now name (fun _ => some (dir name [] now)) parent)
      | none => .error .notFound

/-- What came of making a directory, where one that is there already is as good. -/
def orPresent (root : Node) (place segs : List String) (made : Except FileFault Node) :
    Except FileFault Node :=
  match made with
  | .ok root => .ok root
  | .error e => if root.leadsToDir place segs then .ok root else .error e

/-- Make the directory at the end of some segments, and those on the way to it
that are missing. -/
def makeDirs (root : Node) (now : Int) (place segs : List String) : Except FileFault Node :=
  match segs with
  | [] => .ok root
  | seg :: rest =>
    match root.makeDir now place (seg :: rest) with
    | .error .notFound =>
      (makeDirs root now place (seg :: rest).dropLast).bind fun root =>
        root.orPresent place (seg :: rest) (root.makeDir now place (seg :: rest))
    | made => root.orPresent place (seg :: rest) made
termination_by segs.length
decreasing_by simp

/-- Where a file stands that is opened for writing, or where it is to be made:
the directory and the name in it.  A link at the end is followed.  What ends in a
separator can only be a directory. -/
def spot (root : Node) (links : Nat) (place segs : List String) :
    Except FileFault (List String × String) :=
  let core := (segs.reverse.dropWhile fun s => s.isEmpty).reverse
  match core.getLast? with
  | none => .error .isADirectory
  | some name =>
    match _h : root.walk true links place core.dropLast with
    | .error e => .error e
    | .ok (parent, left) =>
      match root.get? parent with
      | none => .error .notFound
      | some x =>
        if !x.isDir then .error .notADirectory
        else if name = "." || name = ".." || core.length < segs.length then .error .isADirectory
        else if isTooLong name then .error .nameTooLong
        else
          match x.child? name with
          | some (dir ..) => .error .isADirectory
          | some (link _ target) =>
            match left with
            | 0 => .error .tooManyLinks
            | n + 1 => spot root n (linkStart parent target) (segments target)
          | _ => .ok (parent, name)
termination_by links
decreasing_by exact walk_links_le _ _ _ _ _ _ _ _h

end Node

namespace Files

/-- An empty working directory below the root. -/
def empty : Files :=
  { root := .dir "" [.dir "work" [] 0] 0, cwd := ["work"], clock := 2000000000 }

/-- The segments of a path that name something. -/
def steps (p : Path) : List String :=
  Node.names p.text

/-- Make a directory and those on the way to it. -/
def makeDirs (t : Files) (p : Path) : Except FileFault Files :=
  if isTooLong p then .error .nameTooLong
  else (t.root.makeDirs t.clock (t.start p) (steps p)).map fun root => { t with root }

/-- The tree with the directory a path stands in. -/
def withParent (t : Files) (p : Path) : Except FileFault Files :=
  (t.root.makeDirs t.clock (t.start p) (steps p).dropLast).map fun root => { t with root }

/-- Where a file stands that is opened for writing, or where it is to be made. -/
def spot (t : Files) (p : Path) : Except FileFault (List String × String) :=
  if p.text.isEmpty then .error .notFound
  else if isTooLong p then .error .nameTooLong
  else t.root.spot Node.maxLinks (t.start p) (Node.segments p.text)

/-- Change the contents of a file in a directory; a missing one is made from
nothing. -/
def refill (t : Files) (parent : List String) (name : String) (f : ByteArray → ByteArray)
    (mtime : Int) : Files :=
  match t.root.get? (parent ++ [name]) with
  | some (.file _ old _) =>
    { t with root := t.root.updateAt (.refilled (f old) mtime) (parent ++ [name]) }
  | _ =>
    let file := Node.file name (f .empty) mtime
    { t with root := t.root.alter t.clock name (fun _ => some file) parent }

/-- Where something new is to stand that has a path: the tree with the directory
it stands in, that directory, and its name there. -/
def site (t : Files) (p : Path) : Option (Files × List String × String) :=
  match (steps p).getLast? with
  | none | some ".." => none
  | some name =>
    if Node.isTooLong name then none
    else
      (t.withParent p).toOption.bind fun t =>
        (t.root.resolve true (t.start p) (steps p).dropLast).toOption.map fun parent =>
          (t, parent, name)

/-- Take away the entry at a path, if it is one to be taken away. -/
def takeAway (t : Files) (p : Path) (ok : Node → Bool) : Files :=
  match t.locate p false with
  | .error _ => t
  | .ok place =>
    match t.root.get? place, place.getLast? with
    | some x, some name =>
      if ok x then
        { t with root := t.root.alter t.clock name (fun _ => none) place.dropLast }
      else t
    | _, _ => t

/-- Write a file.  What is written to a link goes to the file it leads to, which
is made if it is missing. -/
def write (t : Files) (p : Path) (contents : ByteArray) (mtime : Int) : Files :=
  match t.withParent p with
  | .error _ => t
  | .ok t =>
    match t.spot p with
    | .error _ => t
    | .ok (parent, name) => t.refill parent name (fun _ => contents) mtime

/-- Append to a file, which is made if it is missing; the directory it stands in
has to be there. -/
def append (t : Files) (p : Path) (contents : ByteArray) : Except FileFault Files :=
  (t.spot p).map fun (parent, name) => t.refill parent name (· ++ contents) t.clock

/-- Make a link.  A link can lead to any text but the empty one, and to one no
longer than a path. -/
def link (t : Files) (p : Path) (target : String) : Files :=
  if target.isEmpty || isTooLong ⟨target⟩ then t
  else
    match t.site p with
    | none => t
    | some (t, parent, name) =>
      let put := fun old : Option Node => old <|> some (.link name target)
      { t with root := t.root.alter t.clock name put parent }

/-- Move what stands at a path to another place.  Nothing moves into itself, and
nothing takes the place of what it cannot replace. -/
def rename (t : Files) (p dest : Path) : Files :=
  match t.locate p false with
  | .error _ => t
  | .ok place =>
    match t.root.get? place, place.getLast?, t.site dest with
    | some x, some old, some (t, parent, name) =>
      if place.isPrefixOf (parent ++ [name]) || !x.canReplace (t.root.get? (parent ++ [name]))
      then t
      else
        let root := t.root.alter t.clock old (fun _ => none) place.dropLast
        { t with root := root.alter t.clock name (fun _ => some (x.renamed name)) parent }
    | _, _, _ => t

/-- Make one change. -/
def edit (t : Files) (e : FileEdit) : Files :=
  let changed :=
    match e with
    | .write p contents mtime => t.write p contents mtime
    | .touch p mtime =>
      match t.locate p true with
      | .ok place => { t with root := t.root.updateAt (.touched mtime) place }
      | .error _ => t
    | .makeDir p =>
      match t.makeDirs p with
      | .ok t => t
      | .error _ => t
    | .remove p => t.takeAway p fun x => !x.isDir
    | .removeDir p =>
      t.takeAway p fun x =>
        match x with
        | .file .. => false
        | _ => true
    | .rename p dest => t.rename p dest
    | .link p target => t.link p target
  { changed with clock := t.clock + 1 }

/-- Make changes one after another. -/
def editAll (t : Files) (es : List FileEdit) : Files :=
  es.foldl edit t

end Files

end ScriptHost
