import ScriptHost.Files.Fault
import ScriptHost.Path.Basic

/-!
# A file tree

Directories, files and symbolic links below one root.  Files and directories
have a modification time, in seconds.  A link leads to a path relative to the
directory it stands in, or to an absolute one.

`Node.walk` follows a path as an operating system does: a path that goes on
after something that is no directory fails, a link that leads nowhere fails, and
so does a name that is too long; after forty links it gives up.  The parent of
the root is the root.

* `walk_links_le` — following a path never earns links.
-/

namespace ScriptHost

/-- Something in a file tree, under its name. -/
inductive Node where
  | file (name : String) (contents : ByteArray) (mtime : Int)
  | link (name : String) (target : String)
  | dir (name : String) (entries : List Node) (mtime : Int)

namespace Node

/-- The name of a node. -/
def name : Node → String
  | file name .. => name
  | link name _ => name
  | dir name .. => name

/-- What a directory holds; other nodes hold nothing. -/
def entries : Node → List Node
  | dir _ entries _ => entries
  | _ => []

/-- Whether a node is itself a directory. -/
def isDir : Node → Bool
  | dir .. => true
  | _ => false

/-- The modification time of a file or a directory. -/
def mtime? : Node → Option Int
  | file _ _ mtime => some mtime
  | dir _ _ mtime => some mtime
  | link .. => none

/-- The entry of a directory under a name. -/
def child? (x : Node) (name : String) : Option Node :=
  x.entries.find? fun e => e.name = name

/-- The node reached by going from entry to entry, without following links. -/
def get? : List String → Node → Option Node
  | [], x => some x
  | name :: rest, x => (x.child? name).bind (get? rest)

/-- How many links a path may lead through. -/
def maxLinks : Nat :=
  40

/-- How many bytes a name may have. -/
def maxNameSize : Nat :=
  255

/-- Whether nothing can have a name, for its length. -/
def isTooLong (name : String) : Bool :=
  maxNameSize < name.utf8ByteSize

/-- The pieces of a path's text. -/
def segments (text : String) : List String :=
  (Path.pieces text.toList).map String.ofList

/-- The pieces of a path's text that name something. -/
def names (text : String) : List String :=
  (segments text).filter fun s => s ≠ "" ∧ s ≠ "."

/-- Where the target of a link in a directory starts from. -/
def linkStart (dir : List String) (target : String) : List String :=
  if (Path.mk target).isAbsolute then [] else dir

/-- Follow the segments of a path from a place in the tree: the place they lead
to, and how many more links may be followed.  The last link on the way is
followed only on demand. -/
def walk (root : Node) (follow : Bool) (links : Nat) (place : List String)
    (segs : List String) : Except FileFault (List String × Nat) :=
  match segs with
  | [] => .ok (place, links)
  | seg :: rest =>
    match root.get? place with
    | none => .error .notFound
    | some x =>
      if !x.isDir then .error .notADirectory
      else if seg = "" ∨ seg = "." then walk root follow links place rest
      else if seg = ".." then walk root follow links place.dropLast rest
      else if isTooLong seg then .error .nameTooLong
      else
        match x.child? seg with
        | none => .error .notFound
        | some (link _ target) =>
          if rest.isEmpty && !follow then .ok (place ++ [seg], links)
          else
            match links with
            | 0 => .error .tooManyLinks
            | n + 1 => walk root follow n (linkStart place target) (segments target ++ rest)
        | some _ => walk root follow links (place ++ [seg]) rest
termination_by (links, segs.length)

/-- Following a path never earns links. -/
theorem walk_links_le (root : Node) (follow : Bool) (links : Nat) (place segs : List String)
    (dest : List String) (left : Nat) (h : walk root follow links place segs = .ok (dest, left)) :
    left ≤ links := by
  fun_induction walk root follow links place segs <;> grind

/-- The place the segments of a path lead to. -/
def resolve (root : Node) (follow : Bool) (place segs : List String) :
    Except FileFault (List String) :=
  (walk root follow maxLinks place segs).map Prod.fst

end Node

/-- A tree, the place in it that relative paths start from, and the clock its
directories are stamped by. -/
structure Files where
  root : Node
  cwd : List String
  clock : Int

namespace Files

/-- Where a path starts from. -/
def start (t : Files) (p : Path) : List String :=
  if p.isAbsolute then [] else t.cwd

/-- How many bytes a path may have. -/
def maxPathSize : Nat :=
  4095

/-- Whether a path leads nowhere for its length alone. -/
def isTooLong (p : Path) : Bool :=
  maxPathSize < p.text.utf8ByteSize

/-- The place a path leads to. -/
def locate (t : Files) (p : Path) (follow : Bool) : Except FileFault (List String) :=
  if p.text.isEmpty then .error .notFound
  else if isTooLong p then .error .nameTooLong
  else t.root.resolve follow (t.start p) (Node.segments p.text)

/-- The file or directory a path leads to. -/
def stat (t : Files) (p : Path) : Except FileFault Node :=
  (t.locate p true).bind fun place =>
    match t.root.get? place with
    | some x => .ok x
    | none => .error .notFound

/-- Whether a path leads anywhere. -/
def pathExists (t : Files) (p : Path) : Bool :=
  match t.stat p with
  | .ok _ => true
  | .error _ => false

/-- The contents of the file a path leads to. -/
def read (t : Files) (p : Path) : Except FileFault ByteArray :=
  (t.stat p).bind fun x =>
    match x with
    | .file _ contents _ => .ok contents
    | _ => .error .isADirectory

/-- The text in the file a path leads to. -/
def readText (t : Files) (p : Path) : Except FileFault String :=
  (t.read p).bind fun bytes =>
    match String.fromUTF8? bytes with
    | some s => .ok s
    | none => .error .notText

end Files

end ScriptHost
