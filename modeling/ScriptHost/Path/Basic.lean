/-!
# Paths

A path keeps the text it was written with; what it *names* are its
**components**.  Repeated separators, a separator at the end and `.` inside a
path do not count: `x//a.py`, `x/./a.py`, `x/a.py/` and `x/a.py` have the same
components.  A `.` at the very beginning does count, and `..` always does, so
`./x/a.py` and `x/../x/a.py` are other paths.

Two paths are `Same` when their components are; they are ordered by components
as well.

The text of a path is a string, so file names that are not UTF-8 are not modelled.
The host takes any bytes for a name; nothing here is claimed of a tree with such a
name in it.
-/

namespace ScriptHost

/-- One component of a path. -/
inductive Component where
  /-- The separator an absolute path begins with. -/
  | root
  /-- The `.` a path begins with. -/
  | here
  /-- A `..`. -/
  | parent
  | normal (name : String)
deriving DecidableEq, Repr

namespace Component

/-- The rank of a component: root, then `.`, then `..`, then names. -/
def rank : Component → Nat
  | root => 0
  | here => 1
  | parent => 2
  | normal _ => 3

/-- Components are ordered by rank, names among themselves by their letters. -/
def compare (a b : Component) : Ordering :=
  match a, b with
  | normal s, normal t => Ord.compare s t
  | _, _ => Ord.compare a.rank b.rank

end Component

/-- A path as it was written. -/
structure Path where
  text : String
deriving DecidableEq, Repr, Inhabited

namespace Path

instance : ToString Path :=
  ⟨Path.text⟩

/-- The pieces between separators, empty ones included. -/
def pieces : List Char → List (List Char)
  | [] => [[]]
  | c :: cs =>
    if c = '/' then [] :: pieces cs
    else
      match pieces cs with
      | [] => [[c]]
      | p :: ps => (c :: p) :: ps

/-- The component a piece stands for, if it stands for one. -/
def component? (piece : List Char) : Option Component :=
  match piece with
  | [] | ['.'] => none
  | ['.', '.'] => some .parent
  | _ => some (.normal (String.ofList piece))

/-- Whether the path begins at the root. -/
def isAbsolute (p : Path) : Bool :=
  p.text.toList.head? == some '/'

/-- The components of a path. -/
def components (p : Path) : List Component :=
  let ps := pieces p.text.toList
  let start : List Component :=
    if p.isAbsolute then [.root] else if ps.head? = some ['.'] then [.here] else []
  start ++ ps.filterMap component?

/-- Paths are the same when their components are. -/
def Same (p q : Path) : Prop :=
  p.components = q.components

instance (p q : Path) : Decidable (Same p q) :=
  inferInstanceAs (Decidable (_ = _))

/-- A path is the same as itself. -/
theorem Same.refl (p : Path) : Same p p :=
  rfl

/-- Sameness does not depend on the order. -/
theorem Same.symm {p q : Path} (h : Same p q) : Same q p :=
  Eq.symm h

/-- Sameness carries over. -/
theorem Same.trans {p q r : Path} (h : Same p q) (h' : Same q r) : Same p r :=
  Eq.trans h h'

/-- Lists of components in dictionary order. -/
def compareComponents : List Component → List Component → Ordering
  | [], [] => .eq
  | [], _ :: _ => .lt
  | _ :: _, [] => .gt
  | a :: as, b :: bs => (a.compare b).then (compareComponents as bs)

/-- The order of paths. -/
def compare (p q : Path) : Ordering :=
  compareComponents p.components q.components

/-- Whether a path does not come after another. -/
def le (p q : Path) : Bool :=
  (p.compare q).isLE

/-- Extend a path.  An absolute extension replaces it; a separator is put
between the two unless there is one already or nothing to separate. -/
def join (p q : Path) : Path :=
  if q.isAbsolute then q
  else if p.text.isEmpty || p.text.toList.getLast? == some '/' then ⟨p.text ++ q.text⟩
  else ⟨p.text ++ "/" ++ q.text⟩

/-- Extend a path by the name of an entry in it. -/
def child (p : Path) (name : String) : Path :=
  p.join ⟨name⟩

/-- The name a path ends in, if it ends in a name. -/
def fileName? (p : Path) : Option String :=
  match p.components.getLast? with
  | some (.normal name) => some name
  | _ => none

end Path

end ScriptHost
