import ScriptHost.Toml.Value

/-!
# Tables while a document is read

A TOML document builds its tables piece by piece, and rules say which table may
be added to where.  A **draft** is a table in the making: it remembers whether
it was only *implied* by a longer name, and whether it came about by a dotted
key.  A table defined by a header is closed to dotted keys and to another
header; one made by dotted keys is closed to headers.
-/

namespace ScriptHost.Toml

mutual

/-- What stands under a key of a draft. -/
inductive Item where
  | value (v : Value)
  | table (t : Draft)
  /-- The tables of a repeated header, the last one first. -/
  | tables (last : Draft) (earlier : List Draft)

/-- A table in the making. -/
inductive Draft where
  | mk (entries : List (String × Item)) (implied dotted : Bool)

end

namespace Draft

/-- What stands in a draft, by key. -/
def entries : Draft → List (String × Item)
  | mk entries _ _ => entries

/-- Whether a draft was only implied by a longer name. -/
def implied : Draft → Bool
  | mk _ implied _ => implied

/-- Whether a draft came about by a dotted key. -/
def dotted : Draft → Bool
  | mk _ _ dotted => dotted

/-- A table that was defined outright. -/
def empty : Draft :=
  mk [] false false

/-- What stands under a key. -/
def get? (d : Draft) (key : String) : Option Item :=
  d.entries.lookup key

/-- Put something under a key, in the place of what stood there. -/
def set (d : Draft) (key : String) (x : Item) : Draft :=
  if (d.get? key).isSome then
    mk (d.entries.map fun (k, y) => if k = key then (k, x) else (k, y)) d.implied d.dotted
  else mk (d.entries ++ [(key, x)]) d.implied d.dotted

/-- Take away what stands under a key. -/
def without (d : Draft) (key : String) : Draft :=
  mk (d.entries.filter fun (k, _) => k ≠ key) d.implied d.dotted

/-- Change the table at the end of a path, implying the tables on the way.
Under a repeated header the last table is meant.  A `dotted` key goes only
through tables that are themselves implied. -/
def descend (dotted : Bool) (f : Draft → Option Draft) : List String → Draft → Option Draft
  | [], d => f d
  | key :: path, d =>
    match d.get? key with
    | none => (descend dotted f path (mk [] true dotted)).map fun t => d.set key (.table t)
    | some (.value _) => none
    | some (.table t) =>
      if dotted && !t.implied then none
      else (descend dotted f path t).map fun t => d.set key (.table t)
    | some (.tables last earlier) =>
      (descend dotted f path last).map fun t => d.set key (.tables t earlier)

/-- Give a key a value.  A key is given once; and a dotted key ends in a table
that dotted keys made, a plain key in one that they did not. -/
def assign (path : List String) (key : String) (v : Value) (d : Draft) : Option Draft :=
  d.descend true (fun t =>
    if t.dotted = path.isEmpty || (t.get? key).isSome then none else some (t.set key (.value v)))
    path

/-- Define the table of a header.  It may have been implied before, but not by a
dotted key; it then stands where it is defined, behind the other keys. -/
def define (last : String) (d : Draft) : Option Draft :=
  match d.get? last with
  | none => some (d.set last (.table empty))
  | some (.table t) =>
    if t.implied && !t.dotted then
      some ((d.without last).set last (.table (mk t.entries false false)))
    else none
  | some _ => none

/-- Add a table under a repeated header. -/
def defineNext (last : String) (d : Draft) : Option Draft :=
  match d.get? last with
  | none => some (d.set last (.tables empty []))
  | some (.tables t earlier) => some (d.set last (.tables empty (t :: earlier)))
  | some _ => none

end Draft

mutual

/-- What an item says. -/
def Item.finish : Item → Value
  | .value v => v
  | .table t => .table (Draft.finish t)
  | .tables last earlier => .array (.table (Draft.finish last) :: finishAll earlier).reverse

/-- What a draft says. -/
def Draft.finish : Draft → Table
  | .mk entries _ _ => finishEntries entries

/-- What the entries of a draft say. -/
def finishEntries : List (String × Item) → Table
  | [] => []
  | (k, x) :: rest => (k, Item.finish x) :: finishEntries rest

/-- What the tables of a repeated header say. -/
def finishAll : List Draft → List Value
  | [] => []
  | t :: rest => .table (Draft.finish t) :: finishAll rest

end

end ScriptHost.Toml
