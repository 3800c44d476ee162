import ScriptHost.Proofs.Directory

/-!
# What the walk finds, exactly

An entry is **below** a directory when names lead to it from directory to directory; a
link is never gone through, whatever it leads to.  The scripts the walk finds are the
entries below the directory that are no directories, have a script extension and lead to
something with a modification time.  A directory whose path is too long to enter hides
nothing: what is in it has a longer path, and leads nowhere either.

Paths are ordered by their components, in dictionary order, and the order is a linear one
up to sameness; so what is sorted and distinct strictly ascends.

* `Path.compareComponents` is transitive, oriented and lawful;
* `Files.exists_walk_of_child` — an entry that leads somewhere is in a directory that does;
* `Files.HasScript.eq_of_same` — a script below a directory has one path;
* `mem_sightingsIn` — the scripts among the entries of a directory;
* `Walk.mem_scripts` — the scripts the walk finds.
-/

namespace ScriptHost

/-! ## The order of paths -/

namespace Component

/-- The letters of a component. -/
def letters : Component → String
  | normal name => name
  | root | here | parent => ""

/-- Components are ordered by rank, then by letters. -/
theorem compare_eq_lex : compare = compareLex (compareOn rank) (compareOn letters) := by
  funext a b
  cases a <;> cases b <;> rfl

instance : Std.TransCmp compare := by
  rw [compare_eq_lex]
  infer_instance

instance : Std.LawfulEqCmp compare where
  compare_self {a} := by
    rw [compare_eq_lex]
    exact Std.ReflCmp.compare_self
  eq_of_compare {a b} h := by
    cases a <;> cases b <;> simp_all [compare, rank]

end Component

namespace Path

/-- Paths are compared as words in a dictionary are. -/
theorem compareComponents_eq_lex : compareComponents = List.compareLex Component.compare := by
  funext as bs
  induction as generalizing bs with
  | nil => cases bs <;> rfl
  | cons a as ih =>
    cases bs with
    | nil => rfl
    | cons b bs => rw [List.compareLex_cons_cons, compareComponents, ih]

instance : Std.TransCmp compareComponents := by
  rw [compareComponents_eq_lex]
  infer_instance

instance : Std.LawfulEqCmp compareComponents := by
  rw [compareComponents_eq_lex]
  infer_instance

instance : Std.TransCmp Path.compare where
  eq_swap {p q} := by
    show compareComponents _ _ = (compareComponents _ _).swap
    exact Std.OrientedCmp.eq_swap
  isLE_trans {p q r} := by
    show (compareComponents _ _).isLE = true → (compareComponents _ _).isLE = true →
      (compareComponents _ _).isLE = true
    exact Std.TransCmp.isLE_trans

/-- Two paths compare equal if they name the same. -/
theorem compare_eq_eq_iff (p q : Path) : p.compare q = .eq ↔ p.Same q := by
  show compareComponents _ _ = .eq ↔ _
  exact Std.LawfulEqCmp.compare_eq_iff_eq

/-- The order of paths is transitive. -/
theorem le_trans (p q r : Path) (hpq : p.le q = true) (hqr : q.le r = true) : p.le r = true :=
  Std.TransCmp.isLE_trans hpq hqr

/-- The order of paths is total. -/
theorem le_total (p q : Path) : (p.le q || q.le p) = true := by
  have hswap : p.compare q = (q.compare p).swap := Std.OrientedCmp.eq_swap
  cases h : q.compare p <;> simp [le, hswap, h]

/-- Of paths that are not the same, the one that does not come after comes before. -/
theorem compare_eq_lt {p q : Path} (hle : p.le q = true) (hne : ¬ p.Same q) :
    p.compare q = .lt := by
  rcases Ordering.isLE_iff_eq_lt_or_eq_eq.mp hle with hlt | heq
  · exact hlt
  · exact absurd ((compare_eq_eq_iff p q).mp heq) hne

end Path

/-- What is sorted by path ascends. -/
theorem Walk.pairwise_ofSightings (seen : List Sighting) :
    ((ofSightings seen).scripts.map Prod.fst).Pairwise fun p q => p.le q = true := by
  rw [ofSightings, List.pairwise_map]
  refine List.pairwise_mergeSort (fun a b c => ?_) (fun a b => ?_) _
  · exact Path.le_trans a.1 b.1 c.1
  · exact Path.le_total a.1 b.1

/-- The scripts that are found strictly ascend. -/
theorem Walk.scripts_ascending {t : Files} (h : t.Proper) (dir : Path)
    (extensions : List String) :
    ((Walk.run t dir extensions).scripts.map Prod.fst).Pairwise fun p q => p.compare q = .lt := by
  have hdistinct := scripts_distinct h dir extensions
  have hsorted : ((Walk.run t dir extensions).scripts.map Prod.fst).Pairwise
      fun p q => p.le q = true := by
    unfold run
    split
    · exact List.Pairwise.nil
    · split
      · exact pairwise_ofSightings _
      · exact List.Pairwise.nil
  exact hsorted.imp₂ (fun _ _ => Path.compare_eq_lt) hdistinct

/-! ## Paths that lead somewhere -/

/-- A path that goes on is followed as far as it goes, and then on from there. -/
theorem Node.walk_append (root : Node) (links : Nat) (place segs more : List String) :
    walk root true links place (segs ++ more)
      = (walk root true links place segs).bind fun (dest, left) =>
          walk root true left dest more := by
  generalize hfollow : true = follow
  fun_induction walk root follow links place segs with
  | case1 => rfl
  | _ =>
    subst hfollow
    rw [List.cons_append, walk]
    simp_all [Except.bind, List.append_assoc]

/-- A path goes on from directories only. -/
theorem Node.isDir_of_walk {root : Node} {links left : Nat} {place more dest : List String}
    {seg : String} (h : walk root true links place (seg :: more) = .ok (dest, left)) :
    ∃ x, root.get? place = some x ∧ x.isDir = true := by
  rw [walk] at h
  split at h
  · cases h
  · next x hx =>
    cases hdir : x.isDir with
    | true => exact ⟨x, hx, hdir⟩
    | false => simp [hdir] at h

/-- The name an entry goes by is the name its path ends in. -/
theorem Path.fileName?_child (p : Path) {name : String} (h : IsEntryName name) :
    (p.child name).fileName? = some name := by
  simp [fileName?, components_child p h]

/-- The path of an entry below a directory has the names on the way for its last
components. -/
theorem Path.components_foldl_child (p : Path) {way : List String}
    (h : ∀ name ∈ way, IsEntryName name) :
    (way.foldl child p).components = p.components ++ way.map .normal := by
  induction way generalizing p with
  | nil => simp
  | cons name rest ih =>
    obtain ⟨hname, hrest⟩ := List.forall_mem_cons.mp h
    rw [List.foldl_cons, ih _ hrest, components_child p hname]
    simp

/-- The segments of a longer path go on with those of what is appended. -/
theorem Node.segments_append (before after : String) :
    segments (before ++ "/" ++ after) = segments before ++ segments after := by
  have htext : (before ++ "/" ++ after).toList = before.toList ++ '/' :: after.toList := by simp
  simp [segments, htext, Path.pieces_append]

namespace Files

variable {t : Files} {p : Path} {name : String}

/-- A path that is followed to its end is neither empty nor too long. -/
theorem locate_eq_ok {place : List String} :
    t.locate p true = .ok place ↔ p.text ≠ "" ∧ isTooLong p = false ∧
      ∃ left, Node.walk t.root true Node.maxLinks (t.start p) (Node.segments p.text)
        = .ok (place, left) := by
  unfold locate Node.resolve
  by_cases hempty : p.text = ""
  · simp [hempty]
  · cases hlong : isTooLong p with
    | true => simp [hempty]
    | false =>
      cases Node.walk t.root true Node.maxLinks (t.start p) (Node.segments p.text) with
      | error e => simp [hempty, Except.map]
      | ok found => simp [hempty, Except.map, Prod.ext_iff]

/-- **An entry that leads somewhere** is in a directory that leads somewhere, and it is
followed from there by its name. -/
theorem exists_walk_of_child {place : List String} (hentry : IsEntryName name)
    (hp : p.text ≠ "") (h : t.locate (p.child name) true = .ok place) :
    ∃ above rest left, t.locate p true = .ok above ∧
      Node.walk t.root true rest above [name] = .ok (place, left) := by
  obtain ⟨-, hshort, left, hwalk⟩ := locate_eq_ok.mp h
  obtain ⟨before, htext, hbefore⟩ := Path.text_child hentry hp
  have hstart : t.start (p.child name) = t.start p := by
    have habsolute : (p.child name).isAbsolute = p.isAbsolute := by
      unfold Path.isAbsolute
      rcases hbefore with hbefore | hbefore
      · cases hchars : before.toList <;> simp [htext, hbefore, hchars]
      · have hne : before.toList ≠ [] := fun hnil =>
          hp (by rw [hbefore]; exact String.toList_inj.mp hnil)
        obtain ⟨c, cs, hchars⟩ := List.exists_cons_of_ne_nil hne
        simp [htext, hbefore, hchars]
    simp [start, habsolute]
  have hfits : isTooLong p = false := by
    have hsize : p.text.utf8ByteSize ≤ (p.child name).text.utf8ByteSize := by
      rcases hbefore with hbefore | hbefore <;> simp [htext, hbefore, Nat.add_assoc]
    simp only [isTooLong, decide_eq_false_iff_not] at hshort ⊢
    omega
  rw [hstart, htext, Node.segments_append, Node.walk_append] at hwalk
  obtain ⟨⟨dest, rest⟩, hupto, hname⟩ : ∃ found, Node.walk t.root true Node.maxLinks (t.start p)
      (Node.segments before) = .ok found ∧
      Node.walk t.root true found.2 found.1 (Node.segments name) = .ok (place, left) := by
    cases hupto : Node.walk t.root true Node.maxLinks (t.start p) (Node.segments before) with
    | error e => simp [hupto, Except.bind] at hwalk
    | ok found => exact ⟨found, rfl, by simpa [hupto, Except.bind] using hwalk⟩
  have hsegments : Node.segments name = [name] := by
    simp [Node.segments, Path.pieces_of_not_mem hentry.whole]
  rw [hsegments] at hname
  obtain ⟨x, hx, hdir⟩ := Node.isDir_of_walk hname
  -- the separator that may end the path of the directory leads from a directory to itself
  rcases hbefore with hbefore | hbefore
  · refine ⟨dest, rest, left, locate_eq_ok.mpr ⟨hp, hfits, rest, ?_⟩, hname⟩
    have hsame : Node.walk t.root true rest dest (Node.segments "") = .ok (dest, rest) := by
      have hblank : Node.segments "" = [""] := rfl
      rw [hblank, Node.walk]
      simp [hx, hdir, Node.walk]
    have hlast : p.text = before ++ "/" ++ "" := by simp [hbefore]
    rw [hlast, Node.segments_append, Node.walk_append, hupto]
    exact hsame
  · exact ⟨dest, rest, left, locate_eq_ok.mpr ⟨hp, hfits, rest, hbefore ▸ hupto⟩, hname⟩

end Files

/-! ## Entries below a directory -/

namespace Node

/-- The names on the way to a node in a proper tree are names of entries. -/
theorem Proper.isEntryName_of_get? {x e : Node} {way : List String} (h : x.Proper)
    (he : x.get? way = some e) : ∀ name ∈ way, IsEntryName name := by
  induction way generalizing x with
  | nil => simp
  | cons name rest ih =>
    obtain ⟨y, hy, hbelow⟩ := Option.bind_eq_some_iff.mp he
    cases x with
    | dir _ entries _ =>
      have hentry := ProperEntries.enterable h (List.mem_of_find?_eq_some hy)
      have hname : y.name = name := by simpa using List.find?_some hy
      exact List.forall_mem_cons.mpr ⟨hname ▸ hentry.name, ih hentry.proper hbelow⟩
    | file | link => simp [child?, entries] at hy

/-- In a proper directory an entry is the one of its name. -/
theorem child?_eq_some_iff {name label : String} {entries : List Node} {mtime : Int} {y : Node}
    (h : ProperEntries entries) :
    (dir label entries mtime).child? name = some y ↔ y ∈ entries ∧ y.name = name := by
  constructor
  · intro hy
    exact ⟨List.mem_of_find?_eq_some hy, by simpa using List.find?_some hy⟩
  · rintro ⟨hy, hname⟩
    obtain ⟨z, hz⟩ := Option.isSome_iff_exists.mp
      (List.find?_isSome (p := fun e : Node => e.name = name).mpr ⟨y, hy, by simpa using hname⟩)
    have hzname : z.name = name := by simpa using List.find?_some hz
    obtain rfl := List.inj_on_of_nodup_map (properEntries_iff.mp h).2
      (List.mem_of_find?_eq_some hz) hy (hzname.trans hname.symm)
    exact hz

end Node

namespace Files

/-- An entry below a directory: names lead to it through directories, never through
links. -/
def Below (t : Files) (dir : Path) (way : List String) (e : Node) : Prop :=
  ∃ place d, t.locate dir true = .ok place ∧ t.root.get? place = some d ∧ d.isDir = true ∧
    d.get? way = some e

/-- A path that goes for a script: it has a script extension, and it leads to something
with a modification time. -/
structure IsScript (t : Files) (extensions : List String) (p : Path) (mtime : Int) : Prop where
  marked : p.extension?.any extensions.contains = true
  readable : t.mtimeOf p = .ok mtime

/-- A script below a directory: the path of an entry that is no directory itself. -/
structure HasScript (t : Files) (dir : Path) (extensions : List String) (p : Path)
    (mtime : Int) : Prop extends t.IsScript extensions p mtime where
  below : ∃ way e, t.Below dir way e ∧ e.isDir = false ∧ p = way.foldl Path.child dir

/-- The names on the way to an entry below a directory are names of entries. -/
theorem Below.isEntryName {t : Files} {dir : Path} {way : List String} {e : Node}
    (h : t.Below dir way e) (ht : t.Proper) : ∀ name ∈ way, IsEntryName name := by
  obtain ⟨place, d, -, hd, -, he⟩ := h
  exact Node.Proper.isEntryName_of_get? (Node.Proper.get? ht hd) he

/-- Scripts below a directory that name the same have the same path, also in two trees. -/
theorem HasScript.eq_of_same {t t' : Files} {dir p q : Path} {extensions extensions' : List String}
    {m m' : Int} (h : t.HasScript dir extensions p m) (ht : t.Proper)
    (h' : t'.HasScript dir extensions' q m') (ht' : t'.Proper) (hsame : p.Same q) : p = q := by
  obtain ⟨way, e, hbelow, -, rfl⟩ := h.below
  obtain ⟨way', e', hbelow', -, rfl⟩ := h'.below
  have hways : way.map Component.normal = way'.map Component.normal := by
    rw [Path.Same, Path.components_foldl_child dir (hbelow.isEntryName ht),
      Path.components_foldl_child dir (hbelow'.isEntryName ht')] at hsame
    exact List.append_cancel_left hsame
  rw [List.map_injective_iff.mpr (fun _ _ => Component.normal.inj) hways]

/-- What leads to something with a modification time leads somewhere. -/
theorem exists_locate_of_mtimeOf {t : Files} {p : Path} {mtime : Int}
    (h : t.mtimeOf p = .ok mtime) : ∃ place, t.locate p true = .ok place := by
  cases hplace : t.locate p true with
  | ok place => exact ⟨place, rfl⟩
  | error e => simp [mtimeOf, stat, hplace, Except.bind] at h

/-- What is below a directory leads somewhere only if the directory does. -/
theorem exists_locate_of_below {t : Files} {way : List String} {p : Path} {place : List String}
    (hway : ∀ name ∈ way, IsEntryName name) (hp : p.text ≠ "")
    (h : t.locate (way.foldl Path.child p) true = .ok place) :
    ∃ above, t.locate p true = .ok above := by
  induction way generalizing p with
  | nil => exact ⟨place, h⟩
  | cons name rest ih =>
    obtain ⟨hname, hrest⟩ := List.forall_mem_cons.mp hway
    obtain ⟨below, hbelow⟩ := ih hrest (Path.text_child_ne_empty hname) h
    obtain ⟨above, -, -, habove, -⟩ := exists_walk_of_child hname hp hbelow
    exact ⟨above, habove⟩

end Files

open Sighting

/-- Nothing is below what is no directory. -/
theorem Node.get?_eq_some_iff_of_leaf {x e : Node} {way : List String} (h : x.isDir = false) :
    x.get? way = some e ↔ way = [] ∧ x = e := by
  cases way with
  | nil => simp [get?]
  | cons name rest =>
    cases x with
    | dir => cases h
    | file | link => simp [get?, child?, entries]

/-- An entry that is no directory is found if its path goes for a script. -/
theorem Files.mem_sight {t : Files} {extensions : List String} {path : Path} {name : String}
    (hname : path.fileName? = some name) {p : Path} {m : Int} :
    (p, m) ∈ (if hasExtension extensions name then [t.sight path] else []).filterMap script? ↔
      p = path ∧ t.IsScript extensions p m := by
  have hmarked : hasExtension extensions name = path.extension?.any extensions.contains := by
    simp [hasExtension, Path.extension?, hname]
  rw [hmarked]
  constructor
  · intro h
    split at h
    · next hext =>
      cases htime : t.mtimeOf path with
      | error e => simp [sight, htime, script?] at h
      | ok mtime =>
        obtain ⟨rfl, rfl⟩ : p = path ∧ m = mtime := by simpa [sight, htime, script?] using h
        exact ⟨rfl, hext, htime⟩
    · cases h
  · rintro ⟨rfl, hext, htime⟩
    simp [hext, sight, htime, script?]

/-- What is sighted at an entry that is no directory. -/
theorem Files.mem_sight_leaf {t : Files} {extensions : List String} {path : Path} {x : Node}
    (hleaf : x.isDir = false) (hname : path.fileName? = some x.name) {p : Path} {m : Int} :
    (p, m) ∈ (if hasExtension extensions x.name then [t.sight path] else []).filterMap script? ↔
      t.IsScript extensions p m ∧ ∃ way e, x.get? way = some e ∧ e.isDir = false ∧
        p = way.foldl Path.child path := by
  rw [mem_sight hname]
  constructor
  · rintro ⟨rfl, hscript⟩
    exact ⟨hscript, [], x, rfl, hleaf, rfl⟩
  · rintro ⟨hscript, way, e, he, -, rfl⟩
    obtain ⟨rfl, rfl⟩ := (Node.get?_eq_some_iff_of_leaf hleaf).mp he
    exact ⟨rfl, hscript⟩

/-- What is below a directory and is no directory is below one of the entries. -/
theorem Node.exists_leaf_iff {label : String} {entries : List Node} {mtime : Int}
    (h : ProperEntries entries) (Good : List String → Prop) :
    (∃ way e, (dir label entries mtime).get? way = some e ∧ e.isDir = false ∧ Good way) ↔
      ∃ y ∈ entries, ∃ way e, y.get? way = some e ∧ e.isDir = false ∧ Good (y.name :: way) := by
  constructor
  · rintro ⟨way, e, he, hleaf, hgood⟩
    cases way with
    | nil =>
      obtain rfl := Option.some.inj he
      cases hleaf
    | cons name way =>
      obtain ⟨y, hy, hbelow⟩ := Option.bind_eq_some_iff.mp he
      obtain ⟨hmem, rfl⟩ := (child?_eq_some_iff h).mp hy
      exact ⟨y, hmem, way, e, hbelow, hleaf, hgood⟩
  · rintro ⟨y, hy, way, e, he, hleaf, hgood⟩
    have hchild : (dir label entries mtime).child? y.name = some y :=
      (child?_eq_some_iff h).mpr ⟨hy, rfl⟩
    exact ⟨y.name :: way, e, Option.bind_eq_some_iff.mpr ⟨y, hchild, he⟩, hleaf, hgood⟩

mutual

/-- The scripts the walk comes upon at a node. -/
theorem Node.Proper.mem_sightings {x : Node} (h : x.Proper) (t : Files)
    (extensions : List String) {path : Path} (hpath : path.text ≠ "")
    (hname : path.fileName? = some x.name) (p : Path) (m : Int) :
    (p, m) ∈ (x.sightings t extensions path).filterMap script? ↔
      t.IsScript extensions p m ∧ ∃ way e, x.get? way = some e ∧ e.isDir = false ∧
        p = way.foldl Path.child path := by
  match x with
  | .dir label entries mtime =>
    have hentries : ProperEntries entries := h
    simp only [Node.sightings]
    split
    · rw [hentries.mem_sightingsIn t extensions path p m,
        Node.exists_leaf_iff hentries fun way => p = way.foldl Path.child path]
      rfl
    · next fault hclosed =>
      constructor
      · intro hmem
        simp [script?] at hmem
      · rintro ⟨hscript, way, e, he, -, rfl⟩
        obtain ⟨place, hplace⟩ := Files.exists_locate_of_mtimeOf hscript.readable
        obtain ⟨above, habove⟩ :=
          Files.exists_locate_of_below (Node.Proper.isEntryName_of_get? h he) hpath hplace
        rw [hclosed] at habove
        cases habove
  | .file .. => exact Files.mem_sight_leaf rfl hname
  | .link .. => exact Files.mem_sight_leaf rfl hname

/-- The scripts among the entries of a directory, and below them. -/
theorem ProperEntries.mem_sightingsIn {entries : List Node} (h : ProperEntries entries)
    (t : Files) (extensions : List String) (path : Path) (p : Path) (m : Int) :
    (p, m) ∈ (sightingsIn t extensions path entries).filterMap script? ↔
      t.IsScript extensions p m ∧ ∃ y ∈ entries, ∃ way e, y.get? way = some e ∧
        e.isDir = false ∧ p = way.foldl Path.child (path.child y.name) := by
  match entries with
  | [] => simp [sightingsIn]
  | x :: rest =>
    obtain ⟨hname, -, hx, hrest⟩ := h
    rw [sightingsIn, List.filterMap_append, List.mem_append,
      hx.mem_sightings t extensions (Path.text_child_ne_empty hname)
        (Path.fileName?_child path hname) p m,
      hrest.mem_sightingsIn t extensions path p m]
    simp only [List.mem_cons, exists_eq_or_imp, ← and_or_left]

end

/-- **The scripts the walk finds** are those below the directory. -/
theorem Walk.mem_scripts {t : Files} (h : t.Proper) (dir : Path) (extensions : List String)
    (p : Path) (m : Int) :
    (p, m) ∈ (Walk.run t dir extensions).scripts ↔ t.HasScript dir extensions p m := by
  unfold run
  split
  · next e hnowhere =>
    refine ⟨fun hmem => absurd hmem List.not_mem_nil, fun hscript => ?_⟩
    obtain ⟨way, e', ⟨place, d, hplace, -⟩, -⟩ := hscript.below
    rw [hnowhere] at hplace
    cases hplace
  · next place hplace =>
    have hdir : dir.text ≠ "" := (Files.locate_eq_ok.mp hplace).1
    split
    · next label entries mtime hget =>
      have hentries : ProperEntries entries := Node.Proper.get? h hget
      rw [ofSightings, List.mem_mergeSort, hentries.mem_sightingsIn t extensions dir p m]
      have hleaves : (∃ way e, (Node.dir label entries mtime).get? way = some e ∧
          e.isDir = false ∧ p = way.foldl Path.child dir) ↔ _ :=
        Node.exists_leaf_iff hentries fun way => p = way.foldl Path.child dir
      constructor
      · rintro ⟨hscript, hbelow⟩
        obtain ⟨way, e, he, hleaf, hp⟩ := hleaves.mpr hbelow
        exact ⟨hscript, way, e, ⟨place, _, hplace, hget, rfl, he⟩, hleaf, hp⟩
      · rintro ⟨hscript, way, e, ⟨place', d, hplace', hget', -, he⟩, hleaf, hp⟩
        obtain rfl := Except.ok.inj (hplace.symm.trans hplace')
        obtain rfl := Option.some.inj (hget.symm.trans hget')
        exact ⟨hscript, hleaves.mp ⟨way, e, he, hleaf, hp⟩⟩
    · next hnone =>
      refine ⟨fun hmem => absurd hmem List.not_mem_nil, fun hscript => ?_⟩
      obtain ⟨way, e, ⟨place', d, hplace', hget', hdir', -⟩, -⟩ := hscript.below
      obtain rfl := Except.ok.inj (hplace.symm.trans hplace')
      cases d with
      | dir label entries mtime => exact absurd hget' (hnone label entries mtime)
      | file | link => cases hdir'

/-- The paths of the scripts the walk finds. -/
theorem Walk.mem_paths {t : Files} (h : t.Proper) {dir : Path} {extensions : List String}
    {p : Path} : p ∈ (Walk.run t dir extensions).scripts.map Prod.fst ↔
      ∃ m, t.HasScript dir extensions p m := by
  simp only [List.mem_map, Prod.exists, exists_and_right, exists_eq_right, mem_scripts h]

/-- What is found has one path. -/
theorem Walk.eq_of_mem_paths {t : Files} (h : t.Proper) {dir : Path} {extensions : List String}
    {p q : Path} (hp : p ∈ (Walk.run t dir extensions).scripts.map Prod.fst)
    (hq : q ∈ (Walk.run t dir extensions).scripts.map Prod.fst) (hsame : p.Same q) : p = q := by
  obtain ⟨m, hp⟩ := (mem_paths h).mp hp
  obtain ⟨m', hq⟩ := (mem_paths h).mp hq
  exact hp.eq_of_same h hq h hsame

/-! ## The walk comes to its end -/

mutual

/-- How many nodes there are: a node and what is below it. -/
def Node.size : Node → Nat
  | .dir _ entries _ => entriesSize entries + 1
  | .file .. | .link .. => 1

/-- How many nodes there are among some entries and below them. -/
def entriesSize : List Node → Nat
  | [] => 0
  | x :: rest => x.size + entriesSize rest

end

/-- No node is without size. -/
theorem Node.size_pos (x : Node) : 0 < x.size := by
  cases x <;> simp [size]

mutual

/-- The walk comes upon nothing twice: each sighting is that of a node of its own. -/
theorem Node.length_sightings_le (x : Node) (t : Files) (extensions : List String) (path : Path) :
    (x.sightings t extensions path).length ≤ x.size := by
  match x with
  | .dir _ entries _ =>
    have hentries := length_sightingsIn_le entries t extensions path
    simp only [Node.sightings, Node.size]
    split
    · omega
    · simp
  | .file .. | .link .. =>
    simp only [Node.sightings, Node.size]
    split <;> simp

/-- Among entries no more is sighted than there is. -/
theorem length_sightingsIn_le (entries : List Node) (t : Files) (extensions : List String)
    (path : Path) : (sightingsIn t extensions path entries).length ≤ entriesSize entries := by
  match entries with
  | [] => simp [sightingsIn]
  | x :: rest =>
    have hx := x.length_sightings_le t extensions (path.child x.name)
    have hrest := length_sightingsIn_le rest t extensions path
    simp only [sightingsIn, List.length_append, entriesSize]
    omega

end

/-- No entry is larger than all of them together. -/
theorem size_le_entriesSize {x : Node} {entries : List Node} (h : x ∈ entries) :
    x.size ≤ entriesSize entries := by
  induction h with
  | head => simp [entriesSize]
  | tail _ _ ih =>
    simp only [entriesSize]
    omega

/-- What stands in a tree is no larger than the tree. -/
theorem Node.size_le_of_get? {x e : Node} {way : List String} (h : x.get? way = some e) :
    e.size ≤ x.size := by
  induction way generalizing x with
  | nil =>
    obtain rfl := Option.some.inj h
    exact Nat.le_refl _
  | cons name rest ih =>
    obtain ⟨y, hy, hbelow⟩ := Option.bind_eq_some_iff.mp h
    refine Nat.le_trans (ih hbelow) ?_
    cases x with
    | dir _ entries _ =>
      exact Nat.le_trans (size_le_entriesSize (List.mem_of_find?_eq_some hy)) (Nat.le_succ _)
    | file | link => simp [child?, entries] at hy

/-- Every sighting is a script or something to report, and not both. -/
theorem Walk.length_ofSightings (seen : List Sighting) :
    (ofSightings seen).scripts.length + (ofSightings seen).notices.length = seen.length := by
  simp only [ofSightings, List.length_mergeSort]
  induction seen with
  | nil => rfl
  | cons s rest ih =>
    cases s <;> simp only [List.filterMap_cons, script?, notice?, List.length_cons] <;> omega

/-- The walk looks at nothing twice: what it finds and what it reports is not more than
there is in the tree. -/
theorem Walk.length_run_le (t : Files) (dir : Path) (extensions : List String) :
    (run t dir extensions).scripts.length + (run t dir extensions).notices.length
      ≤ t.root.size := by
  have hroot := t.root.size_pos
  unfold run
  split
  · simp only [List.length_nil, List.length_singleton]
    omega
  · split
    · next entries _ hget =>
      have hsize := Node.size_le_of_get? hget
      have hseen := length_sightingsIn_le entries t extensions dir
      rw [length_ofSightings]
      simp only [Node.size] at hsize
      omega
    · simp only [List.length_nil, List.length_singleton]
      omega

/-! ## Exactly the scripts -/

/-- **The walk finds exactly the scripts** of a proper tree, whatever links there are in it:
the entries below the directory that are no directories, have a script extension and lead
to something with a modification time, each once and with that time.  It comes to its end
without looking at anything twice.  These are the scripts a scanner knows, when it is set up
and after every scan; and the autorun scripts are those of them that the settings take for
such, strictly ascending. -/
theorem Walk.finds_exactly {t : Files} (h : t.Proper) (dir : Path) (settings : ScriptSettings)
    (interval : Nat) :
    (∀ p m, (p, m) ∈ (run t dir settings.extensions).scripts ↔
      t.HasScript dir settings.extensions p m) ∧
    ((run t dir settings.extensions).scripts.map Prod.fst).Pairwise (fun p q => ¬ p.Same q) ∧
    (run t dir settings.extensions).scripts.length
      + (run t dir settings.extensions).notices.length ≤ t.root.size ∧
    (Scanner.new t dir settings.extensions interval).1.known
      = (run t dir settings.extensions).scripts ∧
    (∀ s : Scanner, s.dir = dir → s.extensions = settings.extensions →
      (s.scan t).2.1.known = (run t dir settings.extensions).scripts) ∧
    (∀ p, p ∈ (autorun t dir settings).1 ↔
      (∃ m, t.HasScript dir settings.extensions p m) ∧ settings.isAutorun p = true) ∧
    (autorun t dir settings).1.Pairwise fun p q => p.compare q = .lt := by
  refine ⟨mem_scripts h dir settings.extensions, scripts_distinct h dir _,
    length_run_le t dir _, rfl, ?_, fun p => ?_, ?_⟩
  · rintro s rfl hextensions
    simp only [Scanner.scan, hextensions]
  · simp only [autorun, List.mem_filter, List.mem_map, Prod.exists, exists_and_right,
      exists_eq_right, mem_scripts h]
  · exact (scripts_ascending h dir _).filter _

namespace Specimen

/-- A directory with a link to the directory beside it, a link that leads nowhere, and a
directory with a file in it. -/
def linked : Files :=
  ⟨.dir "" [.dir "s" [.link "_x.py" "../d", .link "_lost.py" "gone",
      .dir "sub" [.file "_a.py" .empty 7] 0] 0, .dir "d" [.file "_y.py" .empty 5] 3] 0, [], 0⟩

/-- The tree is a proper one. -/
theorem proper_linked : linked.Proper := by
  have hnames : ∀ name ∈ ["s", "_x.py", "_lost.py", "sub", "_a.py", "d", "_y.py"],
      IsEntryName name := by decide
  simp [Files.Proper, linked, Node.Proper, ProperEntries, Node.name, hnames]

/-- No name in it is too long. -/
theorem short_linked : ∀ name ∈ ["s", "_x.py", "_lost.py", "sub", "_a.py", "d", "gone"],
    Node.isTooLong name = false := by
  decide +kernel

theorem locate_linked_dir : linked.locate ⟨"s"⟩ true = .ok ["s"] := by
  have hsegments : Node.segments "s" = ["s"] := by decide +kernel
  rw [Files.locate_eq_resolve rfl (by decide +kernel), hsegments]
  simp [Node.resolve, Node.walk, short_linked, linked, Node.get?, Node.child?, Node.entries,
    Node.name, Node.isDir, Except.map]

/-- The one link leads to the directory beside the script directory. -/
theorem locate_linked_link : linked.locate ⟨"s/_x.py"⟩ true = .ok ["d"] := by
  have hsegments : Node.segments "s/_x.py" = ["s", "_x.py"] := by decide +kernel
  have htarget : Node.segments "../d" = ["..", "d"] := by decide +kernel
  have hrelative : (Path.mk "../d").isAbsolute = false := by decide +kernel
  rw [Files.locate_eq_resolve rfl (by decide +kernel), hsegments]
  simp [Node.resolve, Node.walk, short_linked, htarget, hrelative, Node.linkStart, Node.maxLinks,
    linked, Node.get?, Node.child?, Node.entries, Node.name, Node.isDir, Except.map]

/-- The other link leads nowhere. -/
theorem locate_linked_lost : linked.locate ⟨"s/_lost.py"⟩ true = .error .notFound := by
  have hsegments : Node.segments "s/_lost.py" = ["s", "_lost.py"] := by decide +kernel
  have htarget : Node.segments "gone" = ["gone"] := by decide +kernel
  have hrelative : (Path.mk "gone").isAbsolute = false := by decide +kernel
  rw [Files.locate_eq_resolve rfl (by decide +kernel), hsegments]
  simp [Node.resolve, Node.walk, short_linked, htarget, hrelative, Node.linkStart, Node.maxLinks,
    linked, Node.get?, Node.child?, Node.entries, Node.name, Node.isDir, Except.map]

theorem locate_linked_below :
    linked.locate ⟨"s/sub/_a.py"⟩ true = .ok ["s", "sub", "_a.py"] := by
  have hsegments : Node.segments "s/sub/_a.py" = ["s", "sub", "_a.py"] := by decide +kernel
  rw [Files.locate_eq_resolve rfl (by decide +kernel), hsegments]
  simp [Node.resolve, Node.walk, short_linked, linked, Node.get?, Node.child?, Node.entries,
    Node.name, Node.isDir, Except.map]

end Specimen

/-- In `Specimen.linked` the walk finds the link to a directory, with the time of that
directory, and the file in the directory below; both are autorun scripts.  It does not find
the link that leads nowhere. -/
theorem Walk.finds_exactly_links :
    (⟨"s/_x.py"⟩, 3) ∈ (run Specimen.linked ⟨"s"⟩ ScriptSettings.default.extensions).scripts ∧
    (⟨"s/sub/_a.py"⟩, 7)
      ∈ (run Specimen.linked ⟨"s"⟩ ScriptSettings.default.extensions).scripts ∧
    (∀ m, (⟨"s/_lost.py"⟩, m)
      ∉ (run Specimen.linked ⟨"s"⟩ ScriptSettings.default.extensions).scripts) ∧
    ⟨"s/_x.py"⟩ ∈ (autorun Specimen.linked ⟨"s"⟩ ScriptSettings.default).1 ∧
    ⟨"s/sub/_a.py"⟩ ∈ (autorun Specimen.linked ⟨"s"⟩ ScriptSettings.default).1 := by
  obtain ⟨hscripts, -, -, -, -, hautorun, -⟩ :=
    finds_exactly Specimen.proper_linked ⟨"s"⟩ ScriptSettings.default 1000
  have hlink : Specimen.linked.HasScript ⟨"s"⟩ ScriptSettings.default.extensions
      ⟨"s/_x.py"⟩ 3 :=
    { marked := by decide +kernel
      readable := by
        rw [Files.mtimeOf, Files.stat, Specimen.locate_linked_link]
        rfl
      below := ⟨["_x.py"], .link "_x.py" "../d",
        ⟨["s"], _, Specimen.locate_linked_dir, rfl, rfl, rfl⟩, rfl, by decide +kernel⟩ }
  have hfile : Specimen.linked.HasScript ⟨"s"⟩ ScriptSettings.default.extensions
      ⟨"s/sub/_a.py"⟩ 7 :=
    { marked := by decide +kernel
      readable := by
        rw [Files.mtimeOf, Files.stat, Specimen.locate_linked_below]
        rfl
      below := ⟨["sub", "_a.py"], .file "_a.py" .empty 7,
        ⟨["s"], _, Specimen.locate_linked_dir, rfl, rfl, rfl⟩, rfl, by decide +kernel⟩ }
  refine ⟨(hscripts _ _).mpr hlink, (hscripts _ _).mpr hfile, fun m hm => ?_,
    (hautorun _).mpr ⟨⟨3, hlink⟩, by decide +kernel⟩,
    (hautorun _).mpr ⟨⟨7, hfile⟩, by decide +kernel⟩⟩
  have hnowhere := ((hscripts _ _).mp hm).readable
  rw [Files.mtimeOf, Files.stat, Specimen.locate_linked_lost] at hnowhere
  cases hnowhere

end ScriptHost
