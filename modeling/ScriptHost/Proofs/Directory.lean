import ScriptHost.Files.Scanner
import ScriptHost.Proofs.Trees

/-!
# What is found in a directory

The path of an entry has the name of the entry for its last component, whatever separators
the path of the directory has.  So in a proper tree the walk finds no path twice.  Whether
a path is **among** those found is a matter of what it names; the difference between two
scans comes down to that.

* `Path.components_child` — the path of an entry;
* `Walk.scripts_distinct` — no path is found twice;
* `Walk.among_autorun` — the autorun scripts are picked from the scripts that are found;
* `Scanner.among_removed`, `Scanner.among_added`, `Scanner.among_changed` — how two scans
  differ.
-/

namespace ScriptHost

/-! ## Paths of entries -/

namespace Path

/-- Every text has a piece, if an empty one. -/
theorem pieces_ne_nil (cs : List Char) : pieces cs ≠ [] := by
  cases cs with
  | nil => simp [pieces]
  | cons c cs =>
    unfold pieces
    split
    · simp
    · split <;> simp

/-- A separator separates. -/
theorem pieces_append (cs ds : List Char) : pieces (cs ++ '/' :: ds) = pieces cs ++ pieces ds := by
  induction cs with
  | nil => simp [pieces]
  | cons c cs ih =>
    by_cases hc : c = '/'
    · simp [pieces, hc, ih]
    · cases hp : pieces cs with
      | nil => exact absurd hp (pieces_ne_nil cs)
      | cons p ps => simp [pieces, hc, ih, hp]

/-- What has no separator is one piece. -/
theorem pieces_of_not_mem {cs : List Char} (h : '/' ∉ cs) : pieces cs = [cs] := by
  induction cs with
  | nil => rfl
  | cons c cs ih =>
    obtain ⟨hc, hcs⟩ : '/' ≠ c ∧ '/' ∉ cs := by simpa using h
    simp [pieces, Ne.symm hc, ih hcs]

/-- The name of an entry is a component. -/
theorem component?_of_isEntryName {name : String} (h : IsEntryName name) :
    component? name.toList = some (.normal name) := by
  unfold component?
  split
  · next hnil => exact absurd (String.toList_inj.mp (hnil.trans (by decide))) h.ne_empty
  · next hdot => exact absurd (String.toList_inj.mp (hdot.trans (by decide))) h.ne_here
  · next hdots => exact absurd (String.toList_inj.mp (hdots.trans (by decide))) h.ne_parent
  · simp

/-- The name of an entry is a relative path. -/
theorem not_isAbsolute_name {name : String} (h : IsEntryName name) :
    (Path.mk name).isAbsolute = false := by
  have hhead : name.toList.head? ≠ some '/' := fun hslash => h.whole (List.mem_of_head? hslash)
  simp [isAbsolute, hhead]

/-- What an entry of a path goes by: a separator stands before the name. -/
theorem text_child {p : Path} {name : String} (h : IsEntryName name) (hp : p.text ≠ "") :
    ∃ before, (p.child name).text = before ++ "/" ++ name ∧
      (p.text = before ++ "/" ∨ p.text = before) := by
  rw [child, join, if_neg (by simp [not_isAbsolute_name h])]
  split
  · next hend =>
    rcases Bool.or_eq_true_iff.mp hend with hempty | hslash
    · exact absurd (by simpa using hempty) hp
    · obtain ⟨before, hbefore⟩ := List.getLast?_eq_some_iff.mp (eq_of_beq hslash)
      have htext : p.text = String.ofList before ++ "/" :=
        String.toList_inj.mp (by simp [hbefore])
      exact ⟨String.ofList before, by rw [htext], .inl htext⟩
  · exact ⟨p.text, rfl, .inr rfl⟩

/-- The path of an entry is not empty. -/
theorem text_child_ne_empty {p : Path} {name : String} (h : IsEntryName name) :
    (p.child name).text ≠ "" := by
  rw [child, join, if_neg (by simp [not_isAbsolute_name h])]
  split <;> simp [h.ne_empty]

/-- The path that is the name of an entry has that name for its only component. -/
theorem components_name {name : String} (h : IsEntryName name) :
    (Path.mk name).components = [.normal name] := by
  have hdot : name.toList ≠ ['.'] := fun hdot =>
    h.ne_here (String.toList_inj.mp (hdot.trans (by decide)))
  simp [components, not_isAbsolute_name h, pieces_of_not_mem h.whole, hdot,
    component?_of_isEntryName h]

/-- The components of a text with a separator and a name behind it. -/
theorem components_append {p q : Path} {before : List Char} {name : String} (h : IsEntryName name)
    (hq : q.text.toList = before ++ '/' :: name.toList)
    (hp : p.text.toList = before ++ ['/'] ∨ p.text.toList = before ∧ before ≠ []) :
    q.components = p.components ++ [.normal name] := by
  obtain ⟨piece, rest, hbefore⟩ := List.exists_cons_of_ne_nil (pieces_ne_nil before)
  have hpieces : pieces q.text.toList = pieces before ++ [name.toList] := by
    rw [hq, pieces_append, pieces_of_not_mem h.whole]
  have hnamed : (pieces q.text.toList).filterMap component?
      = (pieces before).filterMap component? ++ [.normal name] := by
    simp [hpieces, component?_of_isEntryName h]
  obtain ⟨habsolute, hhead, hparts⟩ : q.isAbsolute = p.isAbsolute ∧
      (pieces q.text.toList).head? = (pieces p.text.toList).head? ∧
      (pieces p.text.toList).filterMap component? = (pieces before).filterMap component? := by
    rcases hp with hp | ⟨hp, hne⟩
    · have hend : pieces p.text.toList = pieces before ++ [[]] := by
        rw [hp, pieces_append]
        rfl
      refine ⟨?_, by simp [hpieces, hend, hbefore], by simp [hend, component?]⟩
      cases before <;> simp [isAbsolute, hq, hp]
    · obtain ⟨c, cs, rfl⟩ := List.exists_cons_of_ne_nil hne
      exact ⟨by simp [isAbsolute, hq, hp], by simp [hpieces, hp, hbefore], by rw [hp]⟩
  simp only [components, habsolute, hhead, hparts, hnamed, List.append_assoc]

/-- **The path of an entry** has the name of the entry for its last component. -/
theorem components_child (p : Path) {name : String} (h : IsEntryName name) :
    (p.child name).components = p.components ++ [.normal name] := by
  by_cases hempty : p.text = ""
  · have hchild : p.child name = ⟨name⟩ := by simp [child, join, not_isAbsolute_name h, hempty]
    have hnone : p.components = [] := by
      simp [components, isAbsolute, hempty, pieces, component?]
    rw [hchild, hnone, components_name h]
    rfl
  · obtain ⟨before, htext, hp⟩ := text_child h hempty
    have hchild : (p.child name).text.toList = before.toList ++ '/' :: name.toList := by
      simp [htext]
    refine components_append h hchild ?_
    rcases hp with hp | hp
    · exact .inl (by simp [hp])
    · refine .inr ⟨by rw [hp], fun hnil => hempty ?_⟩
      rw [hp]
      exact String.toList_inj.mp (hnil.trans (by decide))

end Path

/-! ## What a walk finds -/

/-- The paths of the scripts among what was sighted. -/
def Sighting.paths (seen : List Sighting) : List Path :=
  (seen.filterMap Sighting.script?).map Prod.fst

open Sighting

/-- An entry that is no directory is a script of its own path, or none. -/
theorem Files.paths_sight (t : Files) (path : Path) (marked : Bool) :
    paths (if marked then [t.sight path] else []) = [path] ∨
      paths (if marked then [t.sight path] else []) = [] := by
  cases marked with
  | false => exact Or.inr rfl
  | true =>
    simp only [if_true, Files.sight]
    split
    · exact Or.inl rfl
    · exact Or.inr rfl

mutual

/-- The scripts the walk comes upon at a node go on from the path of the node, and no two
are the same. -/
theorem Node.Proper.sightings {x : Node} (h : x.Proper) (t : Files) (extensions : List String)
    (path : Path) :
    (∀ p ∈ paths (x.sightings t extensions path), path.components <+: p.components) ∧
      (paths (x.sightings t extensions path)).Pairwise fun p q => ¬ p.Same q := by
  match x with
  | .dir _ entries _ =>
    simp only [Node.sightings]
    split
    · obtain ⟨hbelow, hdistinct⟩ := ProperEntries.sightings h t extensions path
      refine ⟨fun p hp => ?_, hdistinct⟩
      obtain ⟨y, -, hprefix⟩ := hbelow p hp
      exact (List.prefix_append _ _).trans hprefix
    · exact ⟨by simp [paths, Sighting.script?], List.Pairwise.nil⟩
  | .file name _ _ =>
    rcases t.paths_sight path (hasExtension extensions name) with hone | hnone
    · simp [Node.sightings, hone]
    · simp [Node.sightings, hnone]
  | .link name _ =>
    rcases t.paths_sight path (hasExtension extensions name) with hone | hnone
    · simp [Node.sightings, hone]
    · simp [Node.sightings, hnone]

/-- What is sighted among the entries of a directory lies below one of them, and is sighted
once. -/
theorem ProperEntries.sightings {entries : List Node} (h : ProperEntries entries) (t : Files)
    (extensions : List String) (path : Path) :
    (∀ p ∈ paths (sightingsIn t extensions path entries), ∃ x ∈ entries,
        path.components ++ [.normal x.name] <+: p.components) ∧
      (paths (sightingsIn t extensions path entries)).Pairwise fun p q => ¬ p.Same q := by
  match entries with
  | [] => simp [sightingsIn, paths]
  | x :: rest =>
    obtain ⟨hname, hother, hx, hrest⟩ := h
    obtain ⟨hfirst, hdistinct⟩ := hx.sightings t extensions (path.child x.name)
    obtain ⟨hbelow, hdistinct'⟩ := ProperEntries.sightings hrest t extensions path
    rw [Path.components_child path hname] at hfirst
    have hall : paths (sightingsIn t extensions path (x :: rest))
        = paths (x.sightings t extensions (path.child x.name))
          ++ paths (sightingsIn t extensions path rest) := by
      simp [sightingsIn, paths]
    rw [hall]
    refine ⟨fun p hp => ?_,
      List.pairwise_append.mpr ⟨hdistinct, hdistinct', fun p hp q hq hsame => ?_⟩⟩
    · rcases List.mem_append.mp hp with hp | hp
      · exact ⟨x, List.mem_cons_self, hfirst p hp⟩
      · obtain ⟨y, hy, hprefix⟩ := hbelow p hp
        exact ⟨y, List.mem_cons_of_mem x hy, hprefix⟩
    · obtain ⟨y, hy, hprefix⟩ := hbelow q hq
      have hprefix' : path.components ++ [.normal x.name] <+: q.components := hsame ▸ hfirst p hp
      have heq :=
        (List.prefix_of_prefix_length_le hprefix' hprefix (by simp)).eq_of_length (by simp)
      have hnames : x.name = y.name := by simpa using heq
      exact hother y hy hnames.symm

end

/-- **No path is found twice** in a proper tree. -/
theorem Walk.scripts_distinct {t : Files} (h : t.Proper) (dir : Path)
    (extensions : List String) :
    ((Walk.run t dir extensions).scripts.map Prod.fst).Pairwise fun p q => ¬ p.Same q := by
  unfold Walk.run
  split
  · exact List.Pairwise.nil
  · next place _ =>
    split
    · next entries _ hdir =>
      have hentries : ProperEntries entries := Node.Proper.get? h hdir
      have hperm := (List.mergeSort_perm ((sightingsIn t extensions dir entries).filterMap script?)
        fun a b => a.1.le b.1).map Prod.fst
      exact (hperm.pairwise_iff fun {p q} hpq hqp => hpq hqp.symm).mpr
        (hentries.sightings t extensions dir).2
    · exact List.Pairwise.nil

/-! ## What is found, and how it differs -/

/-- Whether a path is among some paths. -/
def Path.among (p : Path) (ps : List Path) : Bool :=
  ps.any fun q => p.Same q

namespace Path

/-- Sameness of paths goes both ways. -/
theorem same_comm {p q : Path} : p.Same q ↔ q.Same p :=
  ⟨Same.symm, Same.symm⟩

/-- A path is among some if one of them names the same. -/
theorem among_iff {p : Path} {ps : List Path} : p.among ps = true ↔ ∃ q ∈ ps, p.Same q := by
  simp [among]

@[simp] theorem among_nil (p : Path) : p.among [] = false :=
  rfl

/-- A path is the first of some, or among the others. -/
theorem among_cons (p q : Path) (rest : List Path) :
    p.among (q :: rest) = (decide (p.Same q) || p.among rest) :=
  rfl

/-- Whether a path is among some depends on what it names only. -/
theorem among_congr {p q : Path} (h : p.Same q) (ps : List Path) : p.among ps = q.among ps := by
  have hiff : ∀ r : Path, p.Same r ↔ q.Same r := fun r => ⟨h.symm.trans, h.trans⟩
  simp only [among, hiff]

/-- A test that paths pass or fail by what they name picks the path, or not. -/
theorem among_filter {test : Path → Bool} (htest : ∀ p q, p.Same q → test p = test q) (p : Path)
    (ps : List Path) : p.among (ps.filter test) = (p.among ps && test p) := by
  rw [Bool.eq_iff_iff, Bool.and_eq_true, among_iff, among_iff]
  constructor
  · rintro ⟨q, hq, hsame⟩
    obtain ⟨hmem, hpass⟩ := List.mem_filter.mp hq
    exact ⟨⟨q, hmem, hsame⟩, (htest p q hsame).trans hpass⟩
  · rintro ⟨⟨q, hmem, hsame⟩, hpass⟩
    exact ⟨q, List.mem_filter.mpr ⟨hmem, (htest p q hsame).symm.trans hpass⟩, hsame⟩

/-- Paths that name the same end in the same name. -/
theorem fileName?_congr {p q : Path} (h : p.Same q) : p.fileName? = q.fileName? := by
  rw [fileName?, fileName?, h]

end Path

namespace ScriptSettings

/-- Whether a script is an autorun script depends on what its path names only. -/
theorem isAutorun_congr (settings : ScriptSettings) (p q : Path) (h : p.Same q) :
    settings.isAutorun p = settings.isAutorun q := by
  simp only [isAutorun, isScriptFile, Path.extension?, Path.fileName?_congr h]

end ScriptSettings

/-- The autorun scripts are the autorun ones among the scripts. -/
theorem Walk.among_autorun (t : Files) (dir : Path) (settings : ScriptSettings) (p : Path) :
    p.among (autorun t dir settings).1
      = (p.among ((run t dir settings.extensions).scripts.map Prod.fst) && settings.isAutorun p) :=
  Path.among_filter settings.isAutorun_congr p _

namespace Scanner

/-- The time under which a path is known depends on what it names only. -/
theorem timeOf?_congr {p q : Path} (h : p.Same q) (known : List (Path × Int)) :
    timeOf? known p = timeOf? known q := by
  have hiff : ∀ r : Path, p.Same r ↔ q.Same r := fun r => ⟨h.symm.trans, h.trans⟩
  simp only [timeOf?, hiff]

/-- A path has a time if it is known. -/
theorem isSome_timeOf? (known : List (Path × Int)) (p : Path) :
    (timeOf? known p).isSome = p.among (known.map Prod.fst) := by
  rw [timeOf?, Option.isSome_map, List.isSome_find?, Path.among, List.any_map]
  rfl

/-- A path has no time if it is not known. -/
theorem isNone_timeOf? (known : List (Path × Int)) (p : Path) :
    (timeOf? known p).isNone = !p.among (known.map Prod.fst) := by
  rw [← isSome_timeOf?, Option.not_isSome]

/-- Removed is what was found and is not found any more. -/
theorem among_removed (old new : List (Path × Int)) (p : Path) :
    p.among (difference old new).removed
      = (p.among (old.map Prod.fst) && !p.among (new.map Prod.fst)) := by
  have hlist : (difference old new).removed
      = (old.map Prod.fst).filter fun q => !q.among (new.map Prod.fst) := by
    simp only [difference, isNone_timeOf?, List.filter_map]
    rfl
  rw [hlist]
  exact Path.among_filter (fun p q h => congrArg not (Path.among_congr h _)) p _

/-- Added is what is found and was not found before. -/
theorem among_added (old new : List (Path × Int)) (p : Path) :
    p.among (difference old new).added
      = (p.among (new.map Prod.fst) && !p.among (old.map Prod.fst)) := by
  have hlist : (difference old new).added
      = (new.map Prod.fst).filter fun q => !q.among (old.map Prod.fst) := by
    simp only [difference, isNone_timeOf?, List.filter_map]
    rfl
  rw [hlist]
  exact Path.among_filter (fun p q h => congrArg not (Path.among_congr h _)) p _

/-- Changed is what is found, and was found before with another modification time. -/
theorem among_changed (old new : List (Path × Int)) (p : Path) :
    p.among ((difference old new).changed.map Prod.fst) = true ↔
      ∃ e ∈ new, p.Same e.1 ∧ ∃ t, timeOf? old p = some t ∧ t ≠ e.2 := by
  simp only [Path.among_iff, List.mem_map, difference, List.mem_filter]
  constructor
  · rintro ⟨_, ⟨e, ⟨he, hdiffers⟩, rfl⟩, hsame⟩
    rw [← timeOf?_congr hsame] at hdiffers
    cases ht : timeOf? old p with
    | none => simp [ht] at hdiffers
    | some t => exact ⟨e, he, hsame, t, rfl, by simpa [ht] using hdiffers⟩
  · rintro ⟨e, he, hsame, t, ht, hne⟩
    refine ⟨e.1, ⟨e, ⟨he, ?_⟩, rfl⟩, hsame⟩
    rw [← timeOf?_congr hsame, ht]
    simpa using hne

/-- Added is what is found and was not known. -/
theorem mem_added {old new : List (Path × Int)} {p : Path} : p ∈ (difference old new).added ↔
    p ∈ new.map Prod.fst ∧ p.among (old.map Prod.fst) = false := by
  simp only [difference, List.mem_map, List.mem_filter, isNone_timeOf?, Bool.not_eq_true']
  constructor
  · rintro ⟨e, ⟨he, hnew⟩, rfl⟩
    exact ⟨⟨e, he, rfl⟩, hnew⟩
  · rintro ⟨⟨e, he, rfl⟩, hnew⟩
    exact ⟨e, ⟨he, hnew⟩, rfl⟩

/-- Removed is what would be added the other way round. -/
theorem mem_removed {old new : List (Path × Int)} {p : Path} :
    p ∈ (difference old new).removed ↔
      p ∈ old.map Prod.fst ∧ p.among (new.map Prod.fst) = false :=
  mem_added

/-- Changed is what is found with another modification time than before. -/
theorem mem_changed {old new : List (Path × Int)} {p : Path} {m : Int} :
    (p, m) ∈ (difference old new).changed ↔
      (p, m) ∈ new ∧ ∃ before, timeOf? old p = some before ∧ before ≠ m := by
  rw [difference, List.mem_filter]
  cases timeOf? old p <;> simp

end Scanner

/-- Whoever stands at the root finds a path by its segments alone. -/
theorem Files.locate_eq_resolve {t : Files} {p : Path} (hroot : t.cwd = [])
    (hp : (p.text.isEmpty || isTooLong p) = false) {follow : Bool} :
    t.locate p follow = t.root.resolve follow [] (Node.segments p.text) := by
  obtain ⟨hnonempty, hshort⟩ := Bool.or_eq_false_iff.mp hp
  have hstart : t.start p = [] := by simp [start, hroot]
  simp [locate, hnonempty, hshort, hstart]

/-! ## A directory with one script -/

namespace Specimen

/-- What is found in a directory with one script, or with none. -/
def scripts (mtime : Option Int) : List (Path × Int) :=
  (mtime.map fun m => (⟨"s/a.py"⟩, m)).toList

/-- The directory. -/
def disk (mtime : Option Int) : Files :=
  ⟨.dir "" [.dir "s" (mtime.map fun m => .file "a.py" .empty m).toList 0] 0, [], 0⟩

theorem locate_disk_dir (mtime : Option Int) : (disk mtime).locate ⟨"s"⟩ true = .ok ["s"] := by
  have hsegments : Node.segments "s" = ["s"] := by decide +kernel
  have hname : Node.isTooLong "s" = false := by decide +kernel
  rw [Files.locate_eq_resolve rfl (by decide +kernel), hsegments]
  simp [Node.resolve, Node.walk, hname, disk, Node.get?, Node.child?, Node.entries, Node.name,
    Node.isDir, Except.map]

theorem locate_disk_file (m : Int) :
    (disk (some m)).locate ⟨"s/a.py"⟩ true = .ok ["s", "a.py"] := by
  have hsegments : Node.segments "s/a.py" = ["s", "a.py"] := by decide +kernel
  have hname : Node.isTooLong "s" = false := by decide +kernel
  have hname' : Node.isTooLong "a.py" = false := by decide +kernel
  rw [Files.locate_eq_resolve rfl (by decide +kernel), hsegments]
  simp [Node.resolve, Node.walk, hname, hname', disk, Node.get?, Node.child?, Node.entries,
    Node.name, Node.isDir, Except.map]

/-- The walk through the directory finds the script. -/
theorem run_disk (mtime : Option Int) :
    Walk.run (disk mtime) ⟨"s"⟩ ["py"] = ⟨scripts mtime, []⟩ := by
  cases mtime with
  | none =>
    have hget : (disk none).root.get? ["s"] = some (.dir "s" [] 0) := by rfl
    simp [Walk.run, locate_disk_dir, hget, sightingsIn, Walk.ofSightings, scripts]
  | some m =>
    have hmarked : hasExtension ["py"] "a.py" = true := by decide +kernel
    have hchild : Path.child ⟨"s"⟩ "a.py" = ⟨"s/a.py"⟩ := by decide +kernel
    have htime : (disk (some m)).mtimeOf ⟨"s/a.py"⟩ = .ok m := by
      rw [Files.mtimeOf, Files.stat, locate_disk_file]
      rfl
    have hget : (disk (some m)).root.get? ["s"] = some (.dir "s" [.file "a.py" .empty m] 0) := by
      rfl
    simp [Walk.run, locate_disk_dir, hget, sightingsIn, Node.sightings, Node.name, hmarked, hchild,
      Files.sight, htime, Walk.ofSightings, Sighting.script?, Sighting.notice?, scripts]

/-- The tree is a proper one. -/
theorem proper_disk (mtime : Option Int) : (disk mtime).Proper := by
  have hdir : IsEntryName "s" := by decide
  have hfile : IsEntryName "a.py" := by decide
  cases mtime <;> simp [Files.Proper, disk, Node.Proper, ProperEntries, Node.name, hdir, hfile]

end Specimen

end ScriptHost
