import ScriptHost.Proofs.Cycles
import ScriptHost.Proofs.Enlistment

/-!
# Directories that pass for scripts

An entry that is a directory is entered, and is never a script.  A link is an entry like a
file: it is never entered, and whatever it leads to has a modification time.  So a link that
has a script extension and leads to a directory is a **disguise**, and goes for a script;
nothing else that leads to a directory does.  An entry that is no link is what its path leads
to, so the two views of an entry disagree on links only.

* `Files.locate_child_eq` — an entry that is no link is found where it stands;
* `Files.get?_of_below` — what is below a directory is what its path leads to;
* `Files.hasDisguise_iff` — the scripts that lead to directories are the disguises;
* `Registry.Extends.gains_iff` — who is registered for the first time;
* `Scene.Reachable.disguises_pass` — the directories that are found, and registered.
-/

namespace ScriptHost

/-! ## What a path below a directory leads to -/

/-- Whether a node is a link. -/
def Node.isLink : Node → Bool
  | link .. => true
  | _ => false

theorem Node.get?_append (x : Node) (place : List String) (way : List String) :
    x.get? (place ++ way) = (x.get? place).bind (get? way) := by
  induction place generalizing x with
  | nil => rfl
  | cons name rest ih =>
    rw [List.cons_append, get?, get?, Option.bind_assoc]
    exact congrArg _ (funext ih)

/-- Only a directory holds anything. -/
theorem Node.isDir_of_child? {x y : Node} {name : String} (h : x.child? name = some y) :
    x.isDir = true := by
  cases x with
  | dir => rfl
  | file | link => simp [child?, entries] at h

namespace Files

variable {t : Files} {p : Path} {name : String} {place dest : List String} {d y e : Node}

/-- **An entry that is no link** is found where it stands, if it is found. -/
theorem locate_child_eq (hentry : IsEntryName name) (hplace : t.locate p true = .ok place)
    (hd : t.root.get? place = some d) (hy : d.child? name = some y) (hplain : y.isLink = false)
    (h : t.locate (p.child name) true = .ok dest) : dest = place ++ [name] := by
  obtain ⟨above, rest, left, habove, hwalk⟩ :=
    exists_walk_of_child hentry (locate_eq_ok.mp hplace).1 h
  obtain rfl := Except.ok.inj (hplace.symm.trans habove)
  rw [Node.walk, hd] at hwalk
  simp only [Node.isDir_of_child? hy, hentry.ne_empty, hentry.ne_here, hentry.ne_parent, hy]
    at hwalk
  cases y with
  | link => cases hplain
  | file | dir =>
    by_cases hlong : Node.isTooLong name
    · simp [hlong] at hwalk
    · simp [hlong, Node.walk] at hwalk
      exact hwalk.1.symm

/-- **What is below a directory** and no link is what its path leads to, if it leads
anywhere. -/
theorem get?_of_below {way : List String} (hway : ∀ name ∈ way, IsEntryName name)
    (hplace : t.locate p true = .ok place) (hd : t.root.get? place = some d)
    (he : d.get? way = some e) (hplain : e.isLink = false)
    (h : t.locate (way.foldl Path.child p) true = .ok dest) : t.root.get? dest = some e := by
  induction way generalizing p place d with
  | nil =>
    obtain rfl := Except.ok.inj (hplace.symm.trans h)
    obtain rfl := Option.some.inj he
    exact hd
  | cons name rest ih =>
    obtain ⟨hname, hrest⟩ := List.forall_mem_cons.mp hway
    obtain ⟨y, hy, he⟩ := Option.bind_eq_some_iff.mp he
    have hnolink : y.isLink = false := by
      cases rest with
      | nil =>
        obtain rfl := Option.some.inj he
        exact hplain
      | cons next rest =>
        obtain ⟨z, hz, -⟩ := Option.bind_eq_some_iff.mp he
        cases y with
        | link => cases Node.isDir_of_child? hz
        | file | dir => rfl
    obtain ⟨next, hnext⟩ := exists_locate_of_below hrest (Path.text_child_ne_empty hname) h
    obtain rfl := locate_child_eq hname hplace hd hy hnolink hnext
    have hget : t.root.get? (place ++ [name]) = some y := by
      rw [Node.get?_append, hd]
      simp [Node.get?, hy]
    exact ih hrest hnext hget he h

/-- A path leads to a directory, directly or through links. -/
def LeadsToDir (t : Files) (p : Path) : Prop :=
  ∃ x, t.stat p = .ok x ∧ x.isDir = true

/-- A disguise below a directory: a link with a script extension that leads to a directory. -/
structure HasDisguise (t : Files) (dir : Path) (extensions : List String) (p : Path) : Prop where
  marked : p.extension?.any extensions.contains = true
  leads : t.LeadsToDir p
  below : ∃ way name target, t.Below dir way (.link name target) ∧ p = way.foldl Path.child dir

/-- What leads to a directory has a modification time. -/
theorem LeadsToDir.exists_mtimeOf (h : t.LeadsToDir p) : ∃ m, t.mtimeOf p = .ok m := by
  obtain ⟨x, hx, hdir⟩ := h
  cases x with
  | dir label entries mtime => exact ⟨mtime, by simp [mtimeOf, hx, Except.bind, Node.mtime?]⟩
  | file | link => cases hdir

/-- Where a path leads if it leads to something. -/
theorem stat_eq_ok : t.stat p = .ok e ↔
    ∃ place, t.locate p true = .ok place ∧ t.root.get? place = some e := by
  unfold stat
  cases t.locate p true with
  | error => simp [Except.bind]
  | ok place => cases hget : t.root.get? place <;> simp [Except.bind, hget]

/-- **The scripts that lead to directories** are the disguises. -/
theorem hasDisguise_iff (h : t.Proper) {dir : Path} {extensions : List String} :
    (∃ m, t.HasScript dir extensions p m) ∧ t.LeadsToDir p ↔ t.HasDisguise dir extensions p := by
  constructor
  · rintro ⟨⟨m, hscript⟩, hleads⟩
    obtain ⟨way, e, ⟨place, d, hplace, hd, hdir, he⟩, hleaf, rfl⟩ := hscript.below
    refine ⟨hscript.marked, hleads, ?_⟩
    obtain ⟨x, hx, hxdir⟩ := hleads
    obtain ⟨dest, hdest, hget⟩ := stat_eq_ok.mp hx
    cases e with
    | link name target => exact ⟨way, name, target, ⟨place, d, hplace, hd, hdir, he⟩, rfl⟩
    | dir => cases hleaf
    | file =>
      have hway := Node.Proper.isEntryName_of_get? (Node.Proper.get? h hd) he
      have hfile := get?_of_below hway hplace hd he rfl hdest
      obtain rfl := Option.some.inj (hget.symm.trans hfile)
      cases hxdir
  · intro hdisguise
    obtain ⟨m, hm⟩ := hdisguise.leads.exists_mtimeOf
    obtain ⟨way, name, target, hbelow, hp⟩ := hdisguise.below
    exact ⟨⟨m, ⟨hdisguise.marked, hm⟩, way, _, hbelow, rfl, hp⟩, hdisguise.leads⟩

end Files

/-! ## Who is registered for the first time -/

variable {D : Dialect} {I : Interpreter D} {concurrent : Bool}

namespace Registry

variable {r r' mid : Registry D} {settings : ScriptSettings} {found : List Path}
  {news : List Entry} {changes : ScanResult} {n : Nat} {p : Path}

/-- A path is registered that was not before. -/
def Gains (r r' : Registry D) (p : Path) : Prop :=
  (∃ e ∈ r'.entries, e.path = p) ∧ r.contains p = false

/-- **Who is registered for the first time**: what is found, if it is not known, whoever is
kept of those that were registered before. -/
theorem Extends.gains_iff {kept : Registry D} (h : kept.Extends settings found news r')
    (hkept : ∀ q : Path, kept.contains q = true → r.contains q = true)
    (hfound : ∀ q ∈ found, p ∈ found → q.Same p → q = p) :
    r.Gains r' p ↔ p ∈ found ∧ r.contains p = false := by
  constructor
  · rintro ⟨⟨e, he, rfl⟩, hunknown⟩
    refine ⟨?_, hunknown⟩
    rw [h.entries, List.mem_append] at he
    rcases he with he | he
    · have hknown := hkept e.path (contains_iff.mpr ⟨e, he, .refl _⟩)
      rw [hunknown] at hknown
      cases hknown
    · exact h.mem e he
  · rintro ⟨hp, hunknown⟩
    have hnow : r'.contains p = true := by
      rw [h.contains, Path.among_iff.mpr ⟨p, hp, .refl p⟩, Bool.or_true]
    obtain ⟨e, he, hsame⟩ := contains_iff.mp hnow
    refine ⟨⟨e, he, ?_⟩, hunknown⟩
    rw [h.entries, List.mem_append] at he
    rcases he with he | he
    · have hknown := hkept p (contains_iff.mpr ⟨e, he, hsame⟩)
      rw [hunknown] at hknown
      cases hknown
    · exact hfound e.path (h.mem e he) hp hsame.symm

end Registry

/-! ## The directories that are found -/

namespace Files

variable {t : Files} {dir : Path} {extensions : List String} {p : Path}

/-- Where scripts are listed, the directories among them are the disguises. -/
theorem disguise_of_mem_paths (h : t.Proper) :
    p ∈ (Walk.run t dir extensions).scripts.map Prod.fst ∧ t.LeadsToDir p ↔
      t.HasDisguise dir extensions p := by
  rw [← hasDisguise_iff h, Walk.mem_paths h]

end Files

namespace Walk

variable {t : Files} {dir : Path} {settings : ScriptSettings} {p : Path}

theorem mem_autorun : p ∈ (autorun t dir settings).1 ↔
    p ∈ (run t dir settings.extensions).scripts.map Prod.fst ∧ settings.isAutorun p = true :=
  List.mem_filter

end Walk

/-- What is reported as changed was known with another modification time. -/
theorem Scanner.mem_changed_paths {t : Files} (h : t.Proper) {watch : Scanner} {p : Path} :
    p ∈ (watch.scan t).1.changed.map Prod.fst ↔
      p ∈ (Walk.run t watch.dir watch.extensions).scripts.map Prod.fst ∧
        ∃ before, timeOf? watch.known p = some before ∧ t.mtimeOf p ≠ .ok before := by
  rw [scan]
  constructor
  · intro hp
    obtain ⟨⟨q, m⟩, hchanged, rfl⟩ := List.mem_map.mp hp
    obtain ⟨hmem, before, hbefore, hne⟩ := mem_changed.mp hchanged
    have hreadable := ((Walk.mem_scripts h _ _ _ _).mp hmem).readable
    refine ⟨List.mem_map_of_mem hmem, before, hbefore, fun hsame => hne ?_⟩
    exact (Except.ok.inj (hreadable.symm.trans hsame)).symm
  · rintro ⟨hp, before, hbefore, hne⟩
    obtain ⟨⟨q, m⟩, hmem, rfl⟩ := List.mem_map.mp hp
    have hreadable := ((Walk.mem_scripts h _ _ _ _).mp hmem).readable
    refine List.mem_map_of_mem (mem_changed.mpr ⟨hmem, before, hbefore, fun hsame => hne ?_⟩)
    rw [hreadable, hsame]

/-- What a session learns of as added is what its scanner reports, if it is time to scan. -/
theorem Session.mem_added_lookAt {s : Session D} {t : Files} {clock : Int} {p : Path} :
    p ∈ (s.lookAt t clock).1.added ↔ ∃ scanner ∈ s.scanner,
      scanner.isDue (clock - s.lastScan).toNat = true ∧ p ∈ (scanner.scan t).1.added := by
  unfold lookAt
  cases s.scanner with
  | none => simp
  | some scanner =>
    by_cases hdue : scanner.isDue (clock - s.lastScan).toNat = true
    · simp [hdue]
    · simp [hdue]

section Registering

variable {t : Files} {dir : Path} {settings : ScriptSettings} {p : Path}

/-- **Discovery** registers the autorun scripts that are not known. -/
theorem Host.gains_of_discover {h h' : Host D} {cs : List (Config D)}
    {result : Except RegistryError Nat} (ht : t.Proper)
    (hc : (discover t dir settings).Trace I h cs result h') :
    h.registry.Gains h'.registry p ↔
      p ∈ (Walk.autorun t dir settings).1 ∧ h.registry.contains p = false := by
  obtain ⟨news, hextends⟩ := trace_discover hc
  refine hextends.gains_iff (fun _ => id) fun q hq hp hsame => ?_
  exact Walk.eq_of_mem_paths ht (Walk.mem_autorun.mp hq).1 (Walk.mem_autorun.mp hp).1 hsame

/-- **Reloading from disk** registers the autorun scripts that the scan reports as added, if
they are not known. -/
theorem Session.gains_of_reloadFromDisk {s s' : Session D} {clock : Int} {cs : List (Config D)}
    {n : Nat} (hs : s.host.WellKept I concurrent) (ht : t.Proper)
    (hc : (reloadFromDisk t clock).Trace I s cs n s') :
    s.host.registry.Gains s'.host.registry p ↔
      p ∈ (s.lookAt t clock).1.added ∧ s.settings.isAutorun p = true ∧
        s.host.registry.contains p = false := by
  obtain ⟨-, -, -, mid, news, happlies, -⟩ := trace_reloadFromDisk hs hc
  have hgains := happlies.appends.gains_iff (r := s.host.registry) (p := p) (fun q hq => ?_)
    fun q hq hp hsame => ?_
  · rw [hgains, List.mem_filter, and_assoc]
  · rw [Registry.contains_filter, happlies.renews.contains, Bool.and_eq_true] at hq
    exact hq.1
  · obtain ⟨scanner, hscanner, -, hp⟩ := mem_added_lookAt.mp (List.mem_filter.mp hp).1
    obtain ⟨scanner', hscanner', -, hq⟩ := mem_added_lookAt.mp (List.mem_filter.mp hq).1
    obtain rfl := Option.some.inj (hscanner.symm.trans hscanner')
    exact Walk.eq_of_mem_paths ht (Scanner.mem_added.mp hq).1 (Scanner.mem_added.mp hp).1 hsame

end Registering

/-- **Only disguises pass for scripts.**  Whatever tree there is, the paths that lead to
directories among those that are found are the links with a script extension that lead to
directories, and no others: among the autorun scripts, among what a scanner knows when it is
set up and after a scan, among what it reports as added, and among what it reports as
changed.  So the directories that discovery or a reload from disk registers are such links. -/
theorem Scene.Reachable.disguises_pass {x : Scene D} (h : x.Reachable I concurrent)
    (hrest : x.AtRest) {t : Files} (ht : t.Proper) (dir : Path) (settings : ScriptSettings)
    (interval : Nat) (watch : Scanner) (p : Path) :
    (p ∈ (Walk.autorun t dir settings).1 ∧ t.LeadsToDir p ↔
      t.HasDisguise dir settings.extensions p ∧ settings.isAutorun p = true) ∧
    (p ∈ (Scanner.new t dir settings.extensions interval).1.known.map Prod.fst ∧ t.LeadsToDir p ↔
      t.HasDisguise dir settings.extensions p) ∧
    (p ∈ (watch.scan t).2.1.known.map Prod.fst ∧ t.LeadsToDir p ↔
      t.HasDisguise watch.dir watch.extensions p) ∧
    (p ∈ (watch.scan t).1.added ∧ t.LeadsToDir p ↔
      t.HasDisguise watch.dir watch.extensions p ∧
        p.among (watch.known.map Prod.fst) = false) ∧
    (p ∈ (watch.scan t).1.changed.map Prod.fst ∧ t.LeadsToDir p ↔
      t.HasDisguise watch.dir watch.extensions p ∧
        ∃ before, Scanner.timeOf? watch.known p = some before ∧ t.mtimeOf p ≠ .ok before) ∧
    (∀ cs result h', (Host.discover t dir settings).Trace I x.session.host cs result h' →
      (x.session.host.registry.Gains h'.registry p ∧ t.LeadsToDir p ↔
        t.HasDisguise dir settings.extensions p ∧ settings.isAutorun p = true ∧
          x.session.host.registry.contains p = false)) ∧
    ∀ clock cs n s', (Session.reloadFromDisk t clock).Trace I x.session cs n s' →
      (x.session.host.registry.Gains s'.host.registry p ∧ t.LeadsToDir p ↔
        ∃ scanner ∈ x.session.scanner, scanner.isDue (clock - x.session.lastScan).toNat = true ∧
          t.HasDisguise scanner.dir scanner.extensions p ∧
          p.among (scanner.known.map Prod.fst) = false ∧
          x.session.settings.isAutorun p = true ∧
          x.session.host.registry.contains p = false) := by
  have hfound : ∀ dir extensions, p ∈ (Walk.run t dir extensions).scripts.map Prod.fst ∧
      t.LeadsToDir p ↔ t.HasDisguise dir extensions p :=
    fun dir extensions => Files.disguise_of_mem_paths ht
  refine ⟨?_, hfound _ _, hfound _ _, ?_, ?_, fun cs result h' hc => ?_,
    fun clock cs n s' hc => ?_⟩
  · rw [Walk.mem_autorun, and_right_comm, hfound]
  · rw [Scanner.scan, Scanner.mem_added, and_right_comm, hfound]
  · rw [Scanner.mem_changed_paths ht, and_right_comm, hfound]
  · rw [Host.gains_of_discover ht hc, Walk.mem_autorun, ← hfound]
    tauto
  · rw [Session.gains_of_reloadFromDisk (h.upheld.rest hrest) ht hc, Session.mem_added_lookAt]
    simp only [Scanner.scan, Scanner.mem_added, ← hfound]
    constructor
    · rintro ⟨⟨⟨scanner, hscanner, hdue, hp, hnew⟩, hautorun, hunknown⟩, hleads⟩
      exact ⟨scanner, hscanner, hdue, ⟨hp, hleads⟩, hnew, hautorun, hunknown⟩
    · rintro ⟨scanner, hscanner, hdue, ⟨hp, hleads⟩, hnew, hautorun, hunknown⟩
      exact ⟨⟨⟨scanner, hscanner, hdue, hp, hnew⟩, hautorun, hunknown⟩, hleads⟩

/-! ## A directory with a link to a directory -/

namespace Specimen

theorem hasDisguise_linked :
    linked.HasDisguise ⟨"s"⟩ (watching true).extensions ⟨"s/_x.py"⟩ where
  marked := by decide +kernel
  leads := ⟨_, Files.stat_eq_ok.mpr ⟨_, locate_linked_link, rfl⟩, rfl⟩
  below := ⟨["_x.py"], "_x.py", "../d", ⟨["s"], _, locate_linked_dir, rfl, rfl, rfl⟩,
    by decide +kernel⟩

end Specimen

/-- A link to the directory beside the script directory is registered. -/
theorem Scene.Reachable.disguises_pass_link :
    ∃ cs result h', (Host.discover Specimen.linked ⟨"s"⟩ (Specimen.watching true)).Trace
        Specimen.calmly (Specimen.threeScripts false).host cs result h' ∧
      (Specimen.threeScripts false).host.registry.Gains h'.registry ⟨"s/_x.py"⟩ ∧
      Specimen.linked.LeadsToDir ⟨"s/_x.py"⟩ := by
  have hreachable := ((Specimen.reachable_threeScripts false).upheld.rest ⟨rfl, rfl⟩).tidy.reachable
  have hends : ∃ cs result h',
      (Host.discover Specimen.linked ⟨"s"⟩ (Specimen.watching true)).Trace
        Specimen.calmly (Specimen.threeScripts false).host cs result h' :=
    Chore.exists_trace Specimen.calm_calmly _ hreachable
  obtain ⟨cs, result, h', hc⟩ := hends
  have hpasses := Scene.Reachable.disguises_pass (Specimen.reachable_threeScripts false) ⟨rfl, rfl⟩
    Specimen.proper_linked ⟨"s"⟩ (Specimen.watching true) 0 ⟨⟨"s"⟩, ["py"], 0, false, []⟩
    ⟨"s/_x.py"⟩
  have hdiscover := hpasses.2.2.2.2.2.1 cs result h' hc
  have hautorun : (Specimen.watching true).isAutorun ⟨"s/_x.py"⟩ = true := by decide +kernel
  have hunknown : (Specimen.threeScripts false).host.registry.contains ⟨"s/_x.py"⟩ = false := by
    decide +kernel
  have hgains := hdiscover.mpr ⟨Specimen.hasDisguise_linked, hautorun, hunknown⟩
  exact ⟨cs, result, h', hc, hgains⟩

end ScriptHost
