import ScriptHost.Proofs.Findings

/-!
# One scan after another

A scanner that is set up in one tree and used on others, one after another, knows at every
time what the last tree **lists**, with the modification times there.  So each report is the
exact difference between two trees: what either of them lists and the other does not, and
what both list with other times, earlier ones as well as later ones.  Nothing is told twice;
and who takes the reports for what they say has the paths of the last tree.

* `Scanner.pairwise_difference` — a difference names no path twice;
* `Scanner.after_eq` — what a scanner knows;
* `Scanner.isDifference` — the difference of what is found in two trees is exact;
* `Files.Listing.follow` — a report, applied to the paths of the tree before;
* `Scanner.scans_exact` — all reports in turn.
-/

namespace ScriptHost

/-! ## Differences -/

namespace Scanner

variable {old new : List (Path × Int)} {p : Path} {m : Int}

theorem exists_mem_of_timeOf? (h : timeOf? old p = some m) : ∃ q, p.Same q ∧ (q, m) ∈ old := by
  obtain ⟨⟨q, _⟩, hfound, rfl⟩ := Option.map_eq_some_iff.mp h
  exact ⟨q, of_decide_eq_true (by simpa using List.find?_some hfound),
    List.mem_of_find?_eq_some hfound⟩

/-- What is found is known, or was not found before. -/
theorem among_of_mem_changed (h : (p, m) ∈ (difference old new).changed) :
    p.among (new.map Prod.fst) = true ∧ p.among (old.map Prod.fst) = true := by
  obtain ⟨hmem, before, hbefore, -⟩ := mem_changed.mp h
  refine ⟨Path.among_iff.mpr ⟨p, List.mem_map_of_mem hmem, .refl p⟩, ?_⟩
  rw [← isSome_timeOf?, hbefore]
  rfl

/-- **A difference names no path twice**, if neither side does. -/
theorem pairwise_difference (hold : (old.map Prod.fst).Pairwise fun p q => ¬ p.Same q)
    (hnew : (new.map Prod.fst).Pairwise fun p q => ¬ p.Same q) :
    ((difference old new).changed.map Prod.fst ++ (difference old new).added
      ++ (difference old new).removed).Pairwise fun p q => ¬ p.Same q := by
  have hchanged : ((difference old new).changed.map Prod.fst).Pairwise fun p q => ¬ p.Same q :=
    hnew.sublist (List.filter_sublist.map _)
  have hadded : (difference old new).added.Pairwise fun p q => ¬ p.Same q :=
    hnew.sublist (List.filter_sublist.map _)
  have hremoved : (difference old new).removed.Pairwise fun p q => ¬ p.Same q :=
    hold.sublist (List.filter_sublist.map _)
  have hfound : ∀ q ∈ (difference old new).changed.map Prod.fst ++ (difference old new).added,
      q.among (new.map Prod.fst) = true := by
    intro q hq
    rcases List.mem_append.mp hq with hq | hq
    · obtain ⟨⟨q, m⟩, hmem, rfl⟩ := List.mem_map.mp hq
      exact (among_of_mem_changed hmem).1
    · exact Path.among_iff.mpr ⟨q, (mem_added.mp hq).1, .refl q⟩
  refine List.pairwise_append.mpr ⟨List.pairwise_append.mpr ⟨hchanged, hadded, ?_⟩, hremoved, ?_⟩
  · intro p hp q hq hsame
    obtain ⟨⟨p, m⟩, hmem, rfl⟩ := List.mem_map.mp hp
    have hknown := (among_of_mem_changed hmem).2
    rw [Path.among_congr hsame, (mem_added.mp hq).2] at hknown
    cases hknown
  · intro p hp q hq hsame
    have hlisted := hfound p hp
    rw [Path.among_congr hsame, (mem_removed.mp hq).2] at hlisted
    cases hlisted

end Scanner

/-- Paths that name different things are different. -/
theorem Path.nodup_of_pairwise {ps : List Path} (h : ps.Pairwise fun p q => ¬ p.Same q) :
    ps.Nodup := by
  refine h.imp fun {p q} hother heq => hother ?_
  rw [heq]
  exact .refl q

/-! ## What a tree lists -/

namespace Files

variable {t t' : Files} {dir p : Path} {extensions : List String} {m m' : Int}

/-- A path is listed: it is that of a script. -/
def Lists (t : Files) (dir : Path) (extensions : List String) (p : Path) : Prop :=
  ∃ m, t.HasScript dir extensions p m

/-- A script has one modification time. -/
theorem HasScript.time_eq (h : t.HasScript dir extensions p m)
    (h' : t.HasScript dir extensions p m') : m = m' :=
  Except.ok.inj (h.readable.symm.trans h'.readable)

/-- A script of one tree is among those of another if it is one of them. -/
theorem Lists.among_iff (h : t.Lists dir extensions p) (ht : t.Proper) (ht' : t'.Proper) :
    p.among ((Walk.run t' dir extensions).scripts.map Prod.fst) = true ↔
      t'.Lists dir extensions p := by
  rw [Path.among_iff]
  constructor
  · rintro ⟨q, hq, hsame⟩
    obtain ⟨m, hm⟩ := h
    obtain ⟨m', hm'⟩ := (Walk.mem_paths ht').mp hq
    obtain rfl := hm.eq_of_same ht hm' ht' hsame
    exact ⟨m', hm'⟩
  · intro hlists
    exact ⟨p, (Walk.mem_paths ht').mpr hlists, .refl p⟩

/-- The modification time a script of one tree has in another. -/
theorem Lists.timeOf?_eq_some_iff (h : t.Lists dir extensions p) (ht : t.Proper)
    (ht' : t'.Proper) : Scanner.timeOf? (Walk.run t' dir extensions).scripts p = some m ↔
      t'.HasScript dir extensions p m := by
  obtain ⟨n, hn⟩ := h
  have hfound : ∀ m', Scanner.timeOf? (Walk.run t' dir extensions).scripts p = some m' →
      t'.HasScript dir extensions p m' := by
    intro m' hm'
    obtain ⟨q, hsame, hq⟩ := Scanner.exists_mem_of_timeOf? hm'
    have hq := (Walk.mem_scripts ht' _ _ _ _).mp hq
    obtain rfl := hn.eq_of_same ht hq ht' hsame
    exact hq
  refine ⟨hfound m, fun hm => ?_⟩
  have hknown : (Scanner.timeOf? (Walk.run t' dir extensions).scripts p).isSome = true := by
    rw [Scanner.isSome_timeOf?, among_iff ⟨n, hn⟩ ht ht']
    exact ⟨m, hm⟩
  obtain ⟨m', hm'⟩ := Option.isSome_iff_exists.mp hknown
  rw [hm', hm.time_eq (hfound m' hm')]

end Files

/-! ## Reports -/

/-- A report tells exactly how two trees differ. -/
structure ScanResult.IsDifference (r : ScanResult) (dir : Path) (extensions : List String)
    (before now : Files) : Prop where
  added : ∀ p, p ∈ r.added ↔ now.Lists dir extensions p ∧ ¬ before.Lists dir extensions p
  removed : ∀ p, p ∈ r.removed ↔ before.Lists dir extensions p ∧ ¬ now.Lists dir extensions p
  changed : ∀ p m, (p, m) ∈ r.changed ↔ now.HasScript dir extensions p m ∧
    ∃ m', before.HasScript dir extensions p m' ∧ m' ≠ m
  distinct : (r.changed.map Prod.fst ++ r.added ++ r.removed).Pairwise fun p q => ¬ p.Same q

namespace ScanResult

variable {r : ScanResult} {dir : Path} {extensions : List String} {before now : Files}

theorem hasChanges_eq_false_iff : r.hasChanges = false ↔
    r.changed = [] ∧ r.added = [] ∧ r.removed = [] := by
  simp [hasChanges, and_assoc]

/-- **Nothing has changed** if and only if both trees have the same scripts with the same
modification times. -/
theorem IsDifference.hasChanges_iff (h : r.IsDifference dir extensions before now) :
    r.hasChanges = false ↔ ∀ p m,
      before.HasScript dir extensions p m ↔ now.HasScript dir extensions p m := by
  simp only [hasChanges_eq_false_iff, List.eq_nil_iff_forall_not_mem, Prod.forall, h.added,
    h.removed, h.changed]
  constructor
  · rintro ⟨hchanged, hadded, hremoved⟩ p m
    constructor
    · intro hm
      have hlisted : now.Lists dir extensions p := by
        by_contra hgone
        exact hremoved p ⟨⟨m, hm⟩, hgone⟩
      obtain ⟨m', hm'⟩ := hlisted
      by_contra hne
      exact hchanged p m' ⟨hm', m, hm, fun heq => hne (heq ▸ hm')⟩
    · intro hm
      have hlisted : before.Lists dir extensions p := by
        by_contra hmissing
        exact hadded p ⟨⟨m, hm⟩, hmissing⟩
      obtain ⟨m', hm'⟩ := hlisted
      by_contra hne
      exact hchanged p m ⟨hm, m', hm', fun heq => hne (heq ▸ hm')⟩
  · intro hsame
    refine ⟨?_, ?_, ?_⟩
    · rintro p m ⟨hm, m', hm', hne⟩
      exact hne (hm'.time_eq ((hsame p m).mpr hm))
    · rintro p ⟨⟨m, hm⟩, hmissing⟩
      exact hmissing ⟨m, (hsame p m).mpr hm⟩
    · rintro p ⟨⟨m, hm⟩, hgone⟩
      exact hgone ⟨m, (hsame p m).mp hm⟩

/-- Some paths, less what a report says was removed, and what it says was added. -/
def follow (ps : List Path) (r : ScanResult) : List Path :=
  ps.filter (fun p => p ∉ r.removed) ++ r.added

end ScanResult

/-- Paths are a listing of a tree: they are those that it lists, each once. -/
structure Files.Listing (t : Files) (dir : Path) (extensions : List String) (ps : List Path) :
    Prop where
  once : ps.Nodup
  mem : ∀ p, p ∈ ps ↔ t.Lists dir extensions p

namespace Files.Listing

variable {t before now : Files} {dir : Path} {extensions : List String} {ps qs : List Path}

/-- What the walk finds is a listing. -/
theorem of_run (h : t.Proper) (dir : Path) (extensions : List String) :
    t.Listing dir extensions ((Walk.run t dir extensions).scripts.map Prod.fst) where
  once := Path.nodup_of_pairwise (Walk.scripts_distinct h dir extensions)
  mem _ := Walk.mem_paths h

/-- Listings of one tree are as long as each other. -/
theorem length_eq (hps : t.Listing dir extensions ps) (hqs : t.Listing dir extensions qs) :
    ps.length = qs.length :=
  ((List.perm_ext_iff_of_nodup hps.once hqs.once).mpr fun p =>
    (hps.mem p).trans (hqs.mem p).symm).length_eq

/-- **Following a report** leads from a listing of one tree to a listing of the next. -/
theorem follow {r : ScanResult} (h : before.Listing dir extensions ps)
    (hr : r.IsDifference dir extensions before now) :
    now.Listing dir extensions (r.follow ps) := by
  refine ⟨List.nodup_append.mpr ⟨h.once.filter _, ?_, ?_⟩, fun p => ?_⟩
  · exact Path.nodup_of_pairwise (List.pairwise_append.mp
      (List.pairwise_append.mp hr.distinct).1).2.1
  · rintro p hp q hq rfl
    exact ((hr.added p).mp hq).2 ((h.mem p).mp (List.mem_filter.mp hp).1)
  · rw [ScanResult.follow, List.mem_append, List.mem_filter, decide_eq_true_eq, h.mem, hr.removed,
      hr.added]
    by_cases hbefore : before.Lists dir extensions p
    · simp [hbefore]
    · simp [hbefore]

end Files.Listing

/-! ## A scanner in use -/

namespace Scanner

variable {F : Nat → Files} {dir : Path} {extensions : List String} {interval : Nat}

/-- A scanner that was set up in the first of some trees and has scanned others, one after
another. -/
def after (F : Nat → Files) (dir : Path) (extensions : List String) (interval : Nat) :
    Nat → Scanner
  | 0 => (new (F 0) dir extensions interval).1
  | n + 1 => ((after F dir extensions interval n).scan (F (n + 1))).2.1

/-- What it reports of the next tree. -/
def report (F : Nat → Files) (dir : Path) (extensions : List String) (interval n : Nat) :
    ScanResult :=
  ((after F dir extensions interval n).scan (F (n + 1))).1

/-- What it reported of some trees. -/
def reports (F : Nat → Files) (dir : Path) (extensions : List String) (interval n : Nat) :
    List ScanResult :=
  (List.range n).map (report F dir extensions interval)

/-- **What a scanner knows** is what it saw last, whatever it saw before. -/
theorem after_eq (F : Nat → Files) (dir : Path) (extensions : List String) (interval n : Nat) :
    (after F dir extensions interval n).dir = dir ∧
      (after F dir extensions interval n).extensions = extensions ∧
      (after F dir extensions interval n).known = (Walk.run (F n) dir extensions).scripts := by
  induction n with
  | zero => exact ⟨rfl, rfl, rfl⟩
  | succ n ih =>
    obtain ⟨hdir, hextensions, -⟩ := ih
    refine ⟨hdir, hextensions, ?_⟩
    rw [after, scan, hdir, hextensions]

/-- So a report is the difference of what is found in two trees. -/
theorem report_eq (n : Nat) : report F dir extensions interval n
    = difference (Walk.run (F n) dir extensions).scripts
        (Walk.run (F (n + 1)) dir extensions).scripts := by
  obtain ⟨hdir, hextensions, hknown⟩ := after_eq F dir extensions interval n
  rw [report, scan, hdir, hextensions, hknown]

/-- The difference of what is found in two trees is exact. -/
theorem isDifference {before now : Files} (hbefore : before.Proper) (hnow : now.Proper) :
    (difference (Walk.run before dir extensions).scripts
      (Walk.run now dir extensions).scripts).IsDifference dir extensions before now where
  added p := by
    rw [mem_added, Walk.mem_paths hnow]
    refine and_congr_right fun hlists => ?_
    rw [← Files.Lists.among_iff hlists hnow hbefore, Bool.not_eq_true]
  removed p := by
    rw [mem_removed, Walk.mem_paths hbefore]
    refine and_congr_right fun hlists => ?_
    rw [← Files.Lists.among_iff hlists hbefore hnow, Bool.not_eq_true]
  changed p m := by
    rw [mem_changed, Walk.mem_scripts hnow]
    refine and_congr_right fun hm => exists_congr fun m' => ?_
    rw [Files.Lists.timeOf?_eq_some_iff ⟨m, hm⟩ hnow hbefore]
  distinct := pairwise_difference (Walk.scripts_distinct hbefore dir extensions)
    (Walk.scripts_distinct hnow dir extensions)

/-- **Following report after report.** -/
theorem listing_foldl (interval : Nat) {ps : List Path} {n : Nat} (hF : ∀ i ≤ n, (F i).Proper)
    (hps : (F 0).Listing dir extensions ps) : (F n).Listing dir extensions
      ((reports F dir extensions interval n).foldl ScanResult.follow ps) := by
  induction n with
  | zero => exact hps
  | succ n ih =>
    have hbefore := ih fun i hi => hF i (Nat.le_succ_of_le hi)
    rw [reports, List.range_succ, List.map_append, List.foldl_append]
    refine hbefore.follow ?_
    rw [report_eq]
    exact isDifference (hF n (Nat.le_succ n)) (hF (n + 1) (Nat.le_refl _))

/-- **Scan results are exact differences**, whatever trees there are and in whatever order.
Each result tells exactly what the tree lists and the one before did not, what the one before
listed and it does not, and what both list with other modification times, with the time it
has now; it names no path twice, and it has nothing to tell if and only if both have the same
scripts with the same times.  Whoever starts with the paths of the first tree and follows the
results in turn comes to those of the last; and the scanner knows as many. -/
theorem scans_exact {n : Nat} (hF : ∀ i ≤ n, (F i).Proper) (dir : Path)
    (extensions : List String) (interval : Nat) :
    (∀ i < n, (report F dir extensions interval i).IsDifference dir extensions (F i) (F (i + 1)) ∧
      ((report F dir extensions interval i).hasChanges = false ↔ ∀ p m,
        (F i).HasScript dir extensions p m ↔ (F (i + 1)).HasScript dir extensions p m)) ∧
    (F 0).Listing dir extensions ((new (F 0) dir extensions interval).1.known.map Prod.fst) ∧
    ∀ ps, (F 0).Listing dir extensions ps →
      (F n).Listing dir extensions
        ((reports F dir extensions interval n).foldl ScanResult.follow ps) ∧
      (after F dir extensions interval n).known.length
        = ((reports F dir extensions interval n).foldl ScanResult.follow ps).length := by
  refine ⟨fun i hi => ?_, .of_run (hF 0 (Nat.zero_le n)) dir extensions, fun ps hps => ?_⟩
  · have hexact : (report F dir extensions interval i).IsDifference dir extensions (F i)
        (F (i + 1)) := by
      rw [report_eq]
      exact isDifference (hF i (Nat.le_of_lt hi)) (hF (i + 1) hi)
    exact ⟨hexact, hexact.hasChanges_iff⟩
  · have hend := listing_foldl interval hF hps
    refine ⟨hend, ?_⟩
    obtain ⟨-, -, hknown⟩ := after_eq F dir extensions interval n
    rw [hknown, ← List.length_map Prod.fst]
    exact (Files.Listing.of_run (hF n (Nat.le_refl n)) dir extensions).length_eq hend

end Scanner

namespace Specimen

/-- A script appears, is given an earlier modification time, and goes away again. -/
def comeAndGone : Nat → Files
  | 1 => disk (some 7)
  | 2 => disk (some 5)
  | _ => disk none

theorem proper_comeAndGone (i : Nat) : (comeAndGone i).Proper := by
  unfold comeAndGone
  split <;> exact proper_disk _

theorem hasScript_disk (m : Int) : (disk (some m)).HasScript ⟨"s"⟩ ["py"] ⟨"s/a.py"⟩ m := by
  rw [← Walk.mem_scripts (proper_disk (some m)), run_disk]
  exact List.mem_singleton.mpr rfl

theorem not_lists_disk (p : Path) : ¬ (disk none).Lists ⟨"s"⟩ ["py"] p := by
  rw [Files.Lists, ← Walk.mem_paths (proper_disk none), run_disk]
  exact List.not_mem_nil

end Specimen

/-- All of which is told, the earlier time as well; in the end nothing is known. -/
theorem Scanner.scans_exact_come_and_gone :
    ⟨"s/a.py"⟩ ∈ (report Specimen.comeAndGone ⟨"s"⟩ ["py"] 1000 0).added ∧
    (⟨"s/a.py"⟩, 5) ∈ (report Specimen.comeAndGone ⟨"s"⟩ ["py"] 1000 1).changed ∧
    ⟨"s/a.py"⟩ ∈ (report Specimen.comeAndGone ⟨"s"⟩ ["py"] 1000 2).removed ∧
    (after Specimen.comeAndGone ⟨"s"⟩ ["py"] 1000 3).known.length = 0 := by
  obtain ⟨hreports, hstart, hfollowed⟩ :=
    scans_exact (n := 3) (fun i _ => Specimen.proper_comeAndGone i) ⟨"s"⟩ ["py"] 1000
  obtain ⟨happears, -⟩ := hreports 0 (by decide)
  obtain ⟨hturns, -⟩ := hreports 1 (by decide)
  obtain ⟨hleaves, -⟩ := hreports 2 (by decide)
  obtain ⟨hend, hcount⟩ := hfollowed _ hstart
  have hearly := Specimen.hasScript_disk 7
  have hlate := Specimen.hasScript_disk 5
  refine ⟨(happears.added _).mpr ⟨⟨7, hearly⟩, Specimen.not_lists_disk _⟩,
    (hturns.changed _ _).mpr ⟨hlate, 7, hearly, by decide⟩,
    (hleaves.removed _).mpr ⟨⟨5, hlate⟩, Specimen.not_lists_disk _⟩, ?_⟩
  rw [hcount, List.length_eq_zero_iff, List.eq_nil_iff_forall_not_mem]
  intro p hp
  exact Specimen.not_lists_disk p ((hend.mem p).mp hp)

end ScriptHost
