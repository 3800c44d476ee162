import ScriptHost.Proofs.Cycles
import ScriptHost.Proofs.Headcount

/-!
# What a cycle counts

A cycle reports how many scripts it reloaded.  The number can be told from the registry
before and after: so many scripts have another instance than they had
(`Registry.restarts`), so many are registered that were not (`Registry.additions`), and
so many are not that were (`Registry.removals`).  Two things keep it from being the sum
of these.  A changed script that is not to run is counted though nothing was restarted
(`Registry.idlers`), and a new script that may not start is registered though it is not
counted (`Registry.refusals`).

* `Registry.Applies.count` — the three passes count what can be told from the registry;
* `Session.restarts_of_reloadOnSignal`, `Session.tally_of_reloadFromDisk` — what the two
  reloading phases count;
* `Scene.Reachable.reloaded_eq` — what a cycle reports.
-/

namespace ScriptHost

variable {D : Dialect} {I : Interpreter D} {concurrent : Bool}

namespace Registry

/-- How many scripts have another instance than before. -/
def restarts (r r' : Registry D) : Nat :=
  r'.entries.countP fun e =>
    (r.instanceOf e.path).isSome && (e.live.isSome && decide (e.live ≠ r.instanceOf e.path))

/-- How many scripts are registered that were not. -/
def additions (r r' : Registry D) : Nat :=
  r'.entries.countP fun e => !r.contains e.path

/-- How many scripts were registered that are not any more. -/
def removals (r r' : Registry D) : Nat :=
  r.entries.countP fun e => !r'.contains e.path

/-- How many scripts were newly registered and may not start, although they should. -/
def refusals (r r' : Registry D) : Nat :=
  r'.entries.countP fun e => !r.contains e.path && !e.settled r'.started

/-- How many of the scripts at some paths had no instance, and are not waiting for one. -/
def idlers (ps : List Path) (r r' : Registry D) : Nat :=
  r'.entries.countP fun e =>
    r.contains e.path && (r.instanceOf e.path).isNone && (e.path.among ps && e.settled r'.started)

variable {r r' mid : Registry D} {n : Nat}

/-- What is counted by path is the same number where the paths are the same. -/
theorem countP_paths (h : r'.flags = r.flags) (test : Path → Bool) :
    (r'.entries.countP fun e => test e.path) = r.entries.countP fun e => test e.path := by
  have hpaths : ∀ r : Registry D, (r.entries.countP fun e => test e.path) = r.paths.countP test :=
    fun r => by simp [paths, List.countP_map, Function.comp_def]
  rw [hpaths, hpaths, paths_eq, h, ← paths_eq]

/-- The instance of a script is the one some entry names. -/
theorem exists_of_instanceOf {p : Path} {k : Nat} (h : r.instanceOf p = some k) :
    ∃ i e, r.position? p = some i ∧ r.entries[i]? = some e ∧ e.live = some k := by
  obtain ⟨i, hi, hlive⟩ := Option.bind_eq_some_iff.mp h
  obtain ⟨e, he, hk⟩ := Option.bind_eq_some_iff.mp hlive
  exact ⟨i, e, hi, he, hk⟩

/-- Whoever is renewed has another instance than before. -/
theorem Renews.other {touched : Nat → Prop} (h : r.Renews n touched r') (hr : r.Distinct)
    (hold : ∀ e ∈ r.entries, ∀ k ∈ e.live, k < n) {e : Entry} (he : e ∈ r'.entries) {k : Nat}
    (hk : r.instanceOf e.path = some k) (htouched : ∀ i, r.position? e.path = some i → touched i) :
    e.live.isSome = true ∧ e.live ≠ some k := by
  obtain ⟨i, e₀, -, he₀, hk₀⟩ := exists_of_instanceOf hk
  have hlt := hold e₀ (List.mem_of_getElem? he₀) k hk₀
  obtain ⟨k', hk', hlive⟩ := h.instanceOf_of_touched htouched hk
  rw [instanceOf_eq (h.distinct hr) he (.refl _)] at hlive
  refine ⟨by simp [hlive], fun hsame => ?_⟩
  rw [hlive] at hsame
  obtain rfl := Option.some.inj hsame
  omega

/-- **Where every instance is renewed**, as many scripts have another instance as had one. -/
theorem Renews.restarts_eq (h : r.Renews n (· ∈ r.livePositions) r') (hr : r.Distinct)
    (hold : ∀ e ∈ r.entries, ∀ k ∈ e.live, k < n) : restarts r r' = r.liveCount := by
  have hall : restarts r r' = r'.entries.countP fun e => (r.instanceOf e.path).isSome := by
    refine List.countP_congr fun e he => ?_
    cases hk : r.instanceOf e.path with
    | none => simp
    | some k =>
      obtain ⟨i, e₀, hi, he₀, hk₀⟩ := exists_of_instanceOf hk
      obtain ⟨hlive, hother⟩ := h.other hr hold he hk fun j hj => by
        obtain rfl := Option.some.inj (hi.symm.trans hj)
        have hlt := (List.getElem?_eq_some_iff.mp he₀).1
        exact List.mem_filter.mpr ⟨List.mem_range.mpr hlt, by simp [he₀, hk₀]⟩
      simp [hlive, hother]
  rw [hall, countP_paths h.flags fun p => (r.instanceOf p).isSome, liveCount, livePositions,
    length_positions]
  refine List.countP_congr fun e he => ?_
  rw [instanceOf_eq hr he (.refl _)]

namespace Applies

variable {settings : ScriptSettings} {changes : ScanResult} {news : List Entry}

/-- What is new was not registered before. -/
theorem unknown (h : r.Applies settings changes n mid news r')
    (hadded : ∀ p : Path, p.among changes.added = true → p.among changes.removed = false) :
    ∀ e ∈ news, r.contains e.path = false := by
  intro e he
  have hmem : e.path.among changes.added = true :=
    Path.among_iff.mpr ⟨e.path, List.mem_of_mem_filter (h.appends.mem e he), .refl _⟩
  have hunknown := h.appends.unknown e he
  rw [contains_filter, hadded _ hmem, Bool.not_false, Bool.and_true, h.renews.contains] at hunknown
  exact hunknown

/-- What is counted afterwards is counted among the entries that stayed and the new ones. -/
theorem countP_eq (h : r.Applies settings changes n mid news r') (test : Entry → Bool) :
    r'.entries.countP test =
      (mid.entries.countP fun e => test e && !e.path.among changes.removed)
        + news.countP test := by
  rw [h.appends.entries, List.countP_append, List.countP_filter]

/-- What stayed was registered before. -/
theorem known (h : r.Applies settings changes n mid news r') :
    ∀ e ∈ mid.entries, r.contains e.path = true := by
  intro e he
  rw [← h.renews.contains]
  exact contains_iff.mpr ⟨e, he, .refl _⟩

theorem additions_eq (h : r.Applies settings changes n mid news r')
    (hadded : ∀ p : Path, p.among changes.added = true → p.among changes.removed = false) :
    additions r r' = news.length := by
  have hold :
      (mid.entries.countP fun e => !r.contains e.path && !e.path.among changes.removed) = 0 :=
    List.countP_eq_zero.mpr fun e he => by simp [h.known e he]
  rw [additions, h.countP_eq, hold, Nat.zero_add]
  exact List.countP_eq_length.mpr fun e he => by simp [h.unknown hadded e he]

theorem refusals_eq (h : r.Applies settings changes n mid news r')
    (hadded : ∀ p : Path, p.among changes.added = true → p.among changes.removed = false) :
    refusals r r' = news.countP fun e => !e.settled mid.started := by
  have hold : (mid.entries.countP fun e => (!r.contains e.path && !e.settled r'.started)
      && !e.path.among changes.removed) = 0 :=
    List.countP_eq_zero.mpr fun e he => by simp [h.known e he]
  have hstarted : r'.started = mid.started := h.appends.started
  rw [refusals, h.countP_eq, hold, Nat.zero_add, hstarted]
  exact List.countP_congr fun e he => by simp [h.unknown hadded e he]

theorem removals_eq (h : r.Applies settings changes n mid news r')
    (hadded : ∀ p : Path, p.among changes.added = true → p.among changes.removed = false) :
    removals r r' = mid.entries.countP fun e => e.path.among changes.removed := by
  rw [removals, ← countP_paths h.renews.flags fun p => !r'.contains p]
  refine List.countP_congr fun e he => ?_
  rw [h.contains, h.known e he]
  cases hgone : e.path.among changes.removed with
  | false => simp
  | true =>
    have hnot : e.path.among changes.added = false := by
      by_contra hadd
      rw [hadded _ (by simpa using hadd)] at hgone
      cases hgone
    simp [hnot]

/-- Another instance have those that changed and had one. -/
theorem restarts_eq (h : r.Applies settings changes n mid news r') (hr : r.Distinct)
    (hold : ∀ e ∈ r.entries, ∀ k ∈ e.live, k < n)
    (hchanged : ∀ p : Path, p.among (changes.changed.map Prod.fst) = true →
      p.among changes.removed = false)
    (hadded : ∀ p : Path, p.among changes.added = true → p.among changes.removed = false) :
    restarts r r' = mid.entries.countP fun e => (r.instanceOf e.path).isSome &&
      (e.path.among (changes.changed.map Prod.fst) && e.settled mid.started) := by
  have hnew : (news.countP fun e => (r.instanceOf e.path).isSome &&
      (e.live.isSome && decide (e.live ≠ r.instanceOf e.path))) = 0 :=
    List.countP_eq_zero.mpr fun e he => by simp [instanceOf_eq_none (h.unknown hadded e he)]
  rw [restarts, h.countP_eq, hnew, Nat.add_zero]
  refine List.countP_congr fun e he => ?_
  cases hk : r.instanceOf e.path with
  | none => simp
  | some k =>
    cases hchange : e.path.among (changes.changed.map Prod.fst) with
    | true =>
      obtain ⟨hlive, hother⟩ := h.renews.other hr hold he hk fun i hi =>
        (isAmong_of_position? hi _).mpr hchange
      simp [hlive, hother, hchanged _ hchange, Entry.settled]
    | false =>
      have hsame := h.renews.instanceOf_of_untouched (p := e.path) fun i hi => by
        rw [isAmong_of_position? hi, hchange]
        exact Bool.false_ne_true
      rw [instanceOf_eq (h.renews.distinct hr) he (.refl _), hk] at hsame
      simp [hsame]

theorem idlers_eq (h : r.Applies settings changes n mid news r')
    (hchanged : ∀ p : Path, p.among (changes.changed.map Prod.fst) = true →
      p.among changes.removed = false)
    (hadded : ∀ p : Path, p.among changes.added = true → p.among changes.removed = false) :
    idlers (changes.changed.map Prod.fst) r r' = mid.entries.countP fun e =>
      !(r.instanceOf e.path).isSome &&
      (e.path.among (changes.changed.map Prod.fst) && e.settled mid.started) := by
  have hstarted : r'.started = mid.started := h.appends.started
  have hnew : (news.countP fun e => r.contains e.path && (r.instanceOf e.path).isNone &&
      (e.path.among (changes.changed.map Prod.fst) && e.settled r'.started)) = 0 :=
    List.countP_eq_zero.mpr fun e he => by simp [h.unknown hadded e he]
  rw [idlers, h.countP_eq, hnew, Nat.add_zero, hstarted]
  refine List.countP_congr fun e he => ?_
  cases hchange : e.path.among (changes.changed.map Prod.fst) with
  | true => simp [h.known e he, hchanged _ hchange]
  | false => simp

/-- **What is counted where changes are applied**: those that have another instance, the
new ones and the missing ones; the new ones that may not start are not counted, and those
that changed without having an instance are, unless they should have got one. -/
theorem count (h : r.Applies settings changes n mid news r') (hr : r.Distinct)
    (hold : ∀ e ∈ r.entries, ∀ k ∈ e.live, k < n)
    (hchanged : ∀ p : Path, p.among (changes.changed.map Prod.fst) = true →
      p.among changes.removed = false)
    (hadded : ∀ p : Path, p.among changes.added = true → p.among changes.removed = false) :
    (mid.entries.countP fun e =>
        e.path.among (changes.changed.map Prod.fst) && e.settled mid.started) +
      (mid.entries.countP fun e => e.path.among changes.removed) +
      news.countP (Entry.settled mid.started) + refusals r r' =
    restarts r r' + additions r r' + removals r r'
      + idlers (changes.changed.map Prod.fst) r r' := by
  have hapart := countP_apart mid.entries (fun e =>
    e.path.among (changes.changed.map Prod.fst) && e.settled mid.started)
    fun e => (r.instanceOf e.path).isSome
  have hnews := List.length_eq_countP_add_countP (Entry.settled mid.started) (l := news)
  simp only [Bool.not_eq_true, ← Bool.not_eq_true', Bool.decide_eq_true] at hnews
  rw [h.additions_eq hadded, h.refusals_eq hadded, h.removals_eq hadded,
    h.restarts_eq hr hold hchanged hadded, h.idlers_eq hchanged hadded, hapart]
  omega

end Applies

end Registry

/-! ## Two scans -/

namespace Scanner

variable (old new : List (Path × Int))

/-- What changed is not missing. -/
theorem among_removed_of_changed {p : Path}
    (h : p.among ((difference old new).changed.map Prod.fst) = true) :
    p.among (difference old new).removed = false := by
  obtain ⟨e, he, hpe, -⟩ := (among_changed old new p).mp h
  have hfound : p.among (new.map Prod.fst) = true :=
    Path.among_iff.mpr ⟨e.1, List.mem_map_of_mem he, hpe⟩
  simp [among_removed, hfound]

/-- What is new is not missing. -/
theorem among_removed_of_added {p : Path} (h : p.among (difference old new).added = true) :
    p.among (difference old new).removed = false := by
  rw [among_added, Bool.and_eq_true] at h
  simp [among_removed, h.1]

variable {old new} in
/-- No script changed twice. -/
theorem changed_distinct (h : (new.map Prod.fst).Pairwise fun p q => ¬ p.Same q) :
    ((difference old new).changed.map Prod.fst).Pairwise fun p q => ¬ p.Same q :=
  h.sublist (List.filter_sublist.map Prod.fst)

end Scanner

/-- Whom an entry names is there. -/
theorem Host.WellKept.lt_of_live {h : Host D} (hh : h.WellKept I concurrent) {e : Entry}
    (he : e ∈ h.registry.entries) {k : Nat} (hk : k ∈ e.live) : k < h.world.instances.length := by
  have hlives : k ∈ h.registry.lives := List.mem_filterMap.mpr ⟨e, he, hk⟩
  rw [← World.length_infos]
  exact View.lt_of_isAlive (View.mem_own.mp (hh.tidy.lives.mem_iff.mp hlives)).1

namespace Session

/-- What there is to see on disk is no change, or how one scan differs from another. -/
theorem lookAt_cases (s : Session D) (files : Files) (clock : Int) :
    (s.lookAt files clock).1 = ⟨[], [], []⟩ ∨ ∃ scanner ∈ s.scanner,
      (s.lookAt files clock).1 = Scanner.difference scanner.known
        (Walk.run files scanner.dir scanner.extensions).scripts := by
  unfold lookAt
  split
  · exact Or.inl rfl
  · next scanner hscanner =>
    split
    · exact Or.inr ⟨scanner, hscanner, rfl⟩
    · exact Or.inl rfl

end Session

namespace Registry

variable {r r' r'' : Registry D}

theorem contains_of_flags (h : r'.flags = r.flags) (p : Path) : r'.contains p = r.contains p := by
  rw [contains_eq_known, h, ← contains_eq_known]

theorem additions_of_flags (h : r'.flags = r.flags) : additions r' r'' = additions r r'' := by
  simp only [additions, contains_of_flags h]

theorem refusals_of_flags (h : r'.flags = r.flags) : refusals r' r'' = refusals r r'' := by
  simp only [refusals, contains_of_flags h]

theorem removals_of_flags (h : r'.flags = r.flags) : removals r' r'' = removals r r'' :=
  countP_paths h fun p => !r''.contains p

/-- Where everything is the same nothing has another instance. -/
theorem restarts_self (h : r.Distinct) : restarts r r = 0 := by
  refine List.countP_eq_zero.mpr fun e he => ?_
  simp [instanceOf_eq h he (.refl _)]

end Registry

/-- Nobody is refused where concurrent scripts are allowed. -/
theorem Host.WellKept.refusals_eq_zero {h : Host D} (hh : h.WellKept I true) (r : Registry D) :
    r.refusals h.registry = 0 := by
  refine List.countP_eq_zero.mpr fun e he => ?_
  obtain ⟨i, hi⟩ := List.getElem?_of_mem he
  have hfits := hh.inStep i e hi List.not_mem_nil
  have hsettled : e.settled h.registry.started = true := by
    by_contra hnot
    simp only [Entry.settled, Bool.or_eq_true, Bool.not_eq_true', not_or, Bool.not_eq_false,
      Bool.and_eq_true] at hnot
    exact hnot.1 (hfits.served hh.tidy.mode hnot.2.1 hnot.2.2)
  simp [hsettled]

namespace Session

/-- The scripts that changed on disk, if it is time to look. -/
def changedOnDisk (s : Session D) (files : Files) (clock : Int) : List Path :=
  (s.lookAt files clock).1.changed.map Prod.fst

/-- **What a requested reload counts.** -/
theorem restarts_of_reloadOnSignal {s s' : Session D} {m : Nat}
    (hs : s.host.WellKept I concurrent) (hc : reloadOnSignal.ComesTo I s m s') :
    m = s.host.registry.restarts s'.host.registry ∧
      s'.host.registry.flags = s.host.registry.flags := by
  obtain ⟨cs, hc⟩ := hc
  obtain ⟨-, -, -, hcalm, hasked⟩ := trace_reloadOnSignal hs hc
  cases h : s.isAsked with
  | false =>
    obtain ⟨hhost, rfl⟩ := hcalm h
    rw [hhost, Registry.restarts_self hs.tidy.distinct]
    exact ⟨rfl, rfl⟩
  | true =>
    obtain ⟨rfl, hrenews⟩ := hasked h
    refine ⟨(hrenews.restarts_eq hs.tidy.distinct fun e he k hk => ?_).symm, hrenews.flags⟩
    exact hs.lt_of_live he hk

/-- **What the reload from disk counts.** -/
theorem tally_of_reloadFromDisk {s s' : Session D} {files : Files} {clock : Int} {m : Nat}
    (hs : s.host.WellKept I concurrent) (hfiles : files.Proper)
    (hc : (reloadFromDisk files clock).ComesTo I s m s') :
    m + s.host.registry.refusals s'.host.registry
      = s.host.registry.restarts s'.host.registry + s.host.registry.additions s'.host.registry
        + s.host.registry.removals s'.host.registry
        + Registry.idlers (s.changedOnDisk files clock) s.host.registry s'.host.registry := by
  obtain ⟨cs, hc⟩ := hc
  obtain ⟨-, -, -, mid, news, happlies, hcount⟩ := trace_reloadFromDisk hs hc
  have hold : ∀ e ∈ s.host.registry.entries, ∀ k ∈ e.live, k < s.host.world.instances.length :=
    fun e he k hk => hs.lt_of_live he hk
  rcases s.lookAt_cases files clock with hnone | ⟨scanner, -, hdifference⟩
  · rw [hcount (by simp [hnone])]
    exact happlies.count hs.tidy.distinct hold (by simp [hnone]) (by simp [hnone])
  · have hscripts := Walk.scripts_distinct hfiles scanner.dir scanner.extensions
    rw [hcount (by rw [hdifference]; exact Scanner.changed_distinct hscripts)]
    refine happlies.count hs.tidy.distinct hold (fun p hp => ?_) fun p hp => ?_
    · rw [hdifference] at hp ⊢
      exact Scanner.among_removed_of_changed _ _ hp
    · rw [hdifference] at hp ⊢
      exact Scanner.among_removed_of_added _ _ hp

end Session

/-- **What a cycle reports as reloaded**, whatever scripts do: the restarts of a requested
reload, those of the reload from disk, the scripts that are newly registered and those
that are no more.  Only the new scripts that may not start are left out, and the changed
scripts that had no instance are counted in, unless they still wait for one.  Where
concurrent scripts are allowed there is no new script that may not start. -/
theorem Scene.Reachable.reloaded_eq {x : Scene D} (hx : x.Reachable I concurrent) (hrest : x.AtRest)
    {files : Files} (hfiles : files.Proper) {t : Moment} {report : CycleReport} {s' : Session D}
    (hc : (Session.runCycle files t).ComesTo I x.session report s') :
    ∃ (s₁ s₂ : Session D) (m₁ m₂ : Nat),
      (Session.attend t.now).ComesTo I x.session (report.failed, report.ticked) s₁ ∧
      Session.reloadOnSignal.ComesTo I s₁ m₁ s₂ ∧
      (Session.reloadFromDisk files t.clock).ComesTo I s₂ m₂ s' ∧
      report.reloaded + s₁.host.registry.refusals s'.host.registry
        = s₁.host.registry.restarts s₂.host.registry + s₂.host.registry.restarts s'.host.registry
          + s₁.host.registry.additions s'.host.registry
          + s₁.host.registry.removals s'.host.registry
          + Registry.idlers (s₂.changedOnDisk files t.clock) s₂.host.registry s'.host.registry ∧
      (concurrent = true → s₁.host.registry.refusals s'.host.registry = 0) := by
  have hs := hx.upheld.rest hrest
  obtain ⟨s₁, s₂, m₁, m₂, hattend, hsignal, hdisk, hreloaded⟩ := Session.comesTo_runCycle hc
  obtain ⟨cs₁, hattended⟩ := hattend
  have hs₁ := Session.wellKept_of_trace hs (Session.upholds_attend t.now) hattended
  have hs₂ := Session.wellKept_of_trace hs₁ Session.upholds_reloadOnSignal hsignal.choose_spec
  have hs' := Session.wellKept_of_trace hs₂ (Session.upholds_reloadFromDisk _ _) hdisk.choose_spec
  obtain ⟨hm₁, hflags⟩ := Session.restarts_of_reloadOnSignal hs₁ hsignal
  have htally := Session.tally_of_reloadFromDisk hs₂ hfiles hdisk
  rw [Registry.refusals_of_flags hflags, Registry.additions_of_flags hflags,
    Registry.removals_of_flags hflags] at htally
  refine ⟨s₁, s₂, m₁, m₂, ⟨cs₁, hattended⟩, hsignal, hdisk, by omega, ?_⟩
  rintro rfl
  exact hs'.refusals_eq_zero _

namespace Specimen

/-- The script is switched off and has been registered. -/
theorem reachable_loaded :
    Scene.Reachable interpreter true ⟨loaded false (some 1) (some 1), [], .done ()⟩ := by
  have houtset : Scene.Reachable interpreter true ⟨outset false (some 1), [], .done ()⟩ := by
    rw [← new_disk]
    refine ⟨_, Scene.begins_new ⟨(), .refl⟩ (fun i => ?_) engine (watching false) none _ _, .refl⟩
    simp [View.isRegistered, View.tags, World.view, World.new]
  have hload : (loading false (some 1)).ComesTo interpreter (outset false (some 1)) (.ok 1)
      (loaded false (some 1) (some 1)) := comesTo_after (by decide +kernel)
  exact houtset.afterwards (.loadScripts (disk (some 1)) nowhere) rfl
    (comesTo_loadScripts rfl hload)

/-- Its file changes. -/
theorem comesTo_touched :
    (Session.runCycle (disk (some 2)) ⟨0, 0⟩).ComesTo interpreter (loaded false (some 1) (some 1))
      ⟨0, true, 0 + 1⟩ (cycled (some 1) (some 2) (loaded false (some 1) (some 1))) := by
  have hscanner : (after Session.reloadOnSignal (after (Session.attend 0)
      (loaded false (some 1) (some 1)))).scanner
        = some ⟨⟨"s"⟩, ["py"], 0, false, scripts (some 1)⟩ := by rfl
  exact comesTo_cycled (by decide +kernel) (by decide +kernel) hscanner (by decide +kernel)

end Specimen

/-- A script that is switched off is counted when its file changes, though nothing is
restarted. -/
theorem Scene.Reachable.reloaded_eq_disabled :
    (Specimen.loaded false (some 1) (some 1)).host.registry.entries
        = [⟨⟨"s/a.py"⟩, false, none⟩] ∧
      ∃ (s₁ s₂ : Session Specimen.dialect) (s' : Session Specimen.dialect),
        1 + s₁.host.registry.refusals s'.host.registry
          = s₁.host.registry.restarts s₂.host.registry + s₂.host.registry.restarts s'.host.registry
            + s₁.host.registry.additions s'.host.registry
            + s₁.host.registry.removals s'.host.registry
            + Registry.idlers (s₂.changedOnDisk (Specimen.disk (some 2)) 0) s₂.host.registry
              s'.host.registry ∧
        s₁.host.registry.refusals s'.host.registry = 0 := by
  obtain ⟨s₁, s₂, m₁, m₂, -, -, -, heq, hnone⟩ := Scene.Reachable.reloaded_eq
    Specimen.reachable_loaded ⟨rfl, rfl⟩ (Specimen.proper_disk (some 2)) Specimen.comesTo_touched
  exact ⟨by decide +kernel, s₁, s₂, _, heq, hnone rfl⟩

end ScriptHost
