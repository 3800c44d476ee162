import ScriptHost.Proofs.Renewals

/-!
# Bringing the registry in step with the disk

What changed between two scans is applied in three passes over the paths: the changed
scripts are restarted, the missing ones removed and the new ones registered.  Each pass
has an induction over its paths, and the three together make a relation between the
registry before and after (`Registry.Applies`), which says of every path whether it is
registered and which instance it has.

* `Session.trace_restartChanged`, `Session.trace_removeMissing`,
  `Session.trace_addFound` — the three passes, and what each of them counts;
* `Host.trace_discover` — registering what is found for the first time;
* `Registry.Applies.contains` — what is registered afterwards;
* `Registry.Applies.instanceOf_unchanged`, `Registry.Applies.instanceOf_changed` — which
  instance a script has afterwards;
* `Session.trace_applyChanges` — applying changes comes to that.
-/

namespace ScriptHost

variable {D : Dialect} {α β : Type} {I : Interpreter D} {concurrent : Bool}

namespace Registry

variable {r r' r'' : Registry D}

/-- The entry of a registered script. -/
theorem entry_of_position? {p : Path} {i : Nat} (h : r.position? p = some i) :
    ∃ e, r.entries[i]? = some e ∧ p.Same e.path := by
  obtain ⟨hlt, hsame, -⟩ := List.findIdx?_eq_some_iff_getElem.mp h
  exact ⟨r.entries[i], List.getElem?_eq_getElem hlt, of_decide_eq_true hsame⟩

/-- The positions of the entries whose paths are among some. -/
def isAmong (r : Registry D) (ps : List Path) (i : Nat) : Prop :=
  ∃ p ∈ r.paths[i]?, p.among ps = true

/-- Which positions are among some paths depends on the paths of the entries only. -/
theorem isAmong_congr (h : r'.flags = r.flags) (ps : List Path) : r'.isAmong ps = r.isAmong ps := by
  unfold isAmong
  rw [paths_eq, h, ← paths_eq]

/-- The position of a path is among some if the path is. -/
theorem isAmong_of_position? {p : Path} {i : Nat} (h : r.position? p = some i) (ps : List Path) :
    r.isAmong ps i ↔ p.among ps = true := by
  obtain ⟨e, he, hpe⟩ := entry_of_position? h
  simp [isAmong, paths, he, Path.among_congr hpe]

/-- One more path of the registry adds its position. -/
theorem isAmong_cons_of_position? (h : r.Distinct) {p : Path} {i : Nat}
    (hi : r.position? p = some i) (rest : List Path) (j : Nat) :
    (j = i ∨ r.isAmong rest j) ↔ r.isAmong (p :: rest) j := by
  obtain ⟨hlt, hsame, -⟩ := List.findIdx?_eq_some_iff_getElem.mp hi
  have hsame : p.Same r.entries[i].path := of_decide_eq_true hsame
  constructor
  · rintro (rfl | ⟨q, hq, hmem⟩)
    · exact ⟨r.entries[j].path, by simp [paths, hlt], by simp [Path.among_cons, hsame.symm]⟩
    · exact ⟨q, hq, by simp [Path.among_cons, hmem]⟩
  · rintro ⟨q, hq, hmem⟩
    rcases Bool.or_eq_true_iff.mp hmem with hqp | hrest
    · have hqp : q.Same p := of_decide_eq_true hqp
      obtain ⟨e, he, rfl⟩ : ∃ e, r.entries[j]? = some e ∧ e.path = q := by simpa [paths] using hq
      have hj := position?_eq h he hqp.symm
      exact Or.inl (Option.some.inj (hj.symm.trans hi))
    · exact Or.inr ⟨q, hq, hrest⟩

/-- A path that is not registered adds no position. -/
theorem isAmong_cons_of_unknown {p : Path} (h : r.contains p = false) (rest : List Path) (j : Nat) :
    r.isAmong rest j ↔ r.isAmong (p :: rest) j := by
  refine exists_congr fun q => and_congr_right fun hq => ?_
  have hnot : ¬ q.Same p := fun hsame =>
    not_same_of_contains h (List.mem_of_getElem? hq) hsame.symm
  simp [Path.among_cons, hnot]

/-- What is registered under paths is counted path by path. -/
theorem Distinct.countP_cons (h : r.Distinct) {p : Path} {rest : List Path}
    (hp : ∀ q : Path, q.Same p → q.among rest = false) {e : Entry} {i : Nat}
    (he : r.entries[i]? = some e) (hsame : p.Same e.path) (test : Entry → Bool) :
    (r.entries.countP fun e => e.path.among (p :: rest) && test e)
      = (if test e then 1 else 0) + r.entries.countP fun e => e.path.among rest && test e := by
  rw [countP_apart _ _ fun e => decide (p.Same e.path), ← h.countP_same he hsame]
  congr 1
  · refine List.countP_congr fun e' _ => ?_
    by_cases hpe : p.Same e'.path
    · simp [Path.among_cons, hpe.symm]
    · simp [hpe]
  · refine List.countP_congr fun e' _ => ?_
    by_cases hpe : p.Same e'.path
    · simp [hpe, hp _ hpe.symm]
    · have hep : ¬ e'.path.Same p := fun hsame' => hpe hsame'.symm
      simp [Path.among_cons, hpe, hep]

/-- What is not registered is not counted. -/
theorem countP_cons_of_unknown {p : Path} (h : r.contains p = false) (rest : List Path)
    (test : Entry → Bool) :
    (r.entries.countP fun e => e.path.among (p :: rest) && test e)
      = r.entries.countP fun e => e.path.among rest && test e := by
  refine List.countP_congr fun e he => ?_
  have hnot : ¬ e.path.Same p := fun hsame =>
    not_same_of_contains h (List.mem_map_of_mem he) hsame.symm
  simp [Path.among_cons, hnot]

/-- Where the entry of a registered script is taken out, the others stay. -/
theorem Distinct.eraseIdx_eq_filter (h : r.Distinct) {p : Path} {i : Nat}
    (hi : r.position? p = some i) :
    r.entries.eraseIdx i = r.entries.filter fun e => !decide (p.Same e.path) := by
  obtain ⟨e, he, hpe⟩ := entry_of_position? hi
  obtain ⟨before, rest, hentries, hlength, hothers⟩ := h.split he
  have hkept : ∀ l ⊆ before ++ rest, (l.filter fun e => !decide (p.Same e.path)) = l :=
    fun l hl => List.filter_eq_self.mpr fun e' he' => by simp [hothers p hpe e' (hl he')]
  rw [hentries, List.filter_append, List.filter_cons, if_neg (by simp [hpe]),
    hkept before (List.subset_append_left _ _), hkept rest (List.subset_append_right _ _),
    ← hlength, List.eraseIdx_append_of_length_le (Nat.le_refl _), Nat.sub_self,
    List.eraseIdx_cons_zero]

/-- An entry is found by its path. -/
theorem position?_paths (r : Registry D) (p : Path) :
    r.position? p = r.paths.findIdx? fun q => decide (p.Same q) := by
  simp [position?, paths, List.findIdx?_map, Function.comp_def]

/-- Where a path stands depends on the paths of the entries only. -/
theorem position?_congr (h : r'.flags = r.flags) (p : Path) : r'.position? p = r.position? p := by
  rw [position?_paths, position?_paths, paths_eq, h, ← paths_eq]

namespace Renews

variable {touched : Nat → Prop} {n : Nat}

/-- What is restarted stays registered. -/
theorem contains (h : r.Renews n touched r') (p : Path) : r'.contains p = r.contains p := by
  rw [contains_eq_known, h.flags, ← contains_eq_known]

/-- Renewing instances keeps the paths distinct. -/
theorem distinct (h : r.Renews n touched r') (hr : r.Distinct) : r'.Distinct := by
  rw [Distinct, paths_eq, h.flags, ← paths_eq]
  exact hr

/-- A script whose entry is not touched keeps its instance. -/
theorem instanceOf_of_untouched (h : r.Renews n touched r') {p : Path}
    (hp : ∀ i, r.position? p = some i → ¬ touched i) : r'.instanceOf p = r.instanceOf p := by
  rw [instanceOf, instanceOf, position?_congr h.flags]
  cases hi : r.position? p with
  | none => rfl
  | some i => simp [live?, h.untouched i (hp i hi)]

/-- A script whose entry is touched has an instance that came into being meanwhile. -/
theorem instanceOf_of_touched (h : r.Renews n touched r') {p : Path}
    (hp : ∀ i, r.position? p = some i → touched i) {k : Nat} (hlive : r.instanceOf p = some k) :
    ∃ k', n ≤ k' ∧ r'.instanceOf p = some k' := by
  obtain ⟨i, hi, hk⟩ := Option.bind_eq_some_iff.mp hlive
  obtain ⟨k', hk', hlive'⟩ := h.renewed i k (hp i hi) hk
  refine ⟨k', hk', ?_⟩
  rw [instanceOf, position?_congr h.flags, hi]
  exact hlive'

end Renews

/-- Entries are appended for those paths of some that are not registered yet, each wanted
as the settings say. -/
structure Extends (settings : ScriptSettings) (found : List Path) (news : List Entry)
    (r r' : Registry D) : Prop where
  entries : r'.entries = r.entries ++ news
  started : r'.started = r.started
  concurrent : r'.concurrent = r.concurrent
  wanted : ∀ e ∈ news, e.enabled = settings.pathEnabled e.path
  mem : ∀ e ∈ news, e.path ∈ found
  unknown : ∀ e ∈ news, r.contains e.path = false
  contains : ∀ p : Path, r'.contains p = (r.contains p || p.among found)

/-- Registered are those who were, and the new ones. -/
theorem contains_append (r : Registry D) (news : List Entry) (p : Path) :
    ({ r with entries := r.entries ++ news } : Registry D).contains p
      = (r.contains p || p.among (news.map Entry.path)) := by
  rw [Bool.eq_iff_iff, Bool.or_eq_true, contains_iff, contains_iff, Path.among_iff]
  simp only [List.mem_append, List.mem_map, or_and_right, exists_or, exists_exists_and_eq_and]

/-- Where nothing is found nothing is registered. -/
theorem Extends.nil (settings : ScriptSettings) (r : Registry D) : r.Extends settings [] [] r :=
  ⟨(List.append_nil _).symm, rfl, rfl, by simp, by simp, by simp, by simp [Path.among]⟩

/-- A script that is registered already is not registered again. -/
theorem Extends.known {settings : ScriptSettings} {p : Path} (h : r.contains p = true) :
    r.Extends settings [p] [] r := by
  refine ⟨(List.append_nil _).symm, rfl, rfl, by simp, by simp, by simp, fun q => ?_⟩
  by_cases hq : q.Same p
  · simp [contains_congr hq, h]
  · simp [Path.among, hq]

/-- What is found first is registered first. -/
theorem Extends.trans {settings : ScriptSettings} {found found' : List Path}
    {news news' : List Entry} (h : r.Extends settings found news r')
    (h' : r'.Extends settings found' news' r'') :
    r.Extends settings (found ++ found') (news ++ news') r'' := by
  refine ⟨?_, h'.started.trans h.started, h'.concurrent.trans h.concurrent, fun e he => ?_,
    fun e he => ?_, fun e he => ?_, fun p => ?_⟩
  · rw [h'.entries, h.entries, List.append_assoc]
  · exact (List.mem_append.mp he).elim (h.wanted e) (h'.wanted e)
  · exact List.mem_append.mpr ((List.mem_append.mp he).imp (h.mem e) (h'.mem e))
  · rcases List.mem_append.mp he with he | he
    · exact h.unknown e he
    · have hunknown := h'.unknown e he
      rw [h.contains, Bool.or_eq_false_iff] at hunknown
      exact hunknown.1
  · rw [h'.contains, h.contains, Bool.or_assoc]
    simp [Path.among]

/-- The flags are as the settings say. -/
def FlaggedBy (settings : ScriptSettings) (r : Registry D) : Prop :=
  ∀ f ∈ r.flags, f.2 = settings.pathEnabled f.1

/-- New entries have the flags the settings give them. -/
theorem Extends.flagged {settings : ScriptSettings} {found : List Path} {news : List Entry}
    (h : r.Extends settings found news r') (hr : r.FlaggedBy settings) : r'.FlaggedBy settings := by
  intro f hf
  rw [flags, h.entries, List.map_append, List.mem_append] at hf
  rcases hf with hf | hf
  · exact hr f hf
  · obtain ⟨e, he, rfl⟩ := List.mem_map.mp hf
    exact h.wanted e he

end Registry

namespace Host

/-- Registering a script that is not known appends one entry. -/
theorem extends_add {h h' : Host D} {settings : ScriptSettings} {p : Path} {cs : List (Config D)}
    {result : Except RegistryError Nat}
    (hc : (add p (settings.pathEnabled p)).Trace I h cs result h')
    (hunknown : h.registry.contains p = false) :
    ∃ e, h.registry.Extends settings [p] [e] h'.registry ∧
      (e.settled h.registry.started = true ↔ ∃ i, result = .ok i) := by
  obtain ⟨live, hentries, hstarted, hconcurrent, hsettled⟩ := trace_add hc hunknown
  refine ⟨_, ⟨hentries, hstarted, hconcurrent, by simp, by simp, by simp [hunknown],
    fun q => ?_⟩, hsettled⟩
  have hcontains := h.registry.contains_append [⟨p, settings.pathEnabled p, live⟩] q
  rw [← hentries] at hcontains
  exact hcontains

/-- **Discovery** appends entries for what is not registered yet. -/
theorem trace_enlist {settings : ScriptSettings} {found : List Path} {h h' : Host D}
    {cs : List (Config D)} {result : Nat × Option RegistryError}
    (hc : (enlist settings found).Trace I h cs result h') :
    ∃ news, h.registry.Extends settings found news h'.registry := by
  induction found generalizing h cs result with
  | nil =>
    obtain ⟨-, rfl⟩ := hc.pure
    exact ⟨[], .nil settings _⟩
  | cons p rest ih =>
    have hc := hc.state
    split at hc
    · next hknown =>
      obtain ⟨news, hnews⟩ := ih hc
      exact ⟨news, (Registry.Extends.known hknown).trans hnews⟩
    · next hunknown =>
      obtain ⟨_, added, h₁, _, -, hadded, hc⟩ := hc.bind
      obtain ⟨e, hfirst, -⟩ := extends_add hadded (Bool.eq_false_iff.mpr hunknown)
      cases added with
      | ok =>
        obtain ⟨_, _, h₂, _, -, hrest, hdone⟩ := hc.bind
        obtain ⟨-, rfl⟩ := hdone.pure
        obtain ⟨news, hnews⟩ := ih hrest
        exact ⟨_, hfirst.trans hnews⟩
      | error error =>
        obtain ⟨_, _, h₂, _, -, hreport, hc⟩ := hc.bind
        obtain ⟨_, _, h₃, _, -, hrest, hdone⟩ := hc.bind
        obtain ⟨-, rfl⟩ := hdone.pure
        obtain ⟨news, hnews⟩ := ih hrest
        rw [trace_report hreport] at hnews
        exact ⟨_, hfirst.trans hnews⟩

/-- Reports of a walk leave the registry as it was. -/
theorem trace_reportWalk {ns : List ScanNotice} {h h' : Host D} {cs : List (Config D)} {u : Unit}
    (hc : (reportWalk ns).Trace I h cs u h') : h'.registry = h.registry := by
  induction ns generalizing h cs with
  | nil =>
    obtain ⟨-, rfl⟩ := Chore.Trace.pure hc
    rfl
  | cons n rest ih =>
    obtain ⟨_, _, h₁, _, -, hfirst, hc⟩ :=
      Chore.Trace.bind (c := .report (.scan n)) (f := fun _ => reportWalk rest) hc
    obtain ⟨-, w, rfl⟩ := Chore.Trace.order_done hfirst
    have hrest := ih hc
    exact hrest

/-- **Discovery** appends entries for the autorun scripts that are not registered yet. -/
theorem trace_discover {files : Files} {dir : Path} {settings : ScriptSettings} {h h' : Host D}
    {cs : List (Config D)} {result : Except RegistryError Nat}
    (hc : (discover files dir settings).Trace I h cs result h') :
    ∃ news, h.registry.Extends settings (Walk.autorun files dir settings).1 news h'.registry := by
  obtain ⟨_, _, h₁, _, -, hreport, hc⟩ := hc.bind
  obtain ⟨_, found, h₂, _, -, henlist, hc⟩ := hc.bind
  obtain ⟨_, _, h₃, _, -, hreport', hdone⟩ := hc.bind
  obtain ⟨news, hnews⟩ := trace_enlist henlist
  have hlast : h'.registry = h₃.registry := by
    split at hdone
    · rw [hdone.pure.2]
    · rw [hdone.pure.2]
  rw [trace_reportWalk hreport] at hnews
  rw [hlast, trace_report hreport']
  exact ⟨news, hnews⟩

end Host

namespace Session

/-- Two states of a session that watch the same in the same way. -/
structure SameWatch (s s' : Session D) : Prop where
  settings : s'.settings = s.settings
  scanner : s'.scanner = s.scanner
  reload : s'.reload = s.reload

theorem SameWatch.refl (s : Session D) : s.SameWatch s :=
  ⟨rfl, rfl, rfl⟩

/-- A session that has not looked anywhere still has not after more of the same. -/
theorem SameWatch.trans {s s' s'' : Session D} (h : s.SameWatch s') (h' : s'.SameWatch s'') :
    s.SameWatch s'' :=
  ⟨h'.settings.trans h.settings, h'.scanner.trans h.scanner, h'.reload.trans h.reload⟩

/-- What the registry does for a session is done by its own traces. -/
theorem trace_host {c : Chore D (Host D) α} {s s' : Session D} {cs : List (Config D)} {a : α}
    (hc : (withHost c).Trace I s cs a s') :
    c.Trace I s.host cs a s'.host ∧ s.SameWatch s' := by
  obtain ⟨h', htrace, rfl⟩ := trace_withHost hc
  exact ⟨htrace, rfl, rfl, rfl⟩

/-- An order leaves the registry as it is, and the session beside it. -/
theorem trace_order {s s' : Session D} {o : Order D} {a b : α} {cs : List (Config D)}
    (hc : Chore.Trace I (.order o (.done a)) s cs b s') :
    s'.host.registry = s.host.registry ∧ s.SameWatch s' := by
  obtain ⟨-, w, rfl⟩ := Chore.Trace.order_done hc
  exact ⟨rfl, rfl, rfl, rfl⟩

/-- A report changes nothing in a session. -/
theorem trace_report {s s' : Session D} {n : SessionNotice} {cs : List (Config D)} {u : Unit}
    (hc : (report n).Trace I s cs u s') :
    s'.host.registry = s.host.registry ∧ s.SameWatch s' :=
  trace_order hc

/-- Reports change nothing in a session. -/
theorem trace_reportAll {s s' : Session D} {ns : List Notice} {cs : List (Config D)} {u : Unit}
    (hc : (Chore.reportAll ns).Trace I s cs u s') :
    s'.host.registry = s.host.registry ∧ s.SameWatch s' := by
  induction ns generalizing s cs with
  | nil =>
    obtain ⟨-, rfl⟩ := Chore.Trace.pure hc
    exact ⟨rfl, .refl _⟩
  | cons n rest ih =>
    obtain ⟨_, _, s₁, _, -, hfirst, hc⟩ :=
      Chore.Trace.bind (c := .report n) (f := fun _ => .reportAll rest) hc
    obtain ⟨hregistry, hsame⟩ := trace_order hfirst
    obtain ⟨hregistry', hsame'⟩ := ih hc
    exact ⟨hregistry'.trans hregistry, hsame.trans hsame'⟩

/-- What keeps a session well leaves it so on every trace. -/
theorem wellKept_of_trace {c : Chore D (Session D) α} {s s' : Session D} {cs : List (Config D)}
    {a : α} (hs : s.host.WellKept I concurrent) (hkeeps : Upholds I concurrent c)
    (hc : c.Trace I s cs a s') : s'.host.WellKept I concurrent :=
  hc.of_ensures (hkeeps s hs)

/-- Restarting the first of some scripts, if it is registered, and going on with the
others. -/
theorem trace_restartChanged_cons {p : Path} {rest : List Path} {s s' : Session D}
    {cs : List (Config D)} {m n : Nat} (hs : s.host.WellKept I concurrent)
    (hn : n ≤ s.host.world.instances.length)
    (hc : (restartChanged (p :: rest)).Trace I s cs m s') {i : Nat}
    (hi : s.host.registry.position? p = some i) :
    ∃ (s₁ : Session D) (result : Except RegistryError Unit) (cs₁ : List (Config D)) (m₁ : Nat),
      s₁.host.WellKept I concurrent ∧ n ≤ s₁.host.world.instances.length ∧ s.SameWatch s₁ ∧
      s.host.registry.Restarted i n result s₁.host.registry ∧
      (restartChanged rest).Trace I s₁ cs₁ m₁ s' ∧
      m = (if result = .ok () then 1 else 0) + m₁ := by
  have hc := hc.state
  rw [if_pos (by simp [Registry.contains, hi])] at hc
  obtain ⟨_, _, s₁, _, -, hreport, hc⟩ := hc.bind
  have hs₁ := wellKept_of_trace hs (upholds_report _) hreport
  have hn₁ := hn.trans hreport.length_instances
  obtain ⟨hregistry, hsame₁⟩ := trace_report hreport
  obtain ⟨_, result, s₂, _, -, hrestart, hc⟩ := hc.bind
  have hs₂ := wellKept_of_trace hs₁ (upholds_withHost (Host.upholds_restart _)) hrestart
  have hn₂ := hn₁.trans hrestart.length_instances
  obtain ⟨hrestart, hsame₂⟩ := trace_host hrestart
  have hone := Host.trace_restart_path hs₁ hn₁ hrestart (hregistry.symm ▸ hi)
  rw [hregistry] at hone
  cases result with
  | ok =>
    obtain ⟨_, m₁, s₃, _, -, hc, hdone⟩ := hc.bind
    obtain ⟨rfl, rfl⟩ := hdone.pure
    exact ⟨s₂, .ok (), _, m₁, hs₂, hn₂, hsame₁.trans hsame₂, hone, hc, by simp [Nat.add_comm]⟩
  | error e =>
    obtain ⟨_, _, s₃, _, -, hreport, hc⟩ := hc.bind
    obtain ⟨hregistry₃, hsame₃⟩ := trace_report hreport
    exact ⟨s₃, .error e, _, m, wellKept_of_trace hs₂ (upholds_report _) hreport,
      hn₂.trans hreport.length_instances, (hsame₁.trans hsame₂).trans hsame₃,
      hregistry₃.symm ▸ hone, hc, by simp⟩

/-- **Restarting what changed** renews the instances of the registered scripts among some
paths; what is counted are those for which nothing is left to be done. -/
theorem trace_restartChanged {ps : List Path} {s s' : Session D} {cs : List (Config D)} {m n : Nat}
    (hs : s.host.WellKept I concurrent) (hn : n ≤ s.host.world.instances.length)
    (hc : (restartChanged ps).Trace I s cs m s') :
    s.SameWatch s' ∧
      s.host.registry.Renews n (s.host.registry.isAmong ps) s'.host.registry ∧
      (ps.Pairwise (fun p q => ¬ p.Same q) → m = s'.host.registry.entries.countP
        fun e => e.path.among ps && e.settled s'.host.registry.started) := by
  have hs' := wellKept_of_trace hs (upholds_restartChanged ps) hc
  induction ps generalizing s cs m with
  | nil =>
    obtain ⟨rfl, rfl⟩ := hc.pure
    exact ⟨.refl _, .refl n _ _ (by simp [Registry.isAmong]), by simp⟩
  | cons p rest ih =>
    cases hi : s.host.registry.position? p with
    | some i =>
      obtain ⟨s₁, result, cs₁, m₁, hs₁, hn₁, hsame₁, hone, hc, hm⟩ :=
        trace_restartChanged_cons hs hn hc hi
      obtain ⟨hsame, hrenews, hcount⟩ := ih hs₁ hn₁ hc
      rw [Registry.isAmong_congr hone.renews.flags] at hrenews
      have hall := (hone.renews.trans hrenews).mono
        (Registry.isAmong_cons_of_position? hs.tidy.distinct hi rest)
      refine ⟨hsame₁.trans hsame, hall, fun hdistinct => ?_⟩
      obtain ⟨hp, hrest⟩ := List.pairwise_cons.mp hdistinct
      have hnot : ∀ q : Path, q.Same p → q.among rest = false := by
        intro q hq
        refine Bool.eq_false_iff.mpr fun hmem => ?_
        obtain ⟨q', hq', hsame⟩ := Path.among_iff.mp hmem
        exact hp q' hq' (hq.symm.trans hsame)
      obtain ⟨e, he, hpe⟩ := Registry.entry_of_position?
        ((Registry.position?_congr hall.flags p).trans hi)
      have hsettled : e.settled s'.host.registry.started = true ↔ result = .ok () := by
        rw [hrenews.started]
        refine hone.settled ((hrenews.untouched i ?_).symm.trans he)
        rw [Registry.isAmong_of_position? hi, hnot p (.refl p)]
        exact Bool.false_ne_true
      rw [hs'.tidy.distinct.countP_cons hnot he hpe, hm, hcount hrest]
      simp only [hsettled]
    | none =>
      have hunknown : s.host.registry.contains p = false := by simp [Registry.contains, hi]
      have hc := hc.state
      rw [if_neg (by simp [hunknown])] at hc
      obtain ⟨hsame, hrenews, hcount⟩ := ih hs hn hc
      refine ⟨hsame, hrenews.mono (Registry.isAmong_cons_of_unknown hunknown rest),
        fun hdistinct => ?_⟩
      rw [hcount (List.pairwise_cons.mp hdistinct).2,
        Registry.countP_cons_of_unknown (hrenews.contains p ▸ hunknown)]

/-- **Removing what is missing** takes out the entries whose paths are among some, and
leaves the others as they are. -/
theorem trace_removeMissing {ps : List Path} {s s' : Session D} {cs : List (Config D)} {m : Nat}
    (hdistinct : s.host.registry.Distinct) (hc : (removeMissing ps).Trace I s cs m s') :
    s.SameWatch s' ∧
      s'.host.registry = { s.host.registry with
        entries := s.host.registry.entries.filter fun e => !e.path.among ps } ∧
      m = s.host.registry.entries.countP fun e => e.path.among ps := by
  induction ps generalizing s cs m with
  | nil =>
    obtain ⟨rfl, rfl⟩ := hc.pure
    exact ⟨.refl _, by simp, by simp⟩
  | cons p rest ih =>
    have hc := hc.state
    split at hc
    · next hknown =>
      obtain ⟨i, hi⟩ := Option.isSome_iff_exists.mp hknown
      obtain ⟨_, _, s₁, _, -, hreport, hc⟩ := hc.bind
      obtain ⟨hregistry, hsame₁⟩ := trace_report hreport
      obtain ⟨_, result, s₂, _, -, hremove, hc⟩ := hc.bind
      obtain ⟨hremove, hsame₂⟩ := trace_host hremove
      obtain ⟨hremoved, q, rfl⟩ := Host.trace_remove_path hremove (hregistry.symm ▸ hi)
      obtain ⟨_, m₃, s₃, _, -, hc, hdone⟩ := hc.bind
      obtain ⟨rfl, rfl⟩ := hdone.pure
      rw [hregistry] at hremoved
      obtain ⟨hsame, hentries, hcount⟩ := ih (hremoved ▸ hdistinct.eraseIdx i) hc
      obtain ⟨e, he, hpe⟩ := Registry.entry_of_position? hi
      refine ⟨(hsame₁.trans hsame₂).trans hsame, ?_, ?_⟩
      · rw [hentries, hremoved, hdistinct.eraseIdx_eq_filter hi]
        simp only [List.filter_filter, Path.among_cons, Bool.not_or, Bool.and_comm, Path.same_comm]
      · have hfirst := hdistinct.countP_same he hpe fun e => e.path.among (p :: rest)
        rw [if_pos (by simp [Path.among_cons, hpe.symm])] at hfirst
        rw [countP_apart _ _ fun e => decide (p.Same e.path), hfirst, hcount, hremoved,
          hdistinct.eraseIdx_eq_filter hi, List.countP_filter, Nat.add_comm]
        congr 1
        refine List.countP_congr fun e _ => ?_
        by_cases hpe : p.Same e.path
        · simp [hpe]
        · have hep : ¬ e.path.Same p := fun hsame => hpe hsame.symm
          simp [Path.among_cons, hpe, hep]
    · next hunknown =>
      have hunknown := Bool.eq_false_iff.mpr hunknown
      obtain ⟨hsame, hentries, hcount⟩ := ih hdistinct hc
      have hsame_test : ∀ e ∈ s.host.registry.entries,
          e.path.among (p :: rest) = e.path.among rest := by
        intro e he
        have hnot : ¬ e.path.Same p := fun hsame =>
          Registry.not_same_of_contains hunknown (List.mem_map_of_mem he) hsame.symm
        simp [Path.among_cons, hnot]
      refine ⟨hsame, ?_, ?_⟩
      · rw [hentries, List.filter_congr fun e he => congrArg not (hsame_test e he)]
      · rw [hcount]
        exact List.countP_congr fun e he => by rw [hsame_test e he]

/-- **Adding what is found** appends entries for the autorun scripts that are not
registered yet; what is counted are those for which nothing is left to be done. -/
theorem trace_addFound {ps : List Path} {s s' : Session D} {cs : List (Config D)} {m : Nat}
    (hc : (addFound ps).Trace I s cs m s') :
    s.SameWatch s' ∧
      ∃ news, s.host.registry.Extends s.settings (ps.filter s.settings.isAutorun) news
          s'.host.registry ∧
        m = news.countP (Entry.settled s.host.registry.started) := by
  induction ps generalizing s cs m with
  | nil =>
    obtain ⟨rfl, rfl⟩ := hc.pure
    exact ⟨.refl _, [], .nil _ _, rfl⟩
  | cons p rest ih =>
    have hc := hc.state
    split at hc
    · next hnew =>
      obtain ⟨hautorun, hunknown⟩ := Bool.and_eq_true_iff.mp hnew
      obtain ⟨_, result, s₁, _, -, hadd, hc⟩ := hc.bind
      obtain ⟨hadd, hsame₁⟩ := trace_host hadd
      obtain ⟨e, hfirst, hsettled⟩ := Host.extends_add hadd (by simpa using hunknown)
      obtain ⟨s₂, cs₂, m₂, hsame₂, hregistry₂, hc, hm⟩ : ∃ s₂ cs₂ m₂, s₁.SameWatch s₂ ∧
          s₂.host.registry = s₁.host.registry ∧ (addFound rest).Trace I s₂ cs₂ m₂ s' ∧
          m = (if e.settled s.host.registry.started then 1 else 0) + m₂ := by
        cases result with
        | ok =>
          obtain ⟨_, m₂, s₂, _, -, hc, hdone⟩ := hc.bind
          obtain ⟨rfl, rfl⟩ := hdone.pure
          exact ⟨s₁, _, m₂, .refl _, rfl, hc, by rw [if_pos (hsettled.mpr ⟨_, rfl⟩), Nat.add_comm]⟩
        | error error =>
          obtain ⟨_, _, s₂, _, -, hreport, hc⟩ := hc.bind
          obtain ⟨hregistry₂, hsame₂⟩ := trace_report hreport
          refine ⟨s₂, _, m, hsame₂, hregistry₂, hc, ?_⟩
          rw [if_neg (by simp [hsettled]), Nat.zero_add]
      obtain ⟨hsame, news, hnews, hcount⟩ := ih hc
      rw [hregistry₂] at hnews hcount
      rw [(hsame₁.trans hsame₂).settings] at hnews
      refine ⟨(hsame₁.trans hsame₂).trans hsame, e :: news, ?_, ?_⟩
      · rw [List.filter_cons, if_pos hautorun]
        exact hfirst.trans hnews
      · rw [hm, hcount, hfirst.started, List.countP_cons, Nat.add_comm]
    · next hskip =>
      obtain ⟨hsame, news, hnews, hcount⟩ := ih hc
      refine ⟨hsame, news, ?_, hcount⟩
      rw [List.filter_cons]
      split
      · next hautorun =>
        have hknown : s.host.registry.contains p = true := by simpa [hautorun] using hskip
        exact (Registry.Extends.known hknown).trans hnews
      · exact hnews

end Session

namespace Registry

variable {r r' mid : Registry D} {n : Nat} {settings : ScriptSettings} {changes : ScanResult}
  {news : List Entry}

/-- Changes on disk are applied: the instances of changed scripts are renewed, the entries
of missing ones taken out, and entries of new ones appended. -/
structure Applies (settings : ScriptSettings) (changes : ScanResult) (n : Nat) (r mid : Registry D)
    (news : List Entry) (r' : Registry D) : Prop where
  renews : r.Renews n (r.isAmong (changes.changed.map Prod.fst)) mid
  appends : ({ mid with entries := mid.entries.filter fun e => !e.path.among changes.removed } :
    Registry D).Extends settings (changes.added.filter settings.isAutorun) news r'

/-- Registered are those who were, without the missing ones. -/
theorem contains_filter (r : Registry D) (ps : List Path) (p : Path) :
    ({ r with entries := r.entries.filter fun e => !e.path.among ps } : Registry D).contains p
      = (r.contains p && !p.among ps) := by
  rw [Bool.eq_iff_iff, Bool.and_eq_true, contains_iff, contains_iff]
  constructor
  · rintro ⟨e, he, hpe⟩
    obtain ⟨hmem, hkept⟩ := List.mem_filter.mp he
    exact ⟨⟨e, hmem, hpe⟩, Path.among_congr hpe ps ▸ hkept⟩
  · rintro ⟨⟨e, hmem, hpe⟩, hkept⟩
    exact ⟨e, List.mem_filter.mpr ⟨hmem, Path.among_congr hpe ps ▸ hkept⟩, hpe⟩

/-- Where nothing changed nothing is done. -/
theorem applies_nothing (r : Registry D) (settings : ScriptSettings) (n : Nat) :
    r.Applies settings ⟨[], [], []⟩ n r [] r := by
  refine ⟨.refl n _ r (by simp [isAmong]), ?_⟩
  have hkept : (r.entries.filter fun e => !e.path.among []) = r.entries := by simp
  rw [hkept]
  exact .nil settings r

namespace Applies

/-- What is fresh from some number on is fresh from any smaller one. -/
theorem mono (h : r.Applies settings changes n mid news r') {n' : Nat} (hn : n' ≤ n) :
    r.Applies settings changes n' mid news r' := by
  refine ⟨⟨h.renews.started, h.renews.concurrent, h.renews.flags, h.renews.untouched, ?_⟩,
    h.appends⟩
  intro i k hi hk
  obtain ⟨k', hk', hlive⟩ := h.renews.renewed i k hi hk
  exact ⟨k', hn.trans hk', hlive⟩

/-- Applying changes neither starts nor stops the emulation. -/
theorem started (h : r.Applies settings changes n mid news r') : r'.started = r.started :=
  h.appends.started.trans h.renews.started

/-- **What is registered after changes were applied.** -/
theorem contains (h : r.Applies settings changes n mid news r') (p : Path) :
    r'.contains p = (r.contains p && !p.among changes.removed
      || p.among changes.added && settings.isAutorun p) := by
  rw [h.appends.contains, contains_filter, h.renews.contains,
    Path.among_filter settings.isAutorun_congr]

/-- The flags are as the settings say, if they were. -/
theorem flagged (h : r.Applies settings changes n mid news r') (hr : r.FlaggedBy settings) :
    r'.FlaggedBy settings := by
  refine h.appends.flagged fun f hf => hr f ?_
  rw [← h.renews.flags]
  exact (List.filter_sublist.map fun e : Entry => (e.path, e.enabled)).subset hf

/-- The instance of a script whose file is still there. -/
theorem instanceOf_of_kept (h : r.Applies settings changes n mid news r') (hr : r.Distinct)
    (hr' : r'.Distinct) {p : Path} (hknown : r.contains p = true)
    (hkept : p.among changes.removed = false) : r'.instanceOf p = mid.instanceOf p := by
  rw [← h.renews.contains] at hknown
  obtain ⟨e, he, hpe⟩ := contains_iff.mp hknown
  rw [instanceOf_eq (h.renews.distinct hr) he hpe]
  refine instanceOf_eq hr' ?_ hpe
  rw [h.appends.entries]
  refine List.mem_append_left _ (List.mem_filter.mpr ⟨he, ?_⟩)
  rw [← Path.among_congr hpe, hkept]
  rfl

/-- **An unchanged script keeps its instance.** -/
theorem instanceOf_unchanged (h : r.Applies settings changes n mid news r') (hr : r.Distinct)
    (hr' : r'.Distinct) {p : Path} (hknown : r.contains p = true)
    (hkept : p.among changes.removed = false)
    (hunchanged : p.among (changes.changed.map Prod.fst) = false) :
    r'.instanceOf p = r.instanceOf p := by
  rw [h.instanceOf_of_kept hr hr' hknown hkept]
  refine h.renews.instanceOf_of_untouched fun i hi => ?_
  rw [isAmong_of_position? hi, hunchanged]
  exact Bool.false_ne_true

/-- **A changed script gets another instance**, if it had one. -/
theorem instanceOf_changed (h : r.Applies settings changes n mid news r') (hr : r.Distinct)
    (hr' : r'.Distinct) {p : Path} {k : Nat} (hlive : r.instanceOf p = some k)
    (hkept : p.among changes.removed = false)
    (hchanged : p.among (changes.changed.map Prod.fst) = true) :
    ∃ k', n ≤ k' ∧ r'.instanceOf p = some k' := by
  obtain ⟨i, hi, -⟩ := Option.bind_eq_some_iff.mp hlive
  rw [h.instanceOf_of_kept hr hr' (by simp [Registry.contains, hi]) hkept]
  refine h.renews.instanceOf_of_touched (fun i hi => ?_) hlive
  exact (isAmong_of_position? hi _).mpr hchanged

end Applies

end Registry

namespace Session

/-- **Applying changes**: what is counted are the changed scripts for which nothing is
left to be done, the missing ones, and the new ones for which nothing is left to be done. -/
theorem trace_applyChanges {changes : ScanResult} {s s' : Session D} {cs : List (Config D)}
    {m : Nat} (hs : s.host.WellKept I concurrent) (hc : (applyChanges changes).Trace I s cs m s') :
    s.SameWatch s' ∧ ∃ (mid : Registry D) (news : List Entry),
      s.host.registry.Applies s.settings changes s.host.world.instances.length mid news
        s'.host.registry ∧
      ((changes.changed.map Prod.fst).Pairwise (fun p q => ¬ p.Same q) →
        m = (mid.entries.countP fun e =>
            e.path.among (changes.changed.map Prod.fst) && e.settled mid.started) +
          (mid.entries.countP fun e => e.path.among changes.removed) +
          news.countP (Entry.settled mid.started)) := by
  obtain ⟨_, m₁, s₁, _, -, hchanged, hc⟩ := hc.bind
  have hs₁ := wellKept_of_trace hs (upholds_restartChanged _) hchanged
  obtain ⟨_, m₂, s₂, _, -, hremoved, hc⟩ := hc.bind
  obtain ⟨_, m₃, s₃, _, -, hadded, hdone⟩ := hc.bind
  obtain ⟨rfl, rfl⟩ := hdone.pure
  obtain ⟨hsame₁, hrenews, hcount⟩ := trace_restartChanged hs (Nat.le_refl _) hchanged
  obtain ⟨hsame₂, hregistry, rfl⟩ := trace_removeMissing hs₁.tidy.distinct hremoved
  obtain ⟨hsame₃, news, hextends, rfl⟩ := trace_addFound hadded
  rw [(hsame₁.trans hsame₂).settings, hregistry] at hextends
  refine ⟨(hsame₁.trans hsame₂).trans hsame₃, s₁.host.registry, news, ⟨hrenews, hextends⟩,
    fun hdistinct => ?_⟩
  rw [hcount hdistinct, hregistry]

end Session

end ScriptHost
