import ScriptHost.Proofs.Findings
import ScriptHost.Proofs.Repetition

/-!
# Registering what is found

Discovery goes through the autorun scripts that are found, in path order, and registers
those it does not know.  One that may not start is registered all the same, and the ones
after it are registered too: what discovery leaves does not depend on what it comes to.
It comes to the number of new entries, or, where only one script may run, to the first
rejection.  Afterwards everything that was found is known; so discovery once more finds
nothing to do.

* `Registry.Rejects` — why an entry has no instance;
* `Registry.Enlists` — what registering some paths leaves, and what it comes to;
* `Host.enlists_of_trace` — the same, of what is found on disk;
* `Host.onlyReports_discover` — discovery where everything is known;
* `Scene.Reachable.discovery_complete` — both, in whatever state a registry is.
-/

namespace ScriptHost

variable {D : Dialect} {I : Interpreter D} {concurrent : Bool}

namespace Registry

variable {r r' r'' : Registry D} {settings : ScriptSettings} {e : Entry} {error : RegistryError}

/-- An entry has no instance because only one script may run, and another one does. -/
def Rejects (r : Registry D) (e : Entry) (error : RegistryError) : Prop :=
  r.concurrent = false ∧ ∃ other ∈ r.entries, other.live.isSome = true ∧
    error = .concurrentRejected e.path other.path

/-- Who is in the way of an entry stays there while others are appended. -/
theorem Extends.rejects {found : List Path} {news : List Entry}
    (h : r.Extends settings found news r') (hrejects : r.Rejects e error) : r'.Rejects e error := by
  obtain ⟨hsingle, other, hother, hlive, rfl⟩ := hrejects
  refine ⟨h.concurrent.trans hsingle, other, ?_, hlive, rfl⟩
  rw [h.entries]
  exact List.mem_append_left _ hother

theorem rejects_of_blocker? {i : Nat} {live : Path} (h : r.blocker? i = some live) :
    r.Rejects e (.concurrentRejected e.path live) := by
  refine ⟨concurrent_of_blocker? h, ?_⟩
  rw [blocker?, if_neg (by simp [concurrent_of_blocker? h])] at h
  obtain ⟨j, hfound, hpath⟩ := Option.bind_eq_some_iff.mp h
  obtain ⟨other, hother, rfl⟩ := Option.map_eq_some_iff.mp hpath
  obtain ⟨other', hother', hlive⟩ := mem_positions.mp (List.mem_of_find?_eq_some hfound)
  obtain rfl := Option.some.inj (hother.symm.trans hother')
  exact ⟨other, List.mem_of_getElem? hother, hlive, rfl⟩

/-- Entries are appended for those paths of some that are not known yet, in the same order:
how many, and why the first one that has no instance has none. -/
structure Enlists (settings : ScriptSettings) (found : List Path) (r : Registry D)
    (result : Nat × Option RegistryError) (news : List Entry) (r' : Registry D) : Prop where
  appended : r.Extends settings found news r'
  paths : news.map Entry.path = found.filter fun p => !r.contains p
  count : result.1 = news.length
  served : (∀ e ∈ news, e.settled r.started = true) → result.2 = none
  rejected : ∀ e, news.find? (fun e => !e.settled r.started) = some e →
    ∃ error, result.2 = some error ∧ r'.Rejects e error

namespace Enlists

variable {p : Path} {rest : List Path} {n : Nat} {failure : Option RegistryError}
  {news : List Entry}

theorem nil (settings : ScriptSettings) (r : Registry D) : r.Enlists settings [] (0, none) [] r :=
  ⟨.nil settings r, rfl, rfl, fun _ => rfl, by simp⟩

/-- What is known is passed over. -/
theorem known (hp : r.contains p = true) (h : r.Enlists settings rest (n, failure) news r') :
    r.Enlists settings (p :: rest) (n, failure) news r' := by
  refine ⟨(Extends.known hp).trans h.appended, ?_, h.count, h.served, h.rejected⟩
  rw [List.filter_cons, if_neg (by simp [hp]), h.paths]

/-- The paths that are not known after the first has been registered. -/
theorem paths_cons (hfirst : r.Extends settings [p] [e] r') (hp : r.contains p = false)
    (hpath : e.path = p) (hdistinct : ∀ q ∈ rest, ¬ p.Same q)
    (h : r'.Enlists settings rest (n, failure) news r'') :
    (e :: news).map Entry.path = (p :: rest).filter fun q => !r.contains q := by
  rw [List.filter_cons, if_pos (by simp [hp]), List.map_cons, h.paths, hpath]
  congr 1
  refine List.filter_congr fun q hq => ?_
  have hother : q.among [p] = false := by
    simpa [Path.among] using fun hsame : q.Same p => hdistinct q hq hsame.symm
  rw [hfirst.contains, hother, Bool.or_false]

/-- One more entry, with an instance if it is to have one. -/
theorem cons_settled (hfirst : r.Extends settings [p] [e] r') (hp : r.contains p = false)
    (hpath : e.path = p) (hdistinct : ∀ q ∈ rest, ¬ p.Same q)
    (hsettled : e.settled r.started = true)
    (h : r'.Enlists settings rest (n, failure) news r'') :
    r.Enlists settings (p :: rest) (n + 1, failure) (e :: news) r'' := by
  have hcount : n = news.length := h.count
  refine ⟨hfirst.trans h.appended, paths_cons hfirst hp hpath hdistinct h, by simp [hcount],
    fun hall => h.served ?_, fun e' hfound => h.rejected e' ?_⟩
  · rw [hfirst.started]
    exact (List.forall_mem_cons.mp hall).2
  · rw [hfirst.started]
    simpa [hsettled] using hfound

/-- One more entry, which is turned away. -/
theorem cons_rejected (hfirst : r.Extends settings [p] [e] r') (hp : r.contains p = false)
    (hpath : e.path = p) (hdistinct : ∀ q ∈ rest, ¬ p.Same q)
    (hunsettled : ¬ e.settled r.started = true) (hrejects : r'.Rejects e error)
    (h : r'.Enlists settings rest (n, failure) news r'') :
    r.Enlists settings (p :: rest) (n + 1, some error) (e :: news) r'' := by
  have hcount : n = news.length := h.count
  refine ⟨hfirst.trans h.appended, paths_cons hfirst hp hpath hdistinct h, by simp [hcount],
    fun hall => absurd (hall e List.mem_cons_self) hunsettled, fun e' hfound => ?_⟩
  rw [List.find?_cons_of_pos (by simp [hunsettled])] at hfound
  obtain rfl := Option.some.inj hfound
  exact ⟨error, rfl, h.appended.rejects hrejects⟩

end Enlists

end Registry

namespace Host

variable {h h' : Host D} {settings : ScriptSettings} {cs : List (Config D)} {files : Files}
  {dir : Path}

/-- What is not known can be refused for one reason only: that another script runs. -/
theorem rejects_of_add {p : Path} {enabled : Bool} {error : RegistryError} {e : Entry}
    (hc : (add p enabled).Trace I h cs (.error error) h')
    (hunknown : h.registry.contains p = false) (hpath : e.path = p) :
    h'.registry.Rejects e error := by
  have hc := hc.state
  rw [if_neg (by simp [hunknown])] at hc
  obtain ⟨_, _, h₁, _, -, hreport, hc⟩ := hc.bind
  have hregistry := trace_report hreport
  obtain ⟨_, _, h₂, _, -, happended, hc⟩ := hc.bind
  obtain rfl := trace_modifyRegistry happended
  split at hc
  · obtain ⟨_, made, h₃, _, -, hmade, hdone⟩ := hc.bind
    obtain ⟨hresult, rfl, rfl⟩ := hdone.of_pure
    obtain rfl := eq_error_of_map hresult.symm
    obtain ⟨e', live, he', hblocker, rfl, rfl, -⟩ := trace_instantiate_error hmade
    obtain rfl : ⟨p, enabled, none⟩ = e' := by simpa [hregistry] using he'
    have hrejects := Registry.rejects_of_blocker? (e := e) hblocker
    rw [hpath] at hrejects
    exact hrejects
  · cases hc.pure.1

/-- **Registering paths** that are all different. -/
theorem enlists_of_enlist {found : List Path} {result : Nat × Option RegistryError}
    (hdistinct : found.Pairwise fun p q => ¬ p.Same q)
    (hc : (enlist settings found).Trace I h cs result h') :
    ∃ news, h.registry.Enlists settings found result news h'.registry := by
  induction found generalizing h cs result with
  | nil =>
    obtain ⟨rfl, rfl⟩ := hc.pure
    exact ⟨[], .nil settings _⟩
  | cons p rest ih =>
    obtain ⟨hp, hrest⟩ := List.pairwise_cons.mp hdistinct
    have hc := hc.state
    split at hc
    · next hknown =>
      obtain ⟨news, hnews⟩ := ih hrest hc
      exact ⟨news, hnews.known hknown⟩
    · next hunknown =>
      have hunknown : h.registry.contains p = false := Bool.eq_false_iff.mpr hunknown
      obtain ⟨_, added, h₁, _, -, hadded, hc⟩ := hc.bind
      obtain ⟨e, hfirst, hsettled⟩ := extends_add hadded hunknown
      have hpath : e.path = p := List.mem_singleton.mp (hfirst.mem e List.mem_cons_self)
      cases added with
      | ok position =>
        obtain ⟨_, ⟨n, failure⟩, h₂, _, -, henlist, hdone⟩ := hc.bind
        obtain ⟨rfl, rfl⟩ := hdone.pure
        obtain ⟨news, hnews⟩ := ih hrest henlist
        exact ⟨e :: news, hnews.cons_settled hfirst hunknown hpath hp (hsettled.mpr ⟨_, rfl⟩)⟩
      | error error =>
        have hrejects := rejects_of_add hadded hunknown hpath
        obtain ⟨_, _, h₂, _, -, hreport, hc⟩ := hc.bind
        obtain ⟨_, ⟨n, failure⟩, h₃, _, -, henlist, hdone⟩ := hc.bind
        obtain ⟨rfl, rfl⟩ := hdone.pure
        obtain ⟨news, hnews⟩ := ih hrest henlist
        rw [trace_report hreport] at hnews
        have hunsettled : ¬ e.settled h.registry.started = true := by simp [hsettled]
        have hall := hnews.cons_rejected hfirst hunknown hpath hp hunsettled hrejects
        obtain ⟨-, other, -, -, rfl⟩ := hrejects
        exact ⟨e :: news, hall⟩

/-- **Registering what is found**: it comes to the number of new entries, or to the first
failure. -/
theorem enlists_of_trace {result : Except RegistryError Nat} (hfiles : files.Proper)
    (hc : (discover files dir settings).Trace I h cs result h') :
    ∃ news failure, h.registry.Enlists settings (Walk.autorun files dir settings).1
        (news.length, failure) news h'.registry ∧
      result = match failure with
        | some e => .error e
        | none => .ok news.length := by
  obtain ⟨_, _, h₁, _, -, hwalk, hc⟩ := hc.bind
  obtain ⟨_, ⟨n, failure⟩, h₂, _, -, henlist, hc⟩ := hc.bind
  obtain ⟨_, _, h₃, _, -, hreport, hdone⟩ := hc.bind
  have hdistinct := (Walk.scripts_distinct hfiles dir settings.extensions).filter settings.isAutorun
  obtain ⟨news, hnews⟩ := enlists_of_enlist hdistinct henlist
  rw [trace_reportWalk hwalk, ← trace_report hreport] at hnews
  obtain rfl : n = news.length := hnews.count
  cases failure with
  | none =>
    obtain ⟨rfl, rfl⟩ := hdone.pure
    exact ⟨news, none, hnews, rfl⟩
  | some error =>
    obtain ⟨rfl, rfl⟩ := hdone.pure
    exact ⟨news, some error, hnews, rfl⟩

/-! ## Where everything is known -/

theorem onlyReports_reportWalk (ns : List ScanNotice) (h : Host D) :
    OnlyReports I (reportWalk ns) h () h.registry := by
  induction ns generalizing h with
  | nil => exact onlyReports_pure () h
  | cons n rest ih =>
    exact onlyReports_bind (c := .report (.scan n)) (f := fun _ => reportWalk rest)
      (onlyReports_notice (.scan n) h) fun w => ih ⟨w, h.registry⟩

theorem onlyReports_enlist {found : List Path}
    (hknown : ∀ p ∈ found, h.registry.contains p = true) :
    OnlyReports I (enlist settings found) h (0, none) h.registry := by
  induction found with
  | nil => exact onlyReports_pure _ h
  | cons p rest ih =>
    obtain ⟨hp, hrest⟩ := List.forall_mem_cons.mp hknown
    refine onlyReports_state ?_
    rw [if_pos hp]
    exact ih hrest

/-- **Discovery** where everything that is found is known. -/
theorem onlyReports_discover
    (hknown : ∀ p ∈ (Walk.autorun files dir settings).1, h.registry.contains p = true) :
    OnlyReports I (discover files dir settings) h (.ok 0) h.registry := by
  refine onlyReports_bind (onlyReports_reportWalk _ h) fun w => ?_
  refine onlyReports_bind (onlyReports_enlist (h := ⟨w, h.registry⟩) hknown) fun w₁ => ?_
  refine onlyReports_bind (onlyReports_report _ ⟨w₁, h.registry⟩) fun w₂ => ?_
  exact onlyReports_pure _ ⟨w₂, h.registry⟩

end Host

/-- An autorun script has a stem, and it is by its stem that the settings speak of it. -/
theorem ScriptSettings.exists_stem {settings : ScriptSettings} {p : Path}
    (h : settings.isAutorun p = true) :
    ∃ stem, p.stem? = some stem ∧ settings.pathEnabled p = settings.scriptEnabled stem := by
  obtain ⟨name, hname, -⟩ := (Option.any_eq_true _ _).mp h
  have hstem : p.stem? = some (Path.stemOf name) := by simp [Path.stem?, hname]
  exact ⟨_, hstem, by simp [pathEnabled, hstem]⟩

/-- **Discovery is complete**, whatever it comes to.  In any state of a session, what is
found is registered afterwards: the entries there were are left as they are, and those for
what was not known follow in path order, each with the flag the settings have for its stem.
It comes to their number, unless one of them was turned away, in a registry that has been
started and lets one script run at a time; then it comes to the first rejection.  Discovery
once more comes to `0`, with reports and nothing else.  Where scripts give control back, it
comes to its end. -/
theorem Scene.Reachable.discovery_complete {x : Scene D} (h : x.Reachable I concurrent)
    (hrest : x.AtRest) {files : Files} (hfiles : files.Proper) (dir : Path)
    (settings : ScriptSettings) :
    (∀ cs result h', (Host.discover files dir settings).Trace I x.session.host cs result h' →
      (∀ p ∈ (Walk.autorun files dir settings).1, h'.registry.contains p = true) ∧
      (∃ news, h'.registry.entries = x.session.host.registry.entries ++ news ∧
        news.map Entry.path = (Walk.autorun files dir settings).1.filter
          (fun p => !x.session.host.registry.contains p) ∧
        (news.map Entry.path).Pairwise (fun p q => p.compare q = .lt) ∧
        (∀ e ∈ news, ∃ stem, e.path.stem? = some stem ∧
          e.enabled = settings.scriptEnabled stem) ∧
        ((∀ e ∈ news, e.settled x.session.host.registry.started = true) →
          result = .ok news.length) ∧
        ∀ e, news.find? (fun e => !e.settled x.session.host.registry.started) = some e →
          x.session.host.registry.started = true ∧
            ∃ error, result = .error error ∧ h'.registry.Rejects e error) ∧
      (∃ cs' again h'', (Host.discover files dir settings).Trace I h' cs' again h'') ∧
      ∀ cs' again h'', (Host.discover files dir settings).Trace I h' cs' again h'' →
        again = .ok 0 ∧ h''.registry = h'.registry ∧ h'.world.Heard h''.world) ∧
    (I.Calm → ∃ cs result h',
      (Host.discover files dir settings).Trace I x.session.host cs result h') := by
  refine ⟨fun cs result h' hc => ?_,
    fun hcalm => Chore.exists_trace hcalm _ (h.upheld.rest hrest).tidy.reachable⟩
  obtain ⟨news, failure, hnews, hresult⟩ := Host.enlists_of_trace hfiles hc
  have hknown : ∀ p ∈ (Walk.autorun files dir settings).1, h'.registry.contains p = true := by
    intro p hp
    rw [hnews.appended.contains, Path.among_iff.mpr ⟨p, hp, .refl p⟩, Bool.or_true]
  have hagain := Host.onlyReports_discover (I := I) hknown
  refine ⟨hknown, ⟨news, hnews.appended.entries, hnews.paths, ?_, fun e he => ?_, fun hall => ?_,
    fun e he => ?_⟩, ?_, fun cs' again h'' hc' => ?_⟩
  · rw [hnews.paths]
    have hascending := (Walk.scripts_ascending hfiles dir settings.extensions).filter
      settings.isAutorun
    exact hascending.filter _
  · obtain ⟨stem, hstem, henabled⟩ :=
      ScriptSettings.exists_stem (List.mem_filter.mp (hnews.appended.mem e he)).2
    exact ⟨stem, hstem, (hnews.appended.wanted e he).trans henabled⟩
  · rw [hresult, show failure = none from hnews.served hall]
  · obtain ⟨error, herror, hrejects⟩ := hnews.rejected e he
    have hunsettled := List.find?_some he
    refine ⟨?_, error, ?_, hrejects⟩
    · simp only [Entry.settled, Bool.not_or, Bool.not_not, Bool.and_eq_true] at hunsettled
      exact hunsettled.2.2
    · rw [hresult, show failure = some error from herror]
  · obtain ⟨cs', w, hc', -⟩ := hagain
    exact ⟨cs', _, _, hc'⟩
  · obtain ⟨rfl, hregistry, hheard, -⟩ := hagain.of_trace hc'
    exact ⟨rfl, hregistry, hheard⟩

/-- Where another script runs, the one that is found is registered and turned away; once
more there is nothing to do. -/
theorem Scene.Reachable.discovery_complete_rejected :
    ∃ cs h', (Host.discover (Specimen.disk (some 7)) ⟨"s"⟩ (Specimen.watching true)).Trace
        Specimen.calmly (Specimen.threeScripts false).host cs
        (.error (.concurrentRejected ⟨"s/a.py"⟩ ⟨"a.py"⟩)) h' ∧
      h'.registry.contains ⟨"s/a.py"⟩ = true ∧
      ∃ cs' h'', (Host.discover (Specimen.disk (some 7)) ⟨"s"⟩ (Specimen.watching true)).Trace
          Specimen.calmly h' cs' (.ok 0) h'' ∧ h''.registry = h'.registry := by
  obtain ⟨hall, -⟩ := Scene.Reachable.discovery_complete (Specimen.reachable_threeScripts false)
    ⟨rfl, rfl⟩ (Specimen.proper_disk (some 7)) ⟨"s"⟩ (Specimen.watching true)
  have hfound := Specimen.autorun_disk true (some 7)
  have hresult : ((Host.discover (Specimen.disk (some 7)) ⟨"s"⟩ (Specimen.watching true)).run
      Specimen.calmly (Specimen.threeScripts false).host).map Prod.fst
        = some (.error (.concurrentRejected ⟨"s/a.py"⟩ ⟨"a.py"⟩)) := by
    rw [Host.discover, hfound]
    decide +kernel
  obtain ⟨⟨_, h'⟩, hrun, rfl⟩ := Option.map_eq_some_iff.mp hresult
  obtain ⟨cs, hc⟩ := Chore.trace_of_run hrun
  obtain ⟨hknown, -, ⟨cs', again, h'', hc'⟩, hagain⟩ := hall cs _ h' hc
  obtain ⟨rfl, hregistry, -⟩ := hagain cs' again h'' hc'
  refine ⟨cs, h', hc, hknown _ ?_, cs', h'', hc', hregistry⟩
  rw [hfound]
  exact List.mem_singleton.mpr rfl

end ScriptHost
