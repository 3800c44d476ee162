import ScriptHost.Proofs.Announcements
import ScriptHost.Proofs.Tally

/-!
# The registry and the disk over time

A session reads its directory on three occasions: when it is set up, when its scripts are
loaded, and in each cycle.  A **chronicle** is any history of a session in which nobody
edits the registry, asks for a script or asks for a reload, together with the readings of
the directory, among which the files may change as they like.  What the watch knows and
what is registered can then be told from the readings alone.

Loading tells the watch nothing.  So a script that comes after the last scan, is loaded and
goes before the next one has **slipped** past the watch, and its entry stays.  Where the
scripts are loaded from the files the session was set up on, nothing slips, and registry
and disk stay in step.

* `Session.Chronicle.reachable`, `Session.Chronicle.code` — a chronicle is a history of the
  host, in which code of the host's own may run at any time;
* `Session.Chronicle.tracks` — watch and registry follow from the readings;
* `Session.Chronicle.stale_iff` — which entries a cycle leaves stale;
* `Session.Chronicle.in_step` — registry and disk in step.
-/

namespace ScriptHost

variable {D : Dialect} {α : Type} {I : Interpreter D} {concurrent : Bool}

/-! ## Readings of a directory -/

/-- An occasion on which the script directory is read, with the files there were. -/
inductive Reading where
  /-- The session is set up. -/
  | build (files : Files)
  /-- The autorun scripts are loaded. -/
  | load (files : Files)
  /-- A cycle looks for changes. -/
  | scan (files : Files)

namespace Reading

variable (settings : ScriptSettings) (dir : Path)

/-- The scripts the watch knows after some readings, the latest first. -/
def known : List Reading → List (Path × Int)
  | [] => []
  | .load _ :: rest => known rest
  | .build files :: _ => (Walk.run files dir settings.extensions).scripts
  | .scan files :: _ => (Walk.run files dir settings.extensions).scripts

/-- Whether a path is among the scripts there are. -/
def found (files : Files) (p : Path) : Bool :=
  p.among ((Walk.run files dir settings.extensions).scripts.map Prod.fst)

/-- Whether a path is among the scripts the watch knows after some readings. -/
def isKnown (p : Path) (readings : List Reading) : Bool :=
  p.among ((known settings dir readings).map Prod.fst)

/-- Whether a path is registered after some readings, the latest first. -/
def registered (p : Path) : List Reading → Bool
  | [] => false
  | .build _ :: _ => false
  | .load files :: rest => registered p rest || found settings dir files p && settings.isAutorun p
  | .scan files :: rest =>
    registered p rest && !(isKnown settings dir p rest && !found settings dir files p)
      || (found settings dir files p && !isKnown settings dir p rest) && settings.isAutorun p

end Reading

namespace Session

variable (I) in
/-- What a session comes to, together with the readings of its directory, the latest first: it is
set up and its scripts are loaded, cycles are run while no request is waiting, the
emulation begins and ends, and the host does whatever it likes beside the registry. -/
inductive Chronicle (settings : ScriptSettings) (around : Surroundings) :
    List Reading → Session D → Prop
  | build {w : World D} (hreachable : (⟨w, []⟩ : Config D).Reachable I)
      (hunregistered : ∀ i, w.view.isRegistered i = false) (engine : Engine D)
      {reload : Option (Watch Bool)} (hunasked : ∀ c ∈ reload, c.unseen = false) (files : Files) :
      Chronicle settings around [.build files]
        (Session.new w engine settings reload files around)
  | load {readings : List Reading} {s s' : Session D} (h : Chronicle settings around readings s)
      (files : Files) {result : Except RegistryError Nat}
      (hc : (loadScripts files around).ComesTo I s result s') :
      Chronicle settings around (.load files :: readings) s'
  | cycle {readings : List Reading} {s s' : Session D} (h : Chronicle settings around readings s)
      (hrequests : s.host.world.requests = []) (files : Files) (t : Moment) {report : CycleReport}
      (hc : (runCycle files t).ComesTo I s report s') :
      Chronicle settings around (.scan files :: readings) s'
  | beginEmulation {readings : List Reading} {s s' : Session D}
      (h : Chronicle settings around readings s) {result : Except RegistryError Unit}
      (hc : Session.beginEmulation.ComesTo I s result s') : Chronicle settings around readings s'
  | endEmulation {readings : List Reading} {s s' : Session D}
      (h : Chronicle settings around readings s) (hc : Session.endEmulation.ComesTo I s () s') :
      Chronicle settings around readings s'
  | aside {readings : List Reading} {s : Session D} (h : Chronicle settings around readings s)
      {w w' : World D} {started : List (Frame D)} (haside : Aside s.host.world w started)
      (hsteps : Config.Steps I ⟨w, started⟩ ⟨w', []⟩) :
      Chronicle settings around readings { s with host := { s.host with world := w' } }

namespace Chronicle

variable {settings : ScriptSettings} {around : Surroundings} {readings : List Reading}
  {s : Session D}

/-- **A chronicle is a history of the host.** -/
theorem reachable (h : Chronicle I settings around readings s) :
    Scene.Reachable I settings.concurrent ⟨s, [], .done ()⟩ := by
  induction h with
  | build hreachable hunregistered engine _ files =>
    exact ⟨_, Scene.begins_new hreachable hunregistered engine settings _ files around, .refl⟩
  | load _ files hc ih => exact ih.afterwards (.loadScripts files around) rfl hc
  | cycle _ _ files t hc ih => exact ih.afterwards (.runCycle files t) rfl hc
  | beginEmulation _ hc ih => exact ih.afterwards .beginEmulation rfl hc
  | endEmulation _ hc ih => exact ih.afterwards .endEmulation (Chore.bind_done _).symm hc
  | aside _ haside hsteps ih => exact ih.aside haside hsteps

theorem wellKept (h : Chronicle I settings around readings s) :
    s.host.WellKept I settings.concurrent :=
  h.reachable.upheld.rest ⟨rfl, rfl⟩

/-- **Code of the host's own** may run at any time; an emission is an instance. -/
theorem code (h : Chronicle I settings around readings s) (code : Code D Unit) {w : World D}
    (hsteps : Config.Steps I ⟨s.host.world, [.handler code]⟩ ⟨w, []⟩) :
    Chronicle I settings around readings { s with host := { s.host with world := w } } :=
  h.aside ⟨.code code, fun _ hi => hi, h.reachable.unheld⟩ hsteps

end Chronicle

end Session

namespace Host

/-- Attempting something on several entries concerns nothing but the instances, and is
refused only where scripts run one at a time, if that holds of each. -/
theorem yields_attemptAll {op : Nat → Chore D (Host D) (Except RegistryError Unit)}
    (hop : ∀ i r, Yields I (op i) r fun a r' => r.Resembles r' ∧ ∀ e, a = .error e → r.MayRefuse e)
    (l : List Nat) (r : Registry D) :
    Yields I (attemptAll op l) r fun a r' =>
      r.Resembles r' ∧ ∀ e, a = .error e → r.MayRefuse e := by
  induction l generalizing r with
  | nil => exact yields_pure ⟨.refl r, by simp⟩
  | cons i rest ih =>
    refine yields_bind (hop i r) ?_
    rintro result r₁ ⟨hfirst, hrefused⟩
    cases result with
    | ok =>
      refine yields_mono (ih r₁) ?_
      rintro a r' ⟨hrest, hlater⟩
      exact ⟨hfirst.trans hrest, fun e he => hfirst.mayRefuse (hlater e he)⟩
    | error e =>
      refine yields_bind (yields_report _ r₁) ?_
      rintro _ _ rfl
      refine yields_bind (ih _) ?_
      rintro _ r' ⟨hrest, -⟩
      refine yields_pure ⟨hfirst.trans hrest, ?_⟩
      rintro _ ⟨⟩
      exact hrefused e rfl

/-- **Starting** concerns nothing but the instances, and that the registry is started. -/
theorem yields_startAll (r : Registry D) :
    Yields I startAll r fun a r' =>
      ({ r with started := true } : Registry D).Resembles r' ∧
        ∀ e, a = .error e → r.MayRefuse e := by
  refine yields_bind (yields_modifyRegistry _ r) ?_
  rintro _ _ rfl
  refine yields_state fun h _ => yields_bind (yields_report _ _) ?_
  rintro _ _ rfl
  exact yields_attemptAll yields_instantiate _ _

theorem yields_startAll_flags (r : Registry D) :
    Yields I startAll r fun _ r' => r'.flags = r.flags :=
  yields_mono (yields_startAll r) fun _ _ hdone => hdone.1.flags

/-- **Stopping** keeps the flags. -/
theorem yields_stopAll_flags (r : Registry D) :
    Yields I stopAll r fun _ r' => r'.flags = r.flags := by
  refine yields_bind (yields_modifyRegistry _ r) ?_
  rintro _ _ rfl
  refine yields_state fun h _ => ?_
  have hall := yields_destroyAll (I := I) (List.range h.registry.entries.length)
    { r with started := false }
  have hall := yields_mono hall fun _ _ hdone => hdone.flags
  dsimp only
  split
  · refine yields_bind (yields_report _ _) ?_
    rintro _ _ rfl
    exact hall
  · exact hall

end Host

namespace Session

/-- What holds of a session after some readings of its directory. -/
structure Tracks (settings : ScriptSettings) (around : Surroundings) (readings : List Reading)
    (s : Session D) : Prop where
  configured : s.settings = settings
  unasked : s.Unasked
  flagged : s.host.registry.FlaggedBy settings
  contains : ∀ p, s.host.registry.contains p
    = (settings.enabled && Reading.registered settings (settings.directory around) p readings)
  watching : settings.enabled = true → ∃ hasScanned, s.scanner = some
    { dir := settings.directory around, extensions := settings.extensions
      interval := settings.hotReloadInterval, hasScanned
      known := Reading.known settings (settings.directory around) readings }
  blind : settings.enabled = false → s.scanner = none

variable {settings : ScriptSettings} {around : Surroundings} {readings : List Reading}
  {s s' : Session D}

/-- Nothing follows from what leaves the watch and the flags of the registry alone. -/
theorem Tracks.of_flags (h : s.Tracks settings around readings)
    (hflags : s'.host.registry.flags = s.host.registry.flags) (hsame : s.SameWatch s') :
    s'.Tracks settings around readings := by
  refine ⟨hsame.settings.trans h.configured, ?_, ?_, fun p => ?_, ?_, ?_⟩
  · rw [Unasked, hsame.reload]
    exact h.unasked
  · rw [Registry.FlaggedBy, hflags]
    exact h.flagged
  · rw [Registry.contains_eq_known, hflags, ← Registry.contains_eq_known, h.contains]
  · rw [hsame.scanner]
    exact h.watching
  · rw [hsame.scanner]
    exact h.blind

/-- **Setting up**: the watch knows what there is, and nothing is registered. -/
theorem tracks_build (w : World D) (engine : Engine D) {reload : Option (Watch Bool)}
    (hunasked : ∀ c ∈ reload, c.unseen = false) (files : Files)
    (hreload : settings.hotReload = true) :
    (Session.new w engine settings reload files around).Tracks settings around [.build files] := by
  generalize hs : Session.new w engine settings reload files around = s
  have hregistry : s.host.registry = Registry.new engine settings.concurrent := by
    rw [← hs]
    unfold Session.new
    split <;> rfl
  obtain ⟨hsettings, hchannel⟩ : s.settings = settings ∧ s.reload = reload := by
    rw [← hs]
    unfold Session.new
    split <;> exact ⟨rfl, rfl⟩
  refine ⟨hsettings, ?_, ?_, fun p => ?_, fun henabled => ⟨false, ?_⟩, fun hdisabled => ?_⟩
  · rw [Unasked, hchannel]
    exact hunasked
  · simp [Registry.FlaggedBy, hregistry, Registry.new, Registry.flags]
  · simp [Registry.contains, Registry.position?, hregistry, Registry.new, Reading.registered]
  · simp [← hs, Session.new, henabled, hreload, Scanner.ofSettings, Scanner.new, Reading.known]
  · simp [← hs, Session.new, hdisabled]

/-- **Loading**: what is found is registered, and the watch knows what it knew. -/
theorem Tracks.load (h : s.Tracks settings around readings) {files : Files}
    {result : Except RegistryError Nat} (hc : (loadScripts files around).ComesTo I s result s') :
    s'.Tracks settings around (.load files :: readings) := by
  obtain ⟨cs, hc⟩ := hc
  have hc := hc.state
  rw [h.configured] at hc
  cases henabled : settings.enabled with
  | false =>
    rw [henabled, if_neg Bool.false_ne_true] at hc
    obtain ⟨_, _, s₁, _, -, hreport, hdone⟩ := hc.bind
    obtain ⟨-, rfl⟩ := hdone.pure
    obtain ⟨hregistry, hsame⟩ := trace_report hreport
    have htracks := h.of_flags (by rw [hregistry]) hsame
    refine ⟨htracks.configured, htracks.unasked, htracks.flagged, fun p => ?_,
      by simp [henabled], htracks.blind⟩
    rw [htracks.contains, henabled, Bool.false_and, Bool.false_and]
  | true =>
    rw [henabled, if_pos rfl] at hc
    obtain ⟨_, _, s₁, _, -, hreport, hc⟩ := hc.bind
    obtain ⟨hregistry, hsame⟩ := trace_report hreport
    obtain ⟨hc, hsame'⟩ := trace_host hc
    obtain ⟨news, hextends⟩ := Host.trace_discover hc
    rw [hregistry] at hextends
    have hall := hsame.trans hsame'
    refine ⟨hall.settings.trans h.configured, ?_, hextends.flagged h.flagged, fun p => ?_,
      fun _ => ?_, by simp [henabled]⟩
    · rw [Unasked, hall.reload]
      exact h.unasked
    · rw [hextends.contains, h.contains, Walk.among_autorun, henabled]
      simp [Reading.registered, Reading.found]
    · rw [hall.scanner]
      exact h.watching henabled

/-- **Emulation** begins or ends: neither the watch nor what is registered changes. -/
theorem Tracks.emulation (h : s.Tracks settings around readings) {c : Chore D (Host D) α}
    (hyields : ∀ r, Host.Yields I c r fun _ r' => r'.flags = r.flags) {n : SessionNotice} {a : α}
    (hc : (report n >>= fun _ => withHost c).ComesTo I s a s') :
    s'.Tracks settings around readings := by
  obtain ⟨cs, hc⟩ := hc
  obtain ⟨_, _, s₁, _, -, hreport, hc⟩ := hc.bind
  obtain ⟨hregistry, hsame⟩ := trace_report hreport
  obtain ⟨hc, hsame'⟩ := trace_host hc
  have hflags := hc.of_ensures (hyields _ _ rfl)
  rw [hregistry] at hflags
  exact h.of_flags hflags (hsame.trans hsame')

/-- **What a cycle does to the registry** where no request is waiting and no reload
requested: what changed on disk is applied. -/
theorem applies_of_runCycle (hs : s.host.WellKept I concurrent) (hunasked : s.Unasked)
    (hrequests : s.host.world.requests = []) {files : Files} {t : Moment} {report : CycleReport}
    (hc : (runCycle files t).ComesTo I s report s') :
    ∃ (s₂ : Session D) (mid : Registry D) (news : List Entry), s₂.scanner = s.scanner ∧
      s.host.registry.Applies s.settings (s₂.lookAt files t.clock).1 s.host.world.instances.length
        mid news s'.host.registry ∧
      s'.settings = s.settings ∧ s'.Unasked ∧ s'.scanner = (s₂.lookAt files t.clock).2 := by
  obtain ⟨s₁, s₂, m₁, m₂, ⟨cs₁, hattend⟩, ⟨cs₂, hsignal⟩, ⟨cs₃, hdisk⟩, -⟩ := comesTo_runCycle hc
  have hs₁ := wellKept_of_trace hs (upholds_attend t.now) hattend
  have hs₂ := wellKept_of_trace hs₁ upholds_reloadOnSignal hsignal
  obtain ⟨hregistry, hsame⟩ := trace_attend hrequests hattend
  have hunasked₁ : s₁.Unasked := by
    rw [Unasked, hsame.reload]
    exact hunasked
  obtain ⟨hsettings, hscanner, hunasked₂, hcalm, -⟩ := trace_reloadOnSignal hs₁ hsignal
  obtain ⟨hhost, -⟩ := hcalm (isAsked_of_unasked hunasked₁)
  obtain ⟨hsettings', hscanner', hreload', mid, news, happlies, -⟩ :=
    trace_reloadFromDisk hs₂ hdisk
  have hconfigured := hsettings.trans hsame.settings
  rw [hconfigured, hhost, hregistry] at happlies
  refine ⟨s₂, mid, news, hscanner.trans hsame.scanner, happlies.mono hattend.length_instances,
    hsettings'.trans hconfigured, ?_, hscanner'⟩
  rw [Unasked, hreload']
  exact hunasked₂ hunasked₁

/-- In a session whose directory was read before, that is how this scan differs from the
last one. -/
theorem Tracks.applies (h : s.Tracks settings around readings)
    (hs : s.host.WellKept I concurrent) (henabled : settings.enabled = true)
    (hinterval : settings.hotReloadInterval = 0) (hrequests : s.host.world.requests = [])
    {files : Files} {t : Moment} {report : CycleReport}
    (hc : (runCycle files t).ComesTo I s report s') :
    ∃ (mid : Registry D) (news : List Entry), s.host.registry.Applies settings
        (Scanner.difference (Reading.known settings (settings.directory around) readings)
          (Walk.run files (settings.directory around) settings.extensions).scripts)
        s.host.world.instances.length mid news s'.host.registry ∧
      s'.settings = settings ∧ s'.Unasked ∧ s'.scanner = some
        { dir := settings.directory around, extensions := settings.extensions
          interval := settings.hotReloadInterval, hasScanned := true
          known := (Walk.run files (settings.directory around) settings.extensions).scripts } := by
  obtain ⟨s₂, mid, news, hscanner, happlies, hsettings, hunasked, hscanner'⟩ :=
    applies_of_runCycle hs h.unasked hrequests hc
  obtain ⟨hasScanned, hwatching⟩ := h.watching henabled
  rw [hwatching] at hscanner
  have hlook : s₂.lookAt files t.clock
      = (Scanner.difference (Reading.known settings (settings.directory around) readings)
          (Walk.run files (settings.directory around) settings.extensions).scripts, some
        { dir := settings.directory around, extensions := settings.extensions
          interval := settings.hotReloadInterval, hasScanned := true
          known := (Walk.run files (settings.directory around) settings.extensions).scripts }) := by
    simp [lookAt, hscanner, Scanner.isDue, hinterval, Scanner.scan]
  rw [hlook, h.configured] at happlies
  exact ⟨mid, news, happlies, hsettings.trans h.configured, hunasked,
    hscanner'.trans (by rw [hlook])⟩

/-- **A cycle**: what is missing is registered no more, what is new is, and the watch knows
what there is. -/
theorem Tracks.scan (h : s.Tracks settings around readings) (hs : s.host.WellKept I concurrent)
    (hinterval : settings.hotReloadInterval = 0) (hrequests : s.host.world.requests = [])
    {files : Files} {t : Moment} {report : CycleReport}
    (hc : (runCycle files t).ComesTo I s report s') :
    s'.Tracks settings around (.scan files :: readings) := by
  cases henabled : settings.enabled with
  | true =>
    obtain ⟨mid, news, happlies, hsettings, hunasked, hscanner⟩ :=
      h.applies hs henabled hinterval hrequests hc
    refine ⟨hsettings, hunasked, happlies.flagged h.flagged, fun p => ?_,
      fun _ => ⟨true, hscanner⟩, by simp [henabled]⟩
    rw [happlies.contains, h.contains, Scanner.among_removed, Scanner.among_added, henabled]
    rfl
  | false =>
    obtain ⟨s₂, mid, news, hscanner, happlies, hsettings, hunasked, hscanner'⟩ :=
      applies_of_runCycle hs h.unasked hrequests hc
    have hlook : s₂.lookAt files t.clock = (⟨[], [], []⟩, none) := by
      simp [lookAt, hscanner, h.blind henabled]
    rw [hlook, h.configured] at happlies
    rw [hlook] at hscanner'
    refine ⟨hsettings.trans h.configured, hunasked, happlies.flagged h.flagged, fun p => ?_,
      by simp [henabled], fun _ => hscanner'⟩
    simp [happlies.contains, h.contains, henabled]

/-- **Watch and registry follow from the readings.** -/
theorem Chronicle.tracks (h : Chronicle I settings around readings s)
    (hreload : settings.hotReload = true) (hinterval : settings.hotReloadInterval = 0) :
    s.Tracks settings around readings := by
  induction h with
  | @build w _ _ engine _ hunasked files => exact tracks_build w engine hunasked files hreload
  | load _ files hc ih => exact ih.load hc
  | cycle h hrequests files t hc ih => exact ih.scan h.wellKept hinterval hrequests hc
  | beginEmulation _ hc ih => exact ih.emulation Host.yields_startAll_flags hc
  | endEmulation _ hc ih => exact ih.emulation Host.yields_stopAll_flags hc
  | aside _ haside hsteps ih => exact ih.of_flags rfl ⟨rfl, rfl, rfl⟩

end Session

namespace Reading

variable (settings : ScriptSettings) (dir : Path)

/-- Whether a reading found nothing at a path that a scan would have seen. -/
def misses (p : Path) : Reading → Prop
  | .build _ => False
  | .load _ => True
  | .scan files => found settings dir files p = false

/-- A script was loaded while the watch did not know of it, and no scan has found it
since. -/
def Slipped (p : Path) (readings : List Reading) : Prop :=
  settings.isAutorun p = true ∧ ∃ (later : List Reading) (files : Files) (earlier : List Reading),
    readings = later ++ .load files :: earlier ∧ found settings dir files p = true ∧
    isKnown settings dir p earlier = false ∧ ∀ r ∈ later, r.misses settings dir p

variable {settings dir} {p : Path} {rest : List Reading} {files : Files}

theorem not_slipped_nil : ¬ Slipped settings dir p [] := by
  rintro ⟨-, later, files, earlier, hsplit, -⟩
  simp at hsplit

theorem slipped_cons {r : Reading} : Slipped settings dir p (r :: rest) ↔
    (settings.isAutorun p = true ∧ (∃ files, r = .load files ∧ found settings dir files p = true) ∧
      isKnown settings dir p rest = false) ∨
    (r.misses settings dir p ∧ Slipped settings dir p rest) := by
  constructor
  · rintro ⟨hautorun, later, files, earlier, hsplit, hfound, hunknown, hlater⟩
    rcases List.cons_eq_append_iff.mp hsplit with ⟨rfl, hload⟩ | ⟨later, rfl, hrest⟩
    · obtain ⟨rfl, rfl⟩ := List.cons_eq_cons.mp hload
      exact Or.inl ⟨hautorun, ⟨files, rfl, hfound⟩, hunknown⟩
    · obtain ⟨hr, hlater⟩ := List.forall_mem_cons.mp hlater
      exact Or.inr ⟨hr, hautorun, later, files, earlier, hrest, hfound, hunknown, hlater⟩
  · rintro (⟨hautorun, ⟨files, rfl, hfound⟩, hunknown⟩ |
      ⟨hr, hautorun, later, files, earlier, rfl, hfound, hunknown, hlater⟩)
    · exact ⟨hautorun, [], files, rest, rfl, hfound, hunknown, by simp⟩
    · exact ⟨hautorun, r :: later, files, earlier, rfl, hfound, hunknown,
        List.forall_mem_cons.mpr ⟨hr, hlater⟩⟩

/-- **What is registered without being known** is what slipped past the watch. -/
theorem registered_and_unknown_iff {readings : List Reading} :
    registered settings dir p readings = true ∧ isKnown settings dir p readings = false ↔
      Slipped settings dir p readings := by
  induction readings with
  | nil => simp [registered, not_slipped_nil]
  | cons r rest ih =>
    rw [slipped_cons, ← ih]
    cases r with
    | build files => simp [registered, misses]
    | load files =>
      have hknown : isKnown settings dir p (.load files :: rest) = isKnown settings dir p rest :=
        rfl
      have hload : (∃ files', load files = load files' ∧ found settings dir files' p = true)
          ↔ found settings dir files p = true := by simp
      simp only [registered, misses, hknown, hload]
      cases registered settings dir p rest <;> cases isKnown settings dir p rest <;>
        cases settings.isAutorun p <;> cases found settings dir files p <;> simp_all
    | scan files =>
      have hknown : isKnown settings dir p (.scan files :: rest) = found settings dir files p := rfl
      simp only [registered, misses, hknown]
      cases registered settings dir p rest <;> cases isKnown settings dir p rest <;>
        cases settings.isAutorun p <;> cases found settings dir files p <;> simp_all

end Reading

namespace Session

variable {settings : ScriptSettings} {around : Surroundings} {readings : List Reading}
  {s s' : Session D}

/-- **Which entries a cycle leaves stale**: those, and only those, of the scripts that have
slipped past the watch.  Such a script was loaded while the watch did not know of it, and
no scan has found it since; its entry stays registered, whatever cycles come. -/
theorem Chronicle.stale_iff {files : Files}
    (h : Chronicle I settings around (.scan files :: readings) s)
    (hreload : settings.hotReload = true) (hinterval : settings.hotReloadInterval = 0) (p : Path) :
    (s.host.registry.contains p = true ∧
        p.among ((Walk.run files (settings.directory around)
          settings.extensions).scripts.map Prod.fst) = false) ↔
      settings.enabled = true ∧
        Reading.Slipped settings (settings.directory around) p (.scan files :: readings) := by
  rw [(h.tracks hreload hinterval).contains, ← Reading.registered_and_unknown_iff, Bool.and_eq_true,
    and_assoc]
  rfl

end Session

namespace Specimen

/-- The session on the directory with one script has loaded. -/
theorem chronicle_loaded (known found : Option Int)
    (hload : ((loading true found).run interpreter (outset true known)).map Prod.fst
      = some (.ok found.toList.length)) :
    Session.Chronicle interpreter (watching true) nowhere [.load (disk found), .build (disk known)]
      (loaded true known found) := by
  have houtset : Session.Chronicle interpreter (watching true) nowhere [.build (disk known)]
      (outset true known) := by
    have hunasked : ∀ c ∈ (none : Option (Watch Bool)), c.unseen = false := by simp
    rw [← new_disk]
    refine .build ⟨(), .refl⟩ (fun i => ?_) engine hunasked (disk known)
    simp [View.isRegistered, View.tags, World.view, World.new]
  exact houtset.load (disk found) (comesTo_loadScripts rfl (comesTo_after hload))

/-- The script comes after the session was set up, is loaded, and goes before the cycle. -/
theorem chronicle_slipped :
    Session.Chronicle interpreter (watching true) nowhere
      [.scan (disk none), .load (disk (some 1)), .build (disk none)]
      (cycled none none (loaded true none (some 1))) := by
  have hscanner : (after Session.reloadOnSignal (after (Session.attend 0)
      (loaded true none (some 1)))).scanner = some ⟨⟨"s"⟩, ["py"], 0, false, scripts none⟩ := by rfl
  have hcycle : (Session.runCycle (disk none) ⟨0, 0⟩).ComesTo interpreter
      (loaded true none (some 1)) ⟨0, true, 0 + 0⟩ (cycled none none (loaded true none (some 1))) :=
    comesTo_cycled (by decide +kernel) (by decide +kernel) hscanner (by decide +kernel)
  exact (chronicle_loaded none (some 1) (by decide +kernel)).cycle (by decide +kernel) _ _ hcycle

theorem found_disk (mtime : Option Int) :
    Reading.found (watching true) ⟨"s"⟩ (disk mtime) ⟨"s/a.py"⟩ = mtime.isSome := by
  have hrun : Walk.run (disk mtime) ⟨"s"⟩ (watching true).extensions = ⟨scripts mtime, []⟩ :=
    run_disk mtime
  cases mtime <;> simp [Reading.found, hrun, scripts, Path.among, Path.Same.refl]

end Specimen

/-- An entry is stale. -/
theorem Session.Chronicle.stale_iff_unknown_to_scanner :
    (Specimen.cycled none none (Specimen.loaded true none (some 1))).host.registry.contains
        ⟨"s/a.py"⟩ = true ∧
      Path.among ⟨"s/a.py"⟩ ((Walk.run (Specimen.disk none) ⟨"s"⟩ ["py"]).scripts.map Prod.fst)
        = false := by
  refine (Session.Chronicle.stale_iff Specimen.chronicle_slipped rfl rfl ⟨"s/a.py"⟩).mpr
    ⟨rfl, by decide +kernel, [.scan (Specimen.disk none)], Specimen.disk (some 1),
      [.build (Specimen.disk none)], rfl, Specimen.found_disk (some 1),
      Specimen.found_disk none, ?_⟩
  exact List.forall_mem_singleton.mpr (Specimen.found_disk none)

namespace Reading

variable (settings : ScriptSettings) (dir : Path)

/-- **In step**: where the scripts are loaded from the files the session was set up on,
just the autorun scripts are registered that are known. -/
theorem registered_scans (files : Files) (scans : List Files) (p : Path) :
    registered settings dir p (scans.map .scan ++ [.load files, .build files])
      = (isKnown settings dir p (scans.map .scan ++ [.load files, .build files])
          && settings.isAutorun p) := by
  induction scans with
  | nil => rfl
  | cons last rest ih =>
    have hknown : ∀ rs, isKnown settings dir p (.scan last :: rs) = found settings dir last p :=
      fun _ => rfl
    simp only [List.map_cons, List.cons_append, registered, hknown, ih]
    cases isKnown settings dir p (rest.map .scan ++ [.load files, .build files]) <;>
      cases settings.isAutorun p <;> cases found settings dir last p <;> rfl

/-- What is known then is what the last scan found. -/
theorem known_scans (files : Files) (scans : List Files) :
    known settings dir (scans.map .scan ++ [.load files, .build files])
      = (Walk.run (scans.headD files) dir settings.extensions).scripts := by
  cases scans <;> rfl

end Reading

/-- The file of a script has another modification time than it had. -/
def Walk.Touched (old new : Walk) (p : Path) : Prop :=
  ∃ e ∈ new.scripts, p.Same e.1 ∧ Scanner.timeOf? old.scripts p ≠ some e.2

/-- Touched is what the difference between two scans has as changed. -/
theorem Walk.touched_iff {old new : Walk} {p : Path}
    (hold : p.among (old.scripts.map Prod.fst) = true) :
    old.Touched new p ↔
      p.among ((Scanner.difference old.scripts new.scripts).changed.map Prod.fst) = true := by
  rw [← Scanner.isSome_timeOf?] at hold
  obtain ⟨time, htime⟩ := Option.isSome_iff_exists.mp hold
  rw [Scanner.among_changed]
  refine exists_congr fun e => and_congr_right fun _ => and_congr_right fun _ => ?_
  simp [htime]

/-- The tag of an instance is in the view. -/
theorem World.tags_view {w : World D} {i : Nat} {a : Instance D} (ha : w.instance? i = some a) :
    w.view.tags[i]? = some a.info.tag := by
  simp [View.tags, World.infos_view, ha]

/-- Where an instance of the registry comes after all there were, it runs, and its id is
greater than every id the registry gave before, until the ids start over. -/
theorem Host.WellKept.fresh {h h' : Host D} (hh' : h'.WellKept I concurrent)
    (htags : h.world.view.tags <+: h'.world.view.tags) {p : Path} {k : Nat}
    (hk : h'.registry.instanceOf p = some k) (hfresh : h.world.instances.length ≤ k) :
    ∃ a, h'.world.instance? k = some a ∧ a.state = .running ∧
      ∀ j b, h.world.instance? j = some b → j ≠ k ∧ (b.detached = false →
        h'.world.view.registeredIds.length < UInt32.size → b.id.val < a.id.val) := by
  obtain ⟨i, e, -, he, hlive⟩ := Registry.exists_of_instanceOf hk
  have hown : k ∈ h'.world.view.own := hh'.tidy.lives.mem_iff.mp
    (List.mem_filterMap.mpr ⟨e, List.mem_of_getElem? he, hlive⟩)
  have hrunning := hh'.tidy.running k hown
  rw [View.isRunning, World.infos_view] at hrunning
  obtain ⟨a, ha⟩ : ∃ a, h'.world.instance? k = some a := by
    cases ha : h'.world.instance? k with
    | none => simp [ha] at hrunning
    | some a => exact ⟨a, rfl⟩
  have haTag := World.tags_view ha
  have haOwn : a.detached = false := by
    simpa [View.isRegistered, haTag, InstanceInfo.tag, Instance.info] using (View.mem_own.mp hown).2
  refine ⟨a, ha, by simpa [ha, Instance.info] using hrunning, fun j b hb => ?_⟩
  have hjk : j < k := Nat.lt_of_lt_of_le (List.getElem?_eq_some_iff.mp hb).1 hfresh
  refine ⟨Nat.ne_of_lt hjk, fun hbOwn hfew => ?_⟩
  obtain ⟨m, hm, -⟩ := hh'.tidy.numbered
  have hlength : m < UInt32.size := by
    rw [hm] at hfew
    simpa [Registry.firstIds] using hfew
  have hids : h'.world.view.registeredIds.Pairwise fun a b => a.val < b.val :=
    hm ▸ Registry.firstIds_ascend hlength
  have hbTag : h'.world.view.tags[j]? = some b.info.tag := by
    obtain ⟨hj, heq⟩ := List.getElem?_eq_some_iff.mp (World.tags_view hb)
    rw [List.prefix_iff_getElem?.mp htags j hj, heq]
  exact View.id_lt_of_lt hids hjk hbTag haTag hbOwn haOwn

namespace Session

variable {settings : ScriptSettings} {around : Surroundings} {readings : List Reading}
  {s s' : Session D}

/-- What a session comes to whose scripts are loaded from the files it was set up on, and
which runs cycles from then on: just the autorun scripts of the last reading are
registered, each enabled as the settings say, and it has an instance if it is enabled and
the emulation runs. -/
theorem Chronicle.registered_iff {files : Files} {scans : List Files}
    (h : Chronicle I settings around (scans.map .scan ++ [.load files, .build files]) s)
    (henabled : settings.enabled = true) (hreload : settings.hotReload = true)
    (hinterval : settings.hotReloadInterval = 0) (hconcurrent : settings.concurrent = true) :
    (∀ p, s.host.registry.contains p
      = p.among (Walk.autorun (scans.headD files) (settings.directory around) settings).1) ∧
    ∀ e ∈ s.host.registry.entries, e.enabled = settings.pathEnabled e.path ∧
      (e.live.isSome = true ↔ e.enabled = true ∧ s.host.registry.started = true) := by
  have htracks := h.tracks hreload hinterval
  refine ⟨fun p => ?_, fun e he => ⟨?_, ?_⟩⟩
  · rw [htracks.contains, henabled, Bool.true_and, Walk.among_autorun, Reading.registered_scans,
      Reading.isKnown, Reading.known_scans]
  · exact htracks.flagged (e.path, e.enabled) (List.mem_map.mpr ⟨e, he, rfl⟩)
  · obtain ⟨i, hi⟩ := List.getElem?_of_mem he
    have hfits := h.wellKept.inStep i e hi List.not_mem_nil
    have hmode := h.wellKept.tidy.mode.trans hconcurrent
    exact ⟨hfits.wanted, fun ⟨henabled, hstarted⟩ => hfits.served hmode henabled hstarted⟩

/-- **Registry and disk in step.**  A session watches its directory without an interval,
allows concurrent scripts, and loads its scripts from the files it was set up on.  Whatever
happens to the files from then on, whatever scripts and emissions do, and whenever the
emulation begins or ends: after every cycle just the autorun scripts of the directory are
registered, each of them once and enabled as the settings say, and an enabled one has an
instance just while the emulation runs.  A script with an instance whose file has another
modification time than at the last reading has a new instance after the cycle, which runs
and whose id is greater than every id the registry gave before, until the ids start over;
one whose file has the same time keeps its instance. -/
theorem Chronicle.in_step {files : Files} {scans : List Files}
    (h : Chronicle I settings around (scans.map .scan ++ [.load files, .build files]) s)
    (henabled : settings.enabled = true) (hreload : settings.hotReload = true)
    (hinterval : settings.hotReloadInterval = 0) (hconcurrent : settings.concurrent = true)
    (hrequests : s.host.world.requests = []) {now : Files} {t : Moment} {report : CycleReport}
    (hc : (runCycle now t).ComesTo I s report s') :
    (s'.host.registry.Distinct ∧ ∀ p, s'.host.registry.contains p
      = p.among (Walk.autorun now (settings.directory around) settings).1) ∧
    (∀ e ∈ s'.host.registry.entries, e.enabled = settings.pathEnabled e.path ∧
      (e.live.isSome = true ↔ e.enabled = true ∧ s'.host.registry.started = true)) ∧
    ∀ p k, s.host.registry.instanceOf p = some k → s'.host.registry.contains p = true →
      ((Walk.run (scans.headD files) (settings.directory around) settings.extensions).Touched
          (Walk.run now (settings.directory around) settings.extensions) p →
        ∃ k' a, s'.host.registry.instanceOf p = some k' ∧ s'.host.world.instance? k' = some a ∧
          a.state = .running ∧ ∀ j b, s.host.world.instance? j = some b → j ≠ k' ∧
            (b.detached = false → s'.host.world.view.registeredIds.length < UInt32.size →
              b.id.val < a.id.val)) ∧
      (¬ (Walk.run (scans.headD files) (settings.directory around) settings.extensions).Touched
          (Walk.run now (settings.directory around) settings.extensions) p →
        s'.host.registry.instanceOf p = some k) := by
  have h' : Chronicle I settings around
      ((now :: scans).map .scan ++ [.load files, .build files]) s' := h.cycle hrequests now t hc
  obtain ⟨hbefore, -⟩ := h.registered_iff henabled hreload hinterval hconcurrent
  obtain ⟨hcontains, hentries⟩ := h'.registered_iff henabled hreload hinterval hconcurrent
  have hdistinct := h.wellKept.tidy.distinct
  have hdistinct' := h'.wellKept.tidy.distinct
  refine ⟨⟨hdistinct', hcontains⟩, hentries, fun p k hk hp => ?_⟩
  obtain ⟨mid, news, happlies, -⟩ :=
    (h.tracks hreload hinterval).applies h.wellKept henabled hinterval hrequests hc
  rw [Reading.known_scans] at happlies
  have hknown : s.host.registry.contains p = true := by
    obtain ⟨i, e, hi, -⟩ := Registry.exists_of_instanceOf hk
    simp [Registry.contains, hi]
  have hold : p.among ((Walk.run (scans.headD files) (settings.directory around)
      settings.extensions).scripts.map Prod.fst) = true := by
    rw [hbefore, Walk.among_autorun] at hknown
    exact (Bool.and_eq_true_iff.mp hknown).1
  have hnew : p.among ((Walk.run now (settings.directory around)
      settings.extensions).scripts.map Prod.fst) = true := by
    rw [hcontains, Walk.among_autorun] at hp
    exact (Bool.and_eq_true_iff.mp hp).1
  have hstays : p.among (Scanner.difference
      (Walk.run (scans.headD files) (settings.directory around) settings.extensions).scripts
      (Walk.run now (settings.directory around) settings.extensions).scripts).removed = false := by
    simp [Scanner.among_removed, hnew]
  rw [Walk.touched_iff hold]
  refine ⟨fun hchanged => ?_, fun hsame => ?_⟩
  · obtain ⟨k', hfresh, hk'⟩ :=
      happlies.instanceOf_changed hdistinct hdistinct' hk hstays hchanged
    obtain ⟨a, ha, hrunning, hids⟩ := h'.wellKept.fresh hc.choose_spec.tags hk' hfresh
    exact ⟨k', a, hk', ha, hrunning, hids⟩
  · exact (happlies.instanceOf_unchanged hdistinct hdistinct' hknown hstays
      (Bool.eq_false_iff.mpr hsame)).trans hk

end Session

namespace Specimen

/-- The script has been loaded, and the emulation begins. -/
def begun : Session dialect :=
  after Session.beginEmulation (loaded true (some 1) (some 1))

theorem chronicle_begun :
    Session.Chronicle interpreter (watching true) nowhere
      [.load (disk (some 1)), .build (disk (some 1))] begun := by
  have hbegin : Session.beginEmulation.ComesTo interpreter (loaded true (some 1) (some 1)) (.ok ())
      begun := comesTo_after (by decide +kernel)
  exact (chronicle_loaded (some 1) (some 1) (by decide +kernel)).beginEmulation hbegin

/-- The file of the script changes. -/
theorem comesTo_renewed :
    (Session.runCycle (disk (some 2)) ⟨0, 0⟩).ComesTo interpreter begun ⟨0, true, 0 + 1⟩
      (cycled (some 1) (some 2) begun) := by
  have hscanner : (after Session.reloadOnSignal (after (Session.attend 0) begun)).scanner
      = some ⟨⟨"s"⟩, ["py"], 0, false, scripts (some 1)⟩ := by rfl
  exact comesTo_cycled (by decide +kernel) (by decide +kernel) hscanner (by decide +kernel)

theorem touched_disk :
    (Walk.run (disk (some 1)) ⟨"s"⟩ ["py"]).Touched (Walk.run (disk (some 2)) ⟨"s"⟩ ["py"])
      ⟨"s/a.py"⟩ := by
  rw [run_disk, run_disk]
  exact ⟨(⟨"s/a.py"⟩, 2), List.mem_singleton.mpr rfl, .refl _, by decide +kernel⟩

end Specimen

/-- A script whose file has changed has a new instance. -/
theorem Session.Chronicle.in_step_changed :
    Specimen.begun.host.registry.instanceOf ⟨"s/a.py"⟩ = some 0 ∧
      ∃ k' a, (Specimen.cycled (some 1) (some 2) Specimen.begun).host.registry.instanceOf ⟨"s/a.py"⟩
          = some k' ∧
        (Specimen.cycled (some 1) (some 2) Specimen.begun).host.world.instance? k' = some a ∧
        a.state = .running ∧ k' ≠ 0 := by
  have hlive : Specimen.begun.host.registry.instanceOf ⟨"s/a.py"⟩ = some 0 := by decide +kernel
  have hborn : (Specimen.begun.host.world.instance? 0).isSome = true := by decide +kernel
  have hbegun : Session.Chronicle Specimen.interpreter (Specimen.watching true) Specimen.nowhere
      (([] : List Files).map .scan ++
        [.load (Specimen.disk (some 1)), .build (Specimen.disk (some 1))])
      Specimen.begun := Specimen.chronicle_begun
  obtain ⟨-, -, hinstances⟩ := Session.Chronicle.in_step hbegun rfl rfl rfl rfl (by decide +kernel)
    Specimen.comesTo_renewed
  obtain ⟨hrenewed, -⟩ := hinstances _ 0 hlive (by decide +kernel)
  obtain ⟨k', a, hk', ha, hrunning, hfresh⟩ := hrenewed Specimen.touched_disk
  obtain ⟨b, hb⟩ := Option.isSome_iff_exists.mp hborn
  exact ⟨hlive, k', a, hk', ha, hrunning, (hfresh 0 b hb).1.symm⟩

end ScriptHost
