import ScriptHost.Proofs.Changes

/-!
# The phases of a cycle

A cycle of a session attends to requests and timer, reloads everything if it was asked
to, and then applies what changed on disk.  The first phase is none of the registry's
business while no request is waiting, whatever scripts do at a tick; each of the other
two comes to a relation between the registry before and after.

* `Session.trace_attend` — requests and timer;
* `Session.trace_reloadOnSignal` — a requested reload;
* `Session.trace_reloadFromDisk` — the reload from disk;
* `Session.comesTo_runCycle` — a cycle is made of the three, and nothing else.
-/

namespace ScriptHost

variable {D : Dialect} {I : Interpreter D} {concurrent : Bool}

namespace Watch

/-- A look at a channel: what is new there has been seen, as long as there is somebody who
could send. -/
def glance (w : Watch Bool) : Watch Bool :=
  if w.hasChanged then w.see else w

variable {w : Watch Bool}

/-- A look at a channel with something new sees it. -/
theorem glance_of_new (h : w.hasChanged = true) : w.glance = w.see :=
  if_pos h

/-- A look at a channel without anything new changes nothing. -/
theorem glance_of_seen (h : ¬ w.hasChanged = true) : w.glance = w :=
  if_neg h

/-- A look does not send the sender away. -/
theorem hasSender_glance (w : Watch Bool) : w.glance.hasSender = w.hasSender := by
  unfold glance
  split <;> rfl

/-- What has been seen stays seen. -/
theorem unseen_glance (h : w.unseen = false) : w.glance.unseen = false := by
  unfold glance
  split
  · rfl
  · exact h

/-- Where the sender is there, nothing is new after a look. -/
theorem unseen_glance_of_hasSender (h : w.hasSender = true) : w.glance.unseen = false := by
  by_cases hnew : w.hasChanged = true
  · rw [glance_of_new hnew]
    rfl
  · rw [glance_of_seen hnew]
    simpa [hasChanged, h] using hnew

end Watch

namespace Session

/-- Whether a reload has been requested and not been seen to. -/
def isAsked (s : Session D) : Bool :=
  s.reload.any fun w => w.hasChanged && w.value

/-- Nothing is on the reload channel. -/
def Unasked (s : Session D) : Prop :=
  ∀ w ∈ s.reload, w.unseen = false

/-- A session that is not asked to reload does not find itself asked. -/
theorem isAsked_of_unasked {s : Session D} (h : s.Unasked) : s.isAsked = false := by
  unfold isAsked
  cases hw : s.reload with
  | none => rfl
  | some w => simp [Watch.hasChanged, h w hw]

/-- What there is to see on disk, if it is time to look, and the watch from then on. -/
def lookAt (s : Session D) (files : Files) (clock : Int) : ScanResult × Option Scanner :=
  match s.scanner with
  | none => (⟨[], [], []⟩, none)
  | some scanner =>
    if scanner.isDue (clock - s.lastScan).toNat then
      ((scanner.scan files).1, some (scanner.scan files).2.1)
    else (⟨[], [], []⟩, some scanner)

/-- **A tick** is none of the registry's business, whatever scripts do. -/
theorem trace_tick {s s' : Session D} {now : Int} {cs : List (Config D)} {ticked : Bool}
    (hc : (tick now).Trace I s cs ticked s') :
    s'.host.registry = s.host.registry ∧ s.SameWatch s' := by
  have hc := hc.state
  split at hc
  · obtain ⟨_, _, s₁, _, -, hchange, hc⟩ := hc.bind
    obtain rfl := hchange.change
    obtain ⟨_, _, s₂, _, -, hemit, hdone⟩ := hc.bind
    obtain ⟨-, rfl⟩ := hdone.pure
    obtain ⟨hregistry, hsame⟩ := trace_order hemit
    exact ⟨hregistry, hsame.settings, hsame.scanner, hsame.reload⟩
  · obtain ⟨-, rfl⟩ := hc.pure
    exact ⟨rfl, .refl _⟩

/-- A session that has looked at its reload channel. -/
def glanced (s : Session D) : Session D :=
  { s with reload := s.reload.map Watch.glance }

/-- A session that is not asked is not asked after a look either. -/
theorem Unasked.glanced {s : Session D} (h : s.Unasked) : s.glanced.Unasked := by
  intro w' hw'
  obtain ⟨w, hw, rfl⟩ := Option.mem_map.mp hw'
  exact Watch.unseen_glance (h w hw)

/-- **A look at the reload channel** finds whether a reload is asked for, and changes nothing
else. -/
theorem trace_takeReload {s s' : Session D} {cs : List (Config D)} {taken : Bool}
    (hc : takeReload.Trace I s cs taken s') : taken = s.isAsked ∧ s' = s.glanced := by
  have hc := hc.state
  unfold glanced
  cases hw : s.reload with
  | none =>
    simp only [hw] at hc
    obtain ⟨rfl, rfl⟩ := hc.pure
    refine ⟨by simp [isAsked, hw], ?_⟩
    rw [Option.map_none, ← hw]
  | some w =>
    simp only [hw] at hc
    by_cases hnew : w.hasChanged = true
    · rw [if_pos hnew] at hc
      obtain ⟨_, _, s₁, _, -, hchange, hdone⟩ := hc.bind
      obtain ⟨rfl, rfl⟩ := hdone.pure
      obtain rfl := hchange.change
      refine ⟨by simp [isAsked, hw, hnew], ?_⟩
      rw [Option.map_some, Watch.glance_of_new hnew]
      rfl
    · rw [if_neg hnew] at hc
      obtain ⟨rfl, rfl⟩ := hc.pure
      refine ⟨by simp [isAsked, hw, hnew], ?_⟩
      rw [Option.map_some, Watch.glance_of_seen hnew, ← hw]

/-- **A cycle looks at the reload channel once**, and restarts everything there is if it was
asked to. -/
theorem trace_reloadOnSignal_cases {s s' : Session D} {cs : List (Config D)} {m : Nat}
    (hc : reloadOnSignal.Trace I s cs m s') :
    s.glanced.SameWatch s' ∧ (s.isAsked = false → m = 0 ∧ s'.host = s.host) ∧
      (s.isAsked = true → m = s.host.registry.liveCount ∧
        ∃ result h cs, Host.restartAll.Trace I s.host cs result h ∧
          s'.host.registry = h.registry ∧ (result = .ok () → s'.host = h)) := by
  obtain ⟨_, taken, s₁, _, -, htaken, hc⟩ := hc.bind
  obtain ⟨rfl, rfl⟩ := trace_takeReload htaken
  cases hasked : s.isAsked with
  | false =>
    simp only [hasked, Bool.false_eq_true, if_false] at hc
    obtain ⟨rfl, rfl⟩ := hc.pure
    exact ⟨.refl _, fun _ => ⟨rfl, rfl⟩, by simp⟩
  | true =>
    simp only [hasked, if_true] at hc
    have hc := hc.state
    obtain ⟨_, result, s₂, _, -, hrestart, hc⟩ := hc.bind
    obtain ⟨hrestart, hsame⟩ := trace_host hrestart
    cases result with
    | ok =>
      obtain ⟨rfl, rfl⟩ := hc.pure
      exact ⟨hsame, by simp, fun _ => ⟨rfl, _, _, _, hrestart, rfl, fun _ => rfl⟩⟩
    | error e =>
      obtain ⟨_, _, s₃, _, -, hreport, hdone⟩ := hc.bind
      obtain ⟨rfl, rfl⟩ := hdone.pure
      obtain ⟨hregistry, hsame'⟩ := trace_report hreport
      exact ⟨hsame.trans hsame', by simp, fun _ => ⟨rfl, _, _, _, hrestart, hregistry, by simp⟩⟩

/-- **A requested reload** renews every instance there is. -/
theorem trace_reloadOnSignal {s s' : Session D} {cs : List (Config D)} {m : Nat}
    (hs : s.host.WellKept I concurrent) (hc : reloadOnSignal.Trace I s cs m s') :
    s'.settings = s.settings ∧ s'.scanner = s.scanner ∧ (s.Unasked → s'.Unasked) ∧
      (s.isAsked = false → s'.host = s.host ∧ m = 0) ∧
      (s.isAsked = true → m = s.host.registry.liveCount ∧
        s.host.registry.Renews s.host.world.instances.length (· ∈ s.host.registry.livePositions)
          s'.host.registry) := by
  obtain ⟨hsame, hidle, hasked⟩ := trace_reloadOnSignal_cases hc
  refine ⟨hsame.settings, hsame.scanner, fun hunasked => ?_, fun h => (hidle h).symm, fun h => ?_⟩
  · rw [Unasked, hsame.reload]
    exact hunasked.glanced
  · obtain ⟨hm, result, h', cs', hrestart, hregistry, -⟩ := hasked h
    exact ⟨hm, hregistry.symm ▸ Host.trace_restartAll hs hrestart⟩

/-- **What changed on disk** is applied. -/
theorem trace_reloadFromDisk {s s' : Session D} {files : Files} {clock : Int}
    {cs : List (Config D)} {m : Nat} (hs : s.host.WellKept I concurrent)
    (hc : (reloadFromDisk files clock).Trace I s cs m s') :
    s'.settings = s.settings ∧ s'.scanner = (s.lookAt files clock).2 ∧ s'.reload = s.reload ∧
      ∃ (mid : Registry D) (news : List Entry),
        s.host.registry.Applies s.settings (s.lookAt files clock).1 s.host.world.instances.length
          mid news s'.host.registry ∧
        (((s.lookAt files clock).1.changed.map Prod.fst).Pairwise (fun p q => ¬ p.Same q) →
          m = (mid.entries.countP fun e =>
              e.path.among ((s.lookAt files clock).1.changed.map Prod.fst)
                && e.settled mid.started) +
            (mid.entries.countP fun e => e.path.among (s.lookAt files clock).1.removed) +
            news.countP (Entry.settled mid.started)) := by
  have hc := hc.state
  have hidle : (0 : Nat) = (s.host.registry.entries.countP fun e =>
        e.path.among [] && e.settled s.host.registry.started) +
      (s.host.registry.entries.countP fun e => e.path.among []) +
      ([] : List Entry).countP (Entry.settled s.host.registry.started) := by simp
  split at hc
  · next hnone =>
    obtain ⟨rfl, rfl⟩ := hc.pure
    have hlook : s'.lookAt files clock = (⟨[], [], []⟩, none) := by simp [lookAt, hnone]
    rw [hlook]
    exact ⟨rfl, hnone, rfl, _, [], s'.host.registry.applies_nothing _ _, fun _ => hidle⟩
  · next scanner hsome =>
    split at hc
    · next hdue =>
      have hlook : s.lookAt files clock
          = ((scanner.scan files).1, some (scanner.scan files).2.1) := by
        simp [lookAt, hsome, hdue]
      rw [hlook]
      dsimp only at hc
      obtain ⟨_, _, s₁, _, -, hreport, hc⟩ := hc.bind
      have hs₁ := wellKept_of_trace hs (upholds_reportAll _) hreport
      have hn := hreport.length_instances
      obtain ⟨hregistry, hsame⟩ := trace_reportAll hreport
      obtain ⟨_, _, s₂, _, -, hchange, hc⟩ := hc.bind
      have hs₂ : s₂.host.WellKept I concurrent := hchange.change ▸ hs₁
      obtain rfl := hchange.change
      obtain ⟨hsame', mid, news, happlies, hcount⟩ := trace_applyChanges hs₂ hc
      have happlies : s₁.host.registry.Applies s₁.settings _ s₁.host.world.instances.length mid news
        s'.host.registry := happlies
      rw [hregistry, hsame.settings] at happlies
      exact ⟨hsame'.settings.trans hsame.settings, hsame'.scanner, hsame'.reload.trans hsame.reload,
        mid, news, happlies.mono hn, hcount⟩
    · next hearly =>
      obtain ⟨rfl, rfl⟩ := hc.pure
      have hlook : s'.lookAt files clock = (⟨[], [], []⟩, some scanner) := by
        simp [lookAt, hsome, hearly]
      rw [hlook]
      exact ⟨rfl, hsome, rfl, _, [], s'.host.registry.applies_nothing _ _, fun _ => hidle⟩

/-- The phases of a cycle before anything is reloaded: the deferred requests, and a tick;
how many requests failed, and whether there was a tick. -/
def attend (now : Int) : Chore D (Session D) (Nat × Bool) := do
  let failures ← withHost Host.processRequests
  let ticked ← tick now
  return (failures.length, ticked)

/-- **A cycle attends to requests and timer**, then reloads as requested, then what changed
on disk. -/
theorem comesTo_runCycle {s s' : Session D} {files : Files} {t : Moment} {report : CycleReport}
    (hc : (runCycle files t).ComesTo I s report s') :
    ∃ (s₁ s₂ : Session D) (m₁ m₂ : Nat),
      (attend t.now).ComesTo I s (report.failed, report.ticked) s₁ ∧
      reloadOnSignal.ComesTo I s₁ m₁ s₂ ∧ (reloadFromDisk files t.clock).ComesTo I s₂ m₂ s' ∧
      report.reloaded = m₁ + m₂ := by
  obtain ⟨cs, hc⟩ := hc
  obtain ⟨cs₁, failures, s₁, _, -, hfirst, hc⟩ := hc.bind
  obtain ⟨cs₂, ticked, s₂, _, -, htick, hc⟩ := hc.bind
  obtain ⟨cs₃, m₁, s₃, _, -, hsignal, hc⟩ := hc.bind
  obtain ⟨cs₄, m₂, s₄, _, -, hdisk, hdone⟩ := hc.bind
  obtain ⟨rfl, rfl⟩ := hdone.pure
  exact ⟨s₂, s₃, m₁, m₂, ⟨_, hfirst.followed (htick.followed (.done _ s₂))⟩, ⟨_, hsignal⟩,
    ⟨_, hdisk⟩, rfl⟩

/-- The phases one after another are a cycle. -/
theorem comesTo_phases {s s₁ s₂ s' : Session D} {files : Files} {t : Moment}
    {failed m₁ m₂ : Nat} {ticked : Bool} (hattend : (attend t.now).ComesTo I s (failed, ticked) s₁)
    (hsignal : reloadOnSignal.ComesTo I s₁ m₁ s₂)
    (hdisk : (reloadFromDisk files t.clock).ComesTo I s₂ m₂ s') :
    (runCycle files t).ComesTo I s ⟨failed, ticked, m₁ + m₂⟩ s' := by
  obtain ⟨cs, hattend⟩ := hattend
  obtain ⟨cs₂, hsignal⟩ := hsignal
  obtain ⟨cs₃, hdisk⟩ := hdisk
  obtain ⟨_, failures, s₀, _, -, hfirst, hattend⟩ := hattend.bind
  obtain ⟨_, ticked, s₁, _, -, htick, hdone⟩ := hattend.bind
  obtain ⟨hresult, rfl⟩ := hdone.pure
  obtain ⟨rfl, rfl⟩ := Prod.mk.inj hresult
  exact ⟨_, hfirst.followed (htick.followed (hsignal.followed (hdisk.followed (.done _ _))))⟩

/-- Requests and the timer keep a session well. -/
theorem upholds_attend (now : Int) : Upholds I concurrent (attend now : Chore D (Session D) _) :=
  (upholds_withHost Host.upholds_processRequests).bind fun _ => (upholds_tick now).bind fun _ =>
    .pure _

/-- Where no request is waiting, attending to requests and timer is none of the registry's
business, whatever scripts do. -/
theorem trace_attend {s s' : Session D} (hrequests : s.host.world.requests = []) {now : Int}
    {cs : List (Config D)} {result : Nat × Bool} (hc : (attend now).Trace I s cs result s') :
    s'.host.registry = s.host.registry ∧ s.SameWatch s' := by
  obtain ⟨_, failures, s₁, _, -, hrequested, hc⟩ := hc.bind
  obtain ⟨_, ticked, s₂, _, -, htick, hdone⟩ := hc.bind
  obtain ⟨-, rfl⟩ := hdone.pure
  obtain ⟨hrequested, hsame⟩ := trace_host hrequested
  have hserved := Host.trace_processRequests hrequested
  rw [hrequests] at hserved
  obtain ⟨-, hhost⟩ := hserved.pure
  obtain ⟨hregistry, hsame'⟩ := trace_tick htick
  exact ⟨hregistry.trans (by rw [hhost]), hsame.trans hsame'⟩

end Session

/-! ## A session on a directory with one script -/

namespace Specimen

/-- Its settings; the script may be switched off in them. -/
def watching (enabled : Bool) : ScriptSettings :=
  { ScriptSettings.default with
    scriptDir := some ⟨"s"⟩, extensions := ["py"], autorunPrefix := "", hotReloadInterval := 0
    scripts := [("a", enabled)] }

/-- No surroundings to speak of. -/
def nowhere : Surroundings :=
  ⟨"", none, none⟩

/-- It has been set up, and knows what was in the directory. -/
def outset (enabled : Bool) (known : Option Int) : Session dialect :=
  { host := Host.new (World.new ()) engine true, settings := watching enabled, lastTick := none
    scanner := some ⟨⟨"s"⟩, ["py"], 0, false, scripts known⟩, lastScan := 0, reload := none }

/-- The session that is set up. -/
theorem new_disk (enabled : Bool) (known : Option Int) :
    Session.new (World.new ()) engine (watching enabled) none (disk known) nowhere
      = outset enabled known := by
  have hscanner : Scanner.ofSettings (disk known) (watching enabled) nowhere
      = (⟨⟨"s"⟩, ["py"], 0, false, scripts known⟩, []) :=
    congrArg
      (fun walk : Walk => ((⟨⟨"s"⟩, ["py"], 0, false, walk.scripts⟩ : Scanner), walk.notices))
      (run_disk known)
  simp only [Session.new, hscanner]
  rfl

/-- What is found on the disk, with an underscore or without. -/
theorem autorun_disk (enabled : Bool) (found : Option Int) :
    Walk.autorun (disk found) ⟨"s"⟩ (watching enabled) = ((scripts found).map Prod.fst, []) := by
  have hautorun : ∀ p ∈ (scripts found).map Prod.fst, (watching enabled).isAutorun p = true := by
    have hscript : (watching enabled).isAutorun ⟨"s/a.py"⟩ = true := by
      cases enabled <;> decide +kernel
    cases found <;> simp [scripts, hscript]
  have hrun : Walk.run (disk found) ⟨"s"⟩ (watching enabled).extensions = ⟨scripts found, []⟩ :=
    run_disk found
  simp only [Walk.autorun, hrun, List.filter_eq_self.mpr hautorun]

/-- To load what is found. -/
def loading (enabled : Bool) (found : Option Int) :
    Chore dialect (Session dialect) (Except RegistryError Nat) := do
  Session.report (.loadingFrom ⟨"s"⟩)
  Session.withHost do
    let (n, failure) ← Host.enlist (watching enabled) ((scripts found).map Prod.fst)
    Host.report (.discovered n ⟨"s"⟩)
    match failure with
    | some e => return .error e
    | none => return .ok n

/-- Loading what is found comes to what the list of scripts says. -/
theorem comesTo_loadScripts {enabled : Bool} {found : Option Int} {s s' : Session dialect}
    (hs : s.settings = watching enabled) {result : Except RegistryError Nat}
    (h : (loading enabled found).ComesTo interpreter s result s') :
    (Session.loadScripts (disk found) nowhere).ComesTo interpreter s result s' := by
  obtain ⟨cs, hc⟩ := h
  have hdir : (watching enabled).directory nowhere = ⟨"s"⟩ := rfl
  have henabled : (watching enabled).enabled = true := rfl
  refine ⟨cs, .looking ?_⟩
  simp only [hs, henabled, if_true, hdir, Host.discover, autorun_disk]
  exact hc

/-- To apply what changed from one scan to the next. -/
def applying (known found : Option Int) (clock : Int) : Chore dialect (Session dialect) Nat := do
  let changes := Scanner.difference (scripts known) (scripts found)
  .reportAll ((.scanning ⟨"s"⟩ :: Scanner.differenceNotices changes).map .scan)
  .change fun s =>
    { s with scanner := some ⟨⟨"s"⟩, ["py"], 0, true, scripts found⟩, lastScan := clock }
  Session.applyChanges changes

/-- Reloading from the disk comes to what the difference says. -/
theorem comesTo_reloadFromDisk {known found : Option Int} {hasScanned : Bool}
    {s s' : Session dialect} {clock : Int} {n : Nat}
    (hs : s.scanner = some ⟨⟨"s"⟩, ["py"], 0, hasScanned, scripts known⟩)
    (h : (applying known found clock).ComesTo interpreter s n s') :
    (Session.reloadFromDisk (disk found) clock).ComesTo interpreter s n s' := by
  obtain ⟨cs, hc⟩ := h
  refine ⟨cs, .looking ?_⟩
  simp only [hs, Scanner.isDue, Scanner.scan, run_disk, Nat.zero_le, decide_true, Bool.or_true,
    if_true]
  exact hc

/-- What comes of a chore that is done in one go. -/
def after {α : Type} (c : Chore dialect (Session dialect) α) (s : Session dialect) :
    Session dialect :=
  ((c.run interpreter s).map Prod.snd).getD s

/-- What is done in one go comes to what it computes. -/
theorem comesTo_after {α : Type} {c : Chore dialect (Session dialect) α} {s : Session dialect}
    {a : α} (h : (c.run interpreter s).map Prod.fst = some a) :
    c.ComesTo interpreter s a (after c s) := by
  obtain ⟨⟨a, s'⟩, hrun, rfl⟩ := Option.map_eq_some_iff.mp h
  rw [after, hrun]
  exact Chore.trace_of_run hrun

/-- It knew what was in the directory, and has loaded what is there now. -/
def loaded (enabled : Bool) (known found : Option Int) : Session dialect :=
  after (loading enabled found) (outset enabled known)

/-- It has run a cycle. -/
def cycled (known found : Option Int) (s : Session dialect) : Session dialect :=
  after (applying known found 0) (after Session.reloadOnSignal (after (Session.attend 0) s))

theorem comesTo_cycled {known found : Option Int} {hasScanned : Bool} {s : Session dialect}
    {failed m n : Nat} {ticked : Bool}
    (hattend : ((Session.attend 0).run interpreter s).map Prod.fst = some (failed, ticked))
    (hsignal : (Session.reloadOnSignal.run interpreter (after (Session.attend 0) s)).map Prod.fst
      = some m)
    (hscanner : (after Session.reloadOnSignal (after (Session.attend 0) s)).scanner
      = some ⟨⟨"s"⟩, ["py"], 0, hasScanned, scripts known⟩)
    (happly : ((applying known found 0).run interpreter
      (after Session.reloadOnSignal (after (Session.attend 0) s))).map Prod.fst = some n) :
    (Session.runCycle (disk found) ⟨0, 0⟩).ComesTo interpreter s ⟨failed, ticked, m + n⟩
      (cycled known found s) :=
  Session.comesTo_phases (comesTo_after hattend) (comesTo_after hsignal)
    (comesTo_reloadFromDisk hscanner (comesTo_after happly))

end Specimen

end ScriptHost
