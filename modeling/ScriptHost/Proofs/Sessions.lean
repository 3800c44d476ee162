import ScriptHost.Proofs.Upkeep

/-!
# What holds of a registry in every run of a session

Between two operations of whatever a session does its registry is tidy, and its
entries are in step with their flags; at every moment a registry that runs one script
at a time has one instance at most that has not ended.

* `Operation.upholds` — every operation on a session keeps its registry;
* `Scene.Reachable.one_at_a_time` — the policy of one instance, at every moment;
* `Scene.Reachable.instance_iff_wanted` — instances and flags, between operations.
-/

namespace ScriptHost

variable {D : Dialect} {α β : Type} {I : Interpreter D} {concurrent : Bool}

/-! ## The operations of a session -/

namespace Session

/-- A chore takes a session with a well-kept registry to one of that sort. -/
abbrev Upholds (I : Interpreter D) (concurrent : Bool) (c : Chore D (Session D) α) : Prop :=
  c.Keeps I (fun s => Host.Lawful concurrent s.host) fun s => Host.WellKept I concurrent s.host

/-- What keeps the registry well keeps the session well. -/
theorem upholds_withHost {c : Chore D (Host D) α} (hc : Host.Upholds I concurrent c) :
    Upholds I concurrent (withHost c) :=
  keeps_withHost hc

/-- An order that touches nobody keeps a session well. -/
theorem upholds_order {o : Order D} (ho : o.isQuiet = true) (a : α) :
    Upholds I concurrent (.order o (.done a)) :=
  upholds_withHost (Host.upholds_order ho a)

theorem upholds_report (n : SessionNotice) : Upholds I concurrent (report n) :=
  upholds_order (o := .code (.report (.session n))) rfl ()

/-- An emission keeps a session well, whatever scripts do on it. -/
theorem upholds_emit (event : Event) : Upholds I concurrent (.emit event) :=
  upholds_order (o := .code (.act (.emit event) fun _ => .ret ())) rfl ()

theorem upholds_reportAll (ns : List Notice) : Upholds I concurrent (.reportAll ns) := by
  induction ns with
  | nil => exact .pure ()
  | cons n rest ih => exact (upholds_order (o := .code (.report n)) rfl ()).bind fun _ => ih

/-- What a session changes of its own is none of the registry's. -/
theorem upholds_change {f : Session D → Session D} (hf : ∀ s, (f s).host = s.host) :
    Upholds I concurrent (.change f) := by
  intro s hs
  have hsame : (HasWorld.setWorld (HasWorld.world s) (f s)).host = s.host := by
    simp only [HasWorld.setWorld, HasWorld.world, hf]
  have hkept : Host.WellKept I concurrent (HasWorld.setWorld (HasWorld.world s) (f s)).host :=
    hsame ▸ hs
  exact ⟨hkept.tidy.lawful, hkept⟩

/-- Loading what is found keeps a session well. -/
theorem upholds_loadScripts (files : Files) (around : Surroundings) :
    Upholds I concurrent (loadScripts files around) := by
  refine .state fun s => ?_
  dsimp only
  split
  · exact (upholds_report _).bind fun _ => upholds_withHost (Host.upholds_discover _ _ _)
  · exact (upholds_report _).bind fun _ => .pure _

/-- The beginning of the emulation keeps a session well. -/
theorem upholds_beginEmulation : Upholds I concurrent (beginEmulation : Chore D (Session D) _) :=
  (upholds_report _).bind fun _ => upholds_withHost Host.upholds_startAll

/-- The end of the emulation keeps a session well. -/
theorem upholds_endEmulation : Upholds I concurrent (endEmulation : Chore D (Session D) _) :=
  (upholds_report _).bind fun _ => upholds_withHost Host.upholds_stopAll

/-- A timer tick keeps a session well, if it is time for one or not. -/
theorem upholds_tick (now : Int) : Upholds I concurrent (tick now : Chore D (Session D) _) := by
  refine .state fun s => ?_
  split
  · refine .bind (upholds_change fun _ => rfl) fun _ => ?_
    exact (upholds_emit .timerTick).bind fun _ => .pure true
  · exact .pure false

/-- Looking at the reload channel keeps a session well. -/
theorem upholds_takeReload : Upholds I concurrent (takeReload : Chore D (Session D) _) := by
  refine .state fun s => ?_
  split
  · split
    · exact .bind (upholds_change fun _ => rfl) fun _ => .pure _
    · exact .pure false
  · exact .pure false

/-- Restarting on a signal keeps a session well. -/
theorem upholds_reloadOnSignal : Upholds I concurrent (reloadOnSignal : Chore D (Session D) _) := by
  refine upholds_takeReload.bind fun requested => ?_
  cases requested with
  | false => exact .pure 0
  | true =>
    refine .state fun s => ?_
    refine (upholds_withHost Host.upholds_restartAll).bind fun result => ?_
    cases result with
    | ok => exact .pure _
    | error e => exact (upholds_report _).bind fun _ => .pure _

/-- Restarting changed scripts keeps a session well. -/
theorem upholds_restartChanged (paths : List Path) :
    Upholds I concurrent (restartChanged paths : Chore D (Session D) _) := by
  induction paths with
  | nil => exact .pure 0
  | cons p rest ih =>
    refine .state fun s => ?_
    split
    · refine (upholds_report _).bind fun _ => ?_
      refine (upholds_withHost (Host.upholds_restart _)).bind fun result => ?_
      cases result with
      | ok => exact ih.bind fun _ => .pure _
      | error e => exact (upholds_report _).bind fun _ => ih
    · exact ih

/-- Removing missing scripts keeps a session well. -/
theorem upholds_removeMissing (paths : List Path) :
    Upholds I concurrent (removeMissing paths : Chore D (Session D) _) := by
  induction paths with
  | nil => exact .pure 0
  | cons p rest ih =>
    refine .state fun s => ?_
    split
    · refine (upholds_report _).bind fun _ => ?_
      refine (upholds_withHost (Host.upholds_remove _)).bind fun result => ?_
      cases result with
      | ok => exact ih.bind fun _ => .pure _
      | error e => exact ih
    · exact ih

/-- Registering new scripts keeps a session well. -/
theorem upholds_addFound (paths : List Path) :
    Upholds I concurrent (addFound paths : Chore D (Session D) _) := by
  induction paths with
  | nil => exact .pure 0
  | cons p rest ih =>
    refine .state fun s => ?_
    split
    · refine (upholds_withHost (Host.upholds_add p _)).bind fun result => ?_
      cases result with
      | ok => exact ih.bind fun _ => .pure _
      | error e => exact (upholds_report _).bind fun _ => ih
    · exact ih

/-- Applying what changed on disk keeps a session well. -/
theorem upholds_applyChanges (changes : ScanResult) :
    Upholds I concurrent (applyChanges changes : Chore D (Session D) _) :=
  (upholds_restartChanged _).bind fun _ => (upholds_removeMissing _).bind fun _ =>
    (upholds_addFound _).bind fun _ => .pure _

/-- Scanning, and applying what changed, keeps a session well. -/
theorem upholds_reloadFromDisk (files : Files) (clock : Int) :
    Upholds I concurrent (reloadFromDisk files clock : Chore D (Session D) _) := by
  refine .state fun s => ?_
  split
  · exact .pure 0
  · split
    · refine (upholds_reportAll _).bind fun _ => ?_
      exact .bind (upholds_change fun _ => rfl) fun _ => upholds_applyChanges _
    · exact .pure 0

/-- A cycle keeps a session well. -/
theorem upholds_runCycle (files : Files) (t : Moment) :
    Upholds I concurrent (runCycle files t : Chore D (Session D) _) :=
  (upholds_withHost Host.upholds_processRequests).bind fun _ => (upholds_tick _).bind fun _ =>
    upholds_reloadOnSignal.bind fun _ => (upholds_reloadFromDisk _ _).bind fun _ => .pure _

theorem upholds_sendReload (request : Bool) :
    Upholds I concurrent (sendReload request : Chore D (Session D) _) :=
  upholds_change fun _ => rfl

/-! ## The emulation loop -/

theorem upholds_setShutdown (channel : Option (Watch Bool)) :
    Upholds I concurrent (.setShutdown channel) :=
  upholds_order (o := .setShutdown channel) rfl ()

theorem upholds_modifyShutdown (f : Watch Bool → Watch Bool) :
    Upholds I concurrent (modifyShutdown f : Chore D (Session D) _) :=
  .state fun _ => upholds_setShutdown _

/-- Messages on the shutdown channel keep a session well. -/
theorem upholds_deliverMessages (messages : List ShutdownMessage) :
    Upholds I concurrent (deliverMessages messages : Chore D (Session D) _) := by
  induction messages with
  | nil => exact .pure ()
  | cons m rest ih =>
    cases m with
    | send value => exact (upholds_modifyShutdown _).bind fun _ => ih
    | hangUp => exact (upholds_modifyShutdown _).bind fun _ => ih

/-- A frame keeps a session well. -/
theorem upholds_runFrame (files : Files) (frame : Nat) (t : Moment) :
    Upholds I concurrent (runFrame files frame t : Chore D (Session D) _) := by
  refine (upholds_emit _).bind fun _ => (upholds_emit _).bind fun _ =>
    (upholds_runCycle files t).bind fun r => ?_
  unfold reportCycle
  split
  · exact upholds_report _
  · exact .pure ()

/-- The loop over frames keeps a session well, however many turns it makes. -/
theorem upholds_frames (files : Nat → Files) (limit : Option Nat) (turns : Nat → Turn)
    (fuel k frame : Nat) :
    Upholds I concurrent (frames files limit turns fuel k frame : Chore D (Session D) _) := by
  induction fuel generalizing k frame with
  | zero => exact .pure none
  | succ fuel ih =>
    unfold frames
    dsimp only
    split
    · exact .pure _
    · refine (upholds_deliverMessages _).bind fun _ => .state fun s => ?_
      split
      · exact (upholds_modifyShutdown _).bind fun _ => (upholds_report _).bind fun _ => .pure _
      · exact (upholds_modifyShutdown _).bind fun _ => ih _ _
      · exact (upholds_runFrame _ _ _).bind fun _ => ih _ _

/-- What comes before the first frame keeps a session well. -/
theorem upholds_openEmulation (channel : Watch Bool) :
    Upholds I concurrent (openEmulation channel : Chore D (Session D) _) := by
  refine (upholds_setShutdown _).bind fun _ => upholds_beginEmulation.bind fun result => ?_
  cases result with
  | ok => exact .pure ()
  | error e => exact upholds_report _

/-- What comes after the last frame keeps a session well. -/
theorem upholds_closeEmulation : Upholds I concurrent (closeEmulation : Chore D (Session D) _) :=
  upholds_endEmulation.bind fun _ => upholds_setShutdown none

/-- The whole emulation keeps a session well. -/
theorem upholds_emulate (o : EmulationOptions) (channel : Watch Bool) (files : Nat → Files)
    (turns : Nat → Turn) (fuel : Nat) :
    Upholds I concurrent (emulate o channel files turns fuel : Chore D (Session D) _) := by
  refine (upholds_openEmulation channel).bind fun _ => ?_
  split
  · exact .pure _
  · refine (upholds_frames files o.frames turns fuel 0 0).bind fun ran => ?_
    cases ran with
    | none => exact .pure _
    | some n => exact upholds_closeEmulation.bind fun _ => .pure _

end Session

/-- **Every operation on a session** leaves its registry well kept. -/
theorem Operation.upholds (op : Operation) :
    Session.Upholds I concurrent (op.chore : Chore D (Session D) Unit) := by
  cases op with
  | registry op => exact Session.upholds_withHost op.upholds
  | loadScripts files around => exact (Session.upholds_loadScripts files around).void
  | beginEmulation => exact Session.upholds_beginEmulation.void
  | endEmulation => exact Session.upholds_endEmulation
  | runCycle files t => exact (Session.upholds_runCycle files t).void
  | sendReload request => exact Session.upholds_sendReload request
  | closeReload => exact Session.upholds_change fun _ => rfl
  | requestReload => exact (Session.upholds_report _).bind fun _ => Session.upholds_sendReload true
  | emulate o channel files turns fuel =>
    exact (Session.upholds_emulate o channel files turns fuel).void

/-! ## Every run of a session -/

/-- A registry that belongs to nobody yet is well kept. -/
theorem Scene.Begins.wellKept {x : Scene D} (h : x.Begins I concurrent) :
    x.session.host.WellKept I concurrent := by
  obtain ⟨s, stack, agenda⟩ := x
  obtain ⟨⟨rfl : stack = [], -⟩, ⟨engine, hnew⟩, hreachable, hunregistered⟩ := h
  have hregistry : s.host.registry = Registry.new engine concurrent := hnew
  have hnone : ∀ i, s.host.world.view.isRegistered i = false := hunregistered
  have hown : s.host.world.view.own = [] := List.filter_eq_nil_iff.mpr fun i _ => by simp [hnone i]
  have hids : s.host.world.view.registeredIds = [] := by
    refine List.map_eq_nil_iff.mpr (List.filter_eq_nil_iff.mpr fun t ht => ?_)
    obtain ⟨i, hi⟩ := List.getElem?_of_mem ht
    simpa [View.isRegistered, hi] using hnone i
  refine ⟨⟨hreachable, ?_, ?_, ?_, fun i _ => hnone i, ?_, ⟨0, hids, ?_⟩, ?_⟩, ?_⟩
  · rw [hregistry]
    rfl
  · rw [hregistry, hown]
    exact .refl _
  · simp [hown]
  · simp [Host.Single, hown]
  · rw [hregistry]
    rfl
  · simp [hregistry, Registry.new, Registry.Distinct, Registry.paths]
  · intro j e he
    simp [hregistry, Registry.new] at he

/-- **The registry of a session is well kept** whenever nothing is under way, and lawful
at every moment. -/
theorem Scene.Reachable.ruled {x : Scene D} (h : x.Reachable I concurrent) :
    x.Safe I (fun s => Host.Lawful concurrent s.host)
      fun s => Host.WellKept I concurrent s.host := by
  refine h.safe (fun s hs => hs.tidy.lawful) (fun x hx => hx.wellKept) Operation.upholds ?_
  intro s w started hs haside c hc
  obtain ⟨hlawful, htidy⟩ := hs.tidy.aside haside hc
  exact ⟨hlawful, fun hrest => ⟨htidy hrest, hs.inStep⟩⟩

/-- **The registry of a session is well kept** whenever nothing is under way, and at
every moment it has one instance at most, if it is not to have more. -/
theorem Scene.Reachable.upheld {x : Scene D} (h : x.Reachable I concurrent) :
    x.Safe I (fun s _ => Host.Single concurrent s.host)
      fun s => Host.WellKept I concurrent s.host :=
  h.ruled.mono fun _ _ hlawful => hlawful.single

/-- What is seen of an instance of the registry that has not ended. -/
theorem Scene.mem_own {x : Scene D} {i : Nat} {a : Instance D} (ha : x.world.instance? i = some a)
    (hregistered : a.detached = false) (halive : a.state ≠ .terminated) :
    i ∈ x.world.view.own := by
  refine View.mem_own.mpr ⟨?_, ?_⟩
  · simp [View.isAlive, World.infos_view, ha, Instance.info, InstanceInfo.isAlive, halive]
  · simp [View.isRegistered, View.tags, World.infos_view, ha, Instance.info, InstanceInfo.tag,
      hregistered]

/-- **One at a time.**  Of all the instances a registry ever had, one at most has not
ended, if it does not allow concurrent scripts: between its operations, and at every
moment within them, whatever scripts and host do. -/
theorem Scene.Reachable.one_at_a_time {x : Scene D} (h : x.Reachable I false) {i j : Nat}
    {a b : Instance D} (ha : x.world.instance? i = some a) (hb : x.world.instance? j = some b)
    (haOwn : a.detached = false) (hbOwn : b.detached = false) (haAlive : a.state ≠ .terminated)
    (hbAlive : b.state ≠ .terminated) : i = j := by
  have hsingle := h.upheld.always rfl
  have hi := mem_own ha haOwn haAlive
  have hj := mem_own hb hbOwn hbAlive
  match hown : x.world.view.own, hsingle with
  | [], _ =>
    rw [hown] at hi
    cases hi
  | [k], _ =>
    rw [hown] at hi hj
    exact (List.mem_singleton.mp hi).trans (List.mem_singleton.mp hj).symm

/-- While the new instance of a script that is being restarted runs its top-level code,
it is the only one: the old one has ended. -/
theorem Scene.Reachable.one_at_a_time_restarting :
    ∃ a, (Specimen.restartRun false 38).1.world.instance? 1 = some a ∧ a.state = .initializing ∧
      (Specimen.restartRun false 38).1.world.instances.length - 1 = 1 := by
  obtain ⟨a, ha, hown, hstate⟩ : ∃ a, (Specimen.restartRun false 38).1.world.instance? 1 = some a ∧
      a.detached = false ∧ a.state = .initializing := ⟨_, rfl, rfl, rfl⟩
  have halive : a.state ≠ .terminated := by simp [hstate]
  refine ⟨a, ha, hstate, ?_⟩
  exact one_at_a_time (Specimen.reachable_restartRun false (n := 38) (by decide)) ha ha hown hown
    halive halive

/-- **Instances and flags.**  Between two operations an entry has an instance only if it
is enabled and the registry is started, and that instance runs; if concurrent scripts
are allowed, it has one then. -/
theorem Scene.Reachable.instance_iff_wanted {x : Scene D} (h : x.Reachable I concurrent)
    (hrest : x.AtRest) {i : Nat} {e : Entry} (he : x.session.host.registry.entries[i]? = some e) :
    (∀ k, e.live = some k → e.enabled = true ∧ x.session.host.registry.started = true ∧
        ∃ a, x.world.instance? k = some a ∧ a.state = .running) ∧
      (concurrent = true →
        (e.live.isSome = true ↔ e.enabled = true ∧ x.session.host.registry.started = true)) := by
  have hkept := h.upheld.rest hrest
  have hfits := hkept.inStep i e he List.not_mem_nil
  refine ⟨fun k hk => ?_, fun hconcurrent => ⟨hfits.wanted, fun ⟨henabled, hstarted⟩ => ?_⟩⟩
  · obtain ⟨henabled, hstarted⟩ := hfits.wanted (by simp [hk])
    refine ⟨henabled, hstarted, ?_⟩
    have hmem : k ∈ x.session.host.registry.lives :=
      List.mem_filterMap.mpr ⟨e, List.mem_of_getElem? he, hk⟩
    have hrunning := hkept.tidy.running k (hkept.tidy.lives.mem_iff.mp hmem)
    rw [View.isRunning, World.infos_view] at hrunning
    cases ha : x.session.host.world.instance? k with
    | none => simp [ha] at hrunning
    | some a => exact ⟨a, ha, by simpa [ha, Instance.info] using hrunning⟩
  · exact hfits.served (hkept.tidy.mode.trans hconcurrent) henabled hstarted

/-- When a script has been restarted, its entry has the new instance, which runs. -/
theorem Scene.Reachable.instance_iff_wanted_restarted :
    (Specimen.restartRun true 41).1.session.host.registry.entries[0]?
        = some ⟨⟨"a.py"⟩, true, some 1⟩ ∧
      ∃ a, (Specimen.restartRun true 41).1.world.instance? 1 = some a ∧ a.state = .running := by
  have he : (Specimen.restartRun true 41).1.session.host.registry.entries[0]?
      = some ⟨⟨"a.py"⟩, true, some 1⟩ := by decide +kernel
  obtain ⟨hlive, -⟩ :=
    instance_iff_wanted (Specimen.reachable_restartRun true (Nat.le_refl 41)) ⟨rfl, rfl⟩ he
  exact ⟨he, (hlive 1 rfl).2.2⟩

end ScriptHost
