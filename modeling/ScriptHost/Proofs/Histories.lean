import ScriptHost.Proofs.Counts
import ScriptHost.Proofs.Recruits
import ScriptHost.Proofs.Restarts
import ScriptHost.Proofs.Sessions
import ScriptHost.Proofs.Table

/-!
# What the built-in scripts have counted

A registry with the built-in engine is operated, and between two operations the host emits
events, one after another (`Builtin.History`).  What the instances have counted can be told
from what has been emitted since each of them came into being: a frame counter has reported
every sixtieth frame, and a tick watch, of every end it heard of, the ticks up to then
(`Builtin.CountsRight`).

* `Config.emissions_signs` — what has been emitted since an instance came into being;
* `Host.exists_emission`, `Host.exists_operation` — what comes of the next event, and of
  the next operation;
* `Builtin.History.counts_right` — what has been counted, whatever has happened.
-/

namespace ScriptHost

/-! ## What has been emitted -/

namespace Config

variable {D : Dialect}

/-- **What has been emitted while an instance was there** is what the host emitted from
then on. -/
theorem emissions_signs (i : Nat) (cs : List (Config D)) :
    Sign.emissions (signs i cs)
      = (cs.filter fun c => i < c.world.instances.length).filterMap hostEmission? := by
  have hframe : ∀ (w : World D) (f : Frame D), (f.sign? w i).bind Sign.emitted? = none := by
    refine fun w f => Option.bind_eq_none_iff.mpr fun s hs => ?_
    rcases Frame.sign?_cases hs with ⟨event, rfl⟩ | ⟨n, rfl, -⟩ <;> rfl
  have hone : ∀ c : Config D, (c.sign? i).bind Sign.emitted?
      = if i < c.world.instances.length then c.hostEmission? else none := by
    intro c
    unfold sign?
    cases c.hostEmission? with
    | some event =>
      dsimp only
      split <;> rfl
    | none =>
      rw [ite_self, Option.bind_assoc]
      exact Option.bind_eq_none_iff.mpr fun f _ => hframe c.world f
  calc Sign.emissions (signs i cs) = cs.filterMap fun c => (c.sign? i).bind Sign.emitted? :=
        List.filterMap_filterMap
    _ = (cs.filter fun c => i < c.world.instances.length).filterMap hostEmission? := by
        rw [List.filterMap_filter]
        exact List.filterMap_congr fun c _ => by simp [hone]

end Config

/-! ## The counts -/

namespace Builtin

/-- What the instances of the built-in scripts have counted and reported on a trace goes
with what has been emitted since each of them came into being. -/
structure CountsRight (cs : List (Config Repertoire)) (w : World Repertoire) : Prop where
  /-- A frame counter that has not ended has one coroutine, which waits for the next frame;
  and every sixtieth frame has been reported. -/
  frames : ∀ i x, w.instance? i = some x → x.isAlive = true →
    x.path.stem? = some frameCounterName →
    x.subscriptions.awaiting .frameAdvance = 1 ∧ x.subscriptions.totalAwaiting = 1 ∧
      Sign.reports (Config.signs i cs)
        = frameReports x.id ((Sign.emissions (Config.signs i cs)).count .frameAdvance)
  /-- A tick watch has reported every end it heard of, with the ticks up to then. -/
  ticks : ∀ i x, w.instance? i = some x → x.path.stem? = some tickWatchName →
    Sign.reports (Config.signs i cs) = endReports x.id 0 (Config.signs i cs)
  /-- Whoever has ended heard of his own end last. -/
  farewells : ∀ i x, w.instance? i = some x → x.isAlive = false →
    (Sign.deliveries (Config.signs i cs)).getLast? = some (.scriptEnd x.id)

/-- Whoever has one coroutine waiting, for one kind of event. -/
theorem awaiting_of_waiting {s : Subscriptions Repertoire} {kind : EventKind}
    {task : Task Repertoire} (h : ∀ k, s.waiting k = if k = kind then [task] else []) :
    s.awaiting kind = 1 ∧ s.totalAwaiting = 1 := by
  refine ⟨by simp [Subscriptions.awaiting, h], ?_⟩
  have hall : EventKind.all.flatMap s.waiting
      = EventKind.all.flatMap fun k => if k = kind then [task] else [] :=
    List.flatMap_congr fun k _ => h k
  rw [Subscriptions.totalAwaiting, hall]
  cases kind <;> rfl

end Builtin

namespace Audit

open Builtin

/-- Where the audit stands, the counts are right. -/
theorem countsRight {cs : List (Config Repertoire)} {w : World Repertoire} (h : Audit cs w) :
    CountsRight cs w := by
  obtain ⟨post, hstaffed, haccounts⟩ := h.staffed
  have hinfo : ∀ {i x}, w.instance? i = some x → w.view.infos[i]? = some x.info := fun hx => by
    rw [World.infos_view, hx]
    rfl
  refine ⟨fun i x hx halive hstem => ?_, fun i x hx hstem => ?_, fun i x hx hended => ?_⟩
  · obtain ⟨n, hpost⟩ := hstaffed.exists_counter (hinfo hx) halive hstem
    have hlives := (World.isAlive_of_info (hinfo hx)).trans halive
    have hheld := hstaffed.held i _ (hinfo hx) halive
    have haccount := haccounts i hlives
    rw [hpost] at hheld haccount
    obtain ⟨-, -, serial, hwaiting⟩ := hheld
    obtain ⟨rfl, hreports⟩ := haccount
    have htable : w.subscriptions (.script i) = x.subscriptions := by
      rw [World.subscriptions, hx]
      rfl
    obtain ⟨hone, htotal⟩ := awaiting_of_waiting (htable ▸ hwaiting)
    exact ⟨hone, htotal, hreports⟩
  · cases halive : x.isAlive with
    | true =>
      obtain ⟨cell, ticks, hpost⟩ := hstaffed.exists_watch (hinfo hx) halive hstem
      have haccount := haccounts i ((World.isAlive_of_info (hinfo hx)).trans halive)
      rw [hpost] at haccount
      exact haccount.2
    | false => exact (h.ended i _ (hinfo hx) halive).reported hstem
  · exact (h.ended i _ (hinfo hx) hended).last

end Audit

/-! ## The next event and the next operation -/

theorem Order.Of.ofSession {D : Dialect} {e : Engine D} {o : Order D} (h : o.Of e) :
    o.OfSession := by
  cases h with
  | report n => exact .ofRegistry (.report n)
  | spawn id path => exact .ofRegistry (.spawn ..)
  | terminate i => exact .ofRegistry (.terminate i)
  | dropRequests => exact .dropRequests

namespace Host

open Builtin

variable {cs cs' : List (Config Repertoire)} {host host' : Host Repertoire} {event : Event}
  {args : Args} {concurrent : Bool}

/-- **The next event** comes to its end, and the audit stands. -/
theorem exists_emission (h : Audit cs host.world) (hargs : event.args = .ok args) :
    ∃ cs' host', (Chore.emit event).Trace repertoire host cs' () host' ∧
      Audit (cs ++ cs') host'.world ∧ host'.registry = host.registry ∧
      ∀ i, Sign.emissions (Config.signs i cs')
        = if i < host.world.instances.length then [event] else [] := by
  obtain ⟨cs', w', htrace, haudit, hemitted⟩ := h.exists_emission hargs
  refine ⟨cs', { host with world := w' }, ?_, haudit, rfl, hemitted⟩
  have hdone : Chore.Trace repertoire (.order (.code (.act (.emit event) fun _ => .ret ()))
      (.done ())) host (cs' ++ []) () { host with world := w' } := .order htrace (.done () _)
  rwa [List.append_nil] at hdone

/-- **The next operation** comes to its end, the audit stands, and nothing is emitted. -/
theorem exists_operation (h : Audit cs host.world) (hengine : host.registry.engine = engine)
    (op : RegistryOperation) :
    ∃ cs' host', op.chore.Trace repertoire host cs' () host' ∧ Audit (cs ++ cs') host'.world ∧
      host'.registry.engine = engine ∧ ∀ i, Sign.emissions (Config.signs i cs') = [] := by
  let J (cs' : List (Config Repertoire)) (w : World Repertoire) : Prop :=
    Audit cs' w ∧ cs'.filterMap Config.hostEmission? = cs.filterMap Config.hostEmission?
  have hJ : ∀ o cs w, o.Of engine → J cs w → ∃ cs' w',
      Config.Trace repertoire ⟨(w.beginOrder o).1, (w.beginOrder o).2⟩ cs' ⟨w', []⟩ ∧
        J (cs ++ cs') w' := by
    rintro o cs w ho ⟨haudit, hemitted⟩
    obtain ⟨cs', w', htrace, haudit'⟩ := haudit.exists_obeyed ho
    have hnone := (ho.ofSession.subsides w).hostEmissions_nil htrace
    refine ⟨cs', w', htrace, haudit', ?_⟩
    rw [List.filterMap_append, hnone, hemitted, List.append_nil]
  obtain ⟨cs', u, host', htrace, ⟨haudit, hemitted⟩, hengine'⟩ :=
    (employs_chore op).exists_trace hJ hengine ⟨h, rfl⟩
  rw [List.filterMap_append] at hemitted
  have hnone := List.filterMap_eq_nil_iff.mp (List.append_right_eq_self.mp hemitted)
  refine ⟨cs', host', htrace, haudit, hengine', fun i => ?_⟩
  rw [Config.emissions_signs, List.filterMap_eq_nil_iff]
  exact fun c hc => hnone c (List.mem_of_mem_filter hc)

/-- What is asked for outside of the registry's operations waits in the queue. -/
theorem WellKept.pushRequest {D : Dialect} {I : Interpreter D} {h : Host D}
    (hh : h.WellKept I concurrent) (kind : RequestKind) (path : Path) :
    ({ h with world := h.world.pushRequest kind path } : Host D).WellKept I concurrent := by
  obtain ⟨htidy, hstep⟩ := hh
  obtain ⟨hreachable, hmode, hlives, hrunning, hheld, hsingle, hnumbered, hdistinct⟩ := htidy
  have hqueued : (⟨{ h.world with requests := h.world.requests ++ [⟨kind, path⟩] }, []⟩ :
      Config D).Reachable I := hreachable.move (.host (.setRequests _))
  exact ⟨⟨Scene.reachable_log hqueued _, hmode, hlives, hrunning, hheld, hsingle, hnumbered,
    hdistinct⟩, hstep⟩

end Host

/-- The operation restarts the entry at a position, if it has an instance. -/
def RegistryOperation.Restarts {D : Dialect} (r : Registry D) (i : Nat) : RegistryOperation → Prop
  | .restart s => r.resolve s = .ok i
  | .restartAll => True
  | _ => False

namespace Builtin

/-! ## Histories -/

/-- What has become of a new registry with the engine of the built-in scripts, and the
trace it has taken: it has been operated, events have been emitted in between, each after
the one before has been delivered, and the handle of its queue has been used. -/
inductive History (concurrent : Bool) : List (Config Repertoire) → Host Repertoire → Prop
  | begins (m : Memory) : History concurrent [] (Host.new (World.new m) engine concurrent)
  | emits {cs cs' : List (Config Repertoire)} {host host' : Host Repertoire} {event : Event}
      {args : Args} (h : History concurrent cs host) (hargs : event.args = .ok args)
      (hc : (Chore.emit event).Trace repertoire host cs' () host') :
      History concurrent (cs ++ cs') host'
  | operates {cs cs' : List (Config Repertoire)} {host host' : Host Repertoire}
      {op : RegistryOperation} (h : History concurrent cs host)
      (hc : op.chore.Trace repertoire host cs' () host') : History concurrent (cs ++ cs') host'
  | asks {cs : List (Config Repertoire)} {host : Host Repertoire} (h : History concurrent cs host)
      (kind : RequestKind) (path : Path) :
      History concurrent cs { host with world := host.world.pushRequest kind path }

/-- A new registry has nobody whose signs could be wrong. -/
theorem audit_new (m : Memory) (concurrent : Bool) :
    Audit [] (Host.new (World.new m) engine concurrent).world := by
  have hnobody : ∀ i, (Host.new (World.new m) engine concurrent).world.view.infos[i]? = none :=
    fun _ => List.getElem?_nil
  have hended : ∀ i, ¬ (Host.new (World.new m) engine concurrent).world.view.isAlive i = true :=
    fun i => by simp [View.isAlive, hnobody]
  constructor
  · exact ⟨View.orderly_empty, fun i hi => absurd hi (hended i), rfl⟩
  · refine ⟨fun _ => .idle, ⟨?_, ?_, fun i _ hi => absurd hi (hended i)⟩, fun _ _ => trivial⟩
    · exact fun i b hb => by simp [hnobody] at hb
    · exact fun i b hb => by simp [hnobody] at hb
  · exact fun i b hb => by simp [hnobody] at hb
  · exact fun _ _ => rfl

namespace History

variable {concurrent : Bool} {cs : List (Config Repertoire)} {host : Host Repertoire}

/-- Whatever happens, the audit stands and the registry is well kept. -/
theorem audit (h : History concurrent cs host) :
    Audit cs host.world ∧ host.registry.engine = engine ∧ host.WellKept repertoire concurrent := by
  induction h with
  | begins m =>
    refine ⟨audit_new m concurrent, rfl, ?_⟩
    have hbegins := Scene.begins_new (I := repertoire) (w := World.new m) ⟨m, .refl⟩
      (fun i => by simp [View.isRegistered, View.tags, World.view, World.new]) engine
      { ScriptSettings.default with concurrent, hotReload := false } none ⟨.dir "" [] 0, [], 0⟩
      ⟨"", none, none⟩
    exact hbegins.wellKept
  | emits _ hargs hc ih =>
    obtain ⟨haudit, hengine, hkept⟩ := ih
    obtain ⟨cs', host', hc', haudit', hregistry, -⟩ := Host.exists_emission haudit hargs
    obtain ⟨rfl, -, rfl⟩ := hc'.unique hc
    refine ⟨haudit', by rw [hregistry, hengine], hkept.of_trace ?_ hc⟩
    exact Host.upholds_order (o := .code (.act (.emit _) fun _ => .ret ())) rfl ()
  | @operates _ _ _ _ op _ hc ih =>
    obtain ⟨haudit, hengine, hkept⟩ := ih
    obtain ⟨cs', host', hc', haudit', hengine', -⟩ := Host.exists_operation haudit hengine op
    obtain ⟨rfl, -, rfl⟩ := hc'.unique hc
    exact ⟨haudit', hengine', hkept.of_trace op.upholds hc⟩
  | @asks cs _ _ kind path ih =>
    obtain ⟨haudit, hengine, hkept⟩ := ih
    refine ⟨?_, hengine, hkept.pushRequest kind path⟩
    rw [← List.append_nil cs]
    exact haudit.quiet rfl rfl (fun _ => rfl) fun _ => rfl

variable {cs' : List (Config Repertoire)} {host' : Host Repertoire}

/-- The next event is counted as one for everybody who is there. -/
theorem exists_emits (h : History concurrent cs host) {event : Event} {args : Args}
    (hargs : event.args = .ok args) :
    ∃ cs' host', (Chore.emit event).Trace repertoire host cs' () host' ∧
      ∀ i, Sign.emissions (Config.signs i (cs ++ cs')) = Sign.emissions (Config.signs i cs)
        ++ if i < host.world.instances.length then [event] else [] := by
  obtain ⟨cs', host', htrace, -, -, hemitted⟩ := Host.exists_emission h.audit.1 hargs
  refine ⟨cs', host', htrace, fun i => ?_⟩
  rw [Config.signs_append, Sign.emissions_append, hemitted]

/-- The next operation counts as none, and nothing has been counted for whoever comes into
being meanwhile. -/
theorem exists_operates (h : History concurrent cs host) (op : RegistryOperation) :
    ∃ cs' host', op.chore.Trace repertoire host cs' () host' ∧
      ∀ i, Sign.emissions (Config.signs i (cs ++ cs'))
        = if i < host.world.instances.length then Sign.emissions (Config.signs i cs) else [] := by
  obtain ⟨haudit, hengine, -⟩ := h.audit
  obtain ⟨cs', host', htrace, -, -, hnone⟩ := Host.exists_operation haudit hengine op
  refine ⟨cs', host', htrace, fun i => ?_⟩
  rw [Config.signs_append, Sign.emissions_append, hnone, List.append_nil]
  split
  · rfl
  · next hi =>
    rw [haudit.unborn i (by rw [World.length_infos]; omega)]
    rfl

/-- A script that is restarted has an instance that comes into being meanwhile. -/
theorem exists_restarted (h : History concurrent cs host) {op : RegistryOperation} {i : Nat}
    (hop : op.Restarts host.registry i) (hlive : (host.registry.live? i).isSome = true)
    (hc : op.chore.Trace repertoire host cs' () host') :
    ∃ k, host.world.instances.length ≤ k ∧ host'.registry.live? i = some k ∧
      host'.world.isAlive k = true := by
  obtain ⟨-, -, hkept⟩ := h.audit
  have hkept' := hkept.of_trace op.upholds hc
  obtain ⟨k₀, hk₀⟩ := Option.isSome_iff_exists.mp hlive
  obtain ⟨k, hk, hnew⟩ : ∃ k, host.world.instances.length ≤ k ∧
      host'.registry.live? i = some k := by
    cases op with
    | restart s =>
      obtain ⟨result, hc⟩ := Chore.Trace.of_void hc
      have hc := hc.state
      have hi : host.registry.resolve s = .ok i := hop
      simp only [hi] at hc
      exact (Host.trace_restartAt hkept (Nat.le_refl _) hc).renews.renewed i k₀ rfl hk₀
    | restartAll =>
      obtain ⟨result, hc⟩ := Chore.Trace.of_void hc
      exact (Host.trace_restartAll hkept hc).renewed i k₀
        (host.registry.mem_livePositions.mpr hlive) hk₀
    | add | setEnabled | remove | startAll | stopAll | discover | processRequests | addNamed =>
      cases hop
  obtain ⟨e, he, hnamed⟩ := Option.bind_eq_some_iff.mp hnew
  have hmem : k ∈ host'.registry.lives :=
    List.mem_filterMap.mpr ⟨e, List.mem_of_getElem? he, hnamed⟩
  refine ⟨k, hk, hnew, ?_⟩
  rw [World.isAlive_eq]
  exact View.isAlive_of_isRunning (hkept'.isRunning_of_mem hmem)

/-- **The built-in scripts count right**, whatever happens between two events.  What has
been counted goes with what has been emitted since an instance came into being; every event
and every operation comes to its end; an event is counted as one for everybody who is there,
an operation counts as none, and nothing has been counted for whoever comes into being on
it, as the instance does that a restarted script is given. -/
theorem counts_right (h : History concurrent cs host) :
    CountsRight cs host.world ∧
    (∀ event args, event.args = .ok args →
      ∃ cs' host', (Chore.emit event).Trace repertoire host cs' () host' ∧
        ∀ i, Sign.emissions (Config.signs i (cs ++ cs')) = Sign.emissions (Config.signs i cs)
          ++ if i < host.world.instances.length then [event] else []) ∧
    (∀ op : RegistryOperation, ∃ cs' host', op.chore.Trace repertoire host cs' () host' ∧
      ∀ i, Sign.emissions (Config.signs i (cs ++ cs'))
        = if i < host.world.instances.length then Sign.emissions (Config.signs i cs) else []) ∧
    ∀ (op : RegistryOperation) i cs' host', op.Restarts host.registry i →
      (host.registry.live? i).isSome = true → op.chore.Trace repertoire host cs' () host' →
      ∃ k, host.world.instances.length ≤ k ∧ host'.registry.live? i = some k ∧
        host'.world.isAlive k = true ∧ Sign.emissions (Config.signs k (cs ++ cs')) = [] := by
  refine ⟨h.audit.1.countsRight, fun event args hargs => h.exists_emits hargs, h.exists_operates,
    fun op i cs' host' hop hlive hc => ?_⟩
  obtain ⟨k, hk, hnew, halive⟩ := h.exists_restarted hop hlive hc
  refine ⟨k, hk, hnew, halive, ?_⟩
  obtain ⟨cs₁, host₁, htrace, hcounts⟩ := h.exists_operates op
  obtain ⟨rfl, -, -⟩ := htrace.unique hc
  rw [hcounts, if_neg (Nat.not_lt.mpr hk)]

end History

end Builtin

namespace Specimen

open Builtin

/-- What is told of a host: events it emits, and operations on its registry. -/
abbrev Duties := List (Event ⊕ RegistryOperation)

/-- A frame counter and a tick watch are started; a tick and a frame go by. -/
def warmUp : Duties :=
  [.inr (.add ⟨"_frame_counter.py"⟩ true), .inr (.add ⟨"_tick_watch.py"⟩ true), .inr .startAll,
    .inl .timerTick, .inl .frameAdvance]

/-- After that the frame counter is restarted. -/
def restart : RegistryOperation :=
  .restart (.index 0)

/-- Frames go by. -/
def frames (n : Nat) : Duties :=
  List.replicate n (.inl .frameAdvance)

/-- Events and operations follow one another. -/
def keepWatch : Duties → Host Repertoire → Option (Host Repertoire)
  | [], h => some h
  | .inl event :: rest, h => ((Chore.emit event).run repertoire h).bind (keepWatch rest ·.2)
  | .inr op :: rest, h => (op.chore.run repertoire h).bind (keepWatch rest ·.2)

variable {concurrent : Bool} {cs : List (Config Repertoire)} {h h' : Host Repertoire}

theorem history_keepWatch {l : Duties}
    (hl : ∀ event, .inl event ∈ l → ∃ args, event.args = .ok args)
    (hpast : History concurrent cs h) (hdone : keepWatch l h = some h') :
    ∃ cs', History concurrent cs' h' := by
  induction l generalizing cs h with
  | nil =>
    obtain rfl := Option.some.inj hdone
    exact ⟨cs, hpast⟩
  | cons d rest ih =>
    have hrest : ∀ event, .inl event ∈ rest → ∃ args, event.args = .ok args :=
      fun event hmem => hl event (List.mem_cons_of_mem _ hmem)
    cases d with
    | inl event =>
      obtain ⟨⟨u, h₁⟩, hrun, hlater⟩ := Option.bind_eq_some_iff.mp hdone
      obtain ⟨cs₁, htrace⟩ := Chore.trace_of_run hrun
      obtain ⟨args, hargs⟩ := hl event List.mem_cons_self
      exact ih hrest (hpast.emits hargs htrace) hlater
    | inr op =>
      obtain ⟨⟨u, h₁⟩, hrun, hlater⟩ := Option.bind_eq_some_iff.mp hdone
      obtain ⟨cs₁, htrace⟩ := Chore.trace_of_run hrun
      exact ih hrest (hpast.operates htrace) hlater

/-- Each frame is counted for an instance that is there. -/
theorem history_frames {n i : Nat} (hpast : History concurrent cs h)
    (hi : i < h.world.instances.length) (hdone : keepWatch (frames n) h = some h') :
    ∃ cs', History concurrent cs' h' ∧ Sign.emissions (Config.signs i cs')
      = Sign.emissions (Config.signs i cs) ++ List.replicate n .frameAdvance := by
  induction n generalizing cs h with
  | zero =>
    obtain rfl := Option.some.inj hdone
    exact ⟨cs, hpast, (List.append_nil _).symm⟩
  | succ n ih =>
    obtain ⟨⟨u, h₁⟩, hrun, hlater⟩ := Option.bind_eq_some_iff.mp hdone
    obtain ⟨cs₁, htrace⟩ := Chore.trace_of_run hrun
    have hargs : Event.frameAdvance.args = .ok [] := rfl
    obtain ⟨_, _, htrace', hcounts⟩ := hpast.exists_emits hargs
    obtain ⟨rfl, -, rfl⟩ := htrace.unique htrace'
    have hpast₁ := hpast.emits hargs htrace
    have hcounted := hcounts i
    rw [if_pos hi] at hcounted
    have hi₁ : i < _ := Nat.lt_of_lt_of_le hi htrace.length_instances
    obtain ⟨cs', hpast', hemitted⟩ := ih hpast₁ hi₁ hlater
    refine ⟨cs', hpast', ?_⟩
    rw [hemitted, hcounted, List.append_assoc, List.replicate_succ, List.singleton_append]

/-- The frame counter once it is restarted: its second instance has nothing to count yet. -/
theorem history_restart :
    ∃ cs h, ((keepWatch warmUp (Host.new (World.new .empty) Builtin.engine true)).bind
        (keepWatch [.inr restart])) = some h ∧
      History true cs h ∧ 2 < h.world.instances.length ∧
      Sign.emissions (Config.signs 2 cs) = [] := by
  have hbefore : (keepWatch warmUp (Host.new (World.new .empty) Builtin.engine true)).map
      (fun h => h.world.instances.length) = some 2 := by decide +kernel
  have hafter : ((keepWatch warmUp (Host.new (World.new .empty) Builtin.engine true)).bind
      (keepWatch [.inr restart])).map (fun h => h.world.instances.length) = some 3 := by
    decide +kernel
  obtain ⟨h₀, hdone₀, htwo⟩ := Option.map_eq_some_iff.mp hbefore
  obtain ⟨h₁, hdone₁, hthree⟩ := Option.map_eq_some_iff.mp hafter
  have hproper : ∀ event, .inl event ∈ warmUp → ∃ args, event.args = .ok args := by
    intro event hmem
    obtain rfl | rfl : event = .timerTick ∨ event = .frameAdvance := by simpa [warmUp] using hmem
    · exact ⟨[], rfl⟩
    · exact ⟨[], rfl⟩
  obtain ⟨cs₀, hpast₀⟩ := history_keepWatch hproper (.begins .empty) hdone₀
  have hlater := hdone₁
  rw [hdone₀, Option.bind_some] at hlater
  obtain ⟨⟨u, h₂⟩, hrun, hdone⟩ := Option.bind_eq_some_iff.mp hlater
  obtain rfl : h₂ = h₁ := Option.some.inj hdone
  obtain ⟨cs₁, htrace⟩ := Chore.trace_of_run hrun
  obtain ⟨_, _, htrace', hcounts⟩ := hpast₀.exists_operates restart
  obtain ⟨rfl, -, rfl⟩ := htrace.unique htrace'
  refine ⟨_, _, hdone₁, hpast₀.operates htrace, by omega, ?_⟩
  rw [hcounts, if_neg (by omega)]

end Specimen

namespace Builtin

/-- The frame counter is restarted after a frame.  Its second instance, the third of all, is
back to waiting after another sixty, and has reported the sixtieth of its own.  The first
instance heard of its end last, which the tick watch reported. -/
theorem History.counts_right_sixty :
    ∃ cs h, (((Specimen.keepWatch Specimen.warmUp (Host.new (World.new .empty) engine true)).bind
        (Specimen.keepWatch [.inr Specimen.restart])).bind
        (Specimen.keepWatch (Specimen.frames 60))) = some h ∧
      History true cs h ∧
      Sign.reports (Config.signs 1 cs) = endReports ⟨2⟩ 0 (Config.signs 1 cs) ∧
      (Sign.deliveries (Config.signs 0 cs)).getLast? = some (.scriptEnd ⟨1⟩) ∧
      ∃ x, h.world.instance? 2 = some x ∧ x.subscriptions.awaiting .frameAdvance = 1 ∧
        Sign.reports (Config.signs 2 cs) = [.builtin (.framesReached ⟨3⟩ 60)] := by
  let seen (x : Instance Repertoire) := (x.id, x.path.stem?, x.isAlive)
  have hseen : ((((Specimen.keepWatch Specimen.warmUp
      (Host.new (World.new .empty) engine true)).bind
        (Specimen.keepWatch [.inr Specimen.restart])).bind
        (Specimen.keepWatch (Specimen.frames 60))).map fun h => h.world.instances.map seen)
      = some [(⟨1⟩, some frameCounterName, false), (⟨2⟩, some tickWatchName, true),
        (⟨3⟩, some frameCounterName, true)] := by
    decide +kernel
  obtain ⟨h, hdone, hinstances⟩ := Option.map_eq_some_iff.mp hseen
  obtain ⟨cs₁, h₁, hdone₁, hpast₁, hborn, hunheard⟩ := Specimen.history_restart
  have hframes := hdone
  rw [hdone₁, Option.bind_some] at hframes
  obtain ⟨cs, hpast, hemitted⟩ := Specimen.history_frames hpast₁ hborn hframes
  rw [hunheard, List.nil_append] at hemitted
  obtain ⟨hcounts, -⟩ := History.counts_right hpast
  have hplace : ∀ i, (h.world.instance? i).map seen = _ := fun i =>
    (List.getElem?_map ..).symm.trans (congrArg (·[i]?) hinstances)
  obtain ⟨x₀, hx₀, hseen₀⟩ := Option.map_eq_some_iff.mp (hplace 0)
  obtain ⟨x₁, hx₁, hseen₁⟩ := Option.map_eq_some_iff.mp (hplace 1)
  obtain ⟨x₂, hx₂, hseen₂⟩ := Option.map_eq_some_iff.mp (hplace 2)
  obtain ⟨hid₀, -, hended₀⟩ : x₀.id = _ ∧ x₀.path.stem? = _ ∧ x₀.isAlive = _ := by
    simpa [seen] using hseen₀
  obtain ⟨hid₁, hstem₁, -⟩ : x₁.id = _ ∧ x₁.path.stem? = _ ∧ x₁.isAlive = _ := by
    simpa [seen] using hseen₁
  obtain ⟨hid₂, hstem₂, halive₂⟩ : x₂.id = _ ∧ x₂.path.stem? = _ ∧ x₂.isAlive = _ := by
    simpa [seen] using hseen₂
  obtain ⟨hwaits, -, hreports⟩ := hcounts.frames 2 x₂ hx₂ halive₂ hstem₂
  refine ⟨cs, h, hdone, hpast, ?_, ?_, x₂, hx₂, hwaits, ?_⟩
  · exact hid₁ ▸ hcounts.ticks 1 x₁ hx₁ hstem₁
  · exact hid₀ ▸ hcounts.farewells 0 x₀ hx₀ hended₀
  · rw [hreports, hid₂, hemitted]
    rfl

end Builtin

end ScriptHost
