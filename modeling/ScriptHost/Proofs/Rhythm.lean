import Mathlib.Data.List.Induction
import ScriptHost.Proofs.Emulation

/-!
# The rhythm of the timer

A session remembers when it ticked last, and its cycles alone touch that.  So whatever is
done with a session between its cycles, in whatever order their times come, a cycle ticks if
and only if the interval of the settings has passed since the last one that did; time that
runs backwards counts as none.  Ticks never come in a burst: a stretch of time holds no more
of them than there are intervals in it, and one more.

* `Chore.Trace.sameClock` — a chore that only changes other things leaves the clock alone;
* `Operation.steady` — what is done with a session between its cycles is such a chore;
* `Session.trace_runCycle_clock` — what a cycle does to the clock;
* `Session.Rhythm` — a session and the cycles it has been through;
* `Session.Rhythm.beats` — an emulation goes on with the rhythm;
* `Session.Rhythm.rate_limited` — when a cycle ticks, and how often.
-/

namespace ScriptHost

variable {D : Dialect} {I : Interpreter D} {α β : Type}

open HasWorld

/-! ## What leaves the clock alone -/

/-- Two states of a session with the same settings that have ticked at the same time. -/
structure Session.SameClock (s s' : Session D) : Prop where
  settings : s'.settings = s.settings
  lastTick : s'.lastTick = s.lastTick

theorem Session.SameClock.refl (s : Session D) : s.SameClock s :=
  ⟨rfl, rfl⟩

/-- What leaves the clock alone, twice over, leaves it alone. -/
theorem Session.SameClock.trans {s s' s'' : Session D} (h : s.SameClock s')
    (h' : s'.SameClock s'') : s.SameClock s'' :=
  ⟨h'.settings.trans h.settings, h'.lastTick.trans h.lastTick⟩

namespace Chore

/-- Nothing a chore changes of a session is the clock. -/
def Steady : Chore D (Session D) α → Prop
  | done _ => True
  | look k => ∀ s, (k s).Steady
  | keep f k => (∀ s : Session D, s.SameClock (f s)) ∧ k.Steady
  | order _ k => k.Steady

/-- Two chores in turn leave the clock alone if each does. -/
theorem Steady.bind {c : Chore D (Session D) α} {f : α → Chore D (Session D) β} (hc : c.Steady)
    (hf : ∀ a, (f a).Steady) : (c >>= f).Steady := by
  induction c with
  | done a => exact hf a
  | look k ih => exact fun s => ih s (hc s)
  | keep g k ih => exact ⟨hc.1, ih hc.2⟩
  | order o k ih => exact ih hc

theorem Steady.pure (a : α) : (Pure.pure a : Chore D (Session D) α).Steady :=
  trivial

/-- A chore that looks at the session leaves the clock alone if what it does then does. -/
theorem Steady.state {f : Session D → Chore D (Session D) β} (hf : ∀ s, (f s).Steady) :
    (Chore.state >>= f).Steady :=
  hf

/-- A change that leaves the clock alone. -/
theorem Steady.change {f : Session D → Session D} (hf : ∀ s : Session D, s.SameClock (f s)) :
    (Chore.change f : Chore D (Session D) Unit).Steady :=
  ⟨hf, trivial⟩

theorem Steady.change_bind {f : Session D → Session D} {k : Unit → Chore D (Session D) β}
    (hf : ∀ s : Session D, s.SameClock (f s)) (hk : (k ()).Steady) :
    (Chore.change f >>= k).Steady :=
  ⟨hf, hk⟩

theorem Steady.void {c : Chore D (Session D) α} (hc : c.Steady) : c.void.Steady :=
  hc.bind fun _ => trivial

/-- **A chore that is steady** leaves the clock alone, whatever scripts do. -/
theorem Trace.sameClock {c : Chore D (Session D) α} {s s' : Session D} {cs : List (Config D)}
    {a : α} (h : c.Trace I s cs a s') (hc : c.Steady) : s.SameClock s' := by
  induction h with
  | done => exact .refl _
  | look _ ih => exact ih (hc _)
  | @keep f k s s' cs a _ ih =>
    have hchanged : s.SameClock (setWorld (world s) (f s)) :=
      ⟨(hc.1 s).settings, (hc.1 s).lastTick⟩
    exact hchanged.trans (ih hc.2)
  | @order o k s s' cs cs' w a _ _ ih =>
    have hobeyed : s.SameClock (setWorld w s) := ⟨rfl, rfl⟩
    exact hobeyed.trans (ih hc)

end Chore

namespace Session

/-- What is done with the registry of a session is steady. -/
theorem steady_withHost (c : Chore D (Host D) α) : (withHost c).Steady := by
  induction c with
  | done a => trivial
  | look k ih => exact fun s => ih s.host
  | keep f k ih => exact ⟨fun s => ⟨rfl, rfl⟩, ih⟩
  | order o k ih => exact ih

/-- Reports leave the clock alone. -/
theorem steady_report (n : SessionNotice) : (report n : Chore D (Session D) Unit).Steady :=
  trivial

theorem steady_reportAll (ns : List Notice) :
    (.reportAll ns : Chore D (Session D) Unit).Steady := by
  induction ns with
  | nil => exact .pure ()
  | cons n rest ih => exact ih

/-- Loading scripts leaves the clock alone. -/
theorem steady_loadScripts (files : Files) (around : Surroundings) :
    (loadScripts files around : Chore D (Session D) _).Steady := by
  apply Chore.Steady.state
  intro s
  split
  · exact (steady_report _).bind fun _ => steady_withHost _
  · exact (steady_report _).bind fun _ => .pure _

/-- Looking at the reload channel leaves the clock alone. -/
theorem steady_takeReload : (takeReload : Chore D (Session D) _).Steady := by
  apply Chore.Steady.state
  intro s
  split
  · split
    · exact .change_bind (fun _ => ⟨rfl, rfl⟩) (.pure _)
    · exact .pure _
  · exact .pure _

/-- Restarting on a signal leaves the clock alone. -/
theorem steady_reloadOnSignal : (reloadOnSignal : Chore D (Session D) _).Steady := by
  refine steady_takeReload.bind fun requested => ?_
  split
  · refine .state fun s => (steady_withHost _).bind fun result => ?_
    cases result with
    | ok => exact .pure _
    | error e => exact (steady_report _).bind fun _ => .pure _
  · exact .pure _

/-- Restarting changed scripts leaves the clock alone. -/
theorem steady_restartChanged (ps : List Path) :
    (restartChanged ps : Chore D (Session D) _).Steady := by
  induction ps with
  | nil => exact .pure _
  | cons p rest ih =>
    apply Chore.Steady.state
    intro s
    split
    · refine (steady_report _).bind fun _ => (steady_withHost _).bind fun result => ?_
      cases result with
      | ok => exact ih.bind fun _ => .pure _
      | error e => exact (steady_report _).bind fun _ => ih
    · exact ih

/-- Removing missing scripts leaves the clock alone. -/
theorem steady_removeMissing (ps : List Path) :
    (removeMissing ps : Chore D (Session D) _).Steady := by
  induction ps with
  | nil => exact .pure _
  | cons p rest ih =>
    apply Chore.Steady.state
    intro s
    split
    · refine (steady_report _).bind fun _ => (steady_withHost _).bind fun result => ?_
      cases result with
      | ok => exact ih.bind fun _ => .pure _
      | error e => exact ih
    · exact ih

/-- Registering new scripts leaves the clock alone. -/
theorem steady_addFound (ps : List Path) : (addFound ps : Chore D (Session D) _).Steady := by
  induction ps with
  | nil => exact .pure _
  | cons p rest ih =>
    apply Chore.Steady.state
    intro s
    split
    · refine (steady_withHost _).bind fun result => ?_
      cases result with
      | ok => exact ih.bind fun _ => .pure _
      | error e => exact (steady_report _).bind fun _ => ih
    · exact ih

/-- Scanning, and applying what changed, leaves the clock alone. -/
theorem steady_reloadFromDisk (files : Files) (clock : Int) :
    (reloadFromDisk files clock : Chore D (Session D) _).Steady := by
  apply Chore.Steady.state
  intro s
  split
  · exact .pure _
  · split
    · refine (steady_reportAll _).bind fun _ => .change_bind (fun _ => ⟨rfl, rfl⟩) ?_
      refine (steady_restartChanged _).bind fun _ => (steady_removeMissing _).bind fun _ => ?_
      exact (steady_addFound _).bind fun _ => .pure _
    · exact .pure _

theorem steady_reportCycle (frame : Nat) (r : CycleReport) :
    (reportCycle frame r : Chore D (Session D) Unit).Steady := by
  unfold reportCycle
  split
  · exact steady_report _
  · exact .pure ()

/-- The opening of an emulation is steady, and so is its closing. -/
theorem steady_openEmulation (channel : Watch Bool) :
    (openEmulation channel : Chore D (Session D) Unit).Steady := by
  refine Chore.Steady.bind (c := .setShutdown (some channel)) trivial fun _ => ?_
  refine ((steady_report _).bind fun _ => steady_withHost _).bind fun result => ?_
  cases result with
  | ok => exact .pure ()
  | error e => exact steady_report _

/-- The end of the emulation leaves the clock alone. -/
theorem steady_closeEmulation : (closeEmulation : Chore D (Session D) Unit).Steady :=
  ((steady_report _).bind fun _ => steady_withHost _).bind fun _ => trivial

end Session

/-- An operation that runs no cycle. -/
def Operation.IsPause : Operation → Prop
  | runCycle .. | emulate .. => False
  | _ => True

/-- **What is done with a session between its cycles** leaves the clock alone. -/
theorem Operation.steady {op : Operation} (h : op.IsPause) :
    (op.chore : Chore D (Session D) Unit).Steady := by
  cases op with
  | registry op => exact Session.steady_withHost _
  | loadScripts files around => exact (Session.steady_loadScripts files around).void
  | beginEmulation =>
    exact ((Session.steady_report _).bind fun _ => Session.steady_withHost _).void
  | endEmulation => exact (Session.steady_report _).bind fun _ => Session.steady_withHost _
  | runCycle | emulate => cases h
  | sendReload | closeReload => exact .change fun _ => ⟨rfl, rfl⟩
  | requestReload => exact (Session.steady_report _).bind fun _ => .change fun _ => ⟨rfl, rfl⟩

/-! ## What a cycle does to the clock -/

namespace Session

variable {s s' : Session D} {cs : List (Config D)}

/-- A tick is due if none was made, or if the interval has passed since. -/
theorem tickDue_iff (hinterval : 0 < s.settings.tickInterval) {now : Int} :
    s.tickDue now = true ↔
      ∀ last, s.lastTick = some last → last + s.settings.tickInterval ≤ now := by
  unfold tickDue
  cases s.lastTick with
  | none => simp
  | some last =>
    simp only [decide_eq_true_eq, Option.some.injEq, forall_eq']
    omega

/-- A tick that was due sets the clock to the time of its cycle. -/
theorem trace_tick_clock {now : Int} {ticked : Bool}
    (hc : (tick now).Trace I s cs ticked s') :
    ticked = s.tickDue now ∧ s'.settings = s.settings ∧
      s'.lastTick = if ticked then some now else s.lastTick := by
  have hc := hc.state
  split at hc
  · next hdue =>
    obtain ⟨_, _, s₁, _, -, hchange, hc⟩ := hc.bind
    obtain rfl := hchange.change
    obtain ⟨_, _, s₂, _, -, hemit, hdone⟩ := hc.bind
    obtain ⟨rfl, rfl⟩ := hdone.pure
    obtain ⟨hsettings, hlast⟩ := hemit.sameClock (trivial : Chore.Steady (Chore.emit .timerTick))
    exact ⟨hdue.symm, hsettings, hlast⟩
  · next hearly =>
    obtain ⟨rfl, rfl⟩ := hc.pure
    exact ⟨(Bool.eq_false_iff.mpr hearly).symm, rfl, rfl⟩

/-- **A cycle** ticks if a tick is due, and remembers when. -/
theorem trace_runCycle_clock {files : Files} {t : Moment} {r : CycleReport}
    (hc : (runCycle files t).Trace I s cs r s') :
    r.ticked = s.tickDue t.now ∧ s'.settings = s.settings ∧
      s'.lastTick = if r.ticked then some t.now else s.lastTick := by
  obtain ⟨_, failures, s₁, _, -, hrequests, hc⟩ := hc.bind
  obtain ⟨_, ticked, s₂, _, -, htick, hc⟩ := hc.bind
  obtain ⟨_, restarted, s₃, _, -, hsignal, hc⟩ := hc.bind
  obtain ⟨_, changed, s₄, _, -, hdisk, hdone⟩ := hc.bind
  obtain ⟨rfl, rfl⟩ := hdone.pure
  have hbefore := hrequests.sameClock (steady_withHost _)
  obtain ⟨hticked, hsettings, hlast⟩ := trace_tick_clock htick
  have hafter := (hsignal.sameClock steady_reloadOnSignal).trans
    (hdisk.sameClock (steady_reloadFromDisk files t.clock))
  have hdue : s₁.tickDue t.now = s.tickDue t.now := by
    unfold tickDue
    rw [hbefore.lastTick, hbefore.settings]
  refine ⟨hticked.trans hdue, hafter.settings.trans (hsettings.trans hbefore.settings), ?_⟩
  rw [hafter.lastTick, hlast, hbefore.lastTick]

end Session

/-! ## Cycles one after another -/

/-- A cycle: when it was run, whether it reports a tick, and what the host emitted in it. -/
structure Cycle where
  now : Int
  ticked : Bool
  emitted : List Event

namespace Cycle

/-- When the last of some cycles ticked that did. -/
def lastTick? (cycles : List Cycle) : Option Int :=
  (cycles.filter ticked).getLast?.map now

/-- Each cycle ticks if and only if the interval has passed since the last one before it
that did. -/
def Paced (interval : Nat) (cycles : List Cycle) : Prop :=
  ∀ i c, cycles[i]? = some c →
    (c.ticked = true ↔ ∀ last, lastTick? (cycles.take i) = some last → last + interval ≤ c.now)

/-- A cycle comes an interval after another, at least. -/
def Apart (interval : Nat) (a b : Cycle) : Prop :=
  a.now + interval ≤ b.now

variable {interval : Nat} {cycles : List Cycle} {c : Cycle}

/-- The last tick of a longer history is the latest that ticked. -/
theorem lastTick?_append (cycles : List Cycle) (c : Cycle) :
    lastTick? (cycles ++ [c]) = if c.ticked then some c.now else lastTick? cycles := by
  cases hticked : c.ticked <;> simp [lastTick?, hticked]

/-- Where no cycle was nothing is out of pace. -/
theorem paced_nil (interval : Nat) : Paced interval [] := by
  intro i c hc
  cases hc

/-- One more cycle is in pace if it ticks exactly when the interval is over. -/
theorem paced_append : Paced interval (cycles ++ [c]) ↔ Paced interval cycles ∧
    (c.ticked = true ↔ ∀ last, lastTick? cycles = some last → last + interval ≤ c.now) := by
  constructor
  · intro h
    constructor
    · intro i x hx
      have hi : i < cycles.length := (List.getElem?_eq_some_iff.mp hx).1
      have hpaced := h i x (by rw [List.getElem?_append_left hi, hx])
      rwa [List.take_append_of_le_length (Nat.le_of_lt hi)] at hpaced
    · have hlast := h cycles.length c (by simp)
      simpa using hlast
  · rintro ⟨hpaced, hlast⟩ i x hx
    rcases Nat.lt_trichotomy i cycles.length with hi | rfl | hi
    · rw [List.getElem?_append_left hi] at hx
      rw [List.take_append_of_le_length (Nat.le_of_lt hi)]
      exact hpaced i x hx
    · obtain rfl : c = x := by simpa using hx
      simpa using hlast
    · rw [List.getElem?_eq_none (by simp; omega)] at hx
      cases hx

/-- **Ticks keep their distance**: each comes an interval at least after those before it. -/
theorem Paced.pairwise (h : Paced interval cycles) :
    (cycles.filter ticked).Pairwise (Apart interval) := by
  induction cycles using List.reverseRecOn with
  | nil => exact List.Pairwise.nil
  | append_singleton cycles c ih =>
    obtain ⟨hpaced, hlast⟩ := paced_append.mp h
    have hbefore := ih hpaced
    rw [List.filter_append]
    cases hticked : c.ticked with
    | false => simpa [hticked] using hbefore
    | true =>
      rw [List.filter_cons_of_pos hticked, List.filter_nil]
      refine List.pairwise_append.mpr ⟨hbefore, List.pairwise_singleton _ _, ?_⟩
      intro a ha b hb
      obtain rfl := List.mem_singleton.mp hb
      -- whoever ticked before did not tick after the last one that did
      cases hgone : (cycles.filter ticked).getLast? with
      | none =>
        rw [List.getLast?_eq_none_iff.mp hgone] at ha
        cases ha
      | some last =>
        obtain ⟨earlier, hsplit⟩ := List.getLast?_eq_some_iff.mp hgone
        have hpassed : last.now + interval ≤ b.now :=
          hlast.mp hticked last.now (by rw [lastTick?, hgone]; rfl)
        rw [hsplit] at ha hbefore
        rcases List.mem_append.mp ha with ha | ha
        · have hearlier : a.now + interval ≤ last.now :=
            (List.pairwise_append.mp hbefore).2.2 a ha last (by simp)
          have hlater : a.now + interval ≤ b.now := by omega
          exact hlater
        · obtain rfl := List.mem_singleton.mp ha
          exact hpassed

/-- What keeps its distance spreads out. -/
theorem exists_spread {first : Cycle} {rest : List Cycle}
    (h : (first :: rest).Pairwise (Apart interval)) :
    ∃ last ∈ first :: rest, first.now + rest.length * interval ≤ last.now := by
  induction rest generalizing first with
  | nil => exact ⟨first, List.mem_cons_self, by simp⟩
  | cons next rest ih =>
    obtain ⟨hfirst, hrest⟩ := List.pairwise_cons.mp h
    obtain ⟨last, hmem, hspread⟩ := ih hrest
    refine ⟨last, List.mem_cons_of_mem first hmem, ?_⟩
    have hnext : first.now + interval ≤ next.now := hfirst next List.mem_cons_self
    have hcount : (((next :: rest).length : Int) * interval)
        = rest.length * interval + interval := by
      rw [List.length_cons, Int.natCast_add, Int.add_mul]
      omega
    omega

/-- **No burst**: of what keeps its distance, a stretch of time holds one for each interval
in it, and one more, at most. -/
theorem length_le_of_spread {cycles : List Cycle} (hinterval : 0 < interval)
    (h : cycles.Pairwise (Apart interval)) {start : Int} {stretch : Nat}
    (hwithin : ∀ c ∈ cycles, start ≤ c.now ∧ c.now ≤ start + stretch) :
    cycles.length ≤ 1 + stretch / interval := by
  cases cycles with
  | nil => exact Nat.zero_le _
  | cons first rest =>
    obtain ⟨last, hmem, hspread⟩ := exists_spread h
    obtain ⟨hstart, -⟩ := hwithin first List.mem_cons_self
    obtain ⟨-, hend⟩ := hwithin last hmem
    have hfits : rest.length * interval ≤ stretch := by
      have hbound : ((rest.length * interval : Nat) : Int) ≤ stretch := by
        rw [Int.natCast_mul]
        omega
      exact Int.ofNat_le.mp hbound
    have hcount := (Nat.le_div_iff_mul_le hinterval).mpr hfits
    rw [List.length_cons]
    omega

end Cycle

namespace Session

variable {settings : ScriptSettings} {cycles : List Cycle} {s s' : Session D}
  {cs : List (Config D)}

variable (I) in
/-- What a session comes to, and the cycles it has been through: it is set up, cycles are
run at any times, and between them the clock is left alone. -/
inductive Rhythm (settings : ScriptSettings) : List Cycle → Session D → Prop
  | build (w : World D) (engine : Engine D) (reload : Option (Watch Bool)) (files : Files)
      (around : Surroundings) :
      Rhythm settings [] (Session.new w engine settings reload files around)
  | cycle {cycles : List Cycle} {s s' : Session D} (h : Rhythm settings cycles s) (files : Files)
      (t : Moment) {cs : List (Config D)} {r : CycleReport}
      (hc : (runCycle files t).Trace I s cs r s') :
      Rhythm settings (cycles ++ [⟨t.now, r.ticked, cs.filterMap Config.hostEmission?⟩]) s'
  | pause {cycles : List Cycle} {s s' : Session D} (h : Rhythm settings cycles s)
      (hsame : s.SameClock s') : Rhythm settings cycles s'

namespace Rhythm

/-- Any operation that runs no cycle may come in between. -/
theorem operation (h : Rhythm I settings cycles s) {op : Operation} (hop : op.IsPause)
    (hc : op.chore.Trace I s cs () s') : Rhythm I settings cycles s' :=
  h.pause (hc.sameClock (Operation.steady hop))

/-- So may anything that goes on in the world. -/
theorem world (h : Rhythm I settings cycles s) (w : World D) :
    Rhythm I settings cycles (setWorld w s) :=
  h.pause ⟨rfl, rfl⟩

/-- The times of the rounds among some beats. -/
def roundTimes (turns : Nat → Turn) : Nat → List (Beat D) → List Int
  | _, [] => []
  | k, .round .. :: rest => (turns k).moment.now :: roundTimes turns (k + 1) rest
  | k, .heard _ :: rest => roundTimes turns (k + 1) rest

/-- **The beats of an emulation** go on with the rhythm: each round is a cycle. -/
theorem beats {files : Nat → Files} {turns : Nat → Turn} {k frame : Nat} {beats : List (Beat D)}
    (h : Rhythm I settings cycles s) (hbeats : Beats I files turns k frame s cs beats s') :
    ∃ more, Rhythm I settings (cycles ++ more) s' ∧
      more.map Cycle.now = roundTimes turns k beats := by
  induction hbeats generalizing cycles with
  | nil => exact ⟨[], by rwa [List.append_nil], rfl⟩
  | @round k _ s _ _ _ _ _ _ _ _ hround _ ih =>
    have htold := h.world (s.told (turns k).messages).host.world
    cases hround with
    | intro hbegin hadvance hcycle hreport =>
      have hbegun := (htold.pause (hbegin.sameClock trivial)).pause (hadvance.sameClock trivial)
      have hcycled := hbegun.cycle (files k) (turns k).moment hcycle
      obtain ⟨more, hmore, htimes⟩ :=
        ih (hcycled.pause (hreport.sameClock (steady_reportCycle _ _)))
      rw [List.append_assoc] at hmore
      exact ⟨_, hmore, congrArg ((turns k).moment.now :: ·) htimes⟩
  | @goOn k _ s _ _ _ _ _ _ ih =>
    exact ih (h.world ((s.told (turns k).messages).onShutdown .see).host.world)
  | @last k _ s _ _ _ _ hreport =>
    have htold := h.world ((s.told (turns k).messages).onShutdown .see).host.world
    refine ⟨[], ?_, rfl⟩
    rw [List.append_nil]
    exact htold.pause (hreport.sameClock (steady_report _))

/-- **An emulation** goes on with the rhythm. -/
theorem emulate {o : EmulationOptions} {channel : Watch Bool} {files : Nat → Files}
    {turns : Nat → Turn} {fuel : Nat} {result : EmulationResult}
    (h : Rhythm I settings cycles s)
    (hc : (emulate o channel files turns fuel).Trace I s cs result s') :
    ∃ more, Rhythm I settings (cycles ++ more) s' := by
  obtain ⟨_, _, started, _, -, hopen, hc⟩ := hc.bind
  have hstarted := h.pause (hopen.sameClock (steady_openEmulation channel))
  split at hc
  · obtain ⟨-, rfl⟩ := hc.pure
    exact ⟨[], by rwa [List.append_nil]⟩
  · obtain ⟨_, ran, last, _, -, hframes, hc⟩ := hc.bind
    obtain ⟨beats, hbeats, -⟩ := trace_frames (by simp) hframes
    obtain ⟨more, hmore, -⟩ := hstarted.beats hbeats
    cases ran with
    | none =>
      obtain ⟨-, rfl⟩ := hc.pure
      exact ⟨more, hmore⟩
    | some n =>
      obtain ⟨_, _, s₁, _, -, hclose, hdone⟩ := hc.bind
      obtain ⟨-, rfl⟩ := hdone.pure
      exact ⟨more, hmore.pause (hclose.sameClock steady_closeEmulation)⟩

/-- A session remembers when it ticked last. -/
theorem clock (h : Rhythm I settings cycles s) :
    s.settings = settings ∧ s.lastTick = Cycle.lastTick? cycles := by
  induction h with
  | build w engine reload files around =>
    unfold Session.new
    split <;> exact ⟨rfl, rfl⟩
  | cycle _ files t hc ih =>
    obtain ⟨hsettings, hlast⟩ := ih
    obtain ⟨-, hsettings', hlast'⟩ := trace_runCycle_clock hc
    refine ⟨hsettings'.trans hsettings, ?_⟩
    rw [hlast', hlast, Cycle.lastTick?_append]
  | pause _ hsame ih => exact ⟨hsame.settings.trans ih.1, hsame.lastTick.trans ih.2⟩

/-- **Cycles tick at the interval** of the settings. -/
theorem paced (h : Rhythm I settings cycles s) (hinterval : 0 < settings.tickInterval) :
    Cycle.Paced settings.tickInterval cycles := by
  induction h with
  | build => exact Cycle.paced_nil _
  | cycle h files t hc ih =>
    obtain ⟨rfl, hlast⟩ := h.clock
    obtain ⟨hticked, -⟩ := trace_runCycle_clock hc
    refine Cycle.paced_append.mpr ⟨ih, ?_⟩
    rw [hticked, tickDue_iff hinterval, hlast]
  | pause _ _ ih => exact ih

/-- A cycle emits a tick if it reports one, and nothing else. -/
theorem emitted (h : Rhythm I settings cycles s) :
    ∀ c ∈ cycles, c.emitted = if c.ticked then [.timerTick] else [] := by
  induction h with
  | build => exact fun c hc => absurd hc List.not_mem_nil
  | cycle _ files t hc ih =>
    intro c hmem
    rcases List.mem_append.mp hmem with hmem | hmem
    · exact ih c hmem
    · obtain rfl := List.mem_singleton.mp hmem
      exact hostEmissions_runCycle hc
  | pause _ _ ih => exact ih

/-- **Timer ticks are rate-limited and never come in a burst.**  Whatever scripts there are,
whatever else is done with a session, and in whatever order the times of its cycles come: the
first cycle ticks; a later one has a last one before it that ticked, and ticks if and only if
it comes the interval of the settings after that one at least.  So the times of the cycles
that tick grow by the interval at least; of any cycles whose times lie within a stretch of
time, one for each interval in it, and one more, tick at most; and a cycle emits one tick of
the host's own if it reports one, and none otherwise. -/
theorem rate_limited (h : Rhythm I settings cycles s) (hinterval : 0 < settings.tickInterval) :
    (∀ c, cycles[0]? = some c → c.ticked = true) ∧
    (∀ i c, cycles[i + 1]? = some c → ∃ last, Cycle.lastTick? (cycles.take (i + 1)) = some last ∧
      (c.ticked = true ↔ last + settings.tickInterval ≤ c.now)) ∧
    (cycles.filter Cycle.ticked).Pairwise (Cycle.Apart settings.tickInterval) ∧
    (∀ (chosen : List Cycle) (start : Int) (stretch : Nat), chosen.Sublist cycles →
      (∀ c ∈ chosen, start ≤ c.now ∧ c.now ≤ start + stretch) →
      chosen.countP Cycle.ticked ≤ 1 + stretch / settings.tickInterval) ∧
    ∀ c ∈ cycles, c.emitted = if c.ticked then [.timerTick] else [] := by
  have hpaced := h.paced hinterval
  have hspread := hpaced.pairwise
  have hfirst : ∀ c, cycles[0]? = some c → c.ticked = true := by
    intro c hc
    exact (hpaced 0 c hc).mpr (by simp [Cycle.lastTick?])
  refine ⟨hfirst, fun i c hc => ?_, hspread, fun chosen start stretch hchosen hwithin => ?_,
    h.emitted⟩
  · have hlong : i + 1 < cycles.length := (List.getElem?_eq_some_iff.mp hc).1
    obtain ⟨first, rest, hsplit⟩ := List.exists_cons_of_length_pos (Nat.zero_lt_of_lt hlong)
    have hticked : first.ticked = true := hfirst first (by simp [hsplit])
    cases hlast : Cycle.lastTick? (cycles.take (i + 1)) with
    | none => simp [Cycle.lastTick?, hsplit, hticked] at hlast
    | some last =>
      refine ⟨last, rfl, ?_⟩
      rw [hpaced (i + 1) c hc, hlast]
      simp
  · rw [List.countP_eq_length_filter]
    exact Cycle.length_le_of_spread hinterval (hspread.sublist (hchosen.filter _))
      fun c hc => hwithin c (List.mem_filter.mp hc).1

end Rhythm

end Session

namespace Specimen

/-- The settings of a session that watches no directory and ticks every fifty
milliseconds. -/
def unwatched : ScriptSettings :=
  { ScriptSettings.default with hotReload := false }

/-- A cycle at a time. -/
def cycleAt (now : Int) : Chore dialect (Session dialect) CycleReport :=
  Session.runCycle (disk none) ⟨now, 0⟩

/-- The session after cycles at some times. -/
def timed (times : List Int) : Session dialect :=
  times.foldl (fun s now => after (cycleAt now) s)
    (Session.new (World.new ()) engine unwatched none (disk none) nowhere)

/-- A cycle goes on with the rhythm. -/
theorem rhythm_cycleAt (now : Int) (r : CycleReport) {cycles : List Cycle} {s : Session dialect}
    (h : Session.Rhythm interpreter unwatched cycles s)
    (hr : ((cycleAt now).run interpreter s).map Prod.fst = some r) :
    ∃ c, c.now = now ∧ c.ticked = r.ticked ∧
      Session.Rhythm interpreter unwatched (cycles ++ [c]) (after (cycleAt now) s) := by
  obtain ⟨cs, hc⟩ := comesTo_after hr
  exact ⟨_, rfl, rfl, h.cycle (disk none) ⟨now, 0⟩ hc⟩

end Specimen

/-- Four cycles, the second of them at an earlier time than the first: the first ticks, the
second does not, nor does the third, which comes too early; the last comes just in time. -/
theorem Session.Rhythm.rate_limited_four_cycles : 0 < Specimen.unwatched.tickInterval ∧
    ∃ cycles, Rhythm Specimen.interpreter Specimen.unwatched cycles
        (Specimen.timed [100, 30, 149, 150]) ∧
      cycles.map Cycle.now = [100, 30, 149, 150] ∧
      cycles.map Cycle.ticked = [true, false, false, true] ∧
      cycles.countP Cycle.ticked ≤ 1 + 120 / 50 := by
  have hstart : Rhythm Specimen.interpreter Specimen.unwatched [] (Specimen.timed []) :=
    .build (World.new ()) Specimen.engine none (Specimen.disk none) Specimen.nowhere
  obtain ⟨c₁, hnow₁, hticked₁, h₁⟩ :=
    Specimen.rhythm_cycleAt 100 ⟨0, true, 0⟩ hstart (by decide +kernel)
  obtain ⟨c₂, hnow₂, hticked₂, h₂⟩ :=
    Specimen.rhythm_cycleAt 30 ⟨0, false, 0⟩ h₁ (by decide +kernel)
  obtain ⟨c₃, hnow₃, hticked₃, h₃⟩ :=
    Specimen.rhythm_cycleAt 149 ⟨0, false, 0⟩ h₂ (by decide +kernel)
  obtain ⟨c₄, hnow₄, hticked₄, h₄⟩ :=
    Specimen.rhythm_cycleAt 150 ⟨0, true, 0⟩ h₃ (by decide +kernel)
  have hinterval : 0 < Specimen.unwatched.tickInterval := by decide
  obtain ⟨-, -, -, hburst, -⟩ := rate_limited h₄ hinterval
  refine ⟨hinterval, _, h₄, by simp [hnow₁, hnow₂, hnow₃, hnow₄],
    by simp [hticked₁, hticked₂, hticked₃, hticked₄], hburst _ 30 120 (List.Sublist.refl _) ?_⟩
  simp [hnow₁, hnow₂, hnow₃, hnow₄]

end ScriptHost
