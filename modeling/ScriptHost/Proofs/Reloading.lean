import Mathlib.Data.List.TakeWhile
import ScriptHost.Proofs.Restarts
import ScriptHost.Proofs.Rhythm

/-!
# Requested reloads

Anything may come over the reload channel of a session between two cycles, and any number
of times.  A cycle looks at the channel once, and what it finds there can be told from what
has occurred on it (`Occurrence`): a request **waits** if it is what was sent last since the
cycle before, and the sender has never gone away.  Then every script that runs is restarted,
once; otherwise nobody is touched.  So requests that follow one another are one, and a
request is never taken twice; but whoever sends one and goes away before the next cycle has
sent it in vain.

* `Watch.Carries` — what is on a channel after some occurrences;
* `Host.Renewed.restartsOnce` — where every script that ran has a new instance, each was
  restarted once;
* `Session.trace_reloadOnSignal_once` — what a cycle makes of a request;
* `Session.Correspondence` — a session and what has occurred on its channel;
* `Session.Correspondence.emulate` — an emulation goes on with it: each round looks once;
* `Session.Correspondence.taken_once` — when the scripts are restarted in a cycle.
-/

namespace ScriptHost

variable {D : Dialect} {I : Interpreter D} {concurrent : Bool}

open HasWorld

/-! ## What occurs on a channel -/

/-- Something that occurs on the reload channel of a session. -/
inductive Occurrence where
  /-- Something is sent: a request, or anything else. -/
  | send (request : Bool)
  /-- The sender goes away. -/
  | hangUp
  /-- A cycle looks at the channel. -/
  | look
deriving DecidableEq

namespace Occurrence

/-- What becomes of a channel. -/
def apply : Occurrence → Watch Bool → Watch Bool
  | send request, w => w.send request
  | hangUp, w => w.hangUp
  | look, w => w.glance

/-- What has become of a new channel after some occurrences, the latest first. -/
def channel (initial : Bool) (os : List Occurrence) : Watch Bool :=
  os.foldr apply (.new initial)

/-- What has occurred since the last cycle, the latest first. -/
def recent (os : List Occurrence) : List Occurrence :=
  os.takeWhile (· ≠ look)

/-- A request waits: it is what was sent last since the last cycle, and the sender has never
gone away. -/
structure Waiting (os : List Occurrence) : Prop where
  kept : hangUp ∉ os
  latest : (recent os).head? = some (send true)

variable {os : List Occurrence}

/-- Where the sender is there, nothing but what was sent has occurred since the last cycle. -/
theorem exists_send_of_mem_recent (hkept : hangUp ∉ os) {o : Occurrence} (ho : o ∈ recent os) :
    ∃ request, o = send request := by
  have hlook : o ≠ look := by simpa using List.mem_takeWhile_imp ho
  cases o with
  | send request => exact ⟨request, rfl⟩
  | hangUp => exact absurd ((List.takeWhile_sublist _).subset ho) hkept
  | look => exact absurd rfl hlook

/-- **Where nothing but requests is sent**, one waits if any was sent since the last cycle,
and the sender has never gone away. -/
theorem waiting_iff_of_requests (hrequests : send false ∉ os) :
    Waiting os ↔ hangUp ∉ os ∧ send true ∈ recent os := by
  constructor
  · intro h
    exact ⟨h.kept, List.mem_of_mem_head? h.latest⟩
  · intro ⟨hkept, hsent⟩
    refine ⟨hkept, ?_⟩
    -- something was sent since, and whatever came last is a request like all the others
    obtain ⟨o, rest, hrecent⟩ := List.exists_cons_of_ne_nil (List.ne_nil_of_mem hsent)
    have ho : o ∈ recent os := by simp [hrecent]
    obtain ⟨request, rfl⟩ := exists_send_of_mem_recent hkept ho
    cases request with
    | true => rw [hrecent, List.head?_cons]
    | false => exact absurd ((List.takeWhile_sublist _).subset ho) hrequests

end Occurrence

open Occurrence

namespace Watch

/-- What is on a channel after some occurrences: as long as the sender is there, what was sent
last since the last cycle, and nothing new if nothing was. -/
structure Carries (w : Watch Bool) (os : List Occurrence) : Prop where
  hasSender : w.hasSender = true ↔ Occurrence.hangUp ∉ os
  content : w.hasSender = true →
    (recent os).head? = if w.unseen then some (.send w.value) else none

variable {w : Watch Bool} {os : List Occurrence}

theorem carries_new (initial : Bool) : (new initial).Carries [] :=
  ⟨by simp [new], fun _ => rfl⟩

/-- **Every occurrence** leaves on the channel what it has to. -/
theorem Carries.apply (h : w.Carries os) (o : Occurrence) : (o.apply w).Carries (o :: os) := by
  cases o with
  | send request =>
    have hsender := h.hasSender
    by_cases hthere : w.hasSender = true
    · have hkept := hsender.mp hthere
      have hsent : (Occurrence.send request).apply w = ⟨request, true, true⟩ := by
        simp [Occurrence.apply, Watch.send, hthere]
      rw [hsent]
      exact ⟨by simp [hkept], fun _ => rfl⟩
    · -- nothing is sent any more, and nothing is said about what is on the channel
      have hgone : Occurrence.hangUp ∈ os := by
        by_contra hkept
        exact hthere (hsender.mpr hkept)
      have hvain : (Occurrence.send request).apply w = w := by
        simp [Occurrence.apply, Watch.send, hthere]
      rw [hvain]
      exact ⟨by simp [hthere, hgone], fun h => absurd h hthere⟩
  | hangUp =>
    have hgone : (Occurrence.hangUp.apply w).hasSender = false := rfl
    exact ⟨by simp [hgone], by simp [hgone]⟩
  | look =>
    have hsender : (Occurrence.look.apply w).hasSender = w.hasSender := hasSender_glance w
    constructor
    · rw [hsender, h.hasSender]
      simp
    · intro hthere
      rw [hsender] at hthere
      have hseen : (Occurrence.look.apply w).unseen = false := unseen_glance_of_hasSender hthere
      simp [recent, hseen]

/-- **A channel follows what occurs on it.** -/
theorem carries_channel (initial : Bool) (os : List Occurrence) :
    (channel initial os).Carries os := by
  induction os with
  | nil => exact carries_new initial
  | cons o os ih => exact ih.apply o

/-- **A request is found on a channel if one waits.** -/
theorem Carries.waiting_iff (h : w.Carries os) :
    (w.hasChanged && w.value) = true ↔ Waiting os := by
  have hcontent := h.content
  have hsender := h.hasSender
  constructor
  · intro hasked
    obtain ⟨⟨hthere, hunseen⟩, hvalue⟩ :
        (w.hasSender = true ∧ w.unseen = true) ∧ w.value = true := by
      simpa [hasChanged] using hasked
    refine ⟨hsender.mp hthere, ?_⟩
    rw [hcontent hthere, if_pos hunseen, hvalue]
  · intro hwaiting
    have hthere := hsender.mpr hwaiting.kept
    have hlatest := hcontent hthere
    rw [hwaiting.latest] at hlatest
    cases hunseen : w.unseen with
    | false => simp [hunseen] at hlatest
    | true =>
      have hvalue : true = w.value := by simpa [hunseen] using hlatest
      simp [hasChanged, hthere, hunseen, ← hvalue]

end Watch

/-! ## Restarted once -/

namespace Host

variable {h h' : Host D}

/-- Every script that ran has been restarted, and once: whoever ran before has ended, and
whoever has come into being since runs, one for each entry that had an instance and in their
order. -/
structure RestartsOnce (h h' : Host D) : Prop where
  all : h.RestartsAll h'
  ended : ∀ k ∈ h.registry.lives, h'.world.view.isAlive k = false
  newcomers : h'.world.instances.length = h.world.instances.length + h.registry.liveCount
  lives : h'.registry.lives = List.range' h.world.instances.length h.registry.liveCount

/-- **Where every script that ran has got a new instance**, each was restarted once. -/
theorem Renewed.restartsOnce (hh : h.WellKept I concurrent) (hh' : h'.WellKept I concurrent)
    (hrenewed : h.Renewed h.registry.livePositions h') : h.RestartsOnce h' := by
  obtain ⟨news, htags, hids⟩ := hrenewed.newcomers
  have hnews : news.length = h.registry.liveCount := by
    simpa [Registry.liveCount] using congrArg List.length hids
  have hlives : h'.registry.lives
      = List.range' h.world.instances.length h.registry.liveCount := by
    rw [hrenewed.registry, Registry.lives_renewAll]
  refine ⟨hrenewed.restartsAll hh hh', ?_, ?_, hlives⟩
  · intro k hk
    -- whoever were alive would be named by an entry, and would have come into being since
    by_contra halive
    rw [Bool.not_eq_false] at halive
    obtain ⟨hwas, hregistered⟩ := View.mem_own.mp (hh.tidy.lives.mem_iff.mp hk)
    have hold : k < h.world.view.infos.length := View.lt_of_isAlive hwas
    have hprefix : h.world.view.tags <+: h'.world.view.tags := ⟨news, htags.symm⟩
    have hstill := (View.isRegistered_of_prefix hprefix hold).trans hregistered
    have hnamed : k ∈ h'.registry.lives :=
      hh'.tidy.lives.mem_iff.mpr (View.mem_own.mpr ⟨halive, hstill⟩)
    rw [hlives, List.mem_range'_1] at hnamed
    rw [World.length_infos] at hold
    omega
  · rw [length_instances_of_tags htags, hnews]

end Host

/-! ## What a cycle finds -/

namespace Session

variable {s s' : Session D} {cs : List (Config D)} {os : List Occurrence}

/-- What has occurred on the reload channel of a session, which has one. -/
def Hears (s : Session D) (os : List Occurrence) : Prop :=
  ∃ w, s.reload = some w ∧ w.Carries os

theorem Hears.congr (h : s.Hears os) (hsame : s'.reload = s.reload) : s'.Hears os := by
  obtain ⟨w, hw, hcarries⟩ := h
  exact ⟨w, hsame.trans hw, hcarries⟩

theorem Hears.apply (h : s.Hears os) (o : Occurrence) (hdone : s'.reload = s.reload.map o.apply) :
    s'.Hears (o :: os) := by
  obtain ⟨w, hw, hcarries⟩ := h
  exact ⟨o.apply w, by rw [hdone, hw]; rfl, hcarries.apply o⟩

/-- A session is asked for a reload if a request waits. -/
theorem Hears.isAsked_iff (h : s.Hears os) : s.isAsked = true ↔ Waiting os := by
  obtain ⟨w, hw, hcarries⟩ := h
  rw [← hcarries.waiting_iff]
  simp [isAsked, hw]

/-- **What a cycle makes of a request.**  If a reload is asked for, every script that runs is
restarted, once; if none is, nobody is touched. -/
theorem trace_reloadOnSignal_once (hs : s.host.WellKept I concurrent) {m : Nat}
    (hc : reloadOnSignal.Trace I s cs m s') :
    (s.isAsked = true → m = s.host.registry.liveCount ∧ s.host.RestartsOnce s'.host) ∧
      (s.isAsked = false → m = 0 ∧ s'.host = s.host) := by
  have hs' := wellKept_of_trace hs upholds_reloadOnSignal hc
  obtain ⟨-, hidle, hasked⟩ := trace_reloadOnSignal_cases hc
  refine ⟨?_, hidle⟩
  intro h
  obtain ⟨hm, result, h', cs', hrestart, -, hrestarted⟩ := hasked h
  -- every instance there was is alive, so each restart succeeds
  obtain ⟨hok, hrenewed⟩ := Host.trace_restartAll_live hs hrestart
  rw [← hrestarted hok] at hrenewed
  exact ⟨hm, hrenewed.restartsOnce hs hs'⟩

/-- What is done with the registry after a report leaves the channel alone. -/
theorem Hears.host (h : s.Hears os) {α : Type} {n : SessionNotice} {c : Chore D (Host D) α} {a : α}
    (hc : (report n >>= fun _ => withHost c).Trace I s cs a s') : s'.Hears os := by
  obtain ⟨_, _, s₁, _, -, hreport, hc⟩ := hc.bind
  exact h.congr ((trace_report hreport).2.trans (trace_host hc).2).reload

theorem Hears.attend (h : s.Hears os) {now : Int} {result : Nat × Bool}
    (hc : (attend now).Trace I s cs result s') : s'.Hears os := by
  obtain ⟨_, failures, s₁, _, -, hrequests, hc⟩ := hc.bind
  obtain ⟨_, ticked, s₂, _, -, htick, hdone⟩ := hc.bind
  obtain ⟨-, rfl⟩ := hdone.pure
  have hsame := (trace_host hrequests).2.trans (trace_tick htick).2
  exact h.congr hsame.reload

/-- **A cycle looks at the channel once**, and leaves it alone before and after. -/
theorem Hears.runCycle (h : s.Hears os) (hs : s.host.WellKept I concurrent) {files : Files}
    {t : Moment} {report : CycleReport} (hc : (runCycle files t).ComesTo I s report s') :
    s'.Hears (look :: os) := by
  obtain ⟨s₁, s₂, m₁, m₂, ⟨cs₁, hattend⟩, ⟨cs₂, hsignal⟩, ⟨cs₃, hdisk⟩, -⟩ := comesTo_runCycle hc
  have hs₁ := wellKept_of_trace hs (upholds_attend t.now) hattend
  have hs₂ := wellKept_of_trace hs₁ upholds_reloadOnSignal hsignal
  obtain ⟨hlooked, -⟩ := trace_reloadOnSignal_cases hsignal
  obtain ⟨-, -, hkept, -⟩ := trace_reloadFromDisk hs₂ hdisk
  exact ((h.attend hattend).apply look hlooked.reload).congr hkept

end Session

/-! ## Correspondences -/

namespace Operation

/-- An operation that is an emulation, from its opening to its closing. -/
def isEmulation : Operation → Bool
  | emulate .. => true
  | _ => false

/-- What occurs on the reload channel with an operation. -/
def occurrence? : Operation → Option Occurrence
  | sendReload request => some (.send request)
  | requestReload => some (.send true)
  | closeReload => some .hangUp
  | runCycle .. => some .look
  | registry _ | loadScripts .. | beginEmulation | endEmulation | emulate .. => none

/-- **Operations leave the channel alone**, but for those that send, hang up or look. -/
theorem hears {op : Operation} (hop : op.isEmulation = false) {s s' : Session D}
    {os : List Occurrence} (h : s.Hears os) (hs : s.host.WellKept I concurrent)
    (hc : op.chore.ComesTo I s () s') : s'.Hears (op.occurrence?.toList ++ os) := by
  obtain ⟨cs, hc⟩ := hc
  cases op with
  | registry op => exact h.congr (Session.trace_host hc).2.reload
  | loadScripts files around =>
    obtain ⟨result, hc⟩ := hc.of_void
    have hc := hc.state
    split at hc
    · exact h.host hc
    · obtain ⟨_, _, s₁, _, -, hreport, hdone⟩ := hc.bind
      obtain ⟨-, rfl⟩ := hdone.pure
      exact h.congr (Session.trace_report hreport).2.reload
  | beginEmulation =>
    obtain ⟨result, hc⟩ := hc.of_void
    exact h.host hc
  | endEmulation => exact h.host hc
  | runCycle files t =>
    obtain ⟨report, hc⟩ := hc.of_void
    exact h.runCycle hs ⟨cs, hc⟩
  | sendReload request =>
    obtain rfl := Chore.Trace.change hc
    exact h.apply (.send request) rfl
  | closeReload =>
    obtain rfl := Chore.Trace.change hc
    exact h.apply .hangUp rfl
  | requestReload =>
    obtain ⟨_, _, s₁, _, -, hreport, hc⟩ := hc.bind
    obtain rfl := Chore.Trace.change hc
    have hs₁ := h.congr (Session.trace_report hreport).2.reload
    exact hs₁.apply (.send true) rfl
  | emulate => cases hop

end Operation

namespace Session

variable (I) in
/-- What a session comes to, and what has occurred on its reload channel since the channel was
made, the latest first: things may be sent before the session is set up, and then operations,
cycles among them, whatever comes over the channel, and anything else the host does follow
one another in any order. -/
inductive Correspondence (settings : ScriptSettings) : List Occurrence → Session D → Prop
  | build {w : World D} (hreachable : (⟨w, []⟩ : Config D).Reachable I)
      (hunregistered : ∀ i, w.view.isRegistered i = false) (engine : Engine D) (initial : Bool)
      {early : List Occurrence} (hearly : look ∉ early) (files : Files) (around : Surroundings) :
      Correspondence settings early
        (Session.new w engine settings (some (channel initial early)) files around)
  | operation {os : List Occurrence} {s s' : Session D} (h : Correspondence settings os s)
      (op : Operation) (hop : op.isEmulation = false) (hc : op.chore.ComesTo I s () s') :
      Correspondence settings (op.occurrence?.toList ++ os) s'
  | aside {os : List Occurrence} {s : Session D} (h : Correspondence settings os s)
      {w w' : World D} {started : List (Frame D)} (haside : Aside s.host.world w started)
      (hsteps : Config.Steps I ⟨w, started⟩ ⟨w', []⟩) :
      Correspondence settings os { s with host := { s.host with world := w' } }

namespace Correspondence

variable {settings : ScriptSettings} {os : List Occurrence} {s s' : Session D}
  {cs : List (Config D)}

/-- **A correspondence is a history of the host.** -/
theorem reachable (h : Correspondence I settings os s) :
    Scene.Reachable I settings.concurrent ⟨s, [], .done ()⟩ := by
  induction h with
  | build hreachable hunregistered engine initial _ files around =>
    exact ⟨_, Scene.begins_new hreachable hunregistered engine settings _ files around, .refl⟩
  | operation _ op _ hc ih => exact ih.afterwards op (Chore.bind_done _).symm hc
  | aside _ haside hsteps ih => exact ih.aside haside hsteps

theorem wellKept (h : Correspondence I settings os s) :
    s.host.WellKept I settings.concurrent :=
  h.reachable.upheld.rest ⟨rfl, rfl⟩

/-- **What is on the channel of a session** follows from what has occurred there. -/
theorem hears (h : Correspondence I settings os s) : s.Hears os := by
  induction h with
  | build hreachable hunregistered engine initial _ files around =>
    refine ⟨_, ?_, Watch.carries_channel initial _⟩
    unfold Session.new
    split <;> rfl
  | operation h _ hop hc ih => exact Operation.hears hop ih h.wellKept hc
  | aside _ _ _ ih => exact ih.congr rfl

/-- Code of the host's own may run at any time; an emission is an instance. -/
theorem code (h : Correspondence I settings os s) {code : Code D Unit} {u : Unit}
    (hc : Chore.Trace I (.order (.code code) (.done ())) s cs u s') :
    Correspondence I settings os s' := by
  cases hc with
  | order hobeyed hdone =>
    cases hdone with
    | done => exact h.aside ⟨.code code, fun _ hi => hi, h.reachable.unheld⟩ hobeyed.steps

/-- So may others use the shutdown channel. -/
theorem setShutdown (h : Correspondence I settings os s) (channel : Option (Watch Bool)) :
    Correspondence I settings os (setWorld { s.host.world with shutdown := channel } s) :=
  h.aside ⟨.setShutdown channel, fun _ hi => hi, h.reachable.unheld⟩ .refl

theorem reportCycle (h : Correspondence I settings os s) {frame : Nat} {r : CycleReport} {u : Unit}
    (hc : (Session.reportCycle frame r).Trace I s cs u s') : Correspondence I settings os s' := by
  unfold Session.reportCycle at hc
  split at hc
  · exact h.code hc
  · obtain ⟨-, rfl⟩ := hc.pure
    exact h

/-- A cycle is an operation whose report is of interest. -/
theorem cycle (h : Correspondence I settings os s) {files : Files} {t : Moment} {r : CycleReport}
    (hc : (runCycle files t).Trace I s cs r s') : Correspondence I settings (look :: os) s' :=
  h.operation (.runCycle files t) rfl ⟨_, hc.followed (.done () s')⟩

/-- **The beats of an emulation** go on with a correspondence: each round looks once. -/
theorem beats {files : Nat → Files} {turns : Nat → Turn} {k frame : Nat} {beats : List (Beat D)}
    (h : Correspondence I settings os s) (hbeats : Beats I files turns k frame s cs beats s') :
    Correspondence I settings (List.replicate (beats.countP Beat.isRound) look ++ os) s' := by
  induction hbeats generalizing os with
  | nil => exact h
  | @round k _ s _ _ _ _ _ _ _ _ hround _ ih =>
    have htold : Correspondence I settings os (s.told (turns k).messages) := h.setShutdown _
    cases hround with
    | intro hbegin hadvance hcycle hreport =>
      have hdone := ih ((((htold.code hbegin).code hadvance).cycle hcycle).reportCycle hreport)
      rw [List.countP_cons_of_pos rfl, List.replicate_succ', List.append_assoc]
      exact hdone
  | @goOn k _ s _ _ _ _ _ _ ih =>
    have htold : Correspondence I settings os (s.told (turns k).messages) := h.setShutdown _
    exact ih (htold.setShutdown _)
  | @last k _ s _ _ _ _ hreport =>
    have htold : Correspondence I settings os (s.told (turns k).messages) := h.setShutdown _
    have hseen : Correspondence I settings os ((s.told (turns k).messages).onShutdown .see) :=
      htold.setShutdown _
    exact hseen.code hreport

/-- **An emulation** goes on with a correspondence: it looks once in every frame it runs. -/
theorem emulate {o : EmulationOptions} {channel : Watch Bool} {files : Nat → Files}
    {turns : Nat → Turn} {fuel : Nat} {result : EmulationResult}
    (h : Correspondence I settings os s)
    (hc : (Session.emulate o channel files turns fuel).Trace I s cs result s') :
    ∃ n, Correspondence I settings (List.replicate n look ++ os) s' ∧
      ∀ frames, result = .ran frames → n = frames := by
  obtain ⟨_, _, started, _, -, hopen, hc⟩ := hc.bind
  have hstarted : Correspondence I settings os started := by
    obtain ⟨_, _, s₁, _, -, hset, hopen⟩ := hopen.bind
    obtain ⟨-, rfl⟩ := trace_setShutdown hset
    obtain ⟨_, result, s₂, _, -, hbegin, hreport⟩ := hopen.bind
    have hbegun := (h.setShutdown (some channel)).operation .beginEmulation rfl
      ⟨_, hbegin.followed (.done () s₂)⟩
    cases result with
    | ok =>
      obtain ⟨-, rfl⟩ := Chore.Trace.pure hreport
      exact hbegun
    | error e => exact hbegun.code hreport
  split at hc
  · obtain ⟨rfl, rfl⟩ := hc.pure
    exact ⟨0, hstarted, by simp⟩
  · obtain ⟨_, ran, last, _, -, hframes, hc⟩ := hc.bind
    obtain ⟨beats, hbeats, -, hends⟩ := trace_frames (by simp) hframes
    have hlast := hstarted.beats hbeats
    cases ran with
    | none =>
      obtain ⟨rfl, rfl⟩ := hc.pure
      exact ⟨_, hlast, by simp⟩
    | some n =>
      obtain ⟨_, _, s₁, _, -, hclose, hdone⟩ := hc.bind
      obtain ⟨rfl, rfl⟩ := hdone.pure
      obtain ⟨_, _, s₂, _, -, hend, hset⟩ := hclose.bind
      obtain ⟨-, rfl⟩ := trace_setShutdown hset
      have hended := hlast.operation .endEmulation rfl ⟨_, hend⟩
      refine ⟨_, hended.setShutdown none, ?_⟩
      intro frames hframes
      obtain rfl : n = frames := by simpa using hframes
      simpa using hends.1.symm

/-- **A reload request takes effect once**, if the sender is there to see it.  Whatever has
been done with a session, in whatever order: in a cycle requests and timer come first, then
the reload channel is looked at, and what changed on disk comes last.  If a request waits on
the channel, every script that runs at that point is restarted, once; if none waits, nobody is
touched.  Where nothing but requests is sent, one waits if any was sent since the cycle
before, or since the channel was made, unless the sender has gone away: what it sent and no
cycle has taken by then is lost.  Where scripts give control back, the cycle comes to its end. -/
theorem taken_once (h : Correspondence I settings os s) (files : Files) (t : Moment) :
    (∀ report s', (runCycle files t).ComesTo I s report s' → ∃ s₁ s₂ m₁ m₂,
      (attend t.now).ComesTo I s (report.failed, report.ticked) s₁ ∧
      reloadOnSignal.ComesTo I s₁ m₁ s₂ ∧ (reloadFromDisk files t.clock).ComesTo I s₂ m₂ s' ∧
      report.reloaded = m₁ + m₂ ∧
      (Waiting os → m₁ = s₁.host.registry.liveCount ∧ s₁.host.RestartsOnce s₂.host) ∧
      (¬ Waiting os → m₁ = 0 ∧ s₂.host = s₁.host)) ∧
    (.send false ∉ os → (Waiting os ↔ .hangUp ∉ os ∧ .send true ∈ recent os)) ∧
    (I.Calm → ∃ report s', (runCycle files t).ComesTo I s report s') := by
  refine ⟨?_, waiting_iff_of_requests, ?_⟩
  · intro report s' hc
    obtain ⟨s₁, s₂, m₁, m₂, hattend, hsignal, hdisk, hreloaded⟩ := comesTo_runCycle hc
    obtain ⟨cs₁, hattended⟩ := hattend
    obtain ⟨cs₂, hsignalled⟩ := hsignal
    have hs₁ := wellKept_of_trace h.wellKept (upholds_attend t.now) hattended
    obtain ⟨hasked, hunasked⟩ := trace_reloadOnSignal_once hs₁ hsignalled
    -- requests and timer leave the channel alone, so a cycle finds there what was sent before it
    have hwaiting := (h.hears.attend hattended).isAsked_iff
    refine ⟨s₁, s₂, m₁, m₂, ⟨cs₁, hattended⟩, ⟨cs₂, hsignalled⟩, hdisk, hreloaded, ?_, ?_⟩
    · intro hwaits
      exact hasked (hwaiting.mpr hwaits)
    · intro hnone
      apply hunasked
      exact Bool.eq_false_iff.mpr fun hfound => hnone (hwaiting.mp hfound)
  · intro hcalm
    obtain ⟨cs, report, s', hc⟩ :=
      Chore.exists_trace hcalm (runCycle files t) h.wellKept.tidy.reachable
    exact ⟨report, s', cs, hc⟩

end Correspondence

end Session

namespace Specimen

/-- A session is set up with a reload channel and its script is started; then operations are
carried out. -/
def signalled (ops : List Operation) : Option (Session dialect) :=
  carryOut (.registry (.add ⟨"a.py"⟩ true) :: .beginEmulation :: ops)
    (Session.new (World.new ()) engine unwatched (some (channel false [])) (disk none) nowhere)

/-- Operations that are carried out go on with a correspondence. -/
theorem correspondence_carryOut {settings : ScriptSettings} {os : List Occurrence}
    {ops : List Operation} {s s' : Session dialect} (hops : ops.all (!·.isEmulation) = true)
    (h : Session.Correspondence calmly settings os s) (hdone : carryOut ops s = some s') :
    Session.Correspondence calmly settings
      ((ops.filterMap Operation.occurrence?).reverse ++ os) s' := by
  induction ops generalizing os s with
  | nil =>
    obtain rfl := Option.some.inj hdone
    exact h
  | cons op ops ih =>
    obtain ⟨hop, hrest⟩ : op.isEmulation = false ∧ ops.all (!·.isEmulation) = true := by
      simpa using hops
    obtain ⟨⟨u, s₁⟩, hrun, hlater⟩ := Option.bind_eq_some_iff.mp hdone
    have hfirst := h.operation op hop (Chore.trace_of_run hrun)
    have hlast := ih hrest hfirst hlater
    cases hoccurs : op.occurrence? with
    | none => simpa [hoccurs] using hlast
    | some o => simpa [hoccurs] using hlast

/-- After them comes a cycle. -/
theorem exists_cycle_of_signalled (ops : List Operation) {r : CycleReport}
    (hops : ops.all (!·.isEmulation) = true)
    (hrun : ((signalled ops).bind (Session.runCycle (disk none) ⟨0, 0⟩ |>.run calmly)).map Prod.fst
      = some r) :
    ∃ s s', Session.Correspondence calmly unwatched
        (ops.filterMap Operation.occurrence?).reverse s ∧
      (Session.runCycle (disk none) ⟨0, 0⟩).ComesTo calmly s r s' := by
  obtain ⟨⟨r, s'⟩, hdone, rfl⟩ := Option.map_eq_some_iff.mp hrun
  obtain ⟨s, halarm, hcycle⟩ := Option.bind_eq_some_iff.mp hdone
  have hstart : Session.Correspondence calmly unwatched []
      (Session.new (World.new ()) engine unwatched (some (channel false [])) (disk none) nowhere) :=
    .build ⟨(), .refl⟩ (fun i => by simp [View.isRegistered, View.tags, World.view, World.new])
      engine false List.not_mem_nil (disk none) nowhere
  have hrung := correspondence_carryOut (by simpa [Operation.isEmulation] using hops) hstart halarm
  rw [List.append_nil] at hrung
  exact ⟨s, s', hrung, Chore.trace_of_run hcycle⟩

end Specimen

/-- Two requests in a row restart the script once.  Another one is sent after that cycle, and
its sender goes away: the next cycle restarts nobody, and one more comes to its end as well. -/
theorem Session.Correspondence.taken_once_hung_up :
    (∃ s s' s₁ s₂ m, Correspondence Specimen.calmly Specimen.unwatched
          [.send true, .send true] s ∧
        (runCycle (Specimen.disk none) ⟨0, 0⟩).ComesTo Specimen.calmly s ⟨0, true, 1⟩ s' ∧
        reloadOnSignal.ComesTo Specimen.calmly s₁ m s₂ ∧ s₁.host.RestartsOnce s₂.host) ∧
      ∃ s s' s₁ s₂ m, Correspondence Specimen.calmly Specimen.unwatched
          [.hangUp, .send true, .look, .send true, .send true] s ∧
        (runCycle (Specimen.disk none) ⟨0, 0⟩).ComesTo Specimen.calmly s ⟨0, false, 0⟩ s' ∧
        reloadOnSignal.ComesTo Specimen.calmly s₁ m s₂ ∧ s₂.host = s₁.host ∧
        ∃ r s'', (runCycle (Specimen.disk none) ⟨0, 0⟩).ComesTo Specimen.calmly s' r s'' := by
  constructor
  · obtain ⟨s, s', hrung, hcycle⟩ := Specimen.exists_cycle_of_signalled (r := ⟨0, true, 1⟩)
      [.sendReload true, .sendReload true] rfl (by decide +kernel)
    obtain ⟨htaken, hwaits, -⟩ := taken_once hrung (Specimen.disk none) ⟨0, 0⟩
    obtain ⟨s₁, s₂, m, -, -, hsignal, -, -, hasked, -⟩ := htaken _ s' hcycle
    obtain ⟨-, hrestarted⟩ := hasked ((hwaits (by decide)).mpr (by decide))
    exact ⟨s, s', s₁, s₂, m, hrung, hcycle, hsignal, hrestarted⟩
  · obtain ⟨s, s', hrung, hcycle⟩ := Specimen.exists_cycle_of_signalled (r := ⟨0, false, 0⟩)
      [.sendReload true, .sendReload true, .runCycle (Specimen.disk none) ⟨0, 0⟩,
        .sendReload true, .closeReload] rfl (by decide +kernel)
    obtain ⟨htaken, -⟩ := taken_once hrung (Specimen.disk none) ⟨0, 0⟩
    obtain ⟨s₁, s₂, m, -, -, hsignal, -, -, -, hnone⟩ := htaken _ s' hcycle
    obtain ⟨-, hspared⟩ := hnone fun hwaits => hwaits.kept (by decide)
    obtain ⟨cs, htrace⟩ := hcycle
    obtain ⟨-, -, hends⟩ := taken_once (hrung.cycle htrace) (Specimen.disk none) ⟨0, 0⟩
    exact ⟨s, s', s₁, s₂, m, hrung, ⟨cs, htrace⟩, hsignal, hspared, hends Specimen.calm_calmly⟩

end ScriptHost
