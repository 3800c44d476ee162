import ScriptHost.Proofs.Chronicle
import ScriptHost.Proofs.Orders

/-!
# The emulation loop

Between its opening and its closing the loop goes from beat to beat: in a beat it runs a
frame, with a cycle after it, or takes a message off its shutdown channel (`Session.Beat`).
What becomes of a session from beat to beat is `Session.Beats`; it is told which turn of
the schedule it is, and how many frames there have been.

* `Session.trace_frames` — the frames of the loop are beats, and what ends them;
* `Session.Beats.hostEmissions` — what the host emits meanwhile;
* `Session.Beats.undisturbed` — where nobody asks for an end, the loop hears of none;
* `Host.trace_stopAll` — what is left once every script has stopped;
* `Session.emulate_in_rounds` — the emulation from its opening to its closing.
-/

namespace ScriptHost

variable {D : Dialect} {σ α : Type} {I : Interpreter D}

open HasWorld

/-! ## The shutdown channel -/

/-- What a message makes of the channel. -/
def ShutdownMessage.deliver (w : Watch Bool) : ShutdownMessage → Watch Bool
  | .send value => w.send value
  | .hangUp => w.hangUp

/-- The sender of a channel is there and has not asked for an end. -/
structure Watch.Undisturbed (w : Watch Bool) : Prop where
  hasSender : w.hasSender = true
  unasked : w.unseen = true → w.value = false

/-- Sending the all-clear disturbs nobody. -/
theorem Watch.Undisturbed.send {w : Watch Bool} (h : w.Undisturbed) :
    (w.send false).Undisturbed := by
  unfold Watch.send
  rw [if_pos h.hasSender]
  exact ⟨h.hasSender, fun _ => rfl⟩

/-- Looking at the channel disturbs nobody. -/
theorem Watch.Undisturbed.see {w : Watch Bool} (h : w.Undisturbed) : w.see.Undisturbed :=
  ⟨h.hasSender, by simp [Watch.see]⟩

/-- Neither does sending it many times. -/
theorem Watch.Undisturbed.foldl_deliver {messages : List ShutdownMessage}
    (hmessages : ∀ m ∈ messages, m = .send false) {w : Watch Bool} (h : w.Undisturbed) :
    (messages.foldl ShutdownMessage.deliver w).Undisturbed := by
  induction messages generalizing w with
  | nil => exact h
  | cons m rest ih =>
    obtain ⟨rfl, hrest⟩ := List.forall_mem_cons.mp hmessages
    exact ih hrest h.send

/-- An emulation runs in a world, and nobody has asked for its end. -/
def World.Undisturbed (w : World D) : Prop :=
  ∃ channel, w.shutdown = some channel ∧ channel.Undisturbed

/-- The value the next step sends on the shutdown channel. -/
def Config.sends? (c : Config D) : Option Bool :=
  c.stack.head?.bind Frame.sends?

/-- Steps that send no request for an end leave nobody disturbed. -/
theorem Config.Trace.undisturbed {c c' : Config D} {cs : List (Config D)} (h : Trace I c cs c')
    (hc : c.world.Undisturbed) (hcs : ∀ d ∈ cs, d.sends? ≠ some true) : c'.world.Undisturbed := by
  induction h with
  | nil => exact hc
  | @cons c _ _ _ hstep _ ih =>
    obtain ⟨hfirst, hrest⟩ := List.forall_mem_cons.mp hcs
    refine ih ?_ hrest
    obtain ⟨f, rest, hstack, rfl⟩ := eq_advance_of_step? hstep
    obtain ⟨channel, hchannel, hundisturbed⟩ := hc
    have hshutdown := congrArg Ledger.shutdown (f.ledger_advance I c.world)
    have hsends : f.sends? ≠ some true := by simpa [sends?, hstack] using hfirst
    cases hsent : f.sends? with
    | none =>
      rw [hsent] at hshutdown
      exact ⟨channel, hshutdown.trans hchannel, hundisturbed⟩
    | some value =>
      cases value with
      | true => exact absurd hsent hsends
      | false =>
        have hput : (f.advance I c.world).1.shutdown = c.world.shutdown.map (·.send false) := by
          rw [hsent] at hshutdown
          exact hshutdown
        rw [hchannel] at hput
        exact ⟨channel.send false, hput, hundisturbed.send⟩

/-- An order that leaves the channel to the scripts. -/
def Order.KeepsChannel (o : Order D) : Prop :=
  ∀ channel, o ≠ .setShutdown channel

/-- No order of a session touches the shutdown channel. -/
theorem Order.OfSession.keepsChannel {o : Order D} (ho : o.OfSession) : o.KeepsChannel := by
  rintro channel rfl
  cases ho with
  | ofRegistry ho => cases ho

/-- To begin with an order leaves the channel alone, unless it sets it. -/
theorem World.shutdown_beginOrder (w : World D) {o : Order D} (ho : o.KeepsChannel) :
    (w.beginOrder o).1.shutdown = w.shutdown := by
  cases o with
  | code | dropRequests => rfl
  | spawn id path code => exact congrArg Ledger.shutdown (w.ledger_beginLife id path false)
  | terminate i => exact congrArg Ledger.shutdown (w.ledger_beginEnding i)
  | setShutdown channel => exact absurd rfl (ho channel)

/-- **Where nobody asks for an end**, a chore that does not set the channel leaves it so. -/
theorem Chore.Trace.undisturbed [HasWorld D σ] {c : Chore D σ α} {s s' : σ}
    {cs : List (Config D)} {a : α} (h : c.Trace I s cs a s')
    (hc : c.Orders Order.KeepsChannel) (hs : (world s).Undisturbed)
    (hcs : ∀ d ∈ cs, d.sends? ≠ some true) : (world s').Undisturbed := by
  induction h with
  | done => exact hs
  | look _ ih => exact ih (hc _) hs hcs
  | keep _ ih =>
    refine ih hc ?_ hcs
    rwa [world_setWorld]
  | @order o k s s' cs cs' w a hobeyed _ ih =>
    have hbegun : ((world s).beginOrder o).1.Undisturbed := by
      unfold World.Undisturbed
      rwa [World.shutdown_beginOrder _ hc.1]
    have hdone : w.Undisturbed :=
      hobeyed.undisturbed hbegun fun d hd => hcs d (List.mem_append_left _ hd)
    refine ih hc.2 ?_ fun d hd => hcs d (List.mem_append_right _ hd)
    rwa [world_setWorld]

namespace Session

/-- The session with something done to its shutdown channel. -/
def onShutdown (s : Session D) (f : Watch Bool → Watch Bool) : Session D :=
  setWorld { s.host.world with shutdown := s.host.world.shutdown.map f } s

/-- The session after messages on its shutdown channel. -/
def told (s : Session D) (messages : List ShutdownMessage) : Session D :=
  s.onShutdown fun w => messages.foldl ShutdownMessage.deliver w

/-- The session is undisturbed if what is done to the channel leaves it so. -/
theorem undisturbed_onShutdown {s : Session D} (h : s.host.world.Undisturbed)
    {f : Watch Bool → Watch Bool} (hf : ∀ w : Watch Bool, w.Undisturbed → (f w).Undisturbed) :
    (s.onShutdown f).host.world.Undisturbed := by
  obtain ⟨channel, hchannel, hundisturbed⟩ := h
  exact ⟨f channel, congrArg (Option.map f) hchannel, hf channel hundisturbed⟩

/-- Nobody who is undisturbed hears of an end. -/
theorem heard_ne_of_undisturbed {s : Session D} (h : s.host.world.Undisturbed) :
    s.heard ≠ some true := by
  obtain ⟨channel, hchannel, hundisturbed⟩ := h
  unfold heard
  rw [hchannel]
  by_cases hunseen : channel.unseen
  · simp [hunseen, hundisturbed.unasked hunseen]
  · simp [hunseen, hundisturbed.hasSender]

/-- Setting the channel takes no step of the machine. -/
theorem trace_setShutdown {s s' : Session D} {channel : Option (Watch Bool)}
    {cs : List (Config D)} {u : Unit} (hc : (Chore.setShutdown channel).Trace I s cs u s') :
    cs = [] ∧ s' = setWorld { s.host.world with shutdown := channel } s := by
  have hc : Chore.Trace I (.order (.setShutdown channel) (.done ())) s cs u s' := hc
  cases hc with
  | order hobeyed hdone =>
    cases hdone with
    | done =>
      cases hobeyed with
      | nil => exact ⟨rfl, rfl⟩
      | cons hstep => cases hstep

/-- A change of the shutdown channel is all that happens. -/
theorem trace_modifyShutdown {s s' : Session D} {f : Watch Bool → Watch Bool}
    {cs : List (Config D)} {u : Unit} (hc : (modifyShutdown f).Trace I s cs u s') :
    cs = [] ∧ s' = s.onShutdown f :=
  trace_setShutdown hc.state

/-- The messages are delivered, and that is all that happens. -/
theorem trace_deliverMessages {messages : List ShutdownMessage} {s s' : Session D}
    {cs : List (Config D)} {u : Unit} (hc : (deliverMessages messages).Trace I s cs u s') :
    cs = [] ∧ s' = s.told messages := by
  induction messages generalizing s cs with
  | nil =>
    obtain ⟨-, rfl, rfl⟩ := hc.of_pure
    refine ⟨rfl, ?_⟩
    simp [told, onShutdown, setWorld]
  | cons m rest ih =>
    obtain ⟨cs₁, _, s₁, cs₂, rfl, hfirst, hrest⟩ :
        ∃ cs₁ u s₁ cs₂, cs = cs₁ ++ cs₂ ∧ (modifyShutdown (m.deliver ·)).Trace I s cs₁ u s₁ ∧
          (deliverMessages rest).Trace I s₁ cs₂ () s' := by
      cases m with
      | send value => exact hc.bind
      | hangUp => exact hc.bind
    obtain ⟨rfl, rfl⟩ := trace_modifyShutdown hfirst
    obtain ⟨rfl, rfl⟩ := ih hrest
    refine ⟨rfl, ?_⟩
    simp [told, onShutdown, setWorld, Function.comp_def]

/-! ## Beats -/

/-- A beat of the loop. -/
inductive Beat (D : Dialect) where
  /-- A frame was run, with a cycle after it that came to a report and left the session
  like this. -/
  | round (report : CycleReport) (after : Session D)
  /-- A message was taken that says whether to end. -/
  | heard (value : Bool)

namespace Beat

/-- Whether a frame was run. -/
def isRound : Beat D → Bool
  | round .. => true
  | heard _ => false

/-- What the host emits in a beat. -/
def emissions : Beat D → List Event
  | round r _ => .frameBegin :: .frameAdvance :: if r.ticked then [.timerTick] else []
  | heard _ => []

/-- The session after the last cycle. -/
def leaves (s : Session D) : Beat D → Session D
  | round _ after => after
  | heard _ => s

end Beat

/-- A round: a frame begins, it advances, and a cycle follows, which comes to a report and
leaves the session like this; what there is to say of it is said. -/
inductive Round (I : Interpreter D) (files : Files) (t : Moment) (frame : Nat) (s : Session D) :
    List (Config D) → CycleReport → Session D → Session D → Prop
  | intro {cs₁ cs₂ cs₃ cs₄ : List (Config D)} {s₁ s₂ after s' : Session D} {r : CycleReport}
      (hbegin : (Chore.emit .frameBegin).Trace I s cs₁ () s₁)
      (hadvance : (Chore.emit .frameAdvance).Trace I s₁ cs₂ () s₂)
      (hcycle : (runCycle files t).Trace I s₂ cs₃ r after)
      (hreport : (reportCycle frame r).Trace I after cs₄ () s') :
      Round I files t frame s (cs₁ ++ (cs₂ ++ (cs₃ ++ cs₄))) r after s'

/-- The beats of the loop from the turn of a number on, after so many frames.  A round is
run unless a message is there and taken; one that asks for the end is the last beat. -/
inductive Beats (I : Interpreter D) (files : Nat → Files) (turns : Nat → Turn) :
    Nat → Nat → Session D → List (Config D) → List (Beat D) → Session D → Prop
  | nil (k frame : Nat) (s : Session D) : Beats I files turns k frame s [] [] s
  | round {k frame : Nat} {s s₁ s' after : Session D} {cs₁ cs₂ : List (Config D)}
      {r : CycleReport} {beats : List (Beat D)}
      (hpicked : (turns k).messageFirst = true → (s.told (turns k).messages).heard = none)
      (hround : Round I (files k) (turns k).moment (frame + 1) (s.told (turns k).messages) cs₁ r
        after s₁)
      (hrest : Beats I files turns (k + 1) (frame + 1) s₁ cs₂ beats s') :
      Beats I files turns k frame s (cs₁ ++ cs₂) (.round r after :: beats) s'
  | goOn {k frame : Nat} {s s' : Session D} {cs : List (Config D)} {beats : List (Beat D)}
      (hpicked : (turns k).messageFirst = true)
      (hheard : (s.told (turns k).messages).heard = some false)
      (hrest : Beats I files turns (k + 1) frame
        ((s.told (turns k).messages).onShutdown .see) cs beats s') :
      Beats I files turns k frame s cs (.heard false :: beats) s'
  | last {k frame : Nat} {s s' : Session D} {cs : List (Config D)}
      (hpicked : (turns k).messageFirst = true)
      (hheard : (s.told (turns k).messages).heard = some true)
      (hreport : (report (.shutdownRequested frame)).Trace I
        ((s.told (turns k).messages).onShutdown .see) cs () s') :
      Beats I files turns k frame s cs [.heard true] s'

/-- One turn of the loop is a round. -/
theorem trace_runFrame {files : Files} {frame : Nat} {t : Moment} {s s' : Session D}
    {cs : List (Config D)} {u : Unit} (hc : (runFrame files frame t).Trace I s cs u s') :
    ∃ r after, Round I files t frame s cs r after s' := by
  obtain ⟨cs₁, _, s₁, _, rfl, hbegin, hc⟩ := hc.bind
  obtain ⟨cs₂, _, s₂, _, rfl, hadvance, hc⟩ := hc.bind
  obtain ⟨cs₃, r, after, cs₄, rfl, hcycle, hreport⟩ := hc.bind
  exact ⟨r, after, .intro hbegin hadvance hcycle hreport⟩

/-- Why the loop has come to an end after some beats, or has not. -/
def EndsWith (limit : Option Nat) (fuel frame : Nat) (beats : List (Beat D)) :
    Option Nat → Prop
  | none => beats.length = fuel
  | some n => n = frame + beats.countP Beat.isRound ∧
      (limit = some n ∨ beats.getLast? = some (.heard true))

/-- A turn in which an all-clear is heard runs no frame. -/
theorem EndsWith.heard {limit : Option Nat} {fuel frame : Nat} {beats : List (Beat D)}
    {ran : Option Nat} (h : EndsWith limit fuel frame beats ran) :
    EndsWith limit (fuel + 1) frame (.heard false :: beats) ran := by
  cases ran with
  | none => exact congrArg (· + 1) h
  | some n =>
    obtain ⟨hn, hend⟩ := h
    refine ⟨hn, hend.imp_right fun hlast => ?_⟩
    rw [List.getLast?_cons, hlast]
    rfl

/-- A round is a frame more. -/
theorem EndsWith.round {limit : Option Nat} {fuel frame : Nat} {beats : List (Beat D)}
    {ran : Option Nat} (h : EndsWith limit fuel (frame + 1) beats ran) (r : CycleReport)
    (after : Session D) : EndsWith limit (fuel + 1) frame (.round r after :: beats) ran := by
  cases ran with
  | none => exact congrArg (· + 1) h
  | some n =>
    obtain ⟨hn, hend⟩ := h
    refine ⟨?_, hend.imp_right fun hlast => ?_⟩
    · rw [hn, List.countP_cons_of_pos rfl]
      omega
    · rw [List.getLast?_cons, hlast]
      rfl

/-- **The frames of the loop are beats.**  Their number does not go beyond the limit; the
loop has come to an end because the limit was reached, or because it heard that it
should. -/
theorem trace_frames {files : Nat → Files} {limit : Option Nat} {turns : Nat → Turn}
    {fuel k frame : Nat} {s s' : Session D} {cs : List (Config D)} {ran : Option Nat}
    (hlimit : ∀ l, limit = some l → frame ≤ l)
    (hc : (frames files limit turns fuel k frame).Trace I s cs ran s') :
    ∃ beats, Beats I files turns k frame s cs beats s' ∧
      (∀ l, limit = some l → frame + beats.countP Beat.isRound ≤ l) ∧
      EndsWith limit fuel frame beats ran := by
  induction fuel generalizing k frame s cs with
  | zero =>
    obtain ⟨rfl, rfl, rfl⟩ := hc.of_pure
    exact ⟨[], .nil k frame s', hlimit, rfl⟩
  | succ fuel ih =>
    unfold frames at hc
    by_cases hreached : limit.any (· ≤ frame)
    · rw [if_pos hreached] at hc
      obtain ⟨rfl, rfl, rfl⟩ := hc.of_pure
      have hend : limit = some frame := by
        cases limit with
        | none => cases hreached
        | some l =>
          have hle : l ≤ frame := by simpa using hreached
          have hge := hlimit l rfl
          rw [Nat.le_antisymm hle hge]
      exact ⟨[], .nil k frame s', hlimit, rfl, Or.inl hend⟩
    · rw [if_neg hreached] at hc
      have hnext : ∀ l, limit = some l → frame + 1 ≤ l := by
        rintro l rfl
        have hlt : frame < l := by simpa using hreached
        exact hlt
      obtain ⟨cs₁, _, s₁, cs₂, rfl, hmessages, hc⟩ := hc.bind
      obtain ⟨rfl, rfl⟩ := trace_deliverMessages hmessages
      have hc := hc.state
      split at hc
      · next hpicked hheard =>
        obtain ⟨cs₃, _, s₂, cs₄, rfl, hsee, hc⟩ := hc.bind
        obtain ⟨rfl, rfl⟩ := trace_modifyShutdown hsee
        obtain ⟨cs₅, _, s₃, cs₆, rfl, hreport, hc⟩ := hc.bind
        obtain ⟨rfl, rfl, rfl⟩ := hc.of_pure
        refine ⟨[.heard true], ?_, hlimit, rfl, Or.inr rfl⟩
        rw [List.append_nil]
        exact .last hpicked hheard hreport
      · next hpicked hheard =>
        obtain ⟨cs₃, _, s₂, cs₄, rfl, hsee, hc⟩ := hc.bind
        obtain ⟨rfl, rfl⟩ := trace_modifyShutdown hsee
        obtain ⟨beats, hbeats, hwithin, hends⟩ := ih hlimit hc
        exact ⟨.heard false :: beats, .goOn hpicked hheard hbeats, hwithin, hends.heard⟩
      · next hpicked hquiet =>
        obtain ⟨cs₃, _, s₂, cs₄, rfl, hframe, hc⟩ := hc.bind
        obtain ⟨r, after, hround⟩ := trace_runFrame hframe
        obtain ⟨beats, hbeats, hwithin, hends⟩ := ih hnext hc
        have hnone : (turns k).messageFirst = true → (s.told (turns k).messages).heard = none := by
          intro hfirst
          cases hheard : (s.told (turns k).messages).heard with
          | none => rfl
          | some value =>
            cases value with
            | true => exact (hpicked hfirst hheard).elim
            | false => exact (hquiet hfirst hheard).elim
        rw [List.nil_append]
        refine ⟨.round r after :: beats, .round hnone hround hbeats, fun l hl => ?_,
          hends.round r after⟩
        have hwithin := hwithin l hl
        rw [List.countP_cons_of_pos rfl]
        omega

/-! ## What the host emits from beat to beat -/

/-- **A tick** is emitted if it was due, and nothing else. -/
theorem hostEmissions_tick {now : Int} {s s' : Session D} {cs : List (Config D)} {ticked : Bool}
    (hc : (tick now).Trace I s cs ticked s') :
    cs.filterMap Config.hostEmission? = if ticked then [.timerTick] else [] := by
  have hc := hc.state
  split at hc
  · obtain ⟨cs₁, _, s₁, _, rfl, hchange, hc⟩ := hc.bind
    obtain ⟨cs₂, _, s₂, _, rfl, hemit, hdone⟩ := hc.bind
    obtain ⟨rfl, rfl, rfl⟩ := hdone.of_pure
    rw [List.append_nil, List.filterMap_append, hemit.hostEmissions_emit,
      hchange.hostEmissions_nil (.change _)]
    rfl
  · obtain ⟨rfl, rfl, rfl⟩ := hc.of_pure
    rfl

/-- **A cycle** emits no more than a tick. -/
theorem hostEmissions_runCycle {files : Files} {t : Moment} {s s' : Session D}
    {cs : List (Config D)} {r : CycleReport} (hc : (runCycle files t).Trace I s cs r s') :
    cs.filterMap Config.hostEmission? = if r.ticked then [.timerTick] else [] := by
  obtain ⟨cs₁, failures, s₁, _, rfl, hrequests, hc⟩ := hc.bind
  obtain ⟨cs₂, ticked, s₂, _, rfl, htick, hc⟩ := hc.bind
  obtain ⟨cs₃, restarted, s₃, _, rfl, hsignal, hc⟩ := hc.bind
  obtain ⟨cs₄, changed, s₄, _, rfl, hdisk, hdone⟩ := hc.bind
  obtain ⟨rfl, rfl, rfl⟩ := hdone.of_pure
  have hrequests := hrequests.hostEmissions_nil (orders_withHost Host.orders_processRequests)
  have hsignal := hsignal.hostEmissions_nil orders_reloadOnSignal
  have hdisk := hdisk.hostEmissions_nil (orders_reloadFromDisk files t.clock)
  simp only [List.filterMap_append, hrequests, hostEmissions_tick htick, hsignal, hdisk,
    List.nil_append, List.append_nil]

theorem orders_reportCycle (frame : Nat) (r : CycleReport) :
    (reportCycle frame r : Chore D (Session D) Unit).Orders Order.OfSession := by
  unfold reportCycle
  split
  · exact orders_report _
  · exact .pure ()

/-- What the host emits in a round. -/
theorem Round.hostEmissions {files : Files} {t : Moment} {frame : Nat} {s after s' : Session D}
    {cs : List (Config D)} {r : CycleReport} (h : Round I files t frame s cs r after s') :
    cs.filterMap Config.hostEmission? = (Beat.round r after).emissions := by
  cases h with
  | intro hbegin hadvance hcycle hreport =>
    simp only [List.filterMap_append, hbegin.hostEmissions_emit, hadvance.hostEmissions_emit,
      hostEmissions_runCycle hcycle, hreport.hostEmissions_nil (orders_reportCycle frame r),
      List.append_nil]
    rfl

variable {files : Nat → Files} {turns : Nat → Turn} {k frame : Nat} {s s' : Session D}
  {cs : List (Config D)} {beats : List (Beat D)}

/-- **From beat to beat** the host emits what the beats say. -/
theorem Beats.hostEmissions (h : Beats I files turns k frame s cs beats s') :
    cs.filterMap Config.hostEmission? = beats.flatMap Beat.emissions := by
  induction h with
  | nil => rfl
  | round _ hround _ ih => rw [List.filterMap_append, hround.hostEmissions, ih, List.flatMap_cons]
  | goOn _ _ _ ih => exact ih
  | last _ _ hreport => exact hreport.hostEmissions_nil (orders_report _)

/-- Each round has one frame that begins, and one that advances. -/
theorem count_emissions (beats : List (Beat D)) {event : Event}
    (hevent : event = .frameBegin ∨ event = .frameAdvance) :
    (beats.flatMap Beat.emissions).count event = beats.countP Beat.isRound := by
  induction beats with
  | nil => rfl
  | cons beat rest ih =>
    rw [List.flatMap_cons, List.count_append, ih]
    cases beat with
    | heard value => simp [Beat.emissions, Beat.isRound]
    | round r after =>
      rw [List.countP_cons_of_pos rfl]
      rcases hevent with rfl | rfl
      · cases hticked : r.ticked <;> simp [Beat.emissions, hticked] <;> omega
      · cases hticked : r.ticked <;> simp [Beat.emissions, hticked] <;> omega

/-! ## What the beats leave -/

/-- Nothing touches the registry after a cycle. -/
theorem Round.registry {files : Files} {t : Moment} {frame : Nat} {s after s' : Session D}
    {cs : List (Config D)} {r : CycleReport} (h : Round I files t frame s cs r after s') :
    s'.host.registry = after.host.registry := by
  cases h with
  | intro _ _ _ hreport =>
    unfold reportCycle at hreport
    split at hreport
    · exact (trace_report hreport).1
    · rw [hreport.pure.2]

/-- **After the last cycle** nothing touches the registry. -/
theorem Beats.registry (h : Beats I files turns k frame s cs beats s') (s₀ : Session D)
    (hs : s.host.registry = s₀.host.registry) :
    s'.host.registry = (beats.foldl Beat.leaves s₀).host.registry := by
  induction h generalizing s₀ with
  | nil => exact hs
  | round _ hround _ ih => exact ih _ hround.registry
  | goOn _ _ _ ih => exact ih s₀ hs
  | last _ _ hreport => exact (trace_report hreport).1.trans hs

/-- A request for an end that was heard is the last thing that happened. -/
theorem Beats.heard_last (h : Beats I files turns k frame s cs beats s')
    {before after : List (Beat D)} (hbeats : beats = before ++ .heard true :: after) :
    after = [] := by
  induction h generalizing before with
  | nil => cases before <;> cases hbeats
  | round _ _ _ ih =>
    cases before with
    | nil => cases hbeats
    | cons b before => exact ih (List.cons.inj hbeats).2
  | goOn _ _ _ ih =>
    cases before with
    | nil => cases hbeats
    | cons b before => exact ih (List.cons.inj hbeats).2
  | last _ _ _ =>
    cases before with
    | nil => exact (List.cons.inj hbeats).2.symm
    | cons b before =>
      have hnil := (List.cons.inj hbeats).2
      simp at hnil

/-! ## Nobody asks for an end -/

/-- A timer tick leaves the shutdown channel alone. -/
theorem keepsChannel_tick (now : Int) :
    (tick now : Chore D (Session D) _).Orders Order.KeepsChannel := by
  apply Chore.Orders.state
  intro s
  split
  · refine (Chore.Orders.change _).bind fun _ => ?_
    exact Chore.Orders.bind ⟨fun _ => by simp, trivial⟩ fun _ => .pure _
  · exact .pure _

/-- A cycle leaves the shutdown channel alone. -/
theorem keepsChannel_runCycle (files : Files) (t : Moment) :
    (runCycle files t : Chore D (Session D) _).Orders Order.KeepsChannel := by
  have hkeeps : ∀ o : Order D, o.OfSession → o.KeepsChannel := fun o ho => ho.keepsChannel
  refine ((orders_withHost Host.orders_processRequests).mono hkeeps).bind fun _ => ?_
  refine (keepsChannel_tick _).bind fun _ => (orders_reloadOnSignal.mono hkeeps).bind fun _ => ?_
  exact ((orders_reloadFromDisk _ _).mono hkeeps).bind fun _ => .pure _

/-- A round leaves the channel undisturbed if no script asks for a shutdown. -/
theorem Round.undisturbed {files : Files} {t : Moment} {frame : Nat} {s after s' : Session D}
    {cs : List (Config D)} {r : CycleReport} (h : Round I files t frame s cs r after s')
    (hs : s.host.world.Undisturbed) (hcs : ∀ d ∈ cs, d.sends? ≠ some true) :
    s'.host.world.Undisturbed := by
  cases h with
  | intro hbegin hadvance hcycle hreport =>
    obtain ⟨hcs₁, hcs⟩ := List.forall_mem_append.mp hcs
    obtain ⟨hcs₂, hcs⟩ := List.forall_mem_append.mp hcs
    obtain ⟨hcs₃, hcs₄⟩ := List.forall_mem_append.mp hcs
    have hemit : ∀ event, (Chore.emit event : Chore D (Session D) Unit).Orders Order.KeepsChannel :=
      fun _ => ⟨fun _ => by simp, trivial⟩
    have h₁ := hbegin.undisturbed (hemit _) hs hcs₁
    have h₂ := hadvance.undisturbed (hemit _) h₁ hcs₂
    have h₃ := hcycle.undisturbed (keepsChannel_runCycle _ _) h₂ hcs₃
    exact hreport.undisturbed ((orders_reportCycle _ _).mono fun _ ho => ho.keepsChannel) h₃ hcs₄

/-- **Where nobody asks for an end**, the loop hears of none. -/
theorem Beats.undisturbed (h : Beats I files turns k frame s cs beats s')
    (hs : s.host.world.Undisturbed)
    (hmessages : ∀ j < beats.length, ∀ m ∈ (turns (k + j)).messages, m = .send false)
    (hcs : ∀ d ∈ cs, d.sends? ≠ some true) : .heard true ∉ beats := by
  have htold : ∀ {k : Nat} {s : Session D}, s.host.world.Undisturbed →
      (∀ m ∈ (turns k).messages, m = .send false) →
        (s.told (turns k).messages).host.world.Undisturbed :=
    fun hs hall => undisturbed_onShutdown hs fun w hw => hw.foldl_deliver hall
  have hlater : ∀ {k : Nat} {b : Beat D} {beats : List (Beat D)},
      (∀ j < (b :: beats).length, ∀ m ∈ (turns (k + j)).messages, m = .send false) →
        ∀ j < beats.length, ∀ m ∈ (turns (k + 1 + j)).messages, m = .send false := by
    intro k b beats hall j hj m hm
    have hlt : j + 1 < (b :: beats).length := Nat.succ_lt_succ hj
    rw [Nat.add_assoc, Nat.add_comm 1 j] at hm
    exact hall (j + 1) hlt m hm
  induction h with
  | nil => exact List.not_mem_nil
  | round _ hround _ ih =>
    obtain ⟨hcs₁, hcs₂⟩ := List.forall_mem_append.mp hcs
    have hfirst := htold hs (hmessages 0 (Nat.succ_pos _))
    simpa using ih (hround.undisturbed hfirst hcs₁) (hlater hmessages) hcs₂
  | goOn _ _ _ ih =>
    have hfirst := htold hs (hmessages 0 (Nat.succ_pos _))
    have hseen := undisturbed_onShutdown hfirst fun w hw => hw.see
    simpa using ih hseen (hlater hmessages) hcs
  | last _ hheard _ =>
    have hfirst := htold hs (hmessages 0 (Nat.succ_pos _))
    exact absurd hheard (heard_ne_of_undisturbed hfirst)

end Session

/-! ## Every script stops -/

namespace Host

/-- Destroying entries one after another leaves none of them an instance, and no entry
one that had none. -/
theorem trace_destroyAll {l : List Nat} {h h' : Host D} {cs : List (Config D)} {u : Unit}
    (hc : (destroyAll l).Trace I h cs u h') {i : Nat}
    (hi : i ∈ l ∨ h.registry.live? i = none) : h'.registry.live? i = none := by
  induction l generalizing h cs with
  | nil =>
    obtain ⟨-, rfl⟩ := hc.pure
    exact hi.resolve_left List.not_mem_nil
  | cons j rest ih =>
    obtain ⟨_, _, h₁, _, -, hfirst, hrest⟩ := hc.bind
    have hregistry := trace_destroy hfirst
    refine ih hrest ?_
    by_cases hij : i = j
    · right
      rw [hregistry, hij, Registry.live?, Registry.setLive, Registry.getElem?_modifyEntry]
      cases h.registry.entries[j]? <;> rfl
    · rcases hi with hi | hi
      · exact Or.inl ((List.mem_cons.mp hi).resolve_left hij)
      · right
        rw [hregistry, Registry.live?, Registry.setLive,
          Registry.getElem?_modifyEntry_of_ne _ (Ne.symm hij)]
        exact hi

/-- **Stopping** leaves no entry an instance. -/
theorem trace_stopAll {h h' : Host D} {cs : List (Config D)} {u : Unit}
    (hc : stopAll.Trace I h cs u h') :
    h'.registry.started = false ∧ h'.registry.liveCount = 0 ∧
      h'.registry.flags = h.registry.flags := by
  have hstarted := hc.of_ensures (yields_stopAll h.registry h rfl)
  have hflags := hc.of_ensures (yields_stopAll_flags h.registry h rfl)
  have hnone : ∀ i, h'.registry.live? i = none := by
    intro i
    obtain ⟨_, _, h₁, _, -, -, hc⟩ := hc.bind
    have hc := hc.state
    have hi : i ∈ List.range h₁.registry.entries.length ∨ h₁.registry.live? i = none := by
      by_cases hlt : i < h₁.registry.entries.length
      · exact Or.inl (List.mem_range.mpr hlt)
      · exact Or.inr (by simp [Registry.live?, Nat.le_of_not_lt hlt])
    dsimp only at hc
    split at hc
    · obtain ⟨_, _, h₂, _, -, hreport, hc⟩ := hc.bind
      have hsame := trace_report hreport
      exact trace_destroyAll hc (hi.imp_right fun hnone => hsame ▸ hnone)
    · exact trace_destroyAll hc hi
  refine ⟨hstarted, ?_, hflags⟩
  rw [Registry.liveCount_eq, Registry.lives, List.length_eq_zero_iff, List.filterMap_eq_nil_iff]
  intro e he
  obtain ⟨i, hi⟩ := List.getElem?_of_mem he
  simpa [Registry.live?, hi] using hnone i

end Host

namespace Session

variable {s s' : Session D} {cs : List (Config D)} {u : Unit}

/-! ## Opening and closing -/

theorem orders_reportStart (result : Except RegistryError Unit) :
    (reportStart result : Chore D (Session D) Unit).Orders Order.OfSession := by
  cases result with
  | ok => exact .pure ()
  | error e => exact orders_report _

/-- **Opening** emits nothing, and leaves everybody undisturbed who was so and whom no
script disturbs. -/
theorem trace_openEmulation {channel : Watch Bool}
    (hc : (openEmulation channel).Trace I s cs u s') :
    cs.filterMap Config.hostEmission? = [] ∧
      (channel.Undisturbed → (∀ d ∈ cs, d.sends? ≠ some true) → s'.host.world.Undisturbed) := by
  obtain ⟨cs₁, _, s₁, cs₂, rfl, hset, hc⟩ := hc.bind
  obtain ⟨rfl, rfl⟩ := trace_setShutdown hset
  have hall := orders_beginEmulation (D := D) |>.bind orders_reportStart
  refine ⟨hc.hostEmissions_nil hall, fun hchannel hcs => ?_⟩
  exact hc.undisturbed (hall.mono fun _ ho => ho.keepsChannel) ⟨channel, rfl, hchannel⟩ hcs

/-- **Closing** emits nothing, and leaves a registry that is not started, in which no
script has an instance, and each is wanted as before. -/
theorem trace_closeEmulation (hc : closeEmulation.Trace I s cs u s') :
    cs.filterMap Config.hostEmission? = [] ∧ s'.host.registry.started = false ∧
      s'.host.registry.liveCount = 0 ∧ s'.host.registry.flags = s.host.registry.flags := by
  obtain ⟨cs₁, _, s₁, cs₂, rfl, hend, hset⟩ := hc.bind
  obtain ⟨rfl, rfl⟩ := trace_setShutdown hset
  have hsilent := hend.hostEmissions_nil orders_endEmulation
  obtain ⟨_, _, s₂, _, -, hreport, hstop⟩ := hend.bind
  obtain ⟨hstop, -⟩ := trace_host hstop
  obtain ⟨hstarted, hlive, hflags⟩ := Host.trace_stopAll hstop
  rw [List.append_nil, ← (trace_report hreport).1]
  exact ⟨hsilent, hstarted, hlive, hflags⟩

/-! ## From the opening to the closing -/

/-- An emulation that has run `n` frames, beat by beat, from the session in which the
scripts had started. -/
structure Emulated (I : Interpreter D) (o : EmulationOptions) (channel : Watch Bool)
    (files : Nat → Files) (turns : Nat → Turn) (s : Session D) (cs : List (Config D)) (n : Nat)
    (s' started : Session D) (beats : List (Beat D)) : Prop where
  /-- All scripts start, the beats follow, and all scripts stop. -/
  trace : ∃ opening middle closing s₁, cs = opening ++ (middle ++ closing) ∧
    (openEmulation channel).Trace I s opening () started ∧
    Beats I files turns 0 0 started middle beats s₁ ∧ closeEmulation.Trace I s₁ closing () s'
  /-- So many rounds were run. -/
  rounds : n = beats.countP Beat.isRound
  /-- The host emits what the rounds say, in their order, and nothing else. -/
  emissions : cs.filterMap Config.hostEmission? = beats.flatMap Beat.emissions
  begun : n = (cs.filterMap Config.hostEmission?).count .frameBegin
  advanced : n = (cs.filterMap Config.hostEmission?).count .frameAdvance
  within : ∀ l, o.frames = some l → n ≤ l
  /-- It has ended at the limit, or because it heard that it should. -/
  ended : o.frames = some n ∨ beats.getLast? = some (.heard true)
  /-- If the sender of the channel stays, and neither scripts nor others ask for the end,
  it has ended at the limit. -/
  full : channel.Undisturbed → (∀ k < beats.length, ∀ m ∈ (turns k).messages, m = .send false) →
    (∀ c ∈ cs, c.sends? ≠ some true) → o.frames = some n
  /-- Once it has heard that it should end, nothing more is done. -/
  last : ∀ before after, beats = before ++ .heard true :: after → after = []
  stopped : s'.host.registry.started = false
  liveCount : s'.host.registry.liveCount = 0
  /-- Each script is wanted as after the last cycle, or as after the start without one. -/
  flags : s'.host.registry.flags = (beats.foldl Beat.leaves started).host.registry.flags

/-- **An opening, some beats and a closing** make up an emulation. -/
theorem emulated_of_beats {o : EmulationOptions} {channel : Watch Bool} {files : Nat → Files}
    {turns : Nat → Turn} {opening middle closing : List (Config D)} {started last : Session D}
    {beats : List (Beat D)} {n fuel : Nat}
    (hopen : (openEmulation channel).Trace I s opening () started)
    (hbeats : Beats I files turns 0 0 started middle beats last)
    (hwithin : ∀ l, o.frames = some l → beats.countP Beat.isRound ≤ l)
    (hends : EndsWith o.frames fuel 0 beats (some n))
    (hclose : closeEmulation.Trace I last closing () s') :
    Emulated I o channel files turns s (opening ++ (middle ++ closing)) n s' started beats := by
  obtain ⟨hn, hended⟩ := hends
  rw [Nat.zero_add] at hn
  obtain ⟨hopening, hundisturbed⟩ := trace_openEmulation hopen
  obtain ⟨hclosing, hstopped, hlive, hflags⟩ := trace_closeEmulation hclose
  have hemissions : (opening ++ (middle ++ closing)).filterMap Config.hostEmission?
      = beats.flatMap Beat.emissions := by
    rw [List.filterMap_append, List.filterMap_append, hopening, hclosing, hbeats.hostEmissions,
      List.nil_append, List.append_nil]
  refine
    { trace := ⟨opening, middle, closing, last, rfl, hopen, hbeats, hclose⟩
      rounds := hn
      emissions := hemissions
      begun := ?_
      advanced := ?_
      within := hn ▸ hwithin
      ended := hended
      full := ?_
      last := fun _ _ => hbeats.heard_last
      stopped := hstopped
      liveCount := hlive
      flags := ?_ }
  · rw [hemissions, count_emissions beats (Or.inl rfl), hn]
  · rw [hemissions, count_emissions beats (Or.inr rfl), hn]
  · intro hchannel hmessages hcs
    obtain ⟨hcs₁, hcs⟩ := List.forall_mem_append.mp hcs
    obtain ⟨hcs₂, -⟩ := List.forall_mem_append.mp hcs
    have hunheard := hbeats.undisturbed (hundisturbed hchannel hcs₁) (by simpa using hmessages) hcs₂
    exact hended.resolve_right fun hlast => hunheard (List.mem_of_getLast? hlast)
  · rw [hflags, Registry.flags, Registry.flags, hbeats.registry started rfl]

/-- **The emulation runs in rounds.**  Whatever session it is, however it is to run,
whatever the files are at each turn, whatever others do with the shutdown channel, and
whether messages or ticks are taken first: if it comes to its end, then all scripts
started once, rounds were run or messages taken, and all scripts stopped once.  The
number it answers with is that of the rounds, of which each has one frame that begins,
one that advances, and one cycle; the host emits these and the ticks of the cycles, in
that order, and nothing else.  There are never more than the limit says, and not fewer
where the sender stays and nobody asks for the end; once it was heard that somebody
does, there is no further round.  In the end the registry is not started, no script has
an instance, and each is wanted as the last cycle left it.

It may be that the turns do not suffice; then each of them was a round or a message.
Where there is to be no time between two frames, the scripts start, and that is all. -/
theorem emulate_in_rounds {o : EmulationOptions} {channel : Watch Bool} {files : Nat → Files}
    {turns : Nat → Turn} {fuel : Nat} {result : EmulationResult}
    (hc : (emulate o channel files turns fuel).Trace I s cs result s') :
    (∀ n, result = .ran n → o.interval ≠ 0 ∧
        ∃ started beats, Emulated I o channel files turns s cs n s' started beats) ∧
      (result = .unfinished → o.interval ≠ 0 ∧ ∃ opening middle started beats,
        cs = opening ++ middle ∧ (openEmulation channel).Trace I s opening () started ∧
          Beats I files turns 0 0 started middle beats s' ∧ beats.length = fuel ∧
          ∀ l, o.frames = some l → beats.countP Beat.isRound ≤ l) ∧
      (result = .noClock → o.interval = 0 ∧ (openEmulation channel).Trace I s cs () s') := by
  obtain ⟨opening, _, started, cs', rfl, hopen, hc⟩ := hc.bind
  split at hc
  · next hzero =>
    obtain ⟨rfl, rfl, rfl⟩ := hc.of_pure
    rw [List.append_nil]
    exact ⟨by simp, by simp, fun _ => ⟨hzero, hopen⟩⟩
  · next hinterval =>
    obtain ⟨middle, ran, last, rest, rfl, hframes, hc⟩ := hc.bind
    obtain ⟨beats, hbeats, hwithin, hends⟩ := trace_frames (by simp) hframes
    simp only [Nat.zero_add] at hwithin
    cases ran with
    | none =>
      obtain ⟨rfl, rfl, rfl⟩ := hc.of_pure
      rw [List.append_nil]
      refine ⟨by simp, fun _ => ?_, by simp⟩
      exact ⟨hinterval, opening, middle, started, beats, rfl, hopen, hbeats, hends, hwithin⟩
    | some n =>
      obtain ⟨closing, _, s₁, _, rfl, hclose, hc⟩ := hc.bind
      obtain ⟨rfl, rfl, rfl⟩ := hc.of_pure
      refine ⟨?_, by simp, by simp⟩
      rintro _ ⟨⟩
      rw [List.append_nil]
      exact ⟨hinterval, started, beats, emulated_of_beats hopen hbeats hwithin hends hclose⟩

/-- A session in which a script runs goes through two frames, and between them hears that
it is to go on. -/
theorem emulate_in_rounds_two_frames :
    ∃ cs s', (emulate ⟨some 2, 16⟩ (.new false) (fun _ => ⟨.dir "" [] 0, [], 0⟩)
        (fun k => ⟨⟨16 * k, 16 * k⟩, if k = 1 then [.send false] else [], true⟩) 5).Trace
        Specimen.interpreter (Specimen.restartRun true 41).1.session cs (.ran 2) s' ∧
      (cs.filterMap Config.hostEmission?).count .frameBegin = 2 ∧
      s'.host.registry.started = false ∧ s'.host.registry.liveCount = 0 := by
  have hran : ((emulate ⟨some 2, 16⟩ (.new false) (fun _ => ⟨.dir "" [] 0, [], 0⟩)
        (fun k => ⟨⟨16 * k, 16 * k⟩, if k = 1 then [.send false] else [], true⟩) 5).run
        Specimen.interpreter (Specimen.restartRun true 41).1.session).map Prod.fst
      = some (.ran 2) := by decide +kernel
  obtain ⟨⟨result, s'⟩, hrun, rfl⟩ := Option.map_eq_some_iff.mp hran
  obtain ⟨cs, htrace⟩ := Chore.trace_of_run hrun
  obtain ⟨-, started, beats, hemulated⟩ := (emulate_in_rounds htrace).1 2 rfl
  exact ⟨cs, s', htrace, hemulated.begun.symm, hemulated.stopped, hemulated.liveCount⟩

end Session

end ScriptHost
