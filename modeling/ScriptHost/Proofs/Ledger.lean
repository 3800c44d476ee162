import ScriptHost.Proofs.Wakeup

/-!
# The ledger of a world

While the machine runs, the queue of deferred requests and the number of emissions do
nothing but grow, and the shutdown channel takes what is sent on it.  They make up the
`Ledger`.  What is added to it can be read off the act that is done next: the request it
pushes (`Act.pushes`), the emission it begins (`Act.begins?`), the value it sends
(`Act.sends?`); everything else leaves the ledger alone.

* `Frame.ledger_advance` — what a step adds to the ledger;
* `Config.Move.emits` — an emission begins in a move if code emits an event, or if the end
  of an instance is announced.
-/

namespace ScriptHost

variable {D : Dialect}

/-- What is only added to while the machine runs. -/
structure Ledger where
  requests : List Request
  emissions : Nat
  shutdown : Option (Watch Bool)

/-- The ledger with more requests, and with an emission more if one has begun. -/
def Ledger.add (l : Ledger) (requests : List Request) (begun : Option Event) : Ledger :=
  ⟨l.requests ++ requests, l.emissions + begun.isSome.toNat, l.shutdown⟩

/-- The ledger with a value sent on the shutdown channel, if one was. -/
def Ledger.send (l : Ledger) (sent : Option Bool) : Ledger :=
  { l with shutdown := sent.elim l.shutdown fun value => l.shutdown.map (·.send value) }

/-- Nothing pushed and nothing emitted leaves the ledger as it was. -/
@[simp] theorem Ledger.add_nothing (l : Ledger) : l.add [] none = l := by
  simp [add]

@[simp] theorem Ledger.send_none (l : Ledger) : l.send none = l :=
  rfl

namespace World

/-- The ledger of a world. -/
def ledger (w : World D) : Ledger :=
  ⟨w.requests, w.emissions, w.shutdown⟩

/-- The request that reaches the queue when an instance makes one. -/
def pushed (w : World D) (i : Nat) (kind : RequestKind) (path : Path) : List Request :=
  if (w.instance? i).any fun x => !x.detached then [⟨kind, path⟩] else []

/-- What is emitted when an instance is to end. -/
def farewell? (w : World D) (i : Nat) : Option Event :=
  ((w.instance? i).filter Instance.isAlive).map fun x => .scriptEnd x.id

end World

/-- The requests an act adds to the queue. -/
def Act.pushes (w : World D) : Act D → List Request
  | .request i kind path => w.pushed i kind path
  | .requestStopSelf i => ((w.instance? i).map fun x => w.pushed i .stop x.path).getD []
  | _ => []

/-- The event of the emission an act begins. -/
def Act.begins? (w : World D) : Act D → Option Event
  | .emit event => some event
  | .terminate name => (w.held.lookup name).bind w.farewell?
  | _ => none

/-- The value an act sends on the shutdown channel. -/
def Act.sends? : Act D → Option Bool
  | .shutdown value => some value
  | _ => none

/-- The requests the next step of a frame adds to the queue. -/
def Frame.pushes (w : World D) (f : Frame D) : List Request :=
  (f.nextAct?.map (·.pushes w)).getD []

/-- The event of the emission the next step of a frame begins. -/
def Frame.begins? (w : World D) (f : Frame D) : Option Event :=
  f.nextAct?.bind (·.begins? w)

/-- The value the next step of a frame sends on the shutdown channel. -/
def Frame.sends? (f : Frame D) : Option Bool :=
  f.nextAct?.bind Act.sends?

/-! ## What leaves the ledger alone -/

namespace World

@[simp] theorem ledger_record (w : World D) (h : Happening D) : (w.record h).ledger = w.ledger :=
  rfl

@[simp] theorem ledger_log (w : World D) (n : Notice) : (w.log n).ledger = w.ledger :=
  rfl

/-- Tables are not in the ledger. -/
@[simp] theorem ledger_modifySubscriptions (w : World D) (desk : Desk)
    (f : Subscriptions D → Subscriptions D) : (w.modifySubscriptions desk f).ledger = w.ledger := by
  cases desk <;> rfl

/-- Who leaves a desk is not in the ledger. -/
@[simp] theorem ledger_recordLeft (w : World D) (desk : Desk) (why : Farewell)
    (serials : List Nat) : (w.recordLeft desk why serials).ledger = w.ledger :=
  recordLeft_congr (f := World.ledger) (fun _ _ => rfl) w serials

/-- That a pass is over is not in the ledger. -/
@[simp] theorem ledger_endPass (w : World D) (desk : Desk) (kind : EventKind) (resumed : Nat) :
    (w.endPass desk kind resumed).ledger = w.ledger :=
  endPass_congr (f := World.ledger) (fun _ _ => rfl) (fun _ => rfl) w

/-- That a table is cleared is not in the ledger. -/
@[simp] theorem ledger_clear (w : World D) (desk : Desk) : (w.clear desk).ledger = w.ledger := by
  simp [clear]

/-- A coroutine that is handed over is not in the ledger. -/
@[simp] theorem ledger_accept (w : World D) (desk : Desk) (routine : D.Coroutine) :
    (w.accept desk routine).2.ledger = w.ledger := by
  simp [accept]

/-- A coroutine that waits is not in the ledger. -/
@[simp] theorem ledger_park (w : World D) (desk : Desk) (kind : EventKind) (task : Task D) :
    (w.park desk kind task).ledger = w.ledger := by
  simp [park]

/-- A coroutine that is started is not in the ledger. -/
@[simp] theorem ledger_start (I : Interpreter D) (w : World D) (desk : Desk)
    (routine : D.Coroutine) : (w.start I desk routine).1.ledger = w.ledger := by
  simp [start, resume]

/-- What a coroutine comes to is not in the ledger. -/
@[simp] theorem ledger_concludeCoroutine (w : World D) (desk : Desk) (s : Nat)
    (r : Except ScriptError (Yield D)) : (w.concludeCoroutine desk s r).ledger = w.ledger := by
  cases r with
  | error e => cases e <;> rfl
  | ok y =>
    cases y with
    | finished => rfl
    | await request rest =>
      simp only [concludeCoroutine]
      split
      · exact ledger_park w desk _ _
      · rfl

/-- A listener that is taken off is not in the ledger. -/
theorem ledger_unlisten {w w' : World D} {id : ListenerId} (h : w.unlisten id = .ok w') :
    w'.ledger = w.ledger :=
  unlisten_congr (f := World.ledger) (fun _ _ => rfl) (fun _ _ => rfl) h

@[simp] theorem ledger_detachAll (w : World D) (id : ScriptId) (listeners : List ListenerId) :
    (w.detachAll id listeners).ledger = w.ledger :=
  detachAll_congr (f := World.ledger) (fun _ _ => rfl) (fun _ _ => rfl) w id listeners

/-- The end of an instance is entered when it begins, not when it is complete. -/
@[simp] theorem ledger_finishEnding (w : World D) (i : Nat) :
    (w.finishEnding i).ledger = w.ledger := by
  unfold finishEnding
  split
  · rfl
  · simp only [ledger_record, ledger_log, ledger_clear, ledger_detachAll]
    rfl

/-- An instance that comes into being is not in the ledger. -/
@[simp] theorem ledger_beginLife (w : World D) (id : ScriptId) (path : Path) (detached : Bool) :
    (w.beginLife id path detached).ledger = w.ledger := by
  suffices h : ∀ (kinds : List EventKind) (w : World D) (i : Nat),
      (w.attach i kinds).ledger = w.ledger from h _ _ _
  intro kinds
  induction kinds with
  | nil => exact fun _ _ => rfl
  | cons kind rest ih => exact fun w i => ih _ i

/-- A delivery that begins is not in the ledger. -/
@[simp] theorem ledger_deliver (w : World D) (i : Nat) (event : Event) :
    (w.deliver i event).1.ledger = w.ledger := by
  unfold deliver
  split
  · rfl
  · split
    · rfl
    · split
      · rfl
      · simp [beginPass]

@[simp] theorem ledger_logClosed (w : World D) (desk : Desk) (n : ScriptId → ScriptNotice) :
    (w.logClosed desk n).ledger = w.ledger := by
  unfold logClosed
  split
  · split <;> rfl
  · rfl

/-- Callbacks are not in the ledger. -/
@[simp] theorem ledger_setCallback (w : World D) (callable : D.Callback → Bool) (i : Nat)
    (kind : EventKind) (callback : Option D.Callback) :
    (w.setCallback callable i kind callback).2.ledger = w.ledger := by
  unfold setCallback
  split
  · rfl
  · split
    · rfl
    · simp only
      split
      · rw [ledger_modifySubscriptions, ledger_log]
      · rfl

/-! ## What an act adds -/

/-- A request is entered if it reaches the queue. -/
theorem ledger_request (w : World D) (i : Nat) (kind : RequestKind) (path : Path) :
    (w.request i kind path).ledger = w.ledger.add (w.pushed i kind path) none := by
  unfold request pushed
  cases hx : w.instance? i with
  | none => simp
  | some x =>
    cases hdetached : x.detached with
    | true => simp [hdetached]
    | false =>
      simp only [hdetached, Option.any_some, Bool.not_false, if_true]
      rfl

/-- The end of an instance is announced by an emission, if it has not ended. -/
theorem beginEnding_of_farewell? {w : World D} {i : Nat} {event : Event}
    (h : w.farewell? i = some event) :
    (w.beginEnding i).1.ledger = w.ledger.add [] (some event) ∧
      (w.beginEnding i).2
        = [.emission w.emissions event (w.hub.listeners event.kind), .ending i] := by
  obtain ⟨x, hx, rfl⟩ := Option.map_eq_some_iff.mp h
  obtain ⟨hx, halive⟩ := Option.filter_eq_some_iff.mp hx
  simp only [beginEnding, hx, halive, if_true]
  exact ⟨by simp [ledger, Ledger.add, beginEmission, log, record], rfl⟩

/-- An instance that has ended, or whose end has begun, does not end again. -/
theorem beginEnding_of_ended {w : World D} {i : Nat} (h : w.farewell? i = none) :
    w.beginEnding i = (w, []) := by
  unfold beginEnding
  split
  · rfl
  · next x hx =>
    have hended : x.isAlive = false := by simpa [farewell?, hx, Option.filter] using h
    simp [hended]

/-- The announcement of an end is entered when the end begins. -/
theorem ledger_beginEnding (w : World D) (i : Nat) :
    (w.beginEnding i).1.ledger = w.ledger.add [] (w.farewell? i) := by
  cases h : w.farewell? i with
  | none => rw [beginEnding_of_ended h, Ledger.add_nothing]
  | some event => exact (beginEnding_of_farewell? h).1

/-- **What an act adds to the ledger.** -/
theorem ledger_act (I : Interpreter D) (w : World D) (a : Act D) :
    (w.act I a).2.1.ledger = (w.ledger.add (a.pushes w) (a.begins? w)).send a.sends? := by
  cases a with
  | emit event =>
    simp [act, Act.pushes, Act.begins?, Act.sends?, ledger, Ledger.add, beginEmission, log, record]
  | unlisten id =>
    cases h : w.unlisten id with
    | ok w' => simp [act, h, ledger_unlisten h, Act.pushes, Act.begins?, Act.sends?]
    | error e => simp [act, h, Act.pushes, Act.begins?, Act.sends?]
  | terminate name =>
    cases h : w.held.lookup name with
    | none => simp [act, h, Act.pushes, Act.begins?, Act.sends?]
    | some i =>
      simp only [act, h, Act.pushes, Act.begins?, Option.bind_some, Act.sends?, Ledger.send_none]
      exact ledger_beginEnding (w.takeHeld name) i
  | awaitNext desk kind routine =>
    simp only [act, awaitNext, Act.pushes, Act.begins?, Act.sends?, Ledger.add_nothing,
      Ledger.send_none]
    split <;> simp
  | schedule desk request routine =>
    simp only [act, schedule, Act.pushes, Act.begins?, Act.sends?, Ledger.add_nothing,
      Ledger.send_none]
    split
    · split <;> simp
    · rfl
  | spawn desk routine =>
    simp only [act, Act.pushes, Act.begins?, Act.sends?, Ledger.add_nothing, Ledger.send_none]
    split <;> simp
  | on i event callback =>
    simp only [act, Act.pushes, Act.begins?, Act.sends?, Ledger.add_nothing, Ledger.send_none]
    split <;> simp
  | request i kind path => exact ledger_request w i kind path
  | requestStopSelf i =>
    simp only [act, Act.pushes, Act.begins?, Act.sends?, Ledger.send_none]
    cases hx : w.instance? i with
    | none => simp
    | some x => exact ledger_request w i .stop x.path
  | identity i =>
    simp only [act, Act.pushes, Act.begins?, Act.sends?, Ledger.add_nothing, Ledger.send_none]
    split <;> rfl
  | shutdown value =>
    simp only [act, Act.pushes, Act.begins?, Act.sends?, Ledger.add_nothing]
    rfl
  | notify n kind args test =>
    simp only [act, Act.pushes, Act.begins?, Act.sends?, Ledger.add_nothing, Ledger.send_none]
    exact ledger_modifySubscriptions w (.bench n) (·.drain kind)
  | listen | awaiting | resumed => simp [act, Act.pushes, Act.begins?, Act.sends?] <;> rfl
  | setCallback | clearCallbacks | reset => simp [act, Act.pushes, Act.begins?, Act.sends?]

/-- An act that begins an emission emits an event, or announces the end of somebody who
is held. -/
theorem act_of_begins? (I : Interpreter D) {w : World D} {a : Act D} {event : Event}
    (h : a.begins? w = some event) :
    (a = .emit event ∧ (w.act I a).2.2
        = [.emission w.emissions event (w.hub.listeners event.kind)]) ∨
      ∃ i rest, (w.act I a).2.2 = .emission w.emissions event (w.hub.listeners event.kind)
        :: .ending i :: rest ∧ w.farewell? i = some event := by
  cases a with
  | emit event' =>
    obtain rfl := Option.some.inj h
    exact Or.inl ⟨rfl, rfl⟩
  | terminate name =>
    obtain ⟨i, hheld, hfarewell⟩ := Option.bind_eq_some_iff.mp h
    have hstarted := (beginEnding_of_farewell? (w := w.takeHeld name) hfarewell).2
    refine Or.inr ⟨i, [.putBack name i], ?_, hfarewell⟩
    simp only [act, hheld, hstarted]
    rfl
  | listen | unlisten | shutdown | awaitNext | schedule | spawn | awaiting | setCallback | on
  | clearCallbacks | reset | request | requestStopSelf | identity | notify | resumed => cases h

end World

/-! ## What a step adds -/

namespace Frame

variable (I : Interpreter D)

/-- A step that does no act leaves the ledger alone. -/
theorem ledger_of_nextAct?_eq_none (w : World D) {f : Frame D} (h : f.nextAct? = none) :
    (f.advance I w).1.ledger = w.ledger := by
  cases f with
  | emission n event listeners =>
    cases listeners with
    | nil => rfl
    | cons l rest =>
      simp only [advance]
      split
      · rfl
      · exact World.ledger_deliver _ _ event
  | pass desk kind args pulse queue n =>
    cases queue with
    | nil => exact World.ledger_endPass w desk kind n
    | cons task queue =>
      simp only [advance]
      split
      · rfl
      · rw [World.ledger_endPass, World.ledger_recordLeft]
        rfl
  | callback j kind args =>
    simp only [advance]
    split <;> rfl
  | coroutine desk serial code =>
    cases code with
    | act => cases h
    | ret r => exact World.ledger_concludeCoroutine w desk serial r
    | read | write | remark | log => rfl
  | call j kind code =>
    cases code with
    | act => cases h
    | ret r =>
      rcases r with e | outcome
      · simp only [advance, Code.progress]
        split <;> rfl
      · cases outcome with
        | done => rfl
        | spawn routine => exact World.ledger_start I w (.script j) routine
    | read | write | remark | log => rfl
  | handler code =>
    cases code with
    | act => cases h
    | ret | read | write | remark | log => rfl
  | entry j code =>
    cases code with
    | act => cases h
    | ret r =>
      rcases r with e | main
      · simp only [advance, Code.progress]
        split <;> rfl
      · cases main with
        | none => rfl
        | some routine => exact World.ledger_start I w (.script j) routine
    | read | write | remark | log => rfl
  | settle j => rfl
  | ending j => exact World.ledger_finishEnding w j
  | putBack name j => rfl

/-- **A step adds to the ledger what its act adds**, and nothing where it does none. -/
theorem ledger_advance (w : World D) (f : Frame D) :
    (f.advance I w).1.ledger = (w.ledger.add (f.pushes w) (f.begins? w)).send f.sends? := by
  cases hact : f.nextAct? with
  | none => simp [pushes, begins?, sends?, hact, ledger_of_nextAct?_eq_none I w hact]
  | some a =>
    obtain ⟨g, -, hadvance⟩ := f.advance_of_nextAct? I w hact
    simp [pushes, begins?, sends?, hact, hadvance, World.ledger_act]

/-- A step that begins an emission starts it above everything else: the one its code
asks for, which goes on below it, or the one that announces an end, which is completed
below it. -/
theorem advance_of_begins? {w : World D} {f : Frame D} {event : Event}
    (h : f.begins? w = some event) :
    ∃ next started, (f.advance I w).2
        = .emission w.emissions event (w.hub.listeners event.kind) :: next :: started ∧
      (f.nextAct? = some (.emit event) ∧ next.ends? = none ∨
        ∃ i, next = .ending i ∧ w.farewell? i = some event) := by
  obtain ⟨a, hact, hbegins⟩ := Option.bind_eq_some_iff.mp h
  obtain ⟨g, hends, hadvance⟩ := f.advance_of_nextAct? I w hact
  rw [hadvance]
  rcases World.act_of_begins? I hbegins with ⟨rfl, hstarted⟩ | ⟨i, rest, hstarted, hfarewell⟩
  · exact ⟨g, [], by rw [hstarted]; rfl, Or.inl ⟨hact, hends⟩⟩
  · exact ⟨.ending i, rest ++ [g], by rw [hstarted]; rfl, Or.inr ⟨i, rfl, hfarewell⟩⟩

end Frame

/-- When the host takes the initiative, no emission begins but the one that announces an
end. -/
theorem Initiative.emits {w w' : World D} {started : List (Frame D)}
    (h : Initiative w w' started) :
    w'.emissions = w.emissions ∨
      (w'.emissions = w.emissions + 1 ∧ ∃ event i,
        started = [.emission w.emissions event (w.hub.listeners event.kind), .ending i] ∧
        w.farewell? i = some event) := by
  cases h with
  | terminate i =>
    cases hfarewell : w.farewell? i with
    | none => exact Or.inl (by rw [World.beginEnding_of_ended hfarewell])
    | some event =>
      obtain ⟨hledger, hstarted⟩ := World.beginEnding_of_farewell? hfarewell
      exact Or.inr ⟨congrArg Ledger.emissions hledger, event, i, hstarted, hfarewell⟩
  | spawn id path detached code =>
    exact Or.inl (congrArg Ledger.emissions (w.ledger_beginLife id path detached))
  | code | notify | addBench | hold | takeHeld | setRequests | setShutdown => exact Or.inl rfl

namespace Config

variable {I : Interpreter D}

/-- **When an emission begins.**  In a move of the machine, or of the host, at most one
emission begins, and it stands above everything else then.  Either code has asked for
it, and goes on below; or the end of an instance that had not ended is announced, and is
completed below. -/
theorem Move.emits {c c' : Config D} (h : c.Move I c') :
    c'.world.emissions = c.world.emissions ∨
      (c'.world.emissions = c.world.emissions + 1 ∧ ∃ event next started,
        c'.stack = .emission c.world.emissions event (c.world.hub.listeners event.kind)
          :: next :: started ∧
        (c.nextAct? = some (.emit event) ∧ next.ends? = none ∨
          ∃ i, next = .ending i ∧ c.world.farewell? i = some event)) := by
  rcases h.cases with ⟨f, rest, hstack, rfl⟩ | ⟨-, hinit⟩
  · have hledger := congrArg Ledger.emissions (f.ledger_advance I c.world)
    cases hbegins : f.begins? c.world with
    | none =>
      rw [hbegins] at hledger
      exact Or.inl hledger
    | some event =>
      rw [hbegins] at hledger
      obtain ⟨next, started, hstarted, hwhy⟩ := f.advance_of_begins? I hbegins
      refine Or.inr ⟨hledger, event, next, started ++ rest, by rw [hstarted]; rfl, ?_⟩
      refine hwhy.imp_left fun hemit => ?_
      simpa [nextAct?, hstack] using hemit
  · rcases hinit.emits with hsame | ⟨hcount, event, i, hstarted, hfarewell⟩
    · exact Or.inl hsame
    · exact Or.inr ⟨hcount, event, .ending i, [], hstarted, Or.inr ⟨i, rfl, hfarewell⟩⟩

end Config

end ScriptHost
