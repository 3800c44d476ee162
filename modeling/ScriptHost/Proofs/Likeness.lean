import ScriptHost.Proofs.Bystanders

/-!
# What scripts cannot tell apart

Scripts learn nothing of the journal or of the number of emissions so far, and perhaps
there is something in the memory that they do not look at.  Two worlds are **alike** if
they differ in nothing else.  They are **abreast** if their journals, moreover, have gained
the same since some moment or other, but for the numbers of emissions.  Whatever is done to
two such worlds leaves them so.

* `World.Abreast.finishEnding` and the like — one lemma for each operation;
* `Code.Alike`, `Frame.Alike` — the same code and the same activity, but for what they keep
  of memories that are alike;
* `Interpreter.heedless_of_eq` — where nothing is hidden in the memory, nothing is asked of
  the scripts.
-/

namespace ScriptHost

variable {D : Dialect} {α : Type}

/-- An entry of the journal, but for the number of the emission it is about. -/
def Happening.unnumbered : Happening D → Happening D
  | .emission _ event listeners => .emission 0 event listeners
  | .reached _ id => .reached 0 id
  | x => x

namespace World

/-- Two worlds differ in nothing but the journal, the number of emissions so far, and what
memories that are alike may differ in. -/
structure Alike (M : Setoid D.Memory) (w₁ w₂ : World D) : Prop where
  hub : w₁.hub = w₂.hub
  instances : w₁.instances = w₂.instances
  benches : w₁.benches = w₂.benches
  held : w₁.held = w₂.held
  requests : w₁.requests = w₂.requests
  shutdown : w₁.shutdown = w₂.shutdown
  memory : M.r w₁.memory w₂.memory

/-- They are alike, and what their journals have gained in the meantime is the same but for
the numbers of emissions.  The journals before that were `old₁` and `old₂`. -/
structure Abreast (M : Setoid D.Memory) (old₁ old₂ : List (Happening D)) (w₁ w₂ : World D) :
    Prop extends Alike M w₁ w₂ where
  gained : ∃ news₁ news₂, w₁.journal = news₁ ++ old₁ ∧ w₂.journal = news₂ ++ old₂ ∧
    news₁.map Happening.unnumbered = news₂.map Happening.unnumbered

variable {M : Setoid D.Memory} {old₁ old₂ : List (Happening D)} {w₁ w₂ : World D}

namespace Alike

/-- Being alike goes both ways. -/
theorem symm (h : Alike M w₁ w₂) : Alike M w₂ w₁ :=
  ⟨h.hub.symm, h.instances.symm, h.benches.symm, h.held.symm, h.requests.symm, h.shutdown.symm,
    M.iseqv.symm h.memory⟩

/-- Alike worlds have the same instances. -/
theorem instance? (h : Alike M w₁ w₂) (i : Nat) : w₁.instance? i = w₂.instance? i := by
  simp only [World.instance?, h.instances]

/-- In alike worlds the same instances are alive. -/
theorem isAlive (h : Alike M w₁ w₂) (i : Nat) : w₁.isAlive i = w₂.isAlive i := by
  simp only [World.isAlive, h.instance?]

/-- In alike worlds the same desks take coroutines. -/
theorem isOpen (h : Alike M w₁ w₂) (d : Desk) : w₁.isOpen d = w₂.isOpen d := by
  cases d with
  | script i => exact h.isAlive i
  | bench n => rfl

/-- In alike worlds the same coroutines wait at a desk, and the same callbacks are set. -/
theorem subscriptions (h : Alike M w₁ w₂) (d : Desk) :
    w₁.subscriptions d = w₂.subscriptions d := by
  cases d <;> simp only [World.subscriptions, h.instance?, h.benches]

/-- In alike worlds a desk goes by the same name. -/
theorem label (h : Alike M w₁ w₂) (d : Desk) : w₁.label d = w₂.label d := by
  cases d <;> simp only [World.label, h.instance?, h.benches]

end Alike

namespace Abreast

/-- Staying abreast goes both ways. -/
theorem symm (h : Abreast M old₁ old₂ w₁ w₂) : Abreast M old₂ old₁ w₂ w₁ := by
  obtain ⟨news₁, news₂, hnews₁, hnews₂, hsame⟩ := h.gained
  exact ⟨h.toAlike.symm, news₂, news₁, hnews₂, hnews₁, hsame.symm⟩

/-- Two worlds that are alike are abreast from now on. -/
theorem of_alike (h : Alike M w₁ w₂) : Abreast M w₁.journal w₂.journal w₁ w₂ :=
  ⟨h, [], [], rfl, rfl, rfl⟩

/-- What happens in both runs, but for the number of the emission, keeps them abreast. -/
theorem record (h : Abreast M old₁ old₂ w₁ w₂) {x₁ x₂ : Happening D}
    (hx : x₁.unnumbered = x₂.unnumbered) :
    Abreast M old₁ old₂ (w₁.record x₁) (w₂.record x₂) := by
  obtain ⟨news₁, news₂, hnews₁, hnews₂, hsame⟩ := h.gained
  exact { h with
    gained := ⟨x₁ :: news₁, x₂ :: news₂, congrArg (x₁ :: ·) hnews₁, congrArg (x₂ :: ·) hnews₂,
      congrArg₂ List.cons hx hsame⟩ }

/-- A notice in both runs keeps them abreast. -/
theorem log (h : Abreast M old₁ old₂ w₁ w₂) (n : Notice) :
    Abreast M old₁ old₂ (w₁.log n) (w₂.log n) :=
  h.record rfl

/-- What is done to one instance in both runs keeps them abreast. -/
theorem modifyInstance (h : Abreast M old₁ old₂ w₁ w₂) (i : Nat) (f : Instance D → Instance D) :
    Abreast M old₁ old₂ (w₁.modifyInstance i f) (w₂.modifyInstance i f) :=
  { h with instances := congrArg (List.modify · i f) h.instances }

/-- What is done to the table of one desk in both runs keeps them abreast. -/
theorem modifySubscriptions (h : Abreast M old₁ old₂ w₁ w₂) (d : Desk)
    (f : Subscriptions D → Subscriptions D) :
    Abreast M old₁ old₂ (w₁.modifySubscriptions d f) (w₂.modifySubscriptions d f) := by
  cases d with
  | script i => exact h.modifyInstance i _
  | bench n => exact { h with benches := congrArg (List.modify · n _) h.benches }

/-! ### One lemma for each operation -/

/-- Coroutines that leave in both runs, for one reason, keep them abreast. -/
theorem recordLeft (h : Abreast M old₁ old₂ w₁ w₂) (d : Desk) (why : Farewell)
    (serials : List Nat) :
    Abreast M old₁ old₂ (w₁.recordLeft d why serials) (w₂.recordLeft d why serials) := by
  induction serials generalizing w₁ w₂ with
  | nil => exact h
  | cons s rest ih => exact ih (h.record rfl)

/-- A pass that is over in both runs, with as many resumed, keeps them abreast. -/
theorem endPass (h : Abreast M old₁ old₂ w₁ w₂) (d : Desk) (kind : EventKind) (resumed : Nat) :
    Abreast M old₁ old₂ (w₁.endPass d kind resumed) (w₂.endPass d kind resumed) := by
  refine Abreast.record ?_ rfl
  cases d with
  | script i => exact h
  | bench n => exact { h with benches := congrArg (List.modify · n _) h.benches }

/-- A coroutine handed over in both runs gets the same serial number. -/
theorem accept (h : Abreast M old₁ old₂ w₁ w₂) (d : Desk) (routine : D.Coroutine) :
    (w₁.accept d routine).1 = (w₂.accept d routine).1 ∧
      Abreast M old₁ old₂ (w₁.accept d routine).2 (w₂.accept d routine).2 := by
  unfold World.accept
  rw [h.subscriptions]
  exact ⟨rfl, (h.modifySubscriptions d _).record rfl⟩

/-- A coroutine that goes on waiting in both runs keeps them abreast. -/
theorem park (h : Abreast M old₁ old₂ w₁ w₂) (d : Desk) (kind : EventKind) (task : Task D) :
    Abreast M old₁ old₂ (w₁.park d kind task) (w₂.park d kind task) := by
  unfold World.park
  rw [h.label]
  exact (h.log _).modifySubscriptions d _

/-- A table that is cleared in both runs keeps them abreast. -/
theorem clear (h : Abreast M old₁ old₂ w₁ w₂) (d : Desk) :
    Abreast M old₁ old₂ (w₁.clear d) (w₂.clear d) := by
  unfold World.clear
  rw [h.subscriptions]
  exact (h.recordLeft d _ _).modifySubscriptions d _

/-- A coroutine that gives control back in both runs, in the same way, keeps them abreast. -/
theorem concludeCoroutine (h : Abreast M old₁ old₂ w₁ w₂) (d : Desk) (serial : Nat)
    (r : Except ScriptError (Yield D)) :
    Abreast M old₁ old₂ (w₁.concludeCoroutine d serial r) (w₂.concludeCoroutine d serial r) := by
  unfold World.concludeCoroutine
  rw [h.label]
  split
  · exact (h.log _).record rfl
  · split
    · exact h.park d _ _
    · exact (h.log _).record rfl
  · exact (h.log _).record rfl
  · exact (h.log _).record rfl

/-- What is said of a desk that takes no coroutines is the same in both runs. -/
theorem logClosed (h : Abreast M old₁ old₂ w₁ w₂) (d : Desk) (n : ScriptId → ScriptNotice) :
    Abreast M old₁ old₂ (w₁.logClosed d n) (w₂.logClosed d n) := by
  cases d with
  | bench => exact h
  | script i =>
    unfold World.logClosed
    simp only [h.instance?]
    split
    · exact h.log _
    · exact h

/-- A coroutine that is taken in and parked. -/
theorem hand (h : Abreast M old₁ old₂ w₁ w₂) (d : Desk) (kind : EventKind)
    (routine : D.Coroutine) :
    Abreast M old₁ old₂ ((w₁.accept d routine).2.park d kind (w₁.accept d routine).1)
      ((w₂.accept d routine).2.park d kind (w₂.accept d routine).1) := by
  obtain ⟨htask, haccept⟩ := h.accept d routine
  rw [htask]
  exact haccept.park d kind _

/-- A coroutine that is to wait for a kind waits in both runs, or in neither. -/
theorem awaitNext (h : Abreast M old₁ old₂ w₁ w₂) (d : Desk) (kind : EventKind)
    (routine : D.Coroutine) :
    Abreast M old₁ old₂ (w₁.awaitNext d kind routine) (w₂.awaitNext d kind routine) := by
  unfold World.awaitNext
  rw [h.isOpen]
  split
  · exact h.hand d kind routine
  · exact h.logClosed d _

/-- A coroutine handed over with a request is answered the same in both runs. -/
theorem schedule (h : Abreast M old₁ old₂ w₁ w₂) (d : Desk) (request : AwaitRequest)
    (routine : D.Coroutine) :
    (w₁.schedule d request routine).1 = (w₂.schedule d request routine).1 ∧
      Abreast M old₁ old₂ (w₁.schedule d request routine).2
        (w₂.schedule d request routine).2 := by
  unfold World.schedule
  rw [h.isOpen]
  split
  · cases request.resolve with
    | ok kind => exact ⟨rfl, h.hand d kind routine⟩
    | error e => exact ⟨rfl, h⟩
  · exact ⟨rfl, h⟩

/-- Setting a callback is answered the same in both runs. -/
theorem setCallback (h : Abreast M old₁ old₂ w₁ w₂) (callable : D.Callback → Bool) (i : Nat)
    (kind : EventKind) (callback : Option D.Callback) :
    (w₁.setCallback callable i kind callback).1 = (w₂.setCallback callable i kind callback).1 ∧
      Abreast M old₁ old₂ (w₁.setCallback callable i kind callback).2
        (w₂.setCallback callable i kind callback).2 := by
  unfold World.setCallback
  rw [h.instance?]
  split
  · exact ⟨rfl, h⟩
  · cases w₂.instance? i with
    | none => exact ⟨rfl, h⟩
    | some x =>
      cases hx : x.isAlive with
      | true =>
        simp only [hx, if_true]
        exact ⟨trivial, (h.log _).modifySubscriptions _ _⟩
      | false =>
        simp only [hx]
        exact ⟨rfl, h.log _⟩

/-- A deferred request in both runs keeps them abreast. -/
theorem pushRequest (h : Abreast M old₁ old₂ w₁ w₂) (kind : RequestKind) (path : Path) :
    Abreast M old₁ old₂ (w₁.pushRequest kind path) (w₂.pushRequest kind path) := by
  refine Abreast.log ?_ _
  exact { h with requests := congrArg (· ++ [⟨kind, path⟩]) h.requests }

/-- A request of an instance reaches its registry in both runs, or in neither. -/
theorem request (h : Abreast M old₁ old₂ w₁ w₂) (i : Nat) (kind : RequestKind) (path : Path) :
    Abreast M old₁ old₂ (w₁.request i kind path) (w₂.request i kind path) := by
  unfold World.request
  rw [h.instance?]
  cases w₂.instance? i with
  | none => exact h
  | some x =>
    dsimp only
    split
    · exact h.log _
    · exact h.pushRequest kind path

/-- A listener that registers in both runs gets the same id. -/
theorem listen (h : Abreast M old₁ old₂ w₁ w₂) (kind : EventKind) (hook : Hook D) :
    Abreast M old₁ old₂ (w₁.listen kind hook) (w₂.listen kind hook) := by
  unfold World.listen World.enlist
  rw [h.hub]
  refine Abreast.log ?_ _
  exact { h with hub := rfl }

/-- A listener is taken off both, or known to neither. -/
theorem unlisten (h : Abreast M old₁ old₂ w₁ w₂) (id : ListenerId) :
    (∃ w₁' w₂', w₁.unlisten id = .ok w₁' ∧ w₂.unlisten id = .ok w₂' ∧
        Abreast M old₁ old₂ w₁' w₂') ∨
      ∃ e, w₁.unlisten id = .error e ∧ w₂.unlisten id = .error e := by
  unfold World.unlisten
  rw [h.hub]
  cases w₂.hub.kindOf? id with
  | none => exact Or.inr ⟨_, rfl, rfl⟩
  | some kind =>
    refine Or.inl ⟨_, _, rfl, rfl, Abreast.log ?_ _⟩
    exact { h with hub := rfl }

/-- Listeners taken off the hub in both runs keep them abreast. -/
theorem detachAll (h : Abreast M old₁ old₂ w₁ w₂) (id : ScriptId)
    (listeners : List ListenerId) :
    Abreast M old₁ old₂ (w₁.detachAll id listeners) (w₂.detachAll id listeners) := by
  induction listeners generalizing w₁ w₂ with
  | nil => exact h
  | cons l rest ih =>
    simp only [World.detachAll, List.foldl_cons] at ih ⊢
    rcases h.unlisten l with ⟨w₁', w₂', hw₁, hw₂, h'⟩ | ⟨e, he₁, he₂⟩
    · simp only [hw₁, hw₂]
      exact ih h'
    · simp only [he₁, he₂]
      exact ih (h.log _)

/-- A name under which an instance was held is given up in both runs. -/
theorem takeHeld (h : Abreast M old₁ old₂ w₁ w₂) (name : String) :
    Abreast M old₁ old₂ (w₁.takeHeld name) (w₂.takeHeld name) :=
  { h with held := congrArg (List.filter _) h.held }

/-- An instance is held under a name in both runs. -/
theorem hold (h : Abreast M old₁ old₂ w₁ w₂) (name : String) (i : Nat) :
    Abreast M old₁ old₂ (w₁.hold name i) (w₂.hold name i) :=
  { h with held := congrArg (· ++ [(name, i)]) (h.takeHeld name).held }

/-- What is sent on the shutdown channel in both runs keeps them abreast. -/
theorem sendShutdown (h : Abreast M old₁ old₂ w₁ w₂) (value : Bool) :
    Abreast M old₁ old₂ (w₁.sendShutdown value) (w₂.sendShutdown value) :=
  { h with shutdown := by simp only [World.sendShutdown, h.shutdown] }

theorem addBench (h : Abreast M old₁ old₂ w₁ w₂) (label : String) :
    Abreast M old₁ old₂ (w₁.addBench label) (w₂.addBench label) :=
  { h with benches := congrArg (· ++ [(⟨label, .empty, 0⟩ : Bench D)]) h.benches }

/-- An instance that registers for some kinds in both runs keeps them abreast. -/
theorem attach (h : Abreast M old₁ old₂ w₁ w₂) (i : Nat) (kinds : List EventKind) :
    Abreast M old₁ old₂ (w₁.attach i kinds) (w₂.attach i kinds) := by
  induction kinds generalizing w₁ w₂ with
  | nil => exact h
  | cons kind rest ih =>
    rw [attach_cons, attach_cons, h.hub]
    exact ih ((h.listen kind (.script i)).modifyInstance i _)

/-- An instance that comes into being in both runs keeps them abreast. -/
theorem beginLife (h : Abreast M old₁ old₂ w₁ w₂) (id : ScriptId) (path : Path)
    (detached : Bool) :
    Abreast M old₁ old₂ (w₁.beginLife id path detached) (w₂.beginLife id path detached) := by
  unfold World.beginLife
  rw [h.instances]
  refine Abreast.attach (Abreast.record ?_ rfl) _ _
  exact { h.log (.script (.starting id path)) with instances := congrArg (· ++ [_]) h.instances }

theorem settleIn (h : Abreast M old₁ old₂ w₁ w₂) (i : Nat) :
    Abreast M old₁ old₂ (w₁.settleIn i) (w₂.settleIn i) :=
  h.modifyInstance i _

/-- An end that is complete in both runs keeps them abreast. -/
theorem finishEnding (h : Abreast M old₁ old₂ w₁ w₂) (i : Nat) :
    Abreast M old₁ old₂ (w₁.finishEnding i) (w₂.finishEnding i) := by
  unfold World.finishEnding
  rw [h.instance?]
  cases w₂.instance? i with
  | none => exact h
  | some x =>
    have hdetached := (h.modifyInstance i fun x =>
      { x with state := .terminated, listeners := [] }).detachAll x.id x.listeners
    dsimp only
    rw [hdetached.subscriptions]
    exact ((hdetached.clear (.script i)).log _).record rfl

end Abreast

end World

/-! ## Code, and activities that are under way -/

/-- A test that does not tell worlds apart that are alike. -/
def Pulse.Heedless (M : Setoid D.Memory) (p : Pulse D) : Prop :=
  ∀ n w₁ w₂, World.Alike M w₁ w₂ → p.beats n w₁ = p.beats n w₂

/-- An act that hands over no test that tells worlds apart that are alike. -/
def Act.Heedless (M : Setoid D.Memory) : Act D → Prop
  | .notify _ _ _ test => (Pulse.glance test).Heedless M
  | _ => True

/-- The same code, but for what it keeps of memories that are alike. -/
inductive Code.Alike (M : Setoid D.Memory) : Code D α → Code D α → Prop
  | ret (a : α) : Alike M (.ret a) (.ret a)
  | read {k₁ k₂ : D.Memory → Code D α} (h : ∀ m₁ m₂, M.r m₁ m₂ → Alike M (k₁ m₁) (k₂ m₂)) :
      Alike M (.read k₁) (.read k₂)
  | write {m₁ m₂ : D.Memory} {k₁ k₂ : Code D α} (hm : M.r m₁ m₂) (h : Alike M k₁ k₂) :
      Alike M (.write m₁ k₁) (.write m₂ k₂)
  | remark (r : D.Remark) {k₁ k₂ : Code D α} (h : Alike M k₁ k₂) :
      Alike M (.remark r k₁) (.remark r k₂)
  | log (n : Notice) {k₁ k₂ : Code D α} (h : Alike M k₁ k₂) : Alike M (.log n k₁) (.log n k₂)
  | act {x : Act D} (hx : x.Heedless M) {k₁ k₂ : Answer → Code D α}
      (h : ∀ answer, Alike M (k₁ answer) (k₂ answer)) : Alike M (.act x k₁) (.act x k₂)

/-- Nothing that scripts and handlers do depends on what memories that are alike differ
in. -/
structure Interpreter.Heedless (M : Setoid D.Memory) (I : Interpreter D) : Prop where
  resume : ∀ routine args, (I.resume routine args).Alike M (I.resume routine args)
  call : ∀ callback args, (I.call callback args).Alike M (I.call callback args)
  handle : ∀ handler event, (I.handle handler event).Alike M (I.handle handler event)

/-- The same activity, but for the number of an emission, and for what code keeps of
memories that are alike. -/
inductive Frame.Alike (M : Setoid D.Memory) : Frame D → Frame D → Prop
  | emission (n₁ n₂ : Nat) (event : Event) (rest : List (Listener D)) :
      Alike M (.emission n₁ event rest) (.emission n₂ event rest)
  | pass (d : Desk) (kind : EventKind) (args : Args) {pulse : Pulse D} (h : pulse.Heedless M)
      (queue : List (Task D)) (resumed : Nat) :
      Alike M (.pass d kind args pulse queue resumed) (.pass d kind args pulse queue resumed)
  | callback (i : Nat) (kind : EventKind) (args : Args) :
      Alike M (.callback i kind args) (.callback i kind args)
  | coroutine (d : Desk) (serial : Nat) {code₁ code₂ : Code D (Except ScriptError (Yield D))}
      (h : code₁.Alike M code₂) : Alike M (.coroutine d serial code₁) (.coroutine d serial code₂)
  | call (i : Nat) (kind : EventKind) {code₁ code₂ : Code D (Except ScriptError (Outcome D))}
      (h : code₁.Alike M code₂) : Alike M (.call i kind code₁) (.call i kind code₂)
  | handler {code₁ code₂ : Code D Unit} (h : code₁.Alike M code₂) :
      Alike M (.handler code₁) (.handler code₂)
  | entry (i : Nat) {code₁ code₂ : EntryCode D} (h : Code.Alike M code₁ code₂) :
      Alike M (.entry i code₁) (.entry i code₂)
  | settle (i : Nat) : Alike M (.settle i) (.settle i)
  | ending (i : Nat) : Alike M (.ending i) (.ending i)
  | putBack (name : String) (i : Nat) : Alike M (.putBack name i) (.putBack name i)

variable {M : Setoid D.Memory} {old₁ old₂ : List (Happening D)} {w₁ w₂ : World D}

/-- Code that differs only in what it makes of the memory does so either way round. -/
theorem Code.Alike.symm {code₁ code₂ : Code D α} (h : code₁.Alike M code₂) :
    code₂.Alike M code₁ := by
  induction h with
  | ret a => exact .ret a
  | read _ ih => exact .read fun m₁ m₂ hm => ih m₂ m₁ (M.iseqv.symm hm)
  | write hm _ ih => exact .write (M.iseqv.symm hm) ih
  | remark r _ ih => exact .remark r ih
  | log n _ ih => exact .log n ih
  | act hx _ ih => exact .act hx ih

/-- Code alike to code that is alike to a third is alike to it. -/
theorem Code.Alike.trans {code₁ code₂ code₃ : Code D α} (h : code₁.Alike M code₂)
    (h' : code₂.Alike M code₃) : code₁.Alike M code₃ := by
  induction h generalizing code₃ with
  | ret a => exact h'
  | read _ ih =>
    -- The first code stays with the one memory, and the second one goes on to the other.
    cases h' with
    | read hk => exact .read fun m₁ m₂ hm => ih m₁ m₁ (M.iseqv.refl m₁) (hk m₁ m₂ hm)
  | write hm _ ih =>
    cases h' with
    | write hm' hk => exact .write (M.iseqv.trans hm hm') (ih hk)
  | remark r _ ih =>
    cases h' with
    | remark _ hk => exact .remark r (ih hk)
  | log n _ ih =>
    cases h' with
    | log _ hk => exact .log n (ih hk)
  | act hx _ ih =>
    cases h' with
    | act _ hk => exact .act hx fun answer => ih answer (hk answer)

theorem Frame.Alike.symm {f₁ f₂ : Frame D} (h : f₁.Alike M f₂) : f₂.Alike M f₁ := by
  cases h with
  | emission n₁ n₂ event rest => exact .emission n₂ n₁ event rest
  | pass d kind args h queue resumed => exact .pass d kind args h queue resumed
  | callback i kind args => exact .callback i kind args
  | coroutine d serial h => exact .coroutine d serial h.symm
  | call i kind h => exact .call i kind h.symm
  | handler h => exact .handler h.symm
  | entry i h => exact .entry i h.symm
  | settle i => exact .settle i
  | ending i => exact .ending i
  | putBack name i => exact .putBack name i

theorem Frame.Alike.trans {f₁ f₂ f₃ : Frame D} (h : f₁.Alike M f₂) (h' : f₂.Alike M f₃) :
    f₁.Alike M f₃ := by
  cases h with
  | emission n₁ n₂ event rest =>
    cases h' with
    | emission _ n₃ _ _ => exact .emission n₁ n₃ event rest
  | coroutine d serial h =>
    cases h' with
    | coroutine _ _ h' => exact .coroutine d serial (h.trans h')
  | call i kind h =>
    cases h' with
    | call _ _ h' => exact .call i kind (h.trans h')
  | handler h =>
    cases h' with
    | handler h' => exact .handler (h.trans h')
  | entry i h =>
    cases h' with
    | entry _ h' => exact .entry i (h.trans h')
  | pass | callback | settle | ending | putBack => exact h'

/-- Whatever is like something else is like itself. -/
theorem Frame.Alike.heedless {S₁ S₂ : List (Frame D)} (h : List.Forall₂ (Frame.Alike M) S₁ S₂) :
    ∀ f ∈ S₂, f.Alike M f := by
  induction h with
  | nil => simp
  | cons hf _ ih => exact List.forall_mem_cons.mpr ⟨hf.symm.trans hf, ih⟩

/-- Where nothing is hidden in the memory, a test sees the same in worlds that are alike. -/
theorem Pulse.heedless_glance (hM : ∀ m₁ m₂, M.r m₁ m₂ → m₁ = m₂) (f : Nat → World D → Bool) :
    (Pulse.glance f).Heedless M := by
  intro n w₁ w₂ h
  have hsight : w₁.sight = w₂.sight := by
    rw [World.sight, World.sight, h.hub, h.instances, h.benches, h.held, h.requests, h.shutdown,
      hM _ _ h.memory]
  exact congrArg (f n) hsight

theorem Act.heedless_of_eq (hM : ∀ m₁ m₂, M.r m₁ m₂ → m₁ = m₂) (x : Act D) : x.Heedless M := by
  cases x with
  | notify n kind args test => exact Pulse.heedless_glance hM test
  | _ => trivial

/-- Where nothing is hidden in the memory, all code is heedless of it. -/
theorem Code.alike_of_eq (hM : ∀ m₁ m₂, M.r m₁ m₂ → m₁ = m₂) (code : Code D α) :
    code.Alike M code := by
  induction code with
  | ret a => exact .ret a
  | read k ih => exact .read fun m₁ m₂ hm => hM m₁ m₂ hm ▸ ih m₁
  | write m k ih => exact .write (M.iseqv.refl m) ih
  | remark r k ih => exact .remark r ih
  | log n k ih => exact .log n ih
  | act x k ih => exact .act (x.heedless_of_eq hM) ih

theorem Interpreter.heedless_of_eq (hM : ∀ m₁ m₂, M.r m₁ m₂ → m₁ = m₂) (I : Interpreter D) :
    I.Heedless M :=
  ⟨fun _ _ => Code.alike_of_eq hM _, fun _ _ => Code.alike_of_eq hM _,
    fun _ _ => Code.alike_of_eq hM _⟩

theorem Pulse.heedless_script (i : Nat) : (Pulse.script i : Pulse D).Heedless M :=
  fun _ _ _ h => h.isAlive i

end ScriptHost
