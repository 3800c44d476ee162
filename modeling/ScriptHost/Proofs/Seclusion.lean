import ScriptHost.Proofs.View

/-!
# What an instance keeps to itself

A **quiet instance** is one whose routines perform no acts; perhaps it has a part of the
memory that nobody else looks at.  Two worlds are the **same but** for a quiet instance
if they differ in nothing but what it is subscribed to, its part of the memory, and what
the journal says of its coroutines and callbacks and of what was reported.  Whatever
happens at its desk leaves a world the same but for it, and whatever else is done to two
such worlds leaves them so.

* `QuietInstance.SameBut.instance?_cases` — what two such worlds have at a place;
* `QuietInstance.SameBut.modifySubscriptions`, `QuietInstance.sameBut_own` — who is
  subscribed to what;
* `QuietInstance.SameBut.concludeCoroutine`, `QuietInstance.SameBut.finishEnding` and the
  like — one lemma for each operation.
-/

namespace ScriptHost

variable {D : Dialect}

/-- An instance whose routines perform no acts, and who has which routines. -/
structure QuietInstance (D : Dialect) where
  place : Nat
  /-- The coroutines and the callbacks that may come to the desk of the instance. -/
  owns : D.Coroutine → Prop
  ownsCallback : D.Callback → Prop
  /-- Those that may come to any other desk. -/
  shares : D.Coroutine → Prop
  sharesCallback : D.Callback → Prop
  /-- Memories that are alike but for the part of the instance. -/
  memory : Setoid D.Memory

namespace QuietInstance

variable (Q : QuietInstance D)

/-- Its desk. -/
def desk : Desk :=
  .script Q.place

/-- Whether an entry of the journal is about somebody else's coroutines or callbacks, or
about an emission, a listener that is called, or the life of an instance. -/
def shows : Happening D → Bool
  | .notice _ | .remark _ => false
  | .handed desk _ | .resumed desk _ _ | .left desk _ _ | .passEnded desk _ _ => desk ≠ Q.desk
  | .called i _ _ _ => i ≠ Q.place
  | .emission .. | .reached .. | .born .. | .ended .. => true

/-- What the journal says of everybody else. -/
def elsewhere (w : World D) : List (Happening D) :=
  w.journal.filter Q.shows

/-- Two worlds are the same but for what a quiet instance keeps to itself. -/
structure SameBut (w₁ w₂ : World D) : Prop where
  hub : w₁.hub = w₂.hub
  benches : w₁.benches = w₂.benches
  held : w₁.held = w₂.held
  requests : w₁.requests = w₂.requests
  shutdown : w₁.shutdown = w₂.shutdown
  emissions : w₁.emissions = w₂.emissions
  memory : Q.memory.r w₁.memory w₂.memory
  infos : ∀ i, (w₁.instance? i).map Instance.info = (w₂.instance? i).map Instance.info
  others : ∀ i, i ≠ Q.place → w₁.instance? i = w₂.instance? i
  elsewhere : Q.elsewhere w₁ = Q.elsewhere w₂

variable {Q} {w w₁ w₂ w₃ : World D}

namespace SameBut

variable (Q) in
/-- A world agrees with itself. -/
theorem refl (w : World D) : Q.SameBut w w :=
  ⟨rfl, rfl, rfl, rfl, rfl, rfl, Q.memory.iseqv.refl _, fun _ => rfl, fun _ _ => rfl, rfl⟩

/-- Agreeing but for the instance goes both ways. -/
theorem symm (h : Q.SameBut w₁ w₂) : Q.SameBut w₂ w₁ :=
  ⟨h.hub.symm, h.benches.symm, h.held.symm, h.requests.symm, h.shutdown.symm, h.emissions.symm,
    Q.memory.iseqv.symm h.memory, fun i => (h.infos i).symm, fun i hi => (h.others i hi).symm,
    h.elsewhere.symm⟩

/-- Agreement but for the instance is passed on. -/
theorem trans (h : Q.SameBut w₁ w₂) (h' : Q.SameBut w₂ w₃) : Q.SameBut w₁ w₃ :=
  ⟨h.hub.trans h'.hub, h.benches.trans h'.benches, h.held.trans h'.held,
    h.requests.trans h'.requests, h.shutdown.trans h'.shutdown, h.emissions.trans h'.emissions,
    Q.memory.iseqv.trans h.memory h'.memory, fun i => (h.infos i).trans (h'.infos i),
    fun i hi => (h.others i hi).trans (h'.others i hi), h.elsewhere.trans h'.elsewhere⟩

/-! ### What can be seen of two such worlds -/

/-- **At every place** there is nobody in both, or the same instance, but for what it is
subscribed to if it is the quiet instance. -/
theorem instance?_cases (h : Q.SameBut w₁ w₂) (i : Nat) :
    (w₁.instance? i = none ∧ w₂.instance? i = none) ∨
      ∃ x₁ x₂, w₁.instance? i = some x₁ ∧ w₂.instance? i = some x₂ ∧ x₁.info = x₂.info ∧
        (i ≠ Q.place → x₁ = x₂) := by
  have hinfos := h.infos i
  cases hx₁ : w₁.instance? i with
  | none =>
    cases hx₂ : w₂.instance? i with
    | none => exact Or.inl ⟨rfl, rfl⟩
    | some x₂ => simp [hx₁, hx₂] at hinfos
  | some x₁ =>
    cases hx₂ : w₂.instance? i with
    | none => simp [hx₁, hx₂] at hinfos
    | some x₂ =>
      refine Or.inr ⟨x₁, x₂, rfl, rfl, by simpa [hx₁, hx₂] using hinfos, fun hi => ?_⟩
      simpa [hx₁, hx₂] using h.others i hi

/-- Instances that look the same from outside are both alive, or neither is. -/
theorem isAlive_of_info {x₁ x₂ : Instance D} (hinfo : x₁.info = x₂.info) :
    x₁.isAlive = x₂.isAlive := by
  have hstate : x₁.state = x₂.state := congrArg InstanceInfo.state hinfo
  simp [Instance.isAlive, hstate]

/-- In worlds that agree the same instances are alive, the quiet one included. -/
theorem isAlive (h : Q.SameBut w₁ w₂) (i : Nat) : w₁.isAlive i = w₂.isAlive i := by
  rcases h.instance?_cases i with ⟨hx₁, hx₂⟩ | ⟨x₁, x₂, hx₁, hx₂, hinfo, -⟩
  · simp [World.isAlive, hx₁, hx₂]
  · simp [World.isAlive, hx₁, hx₂, isAlive_of_info hinfo]

/-- In worlds that agree the same desks take coroutines. -/
theorem isOpen (h : Q.SameBut w₁ w₂) (d : Desk) : w₁.isOpen d = w₂.isOpen d := by
  cases d with
  | script i => exact h.isAlive i
  | bench n => rfl

/-- Everybody else is subscribed to the same. -/
theorem subscriptions (h : Q.SameBut w₁ w₂) {d : Desk} (hd : d ≠ Q.desk) :
    w₁.subscriptions d = w₂.subscriptions d := by
  cases d with
  | script i => simp only [World.subscriptions, h.others i fun hi => hd (congrArg Desk.script hi)]
  | bench n => simp only [World.subscriptions, h.benches]

/-! ### Changes of both worlds -/

/-- What happens in both worlds keeps them in agreement. -/
theorem record (h : Q.SameBut w₁ w₂) (x : Happening D) : Q.SameBut (w₁.record x) (w₂.record x) :=
  { h with
    elsewhere := by
      have helsewhere : w₁.journal.filter Q.shows = w₂.journal.filter Q.shows := h.elsewhere
      simp only [QuietInstance.elsewhere, World.record, List.filter_cons, helsewhere] }

end SameBut

/-- What is not shown makes no difference. -/
theorem sameBut_record (w : World D) {x : Happening D} (hx : Q.shows x = false) :
    Q.SameBut (w.record x) w :=
  { SameBut.refl Q w with
    elsewhere := by simp [QuietInstance.elsewhere, World.record, hx] }

/-- Nobody looks at the notices. -/
theorem sameBut_log (w : World D) (n : Notice) : Q.SameBut (w.log n) w :=
  sameBut_record w rfl

namespace SameBut

/-- The two worlds may be told of with different notices. -/
theorem log (h : Q.SameBut w₁ w₂) (n₁ n₂ : Notice) : Q.SameBut (w₁.log n₁) (w₂.log n₂) :=
  ((sameBut_log w₁ n₁).trans h).trans (sameBut_log w₂ n₂).symm

/-- What is done to an instance because of what is seen of it. -/
theorem modifyInstance (h : Q.SameBut w₁ w₂) (i : Nat) {f : Instance D → Instance D}
    (hf : ∀ x y : Instance D, x.info = y.info → (f x).info = (f y).info) :
    Q.SameBut (w₁.modifyInstance i f) (w₂.modifyInstance i f) := by
  have hother : ∀ (w : World D) j, i ≠ j → (w.modifyInstance i f).instance? j = w.instance? j :=
    fun w j hij => List.getElem?_modify_ne f w.instances hij
  have hsame : ∀ w : World D, (w.modifyInstance i f).instance? i = (w.instance? i).map f :=
    fun w => by simp [World.modifyInstance, World.instance?]
  refine { h with infos := fun j => ?_, others := fun j hj => ?_ }
  · by_cases hij : i = j
    · subst hij
      rw [hsame, hsame]
      rcases h.instance?_cases i with ⟨hx₁, hx₂⟩ | ⟨x₁, x₂, hx₁, hx₂, hinfo, -⟩
      · simp [hx₁, hx₂]
      · simp [hx₁, hx₂, hf x₁ x₂ hinfo]
    · rw [hother w₁ j hij, hother w₂ j hij, h.infos]
  · by_cases hij : i = j
    · subst hij
      rw [hsame, hsame, h.others i hj]
    · rw [hother w₁ j hij, hother w₂ j hij, h.others j hj]

/-- What is done to the table of one desk, in both worlds, keeps them in agreement. -/
theorem modifySubscriptions (h : Q.SameBut w₁ w₂) (d : Desk)
    (f : Subscriptions D → Subscriptions D) :
    Q.SameBut (w₁.modifySubscriptions d f) (w₂.modifySubscriptions d f) := by
  cases d with
  | script i => exact h.modifyInstance i fun x y hinfo => hinfo
  | bench n => exact { h with benches := congrArg (List.modify · n _) h.benches }

end SameBut

/-- **What the quiet instance is subscribed to** makes no difference. -/
theorem sameBut_own (w : World D) (f : Subscriptions D → Subscriptions D) :
    Q.SameBut (w.modifySubscriptions Q.desk f) w := by
  have hother : ∀ j, Q.place ≠ j → (w.modifySubscriptions Q.desk f).instance? j = w.instance? j :=
    fun j hj => List.getElem?_modify_ne _ w.instances hj
  refine { SameBut.refl Q w with infos := fun j => ?_, others := fun j hj => hother j hj.symm }
  by_cases hj : Q.place = j
  · subst hj
    have hsame : (w.modifySubscriptions Q.desk f).instance? Q.place
        = (w.instance? Q.place).map fun x => { x with subscriptions := f x.subscriptions } := by
      simp [desk, World.modifySubscriptions, World.modifyInstance, World.instance?]
    rw [hsame]
    cases w.instance? Q.place <;> rfl
  · rw [hother j hj]

/-! ### One lemma for each operation -/

/-- Who leaves the desk of the instance is its own affair. -/
theorem sameBut_recordLeft_own (w : World D) (why : Farewell) (serials : List Nat) :
    Q.SameBut (w.recordLeft Q.desk why serials) w := by
  induction serials generalizing w with
  | nil => exact .refl Q w
  | cons s rest ih => exact (ih _).trans (sameBut_record w (by simp [shows]))

/-- A pass over its own queue that is over changes nothing else. -/
theorem sameBut_endPass_own (w : World D) (kind : EventKind) (resumed : Nat) :
    Q.SameBut (w.endPass Q.desk kind resumed) w :=
  sameBut_record w (by simp [shows])

/-- A coroutine handed over at its desk changes nothing else. -/
theorem sameBut_accept_own (w : World D) (routine : D.Coroutine) :
    Q.SameBut (w.accept Q.desk routine).2 w :=
  (sameBut_record _ (by simp [shows])).trans (sameBut_own w _)

/-- A coroutine that waits at its desk changes nothing else. -/
theorem sameBut_park_own (w : World D) (kind : EventKind) (task : Task D) :
    Q.SameBut (w.park Q.desk kind task) w :=
  (sameBut_own _ _).trans (sameBut_log w _)

/-- Clearing its own table changes nothing else. -/
theorem sameBut_clear_own (w : World D) : Q.SameBut (w.clear Q.desk) w :=
  (sameBut_own _ _).trans (sameBut_recordLeft_own w _ _)

/-- Whatever a coroutine of its own comes to, nothing else changes. -/
theorem sameBut_concludeCoroutine_own (w : World D) (serial : Nat)
    (r : Except ScriptError (Yield D)) : Q.SameBut (w.concludeCoroutine Q.desk serial r) w := by
  have hleft : ∀ n why, Q.SameBut ((w.log n).record (.left Q.desk serial why)) w := fun n why =>
    (sameBut_record _ (by simp [shows])).trans (sameBut_log w n)
  unfold World.concludeCoroutine
  split
  · exact hleft _ _
  · split
    · exact sameBut_park_own w _ _
    · exact hleft _ _
  · exact hleft _ _
  · exact hleft _ _

namespace SameBut

/-- Coroutines that leave a desk in both worlds keep them in agreement. -/
theorem recordLeft (h : Q.SameBut w₁ w₂) (d : Desk) (why : Farewell) (serials : List Nat) :
    Q.SameBut (w₁.recordLeft d why serials) (w₂.recordLeft d why serials) := by
  induction serials generalizing w₁ w₂ with
  | nil => exact h
  | cons s rest ih => exact ih (h.record _)

/-- A pass that is over in both worlds keeps them in agreement. -/
theorem endPass (h : Q.SameBut w₁ w₂) (d : Desk) (kind : EventKind) (resumed : Nat) :
    Q.SameBut (w₁.endPass d kind resumed) (w₂.endPass d kind resumed) := by
  refine SameBut.record ?_ _
  cases d with
  | script i => exact h
  | bench n => exact { h with benches := congrArg (List.modify · n _) h.benches }

/-- At any other desk a coroutine gets the same serial number in both worlds. -/
theorem accept_task (h : Q.SameBut w₁ w₂) {d : Desk} (hd : d ≠ Q.desk) (routine : D.Coroutine) :
    (w₁.accept d routine).1 = (w₂.accept d routine).1 := by
  simp only [World.accept, h.subscriptions hd]

/-- A coroutine handed over in both worlds keeps them in agreement. -/
theorem accept (h : Q.SameBut w₁ w₂) (d : Desk) (routine : D.Coroutine) :
    Q.SameBut (w₁.accept d routine).2 (w₂.accept d routine).2 := by
  by_cases hd : d = Q.desk
  · subst hd
    exact ((sameBut_accept_own w₁ routine).trans h).trans (sameBut_accept_own w₂ routine).symm
  · have hhanded : (w₁.subscriptions d).handed = (w₂.subscriptions d).handed := by
      rw [h.subscriptions hd]
    unfold World.accept
    rw [hhanded]
    exact (h.modifySubscriptions d _).record _

theorem park (h : Q.SameBut w₁ w₂) (d : Desk) (kind : EventKind) (task : Task D) :
    Q.SameBut (w₁.park d kind task) (w₂.park d kind task) :=
  (h.log _ _).modifySubscriptions d _

/-- Clearing a table in both worlds keeps them in agreement. -/
theorem clear (h : Q.SameBut w₁ w₂) (d : Desk) : Q.SameBut (w₁.clear d) (w₂.clear d) := by
  by_cases hd : d = Q.desk
  · subst hd
    exact ((sameBut_clear_own w₁).trans h).trans (sameBut_clear_own w₂).symm
  · unfold World.clear
    rw [h.subscriptions hd]
    exact (h.recordLeft d _ _).modifySubscriptions d _

/-- A coroutine that gives control back in the same way keeps the worlds in agreement. -/
theorem concludeCoroutine (h : Q.SameBut w₁ w₂) (d : Desk) (serial : Nat)
    (r : Except ScriptError (Yield D)) :
    Q.SameBut (w₁.concludeCoroutine d serial r) (w₂.concludeCoroutine d serial r) := by
  unfold World.concludeCoroutine
  split
  · exact (h.log _ _).record _
  · split
    · exact h.park d _ _
    · exact (h.log _ _).record _
  · exact (h.log _ _).record _
  · exact (h.log _ _).record _

theorem logClosed (h : Q.SameBut w₁ w₂) (d : Desk) (n : ScriptId → ScriptNotice) :
    Q.SameBut (w₁.logClosed d n) (w₂.logClosed d n) := by
  cases d with
  | bench => exact h
  | script i =>
    rcases h.instance?_cases i with ⟨hx₁, hx₂⟩ | ⟨x₁, x₂, hx₁, hx₂, -, -⟩
    · simpa only [World.logClosed, hx₁, hx₂] using h
    · simpa only [World.logClosed, hx₁, hx₂] using h.log _ _

/-- A coroutine that is taken in and parked. -/
theorem hand (h : Q.SameBut w₁ w₂) (d : Desk) (kind : EventKind) (routine : D.Coroutine) :
    Q.SameBut ((w₁.accept d routine).2.park d kind (w₁.accept d routine).1)
      ((w₂.accept d routine).2.park d kind (w₂.accept d routine).1) := by
  by_cases hd : d = Q.desk
  · subst hd
    have hown : ∀ w : World D,
        Q.SameBut ((w.accept Q.desk routine).2.park Q.desk kind (w.accept Q.desk routine).1) w :=
      fun w => (sameBut_park_own _ _ _).trans (sameBut_accept_own w routine)
    exact ((hown w₁).trans h).trans (hown w₂).symm
  · rw [h.accept_task hd]
    exact (h.accept d routine).park d kind _

/-- A coroutine that is to wait for a kind keeps the worlds in agreement. -/
theorem awaitNext (h : Q.SameBut w₁ w₂) (d : Desk) (kind : EventKind) (routine : D.Coroutine) :
    Q.SameBut (w₁.awaitNext d kind routine) (w₂.awaitNext d kind routine) := by
  unfold World.awaitNext
  rw [h.isOpen]
  split
  · exact h.hand d kind routine
  · exact h.logClosed d _

/-- A request to wait is answered the same in both worlds, at the desk of the instance as
well. -/
theorem schedule (h : Q.SameBut w₁ w₂) (d : Desk) (request : AwaitRequest)
    (routine : D.Coroutine) :
    (w₁.schedule d request routine).1 = (w₂.schedule d request routine).1 ∧
      Q.SameBut (w₁.schedule d request routine).2 (w₂.schedule d request routine).2 := by
  unfold World.schedule
  rw [h.isOpen]
  split
  · cases request.resolve with
    | ok kind => exact ⟨rfl, h.hand d kind routine⟩
    | error e => exact ⟨rfl, h⟩
  · exact ⟨rfl, h⟩

/-- Setting a callback is answered the same in both worlds. -/
theorem setCallback (h : Q.SameBut w₁ w₂) (callable : D.Callback → Bool) (i : Nat)
    (kind : EventKind) (callback : Option D.Callback) :
    (w₁.setCallback callable i kind callback).1 = (w₂.setCallback callable i kind callback).1 ∧
      Q.SameBut (w₁.setCallback callable i kind callback).2
        (w₂.setCallback callable i kind callback).2 := by
  unfold World.setCallback
  split
  · exact ⟨rfl, h⟩
  · rcases h.instance?_cases i with ⟨hx₁, hx₂⟩ | ⟨x₁, x₂, hx₁, hx₂, hinfo, -⟩
    · rw [hx₁, hx₂]
      exact ⟨rfl, h⟩
    · rw [hx₁, hx₂]
      simp only [isAlive_of_info hinfo]
      by_cases halive : x₂.isAlive = true
      · rw [if_pos halive, if_pos halive]
        refine ⟨rfl, ?_⟩
        dsimp only
        exact (h.log _ _).modifySubscriptions _ _
      · rw [if_neg halive, if_neg halive]
        exact ⟨rfl, h.log _ _⟩

theorem pushRequest (h : Q.SameBut w₁ w₂) (kind : RequestKind) (path : Path) :
    Q.SameBut (w₁.pushRequest kind path) (w₂.pushRequest kind path) := by
  refine SameBut.log ?_ _ _
  exact { h with requests := congrArg (· ++ [⟨kind, path⟩]) h.requests }

/-- A request of an instance reaches its registry in both worlds, or in neither. -/
theorem request (h : Q.SameBut w₁ w₂) (i : Nat) (kind : RequestKind) (path : Path) :
    Q.SameBut (w₁.request i kind path) (w₂.request i kind path) := by
  unfold World.request
  rcases h.instance?_cases i with ⟨hx₁, hx₂⟩ | ⟨x₁, x₂, hx₁, hx₂, hinfo, -⟩
  · simpa only [hx₁, hx₂] using h
  · have hdetached : x₁.detached = x₂.detached := congrArg InstanceInfo.detached hinfo
    simp only [hx₁, hx₂, hdetached]
    split
    · exact h.log _ _
    · exact h.pushRequest kind path

/-- Both hubs give out the same id. -/
theorem listen (h : Q.SameBut w₁ w₂) (kind : EventKind) (hook : Hook D) :
    Q.SameBut (w₁.listen kind hook) (w₂.listen kind hook) := by
  refine SameBut.log ?_ _ _
  exact { h with hub := congrArg (·.listen kind hook) h.hub }

/-- A listener is taken off both, or known to neither. -/
theorem unlisten (h : Q.SameBut w₁ w₂) (id : ListenerId) :
    (∃ w₁' w₂', w₁.unlisten id = .ok w₁' ∧ w₂.unlisten id = .ok w₂' ∧ Q.SameBut w₁' w₂') ∨
      ∃ e, w₁.unlisten id = .error e ∧ w₂.unlisten id = .error e := by
  unfold World.unlisten
  rw [h.hub]
  cases w₂.hub.kindOf? id with
  | none => exact Or.inr ⟨_, rfl, rfl⟩
  | some kind =>
    refine Or.inl ⟨_, _, rfl, rfl, SameBut.log ?_ _ _⟩
    exact { h with hub := rfl }

/-- Listeners taken off in both worlds keep them in agreement. -/
theorem detachAll (h : Q.SameBut w₁ w₂) (id : ScriptId) (listeners : List ListenerId) :
    Q.SameBut (w₁.detachAll id listeners) (w₂.detachAll id listeners) := by
  induction listeners generalizing w₁ w₂ with
  | nil => exact h
  | cons l rest ih =>
    simp only [World.detachAll, List.foldl_cons] at ih ⊢
    rcases h.unlisten l with ⟨w₁', w₂', hw₁, hw₂, h'⟩ | ⟨e, he₁, he₂⟩
    · simp only [hw₁, hw₂]
      exact ih h'
    · simp only [he₁, he₂]
      exact ih (h.log _ _)

theorem takeHeld (h : Q.SameBut w₁ w₂) (name : String) :
    Q.SameBut (w₁.takeHeld name) (w₂.takeHeld name) :=
  { h with held := congrArg (List.filter _) h.held }

theorem hold (h : Q.SameBut w₁ w₂) (name : String) (i : Nat) :
    Q.SameBut (w₁.hold name i) (w₂.hold name i) :=
  { h with held := congrArg (· ++ [(name, i)]) (h.takeHeld name).held }

theorem sendShutdown (h : Q.SameBut w₁ w₂) (value : Bool) :
    Q.SameBut (w₁.sendShutdown value) (w₂.sendShutdown value) :=
  { h with shutdown := by simp only [World.sendShutdown, h.shutdown] }

/-- An emission has the same number and the same listeners in both. -/
theorem beginEmission (h : Q.SameBut w₁ w₂) (event : Event) :
    (w₁.beginEmission event).2 = (w₂.beginEmission event).2 ∧
      Q.SameBut (w₁.beginEmission event).1 (w₂.beginEmission event).1 := by
  unfold World.beginEmission
  rw [h.hub, h.emissions]
  refine ⟨rfl, SameBut.record ?_ _⟩
  exact { h.log (.hub (.emitting event.kind (w₂.hub.listeners event.kind).length))
      (.hub (.emitting event.kind (w₂.hub.listeners event.kind).length)) with
    hub := h.hub, emissions := rfl }

/-- An end begins in both worlds, announced to the same listeners. -/
theorem beginEnding (h : Q.SameBut w₁ w₂) (i : Nat) :
    (w₁.beginEnding i).2 = (w₂.beginEnding i).2 ∧
      Q.SameBut (w₁.beginEnding i).1 (w₂.beginEnding i).1 := by
  unfold World.beginEnding
  rcases h.instance?_cases i with ⟨hx₁, hx₂⟩ | ⟨x₁, x₂, hx₁, hx₂, hinfo, -⟩
  · rw [hx₁, hx₂]
    exact ⟨rfl, h⟩
  · have hid : x₁.id = x₂.id := congrArg InstanceInfo.id hinfo
    rw [hx₁, hx₂]
    simp only [isAlive_of_info hinfo, hid]
    cases x₂.isAlive with
    | true =>
      obtain ⟨hframe, h'⟩ := (h.log (.script (.stopping x₂.id x₁.path))
        (.script (.stopping x₂.id x₂.path))).beginEmission (.scriptEnd x₂.id)
      exact ⟨congrArg (fun f => [f, Frame.ending i]) hframe, h'⟩
    | false => exact ⟨rfl, h⟩

/-- An end that is complete in both worlds keeps them in agreement. -/
theorem finishEnding (h : Q.SameBut w₁ w₂) (i : Nat) :
    Q.SameBut (w₁.finishEnding i) (w₂.finishEnding i) := by
  unfold World.finishEnding
  rcases h.instance?_cases i with ⟨hx₁, hx₂⟩ | ⟨x₁, x₂, hx₁, hx₂, hinfo, -⟩
  · simpa only [hx₁, hx₂] using h
  · have hid : x₁.id = x₂.id := congrArg InstanceInfo.id hinfo
    have hlisteners : x₁.listeners = x₂.listeners := congrArg InstanceInfo.listeners hinfo
    simp only [hx₁, hx₂, hid, hlisteners]
    have hended := h.modifyInstance i
      (f := fun x => { x with state := .terminated, listeners := [] })
      fun x y hinfo => by
        simp only [Instance.info, InstanceInfo.mk.injEq] at hinfo ⊢
        exact ⟨hinfo.1, hinfo.2.1, trivial, trivial, hinfo.2.2.2.2⟩
    exact (((hended.detachAll x₂.id x₂.listeners).clear (.script i)).log _ _).record _

end SameBut

end QuietInstance

end ScriptHost
