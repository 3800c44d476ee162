import ScriptHost.Proofs.Bystanders
import ScriptHost.Proofs.Seclusion

/-!
# Routines that perform no acts

In a world whose tables are **apart** there waits at the desk of a quiet instance what may
come there, and elsewhere what may come elsewhere.  Script code is **mute** if it does
nothing but look at the memory, change the instance's part of it, leave remarks and
notices, and come to a result.  Where the routines of the instance are mute, whatever is
under way at its desk subsides by itself: nothing runs inside it but more of the same, and
when it is over the world is the same as before but for the instance.

* `QuietInstance.Apart.act` and the like — what keeps the tables apart;
* `QuietInstance.own_advance` — a step of what is under way at the desk of a quiet instance;
* `QuietInstance.subsides` — it comes to an end.
-/

namespace ScriptHost

variable {D : Dialect} {α : Type}

/-- A run does not mind what is under way further out. -/
theorem Config.Steps.above {I : Interpreter D} {c c' : Config D} (h : c.Steps I c')
    (rest : List (Frame D)) :
    Config.Steps I ⟨c.world, c.stack ++ rest⟩ ⟨c'.world, c'.stack ++ rest⟩ := by
  induction h with
  | refl => exact .refl
  | @tail c c' _ hstep ih =>
    obtain ⟨f, below, hstack, rfl⟩ := Config.eq_advance_of_step? hstep
    refine ih.tail ?_
    simp only [hstack, List.cons_append, List.append_assoc]
    rfl

namespace World

/-- A change of a table, where there is a table to change. -/
theorem subscriptions_modifySubscriptions (w : World D) (d : Desk)
    (f : Subscriptions D → Subscriptions D) :
    (w.modifySubscriptions d f).subscriptions d = f (w.subscriptions d) ∨
      (w.modifySubscriptions d f).subscriptions d = .empty := by
  cases d with
  | script i =>
    have hx : (w.modifySubscriptions (.script i) f).instance? i
        = (w.instance? i).map fun x => { x with subscriptions := f x.subscriptions } := by
      simp [modifySubscriptions, modifyInstance, instance?]
    cases hxi : w.instance? i <;> simp [subscriptions, hx, hxi]
  | bench n =>
    have hb : (w.modifySubscriptions (.bench n) f).benches[n]?
        = w.benches[n]?.map fun b => { b with subscriptions := f b.subscriptions } := by
      simp [modifySubscriptions]
    cases hbn : w.benches[n]? <;> simp [subscriptions, hb, hbn]

/-- The end of a pass changes no table. -/
theorem subscriptions_endPass (w : World D) (d : Desk) (kind : EventKind) (resumed : Nat)
    (d' : Desk) : (w.endPass d kind resumed).subscriptions d' = w.subscriptions d' := by
  cases d with
  | script i => rfl
  | bench n =>
    cases d' with
    | script j => rfl
    | bench m =>
      simp only [endPass, record, subscriptions, List.getElem?_modify]
      cases w.benches[m]? with
      | none => rfl
      | some b =>
        split <;> rfl

/-- No other table changes. -/
theorem subscriptions_modifySubscriptions_of_ne (w : World D) {d d' : Desk} (h : d ≠ d')
    (f : Subscriptions D → Subscriptions D) :
    (w.modifySubscriptions d f).subscriptions d' = w.subscriptions d' := by
  cases d with
  | script i =>
    cases d' with
    | script j =>
      have hij : i ≠ j := fun hij => h (congrArg Desk.script hij)
      simp [subscriptions, modifySubscriptions, modifyInstance, instance?, hij]
    | bench => rfl
  | bench n =>
    cases d' with
    | script => rfl
    | bench m =>
      have hnm : n ≠ m := fun hnm => h (congrArg Desk.bench hnm)
      simp [subscriptions, modifySubscriptions, hnm]

end World

namespace QuietInstance

variable (Q : QuietInstance D)

/-! ## Tables that are apart -/

/-- A coroutine that may come to the desk of the instance, or to the desks of others. -/
def Suits (own : Prop) (routine : D.Coroutine) : Prop :=
  (own → Q.owns routine) ∧ (¬ own → Q.shares routine)

/-- A callback that may come there. -/
def SuitsCallback (own : Prop) (callback : D.Callback) : Prop :=
  (own → Q.ownsCallback callback) ∧ (¬ own → Q.sharesCallback callback)

/-- A table has nothing but what may come to the desk of the instance, or to the desks of
others. -/
def Keeps (own : Prop) (s : Subscriptions D) : Prop :=
  ∀ kind, (∀ c ∈ s.callback kind, Q.SuitsCallback own c) ∧
    ∀ task ∈ s.waiting kind, Q.Suits own task.routine

/-- At every desk there is what may come there. -/
def Apart (w : World D) : Prop :=
  ∀ d, Q.Keeps (d = Q.desk) (w.subscriptions d)

/-- A coroutine goes on as one that may stay where it is. -/
def Yields (own : Prop) : Except ScriptError (Yield D) → Prop
  | .ok (.await _ rest) => Q.Suits own rest
  | _ => True

/-- A callback returns a coroutine that may come to where the callback is. -/
def Produces (own : Prop) : Except ScriptError (Outcome D) → Prop
  | .ok (.spawn routine) => Q.Suits own routine
  | _ => True

/-- A test that does not look at what the instance keeps to itself. -/
def Overlooks (pulse : Pulse D) : Prop :=
  ∀ n w₁ w₂, Q.SameBut w₁ w₂ → pulse.beats n w₁ = pulse.beats n w₂

/-- An act that hands over at every desk what may come there, and no test that looks at what
the instance keeps to itself. -/
def Discreet : Act D → Prop
  | .awaitNext d _ routine | .schedule d _ routine | .spawn d routine =>
    Q.Suits (d = Q.desk) routine
  | .setCallback i _ callback | .on i _ callback =>
    ∀ c ∈ callback, Q.SuitsCallback (Desk.script i = Q.desk) c
  | .notify _ _ _ test => Q.Overlooks (.glance test)
  | _ => True

variable {Q} {own : Prop} {s : Subscriptions D} {w w' : World D}

@[simp] theorem suits_true {routine : D.Coroutine} : Q.Suits True routine ↔ Q.owns routine := by
  simp [Suits]

@[simp] theorem suits_false {routine : D.Coroutine} :
    Q.Suits False routine ↔ Q.shares routine := by
  simp [Suits]

namespace Keeps

/-- The empty table keeps whom it should. -/
theorem empty : Q.Keeps own .empty :=
  fun kind => by simp

/-- A table that hands out a serial number keeps whom it kept. -/
theorem accept (h : Q.Keeps own s) : Q.Keeps own s.accept :=
  h

/-- A table keeps whoever belongs at its desk and waits there. -/
theorem park (h : Q.Keeps own s) (kind : EventKind) {task : Task D}
    (htask : Q.Suits own task.routine) : Q.Keeps own (s.park kind task) := by
  refine fun kind' => ⟨fun c hc => (h kind').1 c (by simpa using hc), fun t ht => ?_⟩
  rw [Subscriptions.waiting_park] at ht
  split at ht
  · rcases List.mem_append.mp ht with ht | ht
    · exact (h kind').2 t ht
    · exact List.mem_singleton.mp ht ▸ htask
  · exact (h kind').2 t ht

/-- A table keeps those who are left when a queue is drained. -/
theorem drain (h : Q.Keeps own s) (kind : EventKind) : Q.Keeps own (s.drain kind) := by
  refine fun kind' => ⟨fun c hc => (h kind').1 c (by simpa using hc), fun t ht => ?_⟩
  rw [Subscriptions.waiting_drain] at ht
  split at ht
  · cases ht
  · exact (h kind').2 t ht

/-- A cleared table keeps nobody. -/
theorem clear : Q.Keeps own s.clear :=
  fun kind => by simp

/-- A table without callbacks keeps whom it kept. -/
theorem clearCallbacks (h : Q.Keeps own s) : Q.Keeps own s.clearCallbacks :=
  fun kind => ⟨fun c hc => by simp at hc, fun t ht => (h kind).2 t (by simpa using ht)⟩

/-- A table may take a callback that belongs at its desk. -/
theorem setCallback (h : Q.Keeps own s) (kind : EventKind) {callback : Option D.Callback}
    (hcallback : ∀ c ∈ callback, Q.SuitsCallback own c) :
    Q.Keeps own (s.setCallback kind callback) := by
  refine fun kind' => ⟨fun c hc => ?_, fun t ht => (h kind').2 t (by simpa using ht)⟩
  rw [Subscriptions.callback_setCallback] at hc
  split at hc
  · exact hcallback c hc
  · exact (h kind').1 c hc

end Keeps

namespace Apart

/-- What happens takes nobody from one desk to another. -/
theorem record (h : Q.Apart w) (x : Happening D) : Q.Apart (w.record x) :=
  h

/-- A notice takes nobody from one desk to another. -/
theorem log (h : Q.Apart w) (n : Notice) : Q.Apart (w.log n) :=
  h

/-- **A change of one table** that keeps it as it should be keeps the tables apart. -/
theorem modifySubscriptions (h : Q.Apart w) (d : Desk) {f : Subscriptions D → Subscriptions D}
    (hf : ∀ s, Q.Keeps (d = Q.desk) s → Q.Keeps (d = Q.desk) (f s)) :
    Q.Apart (w.modifySubscriptions d f) := by
  intro d'
  by_cases hd : d = d'
  · subst hd
    rcases w.subscriptions_modifySubscriptions d f with hchanged | habsent
    · exact hchanged ▸ hf _ (h d)
    · exact habsent ▸ .empty
  · exact (w.subscriptions_modifySubscriptions_of_ne hd f) ▸ h d'

/-- What leaves the table of an instance alone takes nobody from one desk to another. -/
theorem modifyInstance (h : Q.Apart w) (i : Nat) {f : Instance D → Instance D}
    (hf : ∀ x, (f x).subscriptions = x.subscriptions) : Q.Apart (w.modifyInstance i f) := by
  intro d
  have hsame : (w.modifyInstance i f).subscriptions d = w.subscriptions d := by
    cases d with
    | bench => rfl
    | script j =>
      simp only [World.subscriptions, World.modifyInstance, World.instance?, List.getElem?_modify]
      split <;> cases w.instances[j]? <;> simp [hf]
  rw [hsame]
  exact h d

theorem accept (h : Q.Apart w) (d : Desk) (routine : D.Coroutine) :
    Q.Apart (w.accept d routine).2 :=
  (h.modifySubscriptions d fun _ => Keeps.accept).record _

/-- A coroutine may wait at a desk where it belongs. -/
theorem park (h : Q.Apart w) (d : Desk) (kind : EventKind) {task : Task D}
    (htask : Q.Suits (d = Q.desk) task.routine) : Q.Apart (w.park d kind task) :=
  (h.log _).modifySubscriptions d fun _ hs => hs.park kind htask

/-- Who leaves a desk does not turn up at another. -/
theorem recordLeft (h : Q.Apart w) (d : Desk) (why : Farewell) (serials : List Nat) :
    Q.Apart (w.recordLeft d why serials) := by
  induction serials generalizing w with
  | nil => exact h
  | cons s rest ih => exact ih (h.record _)

/-- A pass that is over leaves everybody at his desk. -/
theorem endPass (h : Q.Apart w) (d : Desk) (kind : EventKind) (resumed : Nat) :
    Q.Apart (w.endPass d kind resumed) := by
  intro d'
  have hsame : (w.endPass d kind resumed).subscriptions d' = w.subscriptions d' :=
    World.subscriptions_endPass w d kind resumed d'
  exact hsame ▸ h d'

/-- A cleared desk keeps nobody. -/
theorem clear (h : Q.Apart w) (d : Desk) : Q.Apart (w.clear d) :=
  (h.recordLeft d _ _).modifySubscriptions d fun _ _ => .clear

/-- A coroutine that gives control back waits again at its desk, or nowhere. -/
theorem concludeCoroutine (h : Q.Apart w) (d : Desk) (serial : Nat)
    {r : Except ScriptError (Yield D)} (hr : Q.Yields (d = Q.desk) r) :
    Q.Apart (w.concludeCoroutine d serial r) := by
  unfold World.concludeCoroutine
  split
  · exact h
  · split
    · exact h.park d _ hr
    · exact h
  · exact h
  · exact h

theorem logClosed (h : Q.Apart w) (d : Desk) (n : ScriptId → ScriptNotice) :
    Q.Apart (w.logClosed d n) := by
  unfold World.logClosed
  split
  · split <;> exact h
  · exact h

/-- A coroutine that is to wait for a kind waits at a desk where it belongs. -/
theorem awaitNext (h : Q.Apart w) (d : Desk) (kind : EventKind) {routine : D.Coroutine}
    (hroutine : Q.Suits (d = Q.desk) routine) : Q.Apart (w.awaitNext d kind routine) := by
  unfold World.awaitNext
  split
  · exact (h.accept d routine).park d kind hroutine
  · exact h.logClosed d _

/-- A coroutine that is handed over with a request waits at a desk where it belongs. -/
theorem schedule (h : Q.Apart w) (d : Desk) (request : AwaitRequest) {routine : D.Coroutine}
    (hroutine : Q.Suits (d = Q.desk) routine) : Q.Apart (w.schedule d request routine).2 := by
  unfold World.schedule
  split
  · split
    · exact (h.accept d routine).park d _ hroutine
    · exact h
  · exact h

/-- A callback is set where it belongs. -/
theorem setCallback (h : Q.Apart w) (callable : D.Callback → Bool) (i : Nat) (kind : EventKind)
    {callback : Option D.Callback}
    (hcallback : ∀ c ∈ callback, Q.SuitsCallback (Desk.script i = Q.desk) c) :
    Q.Apart (w.setCallback callable i kind callback).2 := by
  unfold World.setCallback
  split
  · exact h
  · split
    · exact h
    · dsimp only
      split
      · exact (h.log _).modifySubscriptions _ fun _ hs => hs.setCallback kind hcallback
      · exact h

theorem request (h : Q.Apart w) (i : Nat) (kind : RequestKind) (path : Path) :
    Q.Apart (w.request i kind path) := by
  unfold World.request
  split
  · split <;> exact h
  · exact h

/-- Taking a listener off leaves every coroutine at its desk. -/
theorem unlisten (h : Q.Apart w) {id : ListenerId} (hw' : w.unlisten id = .ok w') : Q.Apart w' := by
  unfold World.unlisten at hw'
  split at hw' <;> cases hw'
  exact h

/-- Taking listeners off leaves every coroutine at its desk. -/
theorem detachAll (h : Q.Apart w) (id : ScriptId) (listeners : List ListenerId) :
    Q.Apart (w.detachAll id listeners) := by
  induction listeners generalizing w with
  | nil => exact h
  | cons l rest ih =>
    rw [World.detachAll, List.foldl_cons]
    refine ih ?_
    split
    · next hw' => exact h.unlisten hw'
    · exact h

/-- The beginning of an end leaves every coroutine at its desk. -/
theorem beginEnding (h : Q.Apart w) (i : Nat) : Q.Apart (w.beginEnding i).1 := by
  unfold World.beginEnding
  split
  · exact h
  · split <;> exact h

/-- The end of an instance leaves the others at their desks. -/
theorem finishEnding (h : Q.Apart w) (i : Nat) : Q.Apart (w.finishEnding i) := by
  unfold World.finishEnding
  split
  · exact h
  · have hended := h.modifyInstance i
      (f := fun x => { x with state := .terminated, listeners := [] }) fun _ => rfl
    exact (hended.detachAll _ _).clear (.script i)

/-- A dispatch that begins leaves who is not resumed at his desk. -/
theorem deliver (h : Q.Apart w) (i : Nat) (event : Event) : Q.Apart (w.deliver i event).1 := by
  unfold World.deliver
  split
  · exact h
  · split
    · exact h
    · split
      · exact h
      · exact h.modifySubscriptions _ fun _ hs => hs.drain _

end Apart

/-- **An act that is discreet** keeps the tables apart. -/
theorem Apart.act (h : Q.Apart w) (I : Interpreter D) {x : Act D} (hx : Q.Discreet x) :
    Q.Apart (w.act I x).2.1 := by
  cases x with
  | emit | listen | shutdown | awaiting | resumed => exact h
  | unlisten id =>
    simp only [World.act]
    split
    · next hw' => exact h.unlisten hw'
    · exact h
  | terminate name =>
    simp only [World.act]
    split
    · exact h
    · exact Apart.beginEnding (w := w.takeHeld name) h _
  | awaitNext d kind routine => exact h.awaitNext d kind hx
  | schedule d request routine => exact h.schedule d request hx
  | spawn d routine =>
    simp only [World.act]
    split
    · exact h.accept d routine
    · exact h.logClosed d _
  | setCallback i kind callback => exact h.setCallback _ i kind hx
  | on i event callback =>
    simp only [World.act]
    split
    · exact h
    · exact h.setCallback _ i _ hx
  | clearCallbacks i => exact h.modifySubscriptions _ fun _ hs => hs.clearCallbacks
  | reset i => exact h.clear _
  | request i kind path => exact h.request i kind path
  | requestStopSelf i =>
    simp only [World.act]
    split
    · exact h.request i _ _
    · exact h
  | identity i =>
    simp only [World.act]
    split <;> exact h
  | notify n kind args test => exact h.modifySubscriptions (.bench n) fun _ hs => hs.drain kind

/-! ## Mute code -/

variable (Q)

/-- Code that does nothing to the host and changes nothing of a memory but the instance's
part. -/
inductive Mute (P : α → Prop) (m : D.Memory) : Code D α → Prop
  | ret {a : α} (h : P a) : Mute P m (.ret a)
  | read {k : D.Memory → Code D α} (h : ∀ m', Q.memory.r m m' → Mute P m (k m')) :
      Mute P m (.read k)
  | write {m' : D.Memory} {k : Code D α} (hm : Q.memory.r m m') (h : Mute P m k) :
      Mute P m (.write m' k)
  | remark {r : D.Remark} {k : Code D α} (h : Mute P m k) : Mute P m (.remark r k)
  | log {n : Notice} {k : Code D α} (h : Mute P m k) : Mute P m (.log n k)

/-- The routines at the desk of the instance perform no acts, and what they return may stay
there. -/
structure Silent (I : Interpreter D) : Prop where
  resume : ∀ routine args m, Q.owns routine → Q.Mute (Q.Yields True) m (I.resume routine args)
  call : ∀ callback args m, Q.ownsCallback callback →
    Q.Mute (Q.Produces True) m (I.call callback args)

/-- What is under way at the desk of a quiet instance. -/
inductive Own (m : D.Memory) : Frame D → Prop
  | pass (kind : EventKind) (args : Args) {queue : List (Task D)} (resumed : Nat)
      (h : ∀ task ∈ queue, Q.owns task.routine) :
      Own m (.pass Q.desk kind args (.script Q.place) queue resumed)
  | callback (kind : EventKind) (args : Args) : Own m (.callback Q.place kind args)
  | coroutine (serial : Nat) {code : Code D (Except ScriptError (Yield D))}
      (h : Q.Mute (Q.Yields True) m code) : Own m (.coroutine Q.desk serial code)
  | call (kind : EventKind) {code : Code D (Except ScriptError (Outcome D))}
      (h : Q.Mute (Q.Produces True) m code) : Own m (.call Q.place kind code)

variable {Q} {I : Interpreter D} {P : α → Prop} {m m' : D.Memory}

/-- What is mute in one memory is mute in any other that looks the same to the others. -/
theorem Mute.congr {code : Code D α} (h : Q.Mute P m code) (hm : Q.memory.r m m') :
    Q.Mute P m' code := by
  induction h with
  | ret h => exact .ret h
  | read _ ih => exact .read fun m₁ hm₁ => ih m₁ (Q.memory.iseqv.trans hm hm₁)
  | write hm' _ ih => exact .write (Q.memory.iseqv.trans (Q.memory.iseqv.symm hm) hm') ih
  | remark _ ih => exact .remark ih
  | log _ ih => exact .log ih

/-- What the instance runs itself is its own in any memory that looks the same to the
others. -/
theorem Own.congr {f : Frame D} (h : Q.Own m f) (hm : Q.memory.r m m') : Q.Own m' f := by
  cases h with
  | pass kind args resumed h => exact .pass kind args resumed h
  | callback kind args => exact .callback kind args
  | coroutine serial h => exact .coroutine serial (h.congr hm)
  | call kind h => exact .call kind (h.congr hm)

/-- **A step of mute code**: it has come to its result, or goes on and has started nothing. -/
theorem Mute.progress {code : Code D α} (h : Q.Mute P w.memory code) (hw : Q.Apart w) :
    (∃ a, P a ∧ code.progress I w = .over a) ∨
      ∃ code' w', code.progress I w = .goesOn code' w' [] ∧ Q.Mute P w.memory code' ∧
        Q.SameBut w' w ∧ Q.Apart w' := by
  cases h with
  | ret h => exact Or.inl ⟨_, h, rfl⟩
  | read h => exact Or.inr ⟨_, w, rfl, h _ (Q.memory.iseqv.refl _), .refl Q w, hw⟩
  | write hm h =>
    exact Or.inr ⟨_, _, rfl, h, { SameBut.refl Q w with memory := Q.memory.iseqv.symm hm }, hw⟩
  | remark h => exact Or.inr ⟨_, _, rfl, h, sameBut_record w rfl, hw⟩
  | log h => exact Or.inr ⟨_, _, rfl, h, sameBut_log w _, hw⟩

/-! ## What is under way at the desk of a quiet instance -/

/-- What a step leaves: a world that is the same but for the instance, and more of what is
under way at its desk. -/
structure Stays (w : World D) (p : World D × List (Frame D)) : Prop where
  same : Q.SameBut p.1 w
  apart : Q.Apart p.1
  own : ∀ f ∈ p.2, Q.Own p.1.memory f

/-- The instance starts coroutines of its own at its own desk. -/
theorem own_start (hI : Q.Silent I) (hw : Q.Apart w) {routine : D.Coroutine}
    (h : Q.owns routine) :
    Q.Stays w ((w.start I Q.desk routine).1, [(w.start I Q.desk routine).2]) := by
  refine ⟨(sameBut_record _ (by simp [shows])).trans (sameBut_accept_own w routine),
    hw.accept Q.desk routine, ?_⟩
  exact List.forall_mem_singleton.mpr (.coroutine _ (hI.resume routine [] _ h))

/-- **A step of what is under way at the desk of a quiet instance.** -/
theorem own_advance (hI : Q.Silent I) (hw : Q.Apart w) {f : Frame D} (hf : Q.Own w.memory f) :
    Q.Stays w (f.advance I w) := by
  cases hf with
  | pass kind args resumed h =>
    rename_i queue
    cases queue with
    | nil =>
      exact ⟨sameBut_endPass_own w kind resumed, hw.endPass _ _ _, by simp [Frame.advance]⟩
    | cons task queue =>
      obtain ⟨htask, hqueue⟩ := List.forall_mem_cons.mp h
      simp only [Frame.advance]
      split
      · refine ⟨sameBut_record w (by simp [shows]), hw, ?_⟩
        exact List.forall_mem_cons.mpr ⟨.coroutine _ (hI.resume task.routine args _ htask),
          List.forall_mem_singleton.mpr (.pass kind args _ hqueue)⟩
      · refine ⟨?_, ((hw.log _).recordLeft _ _ _).endPass _ _ _, by simp⟩
        exact ((sameBut_endPass_own _ kind resumed).trans (sameBut_recordLeft_own _ _ _)).trans
          (sameBut_log w _)
  | callback kind args =>
    simp only [Frame.advance]
    split
    · next c _ hc =>
      have hown : Q.ownsCallback c := ((hw Q.desk kind).1 c hc).1 rfl
      refine ⟨sameBut_record w (by simp [shows]), hw, ?_⟩
      exact List.forall_mem_singleton.mpr (.call kind (hI.call c args _ hown))
    · exact ⟨.refl Q w, hw, by simp⟩
  | coroutine serial h =>
    rcases h.progress (I := I) hw with ⟨r, hr, hover⟩ | ⟨code', w', hgoes, h', hsame, hw'⟩
    · simp only [Frame.advance, hover]
      refine ⟨sameBut_concludeCoroutine_own w serial r, hw.concludeCoroutine Q.desk serial ?_,
        by simp⟩
      simpa using hr
    · simp only [Frame.advance, hgoes]
      exact ⟨hsame, hw', List.forall_mem_singleton.mpr
        (.coroutine serial (h'.congr (Q.memory.iseqv.symm hsame.memory)))⟩
  | call kind h =>
    rcases h.progress (I := I) hw with ⟨r, hr, hover⟩ | ⟨code', w', hgoes, h', hsame, hw'⟩
    · simp only [Frame.advance, hover]
      cases r with
      | error e =>
        dsimp only
        split
        · exact ⟨sameBut_log w _, hw, by simp⟩
        · exact ⟨.refl Q w, hw, by simp⟩
      | ok outcome =>
        cases outcome with
        | done => exact ⟨.refl Q w, hw, by simp⟩
        | spawn routine =>
          have hown : Q.owns routine := by simpa [Produces] using hr
          exact own_start hI hw hown
    · simp only [Frame.advance, hgoes]
      exact ⟨hsame, hw', List.forall_mem_singleton.mpr
        (.call kind (h'.congr (Q.memory.iseqv.symm hsame.memory)))⟩

variable (Q I) in
/-- Activities come to an end, and leave a world that is the same but for the instance. -/
def Subsides (w : World D) (F : List (Frame D)) : Prop :=
  ∃ w', Config.Steps I ⟨w, F⟩ ⟨w', []⟩ ∧ Q.SameBut w' w ∧ Q.Apart w'

/-- Where nothing is under way nothing has to subside. -/
theorem Subsides.nil (hw : Q.Apart w) : Q.Subsides I w [] :=
  ⟨w, .refl, .refl Q w, hw⟩

/-- What subsides, followed by what subsides in any world that agrees, subsides. -/
theorem Subsides.cons {f : Frame D} {F : List (Frame D)} (hf : Q.Subsides I w [f])
    (hF : ∀ w', Q.SameBut w' w → Q.Apart w' → Q.Subsides I w' F) : Q.Subsides I w (f :: F) := by
  obtain ⟨w₁, hsteps, hsame, hw₁⟩ := hf
  obtain ⟨w₂, hrest, hsame', hw₂⟩ := hF w₁ hsame hw₁
  exact ⟨w₂, (hsteps.above F).trans hrest, hsame'.trans hsame, hw₂⟩

/-- What subsides after a step of the instance's own subsides before it. -/
theorem Subsides.of_advance (hI : Q.Silent I) (hw : Q.Apart w) {f : Frame D}
    (hf : Q.Own w.memory f) (h : Q.Subsides I (f.advance I w).1 (f.advance I w).2) :
    Q.Subsides I w [f] := by
  obtain ⟨w', hsteps, hsame, hw'⟩ := h
  have hstep : Config.step? I ⟨w, [f]⟩ = some ⟨(f.advance I w).1, (f.advance I w).2 ++ []⟩ := rfl
  rw [List.append_nil] at hstep
  exact ⟨w', hsteps.head hstep, hsame.trans (own_advance hI hw hf).same, hw'⟩

/-- **An activity that runs mute code** subsides if it does once the code has come to its
result. -/
theorem Mute.subsides (hI : Q.Silent I) {F : Code D α → Frame D}
    (hown : ∀ (w : World D) code, Q.Mute P w.memory code → Q.Own w.memory (F code))
    (hgoes : ∀ (w : World D) code code' w', code.progress I w = .goesOn code' w' [] →
      (F code).advance I w = (w', [F code']))
    (hover : ∀ (w : World D) a, P a → Q.Apart w → Q.Subsides I w [F (.ret a)])
    {code : Code D α} (h : Q.Mute P m code) (hm : Q.memory.r m w.memory) (hw : Q.Apart w) :
    Q.Subsides I w [F code] := by
  induction h generalizing w with
  | @ret a h => exact hover w a h hw
  | @read k h ih =>
    refine .of_advance hI hw (hown w _ ((Mute.read h).congr hm)) ?_
    rw [hgoes w _ _ _ rfl]
    exact ih w.memory hm hm hw
  | @write m' k hm' h ih =>
    refine .of_advance hI hw (hown w _ ((Mute.write hm' h).congr hm)) ?_
    rw [hgoes w _ _ _ rfl]
    exact ih hm' hw
  | @remark r k h ih =>
    refine .of_advance hI hw (hown w _ ((Mute.remark h).congr hm)) ?_
    rw [hgoes w _ _ _ rfl]
    exact ih hm hw
  | @log n k h ih =>
    refine .of_advance hI hw (hown w _ ((Mute.log h).congr hm)) ?_
    rw [hgoes w _ _ _ rfl]
    exact ih hm hw

/-- **A coroutine of a quiet instance** gives control back. -/
theorem subsides_coroutine (hI : Q.Silent I) {code : Code D (Except ScriptError (Yield D))}
    (h : Q.Mute (Q.Yields True) w.memory code) (serial : Nat) (hw : Q.Apart w) :
    Q.Subsides I w [.coroutine Q.desk serial code] := by
  refine h.subsides hI (F := .coroutine Q.desk serial) (fun _ _ h => .coroutine serial h)
    (fun w code code' w' hgoes => by simp only [Frame.advance, hgoes, List.nil_append])
    (fun w r hr hw => ?_) (Q.memory.iseqv.refl _) hw
  have hown := own_advance hI hw (.coroutine serial (.ret hr))
  exact .of_advance hI hw (.coroutine serial (.ret hr)) (.nil hown.apart)

/-- **A callback of a quiet instance** comes to its result, and what it returns is run. -/
theorem subsides_call (hI : Q.Silent I) {code : Code D (Except ScriptError (Outcome D))}
    (h : Q.Mute (Q.Produces True) w.memory code) (kind : EventKind) (hw : Q.Apart w) :
    Q.Subsides I w [.call Q.place kind code] := by
  refine h.subsides hI (F := .call Q.place kind) (fun _ _ h => .call kind h)
    (fun w code code' w' hgoes => by simp only [Frame.advance, hgoes, List.nil_append])
    (fun w r hr hw => ?_) (Q.memory.iseqv.refl _) hw
  have hown := own_advance hI hw (.call kind (.ret hr))
  refine .of_advance hI hw (.call kind (.ret hr)) ?_
  cases r with
  | error e =>
    have hnone : ((Frame.call Q.place kind (.ret (.error e))).advance I w).2 = [] := by
      simp only [Frame.advance, Code.progress]
      split <;> rfl
    rw [hnone]
    exact .nil hown.apart
  | ok outcome =>
    cases outcome with
    | done => exact .nil hown.apart
    | spawn routine =>
      have hroutine : Q.owns routine := by simpa [Produces] using hr
      exact subsides_coroutine hI (hI.resume routine [] _ hroutine) _ hown.apart

/-- **A pass over coroutines of a quiet instance** resumes them one after another. -/
theorem subsides_pass (hI : Q.Silent I) (kind : EventKind) (args : Args) {queue : List (Task D)}
    (h : ∀ task ∈ queue, Q.owns task.routine) (resumed : Nat) (hw : Q.Apart w) :
    Q.Subsides I w [.pass Q.desk kind args (.script Q.place) queue resumed] := by
  induction queue generalizing w resumed with
  | nil =>
    exact .of_advance hI hw (.pass kind args resumed h) (.nil (hw.endPass _ kind resumed))
  | cons task queue ih =>
    have hown := own_advance hI hw (.pass kind args resumed h)
    refine .of_advance hI hw (.pass kind args resumed h) ?_
    obtain ⟨htask, hqueue⟩ := List.forall_mem_cons.mp h
    by_cases hbeats : w.isAlive Q.place = true
    · have hadvance : (Frame.pass Q.desk kind args (.script Q.place) (task :: queue)
          resumed).advance I w = ((w.resume I Q.desk task args).1,
            [(w.resume I Q.desk task args).2,
              .pass Q.desk kind args (.script Q.place) queue (resumed + 1)]) := by
        simp only [Frame.advance, Pulse.beats, hbeats, if_true]
      rw [hadvance] at hown ⊢
      refine .cons (subsides_coroutine hI (hI.resume task.routine args _ htask) _ hown.apart)
        fun w' _ hw' => ih hqueue _ hw'
    · have hnone : ((Frame.pass Q.desk kind args (.script Q.place) (task :: queue)
          resumed).advance I w).2 = [] := by
        simp only [Frame.advance, Pulse.beats, hbeats]
        rfl
      rw [hnone]
      exact .nil hown.apart

/-- **Whatever is under way at the desk of a quiet instance subsides.** -/
theorem subsides (hI : Q.Silent I) (hw : Q.Apart w) {F : List (Frame D)}
    (hF : ∀ f ∈ F, Q.Own w.memory f) : Q.Subsides I w F := by
  induction F generalizing w with
  | nil => exact .nil hw
  | cons f F ih =>
    obtain ⟨hf, hF⟩ := List.forall_mem_cons.mp hF
    refine .cons ?_ fun w' hsame hw' =>
      ih hw' fun g hg => (hF g hg).congr (Q.memory.iseqv.symm hsame.memory)
    cases hf with
    | pass kind args resumed h => exact subsides_pass hI kind args h resumed hw
    | coroutine serial h => exact subsides_coroutine hI h serial hw
    | call kind h => exact subsides_call hI h kind hw
    | callback kind args =>
      have hown := own_advance hI hw (.callback kind args)
      refine .of_advance hI hw (.callback kind args) ?_
      simp only [Frame.advance] at hown ⊢
      split
      · next c halive hc =>
        simp only [halive, hc] at hown
        cases hown.own _ List.mem_cons_self with
        | call kind h => exact subsides_call hI h kind hown.apart
      · exact .nil hw

end QuietInstance

end ScriptHost
