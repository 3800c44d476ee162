import ScriptHost.Proofs.Contention
import ScriptHost.Proofs.Dispatches

/-!
# What is asked of a context

Script code subscribes through the context of its instance: it sets callbacks, for a kind
or for the event of a name, and it hands coroutines over, to wait or to be run at once.
Each of these **calls** is looked at in its own order: a callback is looked at before
the life of the instance, and the life of the instance before an await request.

Whatever comes first, a call that is turned down leaves notices and nothing else; so
does one that comes after the end.  Where a coroutine is to wait and may, it becomes the
last in the queue it asked for, and that is all.

* `ContextCall.refusal?` — what a call is turned down with;
* `World.quiet_of_vain` — nothing comes of a call that is turned down or too late;
* `World.enqueued_park_accept` — what comes of a coroutine that may wait;
* `World.context_calls_clean` — every call, to an instance in any state.
-/

namespace ScriptHost

variable {D : Dialect} {I : Interpreter D}

/-- What script code asks of the context of an instance, to be subscribed to events. -/
inductive ContextCall (D : Dialect) where
  | setCallback (kind : EventKind) (callback : Option D.Callback)
  /-- Set a callback for the event of a name. -/
  | on (event : String) (callback : Option D.Callback)
  /-- A coroutine is to wait for the event a request names. -/
  | schedule (request : AwaitRequest) (routine : D.Coroutine)
  | awaitNext (kind : EventKind) (routine : D.Coroutine)
  /-- A coroutine is to run up to its first suspension. -/
  | spawn (routine : D.Coroutine)

namespace ContextCall

/-- The act a call is, in the context of an instance. -/
def act (i : Nat) : ContextCall D → Act D
  | .setCallback kind callback => .setCallback i kind callback
  | .on event callback => .on i event callback
  | .schedule request routine => .schedule (.script i) request routine
  | .awaitNext kind routine => .awaitNext (.script i) kind routine
  | .spawn routine => .spawn (.script i) routine

/-- What a callback is turned down with: whether it can be called is looked at first. -/
def callbackRefusal? (callable : D.Callback → Bool) (alive : Bool) (kind : EventKind)
    (callback : Option D.Callback) : Option ScriptError :=
  if callback.any fun c => !callable c then some (.notCallable kind)
  else if alive then none
  else some .cancelled

/-- What a call is turned down with.  A coroutine that is to wait for a kind, or to be
run, is never turned down: after the end it is let go without a word. -/
def refusal? (callable : D.Callback → Bool) (alive : Bool) : ContextCall D → Option ScriptError
  | .setCallback kind callback => callbackRefusal? callable alive kind callback
  | .on event callback =>
    match resolveKind event with
    | .ok kind => callbackRefusal? callable alive kind callback
    | .error e => some e
  | .schedule request _ =>
    if alive then
      match request.resolve with
      | .ok _ => none
      | .error e => some e
    else some .cancelled
  | .awaitNext _ _ | .spawn _ => none

theorem callbackRefusal?_ended (callable : D.Callback → Bool) (kind : EventKind)
    (callback : Option D.Callback) :
    (callbackRefusal? callable false kind callback).isSome = true := by
  unfold callbackRefusal?
  split <;> rfl

end ContextCall

namespace World

/-- Every callback, every queue, the hub and the deferred requests are as they were;
whatever else there is in a world is too, but for notices. -/
structure Untouched (w w' : World D) : Prop where
  callbacks : ∀ desk kind,
    (w'.subscriptions desk).callback kind = (w.subscriptions desk).callback kind
  queues : ∀ desk kind, (w'.subscriptions desk).waiting kind = (w.subscriptions desk).waiting kind
  hub : w'.hub = w.hub
  requests : w'.requests = w.requests
  heard : w.Heard w'

/-- A coroutine has become the last in the queue of a kind; the other queues, the
callbacks, the hub and the deferred requests are as they were. -/
structure Enqueued (w : World D) (desk : Desk) (kind : EventKind) (routine : D.Coroutine)
    (w' : World D) : Prop where
  last : (w'.subscriptions desk).waiting kind
    = (w.subscriptions desk).waiting kind ++ [⟨(w.subscriptions desk).handed, routine⟩]
  others : ∀ desk' kind', ¬ (desk' = desk ∧ kind' = kind) →
    (w'.subscriptions desk').waiting kind' = (w.subscriptions desk').waiting kind'
  callbacks : ∀ desk' kind',
    (w'.subscriptions desk').callback kind' = (w.subscriptions desk').callback kind'
  hub : w'.hub = w.hub
  requests : w'.requests = w.requests

variable {w w' : World D} {i : Nat} {x : Instance D}

/-- Notices leave everything else as it was. -/
theorem Heard.untouched (h : w.Heard w') : w.Untouched w' := by
  have hheard := h
  obtain ⟨notices, rfl⟩ := h
  exact ⟨fun _ _ => rfl, fun _ _ => rfl, rfl, rfl, hheard⟩

theorem heard_logClosed (w : World D) (desk : Desk) (n : ScriptId → ScriptNotice) :
    w.Heard (w.logClosed desk n) := by
  unfold logClosed
  split
  · split
    · exact w.heard_log _
    · exact .refl w
  · exact .refl w

/-! ## Calls that are turned down -/

theorem setCallback_answer (hx : w.instance? i = some x) (callable : D.Callback → Bool)
    (kind : EventKind) (callback : Option D.Callback) :
    (w.setCallback callable i kind callback).1
      = match ContextCall.callbackRefusal? callable x.isAlive kind callback with
        | some e => .error e
        | none => .ok () := by
  unfold setCallback ContextCall.callbackRefusal?
  by_cases hcallable : (callback.any fun c => !callable c) = true
  · simp [hcallable]
  · by_cases halive : x.isAlive = true
    · simp [hcallable, hx, halive]
    · simp [hcallable, hx, halive]

/-- A callback that is turned down leaves at most a notice. -/
theorem heard_setCallback (hx : w.instance? i = some x) {callable : D.Callback → Bool}
    {kind : EventKind} {callback : Option D.Callback}
    (hrefused : (ContextCall.callbackRefusal? callable x.isAlive kind callback).isSome = true) :
    w.Heard (w.setCallback callable i kind callback).2 := by
  unfold setCallback
  by_cases hcallable : (callback.any fun c => !callable c) = true
  · rw [if_pos hcallable]
    exact .refl w
  · have hended : x.isAlive = false := by
      by_contra halive
      simp [ContextCall.callbackRefusal?, hcallable, halive] at hrefused
    simp only [hcallable, hx, hended]
    exact w.heard_log _

theorem schedule_answer (w : World D) (desk : Desk) (request : AwaitRequest)
    (routine : D.Coroutine) :
    (w.schedule desk request routine).1
      = if w.isOpen desk then request.resolve else .error .cancelled := by
  unfold schedule
  split
  · split <;> simp_all
  · rfl

/-- A coroutine that may not wait is let go. -/
theorem schedule_of_error {desk : Desk} {request : AwaitRequest} {routine : D.Coroutine}
    {e : ScriptError} (h : (w.schedule desk request routine).1 = .error e) :
    (w.schedule desk request routine).2 = w := by
  unfold schedule at h ⊢
  split
  · next hopen =>
    rw [if_pos hopen] at h
    split at h
    · cases h
    · simp
  · rfl

theorem isOpen_script (hx : w.instance? i = some x) : w.isOpen (.script i) = x.isAlive := by
  simp [isOpen, isAlive, hx]

/-- A call fails with what it is turned down with. -/
theorem failed_iff (hx : w.instance? i = some x) (p : ContextCall D) (e : ScriptError) :
    (w.act I (p.act i)).1 = .failed e ↔ p.refusal? I.callable x.isAlive = some e := by
  cases p with
  | setCallback kind callback =>
    simp only [ContextCall.act, act, setCallback_answer hx, ContextCall.refusal?]
    split <;> simp_all [answerOf]
  | on event callback =>
    simp only [ContextCall.act, act, ContextCall.refusal?]
    cases resolveKind event with
    | error e' => simp
    | ok kind =>
      simp only [setCallback_answer hx]
      split <;> simp_all [answerOf]
  | schedule request routine =>
    simp only [ContextCall.act, act, schedule_answer, isOpen_script hx, ContextCall.refusal?]
    split
    · cases request.resolve <;> simp [answerOf]
    · simp [answerOf]
  | awaitNext kind routine => simp [ContextCall.act, act, ContextCall.refusal?]
  | spawn routine =>
    simp only [ContextCall.act, act, ContextCall.refusal?]
    split <;> simp

/-- Nothing is started by a call that is turned down or comes after the end, and
nothing changes but for notices. -/
theorem quiet_of_vain (hx : w.instance? i = some x) (p : ContextCall D)
    (hvain : (p.refusal? I.callable x.isAlive).isSome = true ∨ x.isAlive = false) :
    (w.act I (p.act i)).2.2 = [] ∧ w.Heard (w.act I (p.act i)).2.1 := by
  cases p with
  | setCallback kind callback =>
    refine ⟨rfl, heard_setCallback hx ?_⟩
    rcases hvain with hrefused | hended
    · exact hrefused
    · rw [hended]
      exact ContextCall.callbackRefusal?_ended _ _ _
  | on event callback =>
    simp only [ContextCall.refusal?] at hvain
    simp only [ContextCall.act, act]
    cases hkind : resolveKind event with
    | error e => exact ⟨rfl, .refl w⟩
    | ok kind =>
      simp only [hkind] at hvain
      refine ⟨rfl, heard_setCallback hx ?_⟩
      rcases hvain with hrefused | hended
      · exact hrefused
      · rw [hended]
        exact ContextCall.callbackRefusal?_ended _ _ _
  | schedule request routine =>
    have herror : ∃ e, (w.schedule (.script i) request routine).1 = .error e := by
      rw [schedule_answer, isOpen_script hx]
      cases halive : x.isAlive with
      | false => exact ⟨.cancelled, rfl⟩
      | true =>
        rw [if_pos rfl]
        cases hresolve : request.resolve with
        | error e => exact ⟨e, rfl⟩
        | ok kind => simp [ContextCall.refusal?, halive, hresolve] at hvain
    obtain ⟨e, he⟩ := herror
    refine ⟨rfl, ?_⟩
    simp only [ContextCall.act, act]
    rw [schedule_of_error he]
    exact .refl w
  | awaitNext kind routine =>
    have hended : x.isAlive = false := hvain.resolve_left (by simp [ContextCall.refusal?])
    have hclosed : ¬ w.isOpen (.script i) = true := by simp [isOpen_script hx, hended]
    simp only [ContextCall.act, act, awaitNext, if_neg hclosed]
    exact ⟨trivial, heard_logClosed w _ _⟩
  | spawn routine =>
    have hended : x.isAlive = false := hvain.resolve_left (by simp [ContextCall.refusal?])
    have hclosed : ¬ w.isOpen (.script i) = true := by simp [isOpen_script hx, hended]
    simp only [ContextCall.act, act, if_neg hclosed]
    exact ⟨trivial, heard_logClosed w _ _⟩

/-! ## Coroutines that may wait -/

/-- The table of an instance that there is changes as it is told to. -/
theorem subscriptions_modifySubscriptions_script (hx : w.instance? i = some x)
    (f : Subscriptions D → Subscriptions D) :
    (w.modifySubscriptions (.script i) f).subscriptions (.script i)
      = f (w.subscriptions (.script i)) := by
  have hmodified : (w.modifySubscriptions (.script i) f).instance? i
      = some { x with subscriptions := f x.subscriptions } := by
    have hx' : w.instances[i]? = some x := hx
    simp [modifySubscriptions, modifyInstance, instance?, hx']
  simp [subscriptions, hmodified, hx]

/-- What a coroutine leaves that is taken in and waits at once. -/
theorem enqueued_park_accept (hx : w.instance? i = some x) (kind : EventKind)
    (routine : D.Coroutine) :
    w.Enqueued (.script i) kind routine
      ((w.accept (.script i) routine).2.park (.script i) kind
        (w.accept (.script i) routine).1) := by
  have htaken (n : Notice) : ((w.accept (.script i) routine).2.log n).instance? i
      = some { x with subscriptions := x.subscriptions.accept } := by
    have hx' : w.instances[i]? = some x := hx
    simp [accept, modifySubscriptions, modifyInstance, record, log, instance?, hx']
  have htable : ((w.accept (.script i) routine).2.park (.script i) kind
        (w.accept (.script i) routine).1).subscriptions (.script i)
      = (w.subscriptions (.script i)).accept.park kind
          ⟨(w.subscriptions (.script i)).handed, routine⟩ := by
    have haccepted : (w.accept (.script i) routine).2.subscriptions (.script i)
        = (w.subscriptions (.script i)).accept :=
      subscriptions_modifySubscriptions_script hx .accept
    rw [← haccepted]
    exact subscriptions_modifySubscriptions_script (htaken _) _
  have helse : ∀ desk', desk' ≠ .script i →
      ((w.accept (.script i) routine).2.park (.script i) kind
        (w.accept (.script i) routine).1).subscriptions desk' = w.subscriptions desk' := by
    intro desk' hne
    exact (subscriptions_modifySubscriptions_of_ne _ hne.symm _).trans
      (subscriptions_modifySubscriptions_of_ne w hne.symm _)
  refine ⟨?_, fun desk' kind' hother => ?_, fun desk' kind' => ?_, rfl, rfl⟩
  · rw [htable, Subscriptions.waiting_park, if_pos rfl]
    rfl
  · by_cases hdesk : desk' = .script i
    · subst hdesk
      have hkind : kind ≠ kind' := fun h => hother ⟨rfl, h.symm⟩
      rw [htable, Subscriptions.waiting_park, if_neg hkind]
      rfl
    · rw [helse desk' hdesk]
  · by_cases hdesk : desk' = .script i
    · subst hdesk
      rw [htable, Subscriptions.callback_park]
      rfl
    · rw [helse desk' hdesk]

/-- **Calls are granted or leave nothing half made.**  Whatever the state of the
instance: a call fails with what it is turned down with, a callback that cannot be
called, an unknown event, a wrong tag or the end of the instance.  If it fails, or if the
instance has ended, no script code is started, and every callback, every queue, the hub and
the deferred requests are as they were.  A coroutine that may wait becomes the last in the
queue of the kind that was named, and nothing else is changed or started. -/
theorem context_calls_clean (hx : w.instance? i = some x) (p : ContextCall D) :
    (∀ e, (w.act I (p.act i)).1 = .failed e ↔ p.refusal? I.callable x.isAlive = some e) ∧
    ((∃ e, (w.act I (p.act i)).1 = .failed e) ∨ x.state = .terminated →
      (w.act I (p.act i)).2.2 = [] ∧ w.Untouched (w.act I (p.act i)).2.1) ∧
    (∀ request routine kind, p = .schedule request routine →
      (w.act I (p.act i)).1 = .kind kind →
      request.resolve = .ok kind ∧ (w.act I (p.act i)).2.2 = [] ∧
        w.Enqueued (.script i) kind routine (w.act I (p.act i)).2.1) ∧
    (∀ kind routine, p = .awaitNext kind routine → x.state ≠ .terminated →
      (w.act I (p.act i)).2.2 = [] ∧
        w.Enqueued (.script i) kind routine (w.act I (p.act i)).2.1) := by
  refine ⟨failed_iff hx p, ?_, ?_, ?_⟩
  · intro hvain
    have hvain' : (p.refusal? I.callable x.isAlive).isSome = true ∨ x.isAlive = false := by
      rcases hvain with ⟨e, he⟩ | hended
      · exact .inl (Option.isSome_iff_exists.mpr ⟨e, (failed_iff hx p e).mp he⟩)
      · exact .inr (by simp [Instance.isAlive, hended])
    obtain ⟨hstarted, hheard⟩ := quiet_of_vain hx p hvain'
    exact ⟨hstarted, hheard.untouched⟩
  · rintro request routine kind rfl hkind
    have hanswer : (w.schedule (.script i) request routine).1 = .ok kind := by
      simp only [ContextCall.act, act] at hkind
      cases hresult : (w.schedule (.script i) request routine).1 with
      | error e => simp [answerOf, hresult] at hkind
      | ok kind' => simpa [answerOf, hresult] using hkind
    rw [schedule_answer] at hanswer
    have hopen : w.isOpen (.script i) = true := by
      by_contra hclosed
      simp [hclosed] at hanswer
    rw [if_pos hopen] at hanswer
    refine ⟨hanswer, rfl, ?_⟩
    simp only [ContextCall.act, act, schedule, hopen, hanswer]
    exact enqueued_park_accept hx kind routine
  · rintro kind routine rfl halive
    have hopen : w.isOpen (.script i) = true := by
      rw [isOpen_script hx]
      simp [Instance.isAlive, halive]
    refine ⟨rfl, ?_⟩
    simp only [ContextCall.act, act, awaitNext, hopen]
    exact enqueued_park_accept hx kind routine

end World

/-- A request under a wrong tag leaves the instance of `Specimen.threeWaiting` as it was; the
coroutine of a well-formed one becomes the fourth that waits for a tick. -/
theorem World.context_calls_clean_wrong_tag :
    (Specimen.threeWaiting.act Specimen.waiter
        ((ContextCall.schedule ⟨"later", "timer_tick"⟩ none).act 0)).1
      = .failed (.unexpectedYield "later") ∧
    Specimen.threeWaiting.Untouched
      (Specimen.threeWaiting.act Specimen.waiter
        ((ContextCall.schedule ⟨"later", "timer_tick"⟩ none).act 0)).2.1 ∧
    ((Specimen.threeWaiting.act Specimen.waiter
        ((ContextCall.schedule (.ofKind .timerTick) none).act 0)).2.1.subscriptions
          (.script 0)).waiting .timerTick
      = [⟨0, some .frameAdvance⟩, ⟨1, none⟩, ⟨2, some .timerTick⟩, ⟨3, none⟩] := by
  have hx : Specimen.threeWaiting.instance? 0 = Specimen.threeWaiting.instances.head? := rfl
  obtain ⟨hanswer, hvain, -, -⟩ :=
    World.context_calls_clean (I := Specimen.waiter) hx (.schedule ⟨"later", "timer_tick"⟩ none)
  have hfailed := (hanswer (.unexpectedYield "later")).mpr rfl
  obtain ⟨-, -, hgranted, -⟩ :=
    World.context_calls_clean (I := Specimen.waiter) hx (.schedule (.ofKind .timerTick) none)
  obtain ⟨-, -, henqueued⟩ := hgranted _ _ .timerTick rfl rfl
  exact ⟨hfailed, (hvain (.inl ⟨_, hfailed⟩)).2, henqueued.last⟩

end ScriptHost
