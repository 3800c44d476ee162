import ScriptHost.Script.Code

/-!
# Dispatches as functions

An event that reaches an instance resumes the coroutines that wait for its kind, then
calls the callback, then drives the coroutine that the callback returned.  If none of them
performs an act, nothing else runs meanwhile, and the dispatch is a **function** of the
instance's table and of the memory.

* `Interpreter.dispatch?` — that function;
* `Subscriptions.waiting_dispatch` — how it distributes the queue it drains.
-/

namespace ScriptHost

variable {D : Dialect} {α : Type}

/-! ## What it should come to -/

/-- What code comes to on its own, and the memory it leaves; nothing if it performs an
act. -/
def Code.result? : Code D α → D.Memory → Option (α × D.Memory)
  | .ret a, m => some (a, m)
  | .read k, m => (k m).result? m
  | .write m k, _ => k.result? m
  | .remark _ k, m => k.result? m
  | .log _ k, m => k.result? m
  | .act _ _, _ => none

/-- What code says for the record on its own, until it performs an act. -/
def Code.remarks : Code D α → D.Memory → List D.Remark
  | .ret _, _ => []
  | .read k, m => (k m).remarks m
  | .write m k, _ => k.remarks m
  | .remark r k, m => r :: k.remarks m
  | .log _ k, m => k.remarks m
  | .act _ _, _ => []

/-- Code that performs no act, whatever it finds in the memory. -/
def Code.Actless : Code D α → Prop
  | .ret _ => True
  | .read k => ∀ m, (k m).Actless
  | .write _ k | .remark _ k | .log _ k => k.Actless
  | .act _ _ => False

/-- Code that performs no act comes to something in any memory. -/
theorem Code.Actless.exists_result {code : Code D α} (h : code.Actless) (m : D.Memory) :
    ∃ a m', code.result? m = some (a, m') := by
  induction code generalizing m with
  | ret a => exact ⟨a, m, rfl⟩
  | read k ih => exact ih m (h m) m
  | write m' k ih => exact ih h m'
  | remark r k ih | log n k ih => exact ih h m
  | act x k ih => exact h.elim

/-- A coroutine has run: under its number, with arguments, to a result. -/
structure Stint (D : Dialect) where
  serial : Nat
  args : Args
  result : Except ScriptError (Yield D)

namespace Stint

/-- Where the coroutine goes from there: it waits for a kind. -/
def next? (x : Stint D) : Option (EventKind × Task D) :=
  match x.result with
  | .ok (.await request rest) =>
    match request.resolve with
    | .ok kind => some (kind, ⟨x.serial, rest⟩)
    | .error _ => none
  | _ => none

/-- As what it waits for one kind, if it does. -/
def waits? (kind : EventKind) (x : Stint D) : Option (Task D) :=
  x.next?.bind fun p => if p.1 = kind then some p.2 else none

/-- Why it is gone. -/
def farewell? (x : Stint D) : Option Farewell :=
  match x.result with
  | .ok .finished => some .finished
  | .ok (.await request _) =>
    match request.resolve with
    | .ok _ => none
    | .error e => some (.misdirected e)
  | .error e => some (.failed e)

/-- A coroutine waits or is gone. -/
theorem exists_farewell {x : Stint D} (h : x.next? = none) : ∃ why, x.farewell? = some why := by
  unfold next? at h
  unfold farewell?
  split at h
  · next request rest hresult =>
    split at h
    · cases h
    · next e he => exact ⟨.misdirected e, by simp [hresult, he]⟩
  · next hother =>
    cases hresult : x.result with
    | error e => exact ⟨.failed e, rfl⟩
    | ok y =>
      cases y with
      | finished => exact ⟨.finished, rfl⟩
      | await request rest => exact absurd hresult (hother request rest)

/-- What the journal says of its end. -/
def leaves (i : Nat) (x : Stint D) : List (Happening D) :=
  (x.farewell?.map (Happening.left (.script i) x.serial)).toList

/-- What the journal says of it. -/
def story (i : Nat) (x : Stint D) : List (Happening D) :=
  .resumed (.script i) x.serial x.args :: x.leaves i

end Stint

/-- The table after a coroutine has run. -/
def Subscriptions.settle (s : Subscriptions D) (x : Stint D) : Subscriptions D :=
  match x.next? with
  | some (kind, task) => s.park kind task
  | none => s

/-- What a dispatch runs, and what that comes to. -/
structure Dispatch (D : Dialect) where
  /-- The coroutines that waited, in order. -/
  resumed : List (Stint D)
  called : Option D.Callback
  /-- The coroutine the callback returned. -/
  spawned : Option (Stint D)
  /-- The memory it leaves. -/
  memory : D.Memory

namespace Dispatch

/-- The coroutines that run, in order. -/
def ran (d : Dispatch D) : List (Stint D) :=
  d.resumed ++ d.spawned.toList

/-- What the journal says of it, in the order in which it happens. -/
def story (d : Dispatch D) (i : Nat) (kind : EventKind) (args : Args) : List (Happening D) :=
  d.resumed.flatMap (Stint.story i) ++ d.called.toList.map (Happening.called i kind · args)
    ++ d.spawned.toList.flatMap fun x => .handed (.script i) x.serial :: x.story i

/-- The story of everybody who runs is part of it. -/
theorem mem_story {d : Dispatch D} {i : Nat} {kind : EventKind} {args : Args} {x : Stint D}
    (hx : x ∈ d.ran) {y : Happening D} (hy : y ∈ x.story i) : y ∈ d.story i kind args := by
  rw [story]
  rcases List.mem_append.mp hx with hresumed | hspawned
  · exact List.mem_append_left _ (List.mem_append_left _ (List.mem_flatMap.mpr ⟨x, hresumed, hy⟩))
  · exact List.mem_append_right _
      (List.mem_flatMap.mpr ⟨x, hspawned, List.mem_cons_of_mem _ hy⟩)

end Dispatch

namespace Interpreter

/-- Resume coroutines one after another; nothing if one of them performs an act. -/
def resumeAll? (I : Interpreter D) (args : Args) :
    List (Task D) → D.Memory → Option (List (Stint D) × D.Memory)
  | [], m => some ([], m)
  | task :: queue, m => do
    let (result, m) ← (I.resume task.routine args).result? m
    let (stints, m) ← I.resumeAll? args queue m
    some (⟨task.serial, args, result⟩ :: stints, m)

/-- What becomes of the outcome of a callback: a coroutine it returned is started under
the next number; nothing if that performs an act. -/
def start? (I : Interpreter D) (serial : Nat) (m : D.Memory) :
    Except ScriptError (Outcome D) → Option (Option (Stint D) × D.Memory)
  | .ok (.spawn routine) => do
    let (result, m) ← (I.resume routine []).result? m
    some (some ⟨serial, [], result⟩, m)
  | _ => some (none, m)

/-- Call the callback of a kind, if there is one, and start what it returns; nothing if one
of them performs an act. -/
def callBack? (I : Interpreter D) (s : Subscriptions D) (kind : EventKind) (args : Args)
    (m : D.Memory) : Option (Option D.Callback × Option (Stint D) × D.Memory) :=
  match s.callback kind with
  | none => some (none, none, m)
  | some c => do
    let (outcome, m) ← (I.call c args).result? m
    let (spawned, m) ← I.start? s.handed m outcome
    some (some c, spawned, m)

/-- Only the callback of the kind matters, and the next number. -/
theorem callBack?_congr (I : Interpreter D) {s t : Subscriptions D} {kind : EventKind}
    {args : Args} {m : D.Memory} (hcallback : s.callback kind = t.callback kind)
    (hhanded : s.handed = t.handed) : I.callBack? s kind args m = I.callBack? t kind args m := by
  rw [callBack?, callBack?, hcallback, hhanded]

/-- Dispatch an event to a table; nothing if something that runs performs an act. -/
def dispatch? (I : Interpreter D) (s : Subscriptions D) (kind : EventKind) (args : Args)
    (m : D.Memory) : Option (Dispatch D) := do
  let (resumed, m) ← I.resumeAll? args (s.waiting kind) m
  let (called, spawned, m) ← I.callBack? s kind args m
  some ⟨resumed, called, spawned, m⟩

/-- The first of those who wait runs first, and the others in the memory it leaves. -/
theorem resumeAll?_cons (I : Interpreter D) {args : Args} {task : Task D} {queue : List (Task D)}
    {m m' : D.Memory} {stints : List (Stint D)}
    (h : I.resumeAll? args (task :: queue) m = some (stints, m')) :
    ∃ result m₁ rest, (I.resume task.routine args).result? m = some (result, m₁) ∧
      I.resumeAll? args queue m₁ = some (rest, m') ∧
        ⟨task.serial, args, result⟩ :: rest = stints := by
  simp only [resumeAll?, Option.bind_eq_bind, Option.bind_eq_some_iff] at h
  obtain ⟨⟨result, m₁⟩, hresult, ⟨rest, m₂⟩, hrest, hsome⟩ := h
  obtain ⟨rfl, rfl⟩ := Prod.mk.inj (Option.some.inj hsome)
  exact ⟨result, m₁, rest, hresult, hrest, rfl⟩

/-- Whom resuming them one after another resumes. -/
theorem resumeAll?_runs (I : Interpreter D) {args : Args} {queue : List (Task D)}
    {m m' : D.Memory} {stints : List (Stint D)}
    (h : I.resumeAll? args queue m = some (stints, m')) :
    stints.map (fun x => (x.serial, x.args)) = queue.map fun t => (t.serial, args) := by
  induction queue generalizing m stints with
  | nil =>
    obtain ⟨rfl, -⟩ : [] = stints ∧ m = m' := by simpa [resumeAll?] using h
    rfl
  | cons task queue ih =>
    obtain ⟨result, m₁, rest, -, hrest, rfl⟩ := I.resumeAll?_cons h
    rw [List.map_cons, List.map_cons, ih hrest]

/-- Whom a dispatch runs, and with what. -/
theorem dispatch?_runs (I : Interpreter D) {s : Subscriptions D} {kind : EventKind}
    {args : Args} {m : D.Memory} {d : Dispatch D} (h : I.dispatch? s kind args m = some d) :
    d.resumed.map (fun x => (x.serial, x.args))
        = (s.waiting kind).map (fun t => (t.serial, args)) ∧
      d.called = s.callback kind ∧ ∀ x ∈ d.spawned, x.args = [] := by
  simp only [dispatch?, Option.bind_eq_bind, Option.bind_eq_some_iff] at h
  obtain ⟨⟨resumed, m₁⟩, hresumed, ⟨called, spawned, m₂⟩, hcalled, hsome⟩ := h
  obtain rfl := Option.some.inj hsome
  refine ⟨I.resumeAll?_runs hresumed, ?_⟩
  unfold callBack? at hcalled
  cases hc : s.callback kind with
  | none =>
    obtain ⟨rfl, rfl, -⟩ : none = called ∧ none = spawned ∧ m₁ = m₂ := by simpa [hc] using hcalled
    exact ⟨rfl, fun x hx => by cases hx⟩
  | some c =>
    simp only [hc, Option.bind_eq_bind, Option.bind_eq_some_iff] at hcalled
    obtain ⟨⟨outcome, m₃⟩, -, ⟨spawned', m₄⟩, hstart, hsome⟩ := hcalled
    obtain ⟨rfl, rfl, -⟩ : some c = called ∧ spawned' = spawned ∧ m₄ = m₂ := by
      simpa using hsome
    refine ⟨rfl, fun x hx => ?_⟩
    unfold start? at hstart
    split at hstart
    · simp only [Option.bind_eq_bind, Option.bind_eq_some_iff] at hstart
      obtain ⟨⟨result, m₅⟩, -, hsome⟩ := hstart
      obtain ⟨rfl, -⟩ := Prod.mk.inj (Option.some.inj hsome)
      rw [← Option.some.inj hx]
    · obtain ⟨rfl, -⟩ := Prod.mk.inj (Option.some.inj hstart)
      cases hx

end Interpreter

/-! ## The table -/

namespace Subscriptions

/-- Whatever a coroutine comes to, the callbacks stay. -/
theorem callback_settle (s : Subscriptions D) (x : Stint D) (kind : EventKind) :
    (s.settle x).callback kind = s.callback kind := by
  unfold settle
  split
  · exact s.callback_park _ _ _
  · rfl

/-- Nobody is handed over by giving control back. -/
theorem handed_settle (s : Subscriptions D) (x : Stint D) : (s.settle x).handed = s.handed := by
  unfold settle
  split <;> rfl

/-- Whoever asked for a kind stands last in its queue. -/
theorem waiting_settle (s : Subscriptions D) (x : Stint D) (kind : EventKind) :
    (s.settle x).waiting kind = s.waiting kind ++ (x.waits? kind).toList := by
  unfold settle Stint.waits?
  cases x.next? with
  | none => simp
  | some p =>
    by_cases hkind : p.1 = kind
    · simp [waiting_park, hkind]
    · simp [waiting_park, hkind]

/-- The table after coroutines have run. -/
def settleAll (s : Subscriptions D) (stints : List (Stint D)) : Subscriptions D :=
  stints.foldl settle s

/-- Whatever coroutines come to, the callbacks stay. -/
theorem callback_settleAll (s : Subscriptions D) (stints : List (Stint D)) (kind : EventKind) :
    (s.settleAll stints).callback kind = s.callback kind := by
  induction stints generalizing s with
  | nil => rfl
  | cons x rest ih => exact (ih (s.settle x)).trans (s.callback_settle x kind)

theorem handed_settleAll (s : Subscriptions D) (stints : List (Stint D)) :
    (s.settleAll stints).handed = s.handed := by
  induction stints generalizing s with
  | nil => rfl
  | cons x rest ih => exact (ih (s.settle x)).trans (s.handed_settle x)

/-- The table after a callback has returned a coroutine, or nothing. -/
def answer (s : Subscriptions D) : Option (Stint D) → Subscriptions D
  | some x => s.accept.settle x
  | none => s

/-- **Who asked for a kind stands in its queue**, behind those who stood there, in the
order in which they ran. -/
theorem waiting_settleAll (s : Subscriptions D) (stints : List (Stint D)) (kind : EventKind) :
    (s.settleAll stints).waiting kind = s.waiting kind ++ stints.filterMap (Stint.waits? kind) := by
  induction stints generalizing s with
  | nil => simp [settleAll]
  | cons x rest ih =>
    calc (s.settleAll (x :: rest)).waiting kind
        = (s.settle x).waiting kind ++ rest.filterMap (Stint.waits? kind) := ih (s.settle x)
      _ = s.waiting kind ++ (x :: rest).filterMap (Stint.waits? kind) := by
        rw [waiting_settle, List.append_assoc, List.filterMap_cons]
        cases x.waits? kind <;> rfl

theorem callback_answer (s : Subscriptions D) (spawned : Option (Stint D)) (kind : EventKind) :
    (s.answer spawned).callback kind = s.callback kind := by
  cases spawned with
  | none => rfl
  | some x => exact s.accept.callback_settle x kind

/-- The coroutine of the callback waits behind the others, if it waits. -/
theorem waiting_answer (s : Subscriptions D) (spawned : Option (Stint D)) (kind : EventKind) :
    (s.answer spawned).waiting kind
      = s.waiting kind ++ spawned.toList.filterMap (Stint.waits? kind) := by
  cases spawned with
  | none => exact (List.append_nil _).symm
  | some x => exact s.accept.waiting_settleAll [x] kind

/-- The table after a dispatch. -/
def dispatch (s : Subscriptions D) (kind : EventKind) (d : Dispatch D) : Subscriptions D :=
  ((s.drain kind).settleAll d.resumed).answer d.spawned

/-- A dispatch leaves the callbacks as they were. -/
theorem callback_dispatch (s : Subscriptions D) (kind : EventKind) (d : Dispatch D)
    (kind' : EventKind) : (s.dispatch kind d).callback kind' = s.callback kind' := by
  rw [dispatch, callback_answer, callback_settleAll, callback_drain]

/-- **The drained queue is distributed** over all the queues, and the coroutine of the
callback comes last. -/
theorem waiting_dispatch (s : Subscriptions D) (kind : EventKind) (d : Dispatch D)
    (kind' : EventKind) :
    (s.dispatch kind d).waiting kind'
      = (if kind = kind' then [] else s.waiting kind')
        ++ d.ran.filterMap (Stint.waits? kind') := by
  rw [dispatch, waiting_answer, waiting_settleAll, waiting_drain, List.append_assoc,
    ← List.filterMap_append, Dispatch.ran]

/-- A table is idle for a kind if nothing waits for it and no callback is set. -/
theorem isIdle_iff {s : Subscriptions D} {kind : EventKind} :
    s.isIdle kind = true ↔ s.callback kind = none ∧ s.waiting kind = [] := by
  simp [isIdle, Slot.isEmpty, callback, waiting]

end Subscriptions

end ScriptHost
