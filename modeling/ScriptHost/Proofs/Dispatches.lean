import ScriptHost.Proofs.Evaluation
import ScriptHost.Proofs.Muteness

/-!
# What a dispatch comes to

Where nothing that runs performs an act, the machine computes the function
`Interpreter.dispatch?`: in between, the world differs from what it was in the table of
one instance, in the memory, and in what the journal has gained (`World.turned`).

* `World.steps_result` — code that performs no act comes to its result;
* `World.steps_pass` — a pass settles those it has resumed, one after another;
* `World.dispatch_effect` — what the table, the memory and the journal are after it.
-/

namespace ScriptHost

variable {D : Dialect} {α : Type}

/-! ## The world in the meantime -/

/-- Whether an entry of the journal is about nobody's coroutines and callbacks. -/
def Happening.isChatter : Happening D → Bool
  | .notice _ | .remark _ | .passEnded _ _ _ => true
  | _ => false

/-- Whether an entry of the journal is a notice. -/
def Happening.isNotice : Happening D → Bool
  | .notice _ => true
  | _ => false

/-- What the journal has gained, the latest first, tells a story: but for chatter it is
that, in the order in which it happened. -/
def Tells (news : List (Happening D)) (story : List (Happening D)) : Prop :=
  news.filter (!·.isChatter) = story.reverse

/-- News that tell one story after another. -/
theorem Tells.append {news news' story story' : List (Happening D)} (h : Tells news story)
    (h' : Tells news' story') : Tells (news' ++ news) (story ++ story') := by
  rw [Tells, List.filter_append, List.reverse_append, h, h']

/-- Whatever is told is in the journal. -/
theorem Tells.mem {news story : List (Happening D)} (h : Tells news story) {x : Happening D}
    (hx : x ∈ story) : x ∈ news := by
  have hmem : x ∈ news.filter (!·.isChatter) := by
    rw [h]
    exact List.mem_reverse.mpr hx
  exact (List.mem_filter.mp hmem).1

/-- But for notices, there is nothing but what somebody said for the record. -/
theorem Tells.of_remarks {news : List (Happening D)} {said : List D.Remark}
    (h : news.filter (!·.isNotice) = (said.map Happening.remark).reverse) : Tells news [] := by
  refine List.filter_eq_nil_iff.mpr fun x hx => ?_
  by_cases hnotice : x.isNotice = true
  · cases x <;> simp [Happening.isNotice, Happening.isChatter] at hnotice ⊢
  · have hmem : x ∈ (said.map Happening.remark).reverse := by
      rw [← h]
      exact List.mem_filter.mpr ⟨hx, by simpa using hnotice⟩
    obtain ⟨r, -, rfl⟩ := List.mem_map.mp (List.mem_reverse.mp hmem)
    simp [Happening.isChatter]

namespace World

/-- A world in which the memory is different, and the journal has gained something. -/
def moved (w : World D) (m : D.Memory) (news : List (Happening D)) : World D :=
  { w with
    memory := m
    journal := news ++ w.journal }

/-- What happens in two parts happens in one. -/
theorem moved_moved (w : World D) (m m' : D.Memory) (news news' : List (Happening D)) :
    (w.moved m news).moved m' news' = w.moved m' (news' ++ news) := by
  simp [moved]

/-- A world in which the table of one instance and the memory are different, and the
journal has gained something. -/
def turned (w : World D) (i : Nat) (table : Subscriptions D) (m : D.Memory)
    (news : List (Happening D)) : World D :=
  { w with
    instances := w.instances.modify i fun x => { x with subscriptions := table }
    memory := m
    journal := news ++ w.journal }

variable (w : World D) (i : Nat) (table : Subscriptions D) (m : D.Memory)
  (news : List (Happening D))

theorem modifySubscriptions_turned (f : Subscriptions D → Subscriptions D) :
    (w.turned i table m news).modifySubscriptions (.script i) f
      = w.turned i (f table) m news := by
  simp [turned, modifySubscriptions, modifyInstance, List.modify_modify_eq, Function.comp_def]

/-- A coroutine that waits again is parked in the table at work. -/
theorem park_turned (kind : EventKind) (task : Task D) :
    (w.turned i table m news).park (.script i) kind task
      = w.turned i (table.park kind task) m (.notice (.coroutine
          (.awaiting ((w.turned i table m news).label (.script i)) kind)) :: news) :=
  modifySubscriptions_turned w i table m (_ :: news) (·.park kind task)

theorem instance?_turned :
    (w.turned i table m news).instance? i
      = (w.instance? i).map fun x => { x with subscriptions := table } := by
  simp [turned, instance?]

/-- A dispatch ends nobody. -/
theorem isAlive_turned : (w.turned i table m news).isAlive i = w.isAlive i := by
  unfold isAlive
  rw [instance?_turned]
  cases w.instance? i <;> rfl

variable {w i} in
/-- The table at work is the one of the instance. -/
theorem subscriptions_turned (h : w.isAlive i = true) :
    (w.turned i table m news).subscriptions (.script i) = table := by
  unfold isAlive at h
  simp only [subscriptions, instance?_turned]
  cases hx : w.instance? i with
  | none => simp [hx] at h
  | some x => rfl

theorem moved_turned (m' : D.Memory) (news' : List (Happening D)) :
    (w.turned i table m news).moved m' news' = w.turned i table m' (news' ++ news) := by
  simp [moved, turned]

/-- Before anything is done the world is what it was. -/
theorem turned_self :
    w.turned i (w.subscriptions (.script i)) w.memory [] = w := by
  have hsame : w.instances.modify i
      (fun x => { x with subscriptions := w.subscriptions (.script i) }) = w.instances := by
    refine List.ext_getElem? fun j => ?_
    rw [List.getElem?_modify]
    by_cases hj : i = j
    · subst hj
      cases hx : w.instances[i]? with
      | none => rfl
      | some x => simp [subscriptions, instance?, hx]
    · simp [hj]
  rw [turned, hsame]
  rfl

/-- A coroutine that gives control back is settled. -/
theorem concludeCoroutine_turned (x : Stint D) :
    ∃ news', Tells news' (x.leaves i) ∧
      (w.turned i table m news).concludeCoroutine (.script i) x.serial x.result
        = w.turned i (table.settle x) m (news' ++ news) := by
  obtain ⟨serial, args, result⟩ := x
  cases result with
  | error e =>
    cases e <;>
    · refine ⟨[_, _], ?_, rfl⟩
      rfl
  | ok y =>
    cases y with
    | finished =>
      refine ⟨[_, _], ?_, rfl⟩
      rfl
    | await request rest =>
      cases hkind : request.resolve with
      | error e =>
        refine ⟨[.left (.script i) serial (.misdirected e),
          .notice (.coroutine (.dropped ((w.turned i table m news).label (.script i)) e))], ?_, ?_⟩
        · simp [Tells, Stint.leaves, Stint.farewell?, hkind, Happening.isChatter]
        · simp [concludeCoroutine, hkind, Subscriptions.settle, Stint.next?]
          rfl
      | ok kind =>
        refine ⟨[.notice (.coroutine (.awaiting ((w.turned i table m news).label (.script i))
          kind))], ?_, ?_⟩
        · simp [Tells, Stint.leaves, Stint.farewell?, hkind, Happening.isChatter]
        · simp only [concludeCoroutine, hkind, Subscriptions.settle, Stint.next?]
          exact w.park_turned i table m news kind ⟨serial, rest⟩

/-! ## The machine -/

variable {w i m} {I : Interpreter D} {m' : D.Memory}

/-- **Code that performs no act comes to its result**, whatever frame runs it. -/
theorem steps_result {w : World D} {F : Code D α → Frame D}
    (hgoes : ∀ (w : World D) code code' w', code.progress I w = .goesOn code' w' [] →
      (F code).advance I w = (w', [F code']))
    {code : Code D α} {a : α} (h : code.result? w.memory = some (a, m'))
    (below : List (Frame D)) :
    ∃ news, news.filter (!·.isNotice) = ((code.remarks w.memory).map Happening.remark).reverse ∧
      Config.Steps I ⟨w, F code :: below⟩ ⟨w.moved m' news, F (.ret a) :: below⟩ := by
  have hstep : ∀ (w : World D) code code' w', code.progress I w = .goesOn code' w' [] →
      Config.step? I ⟨w, F code :: below⟩ = some ⟨w', F code' :: below⟩ := by
    intro w code code' w' hprogress
    simp [Config.step?, hgoes w code code' w' hprogress]
  induction code generalizing w with
  | ret b =>
    obtain ⟨rfl, rfl⟩ : b = a ∧ w.memory = m' := by simpa [Code.result?] using h
    exact ⟨[], rfl, .refl⟩
  | read k ih =>
    obtain ⟨news, hsaid, hsteps⟩ := ih w.memory h
    exact ⟨news, hsaid, hsteps.head (hstep _ _ _ _ rfl)⟩
  | write m k ih =>
    obtain ⟨news, hsaid, hsteps⟩ := ih (w := { w with memory := m }) h
    exact ⟨news, hsaid, hsteps.head (hstep _ _ _ _ rfl)⟩
  | remark r k ih =>
    obtain ⟨news, hsaid, hsteps⟩ := ih (w := w.moved w.memory [.remark r]) h
    refine ⟨news ++ [.remark r], ?_, ?_⟩
    · rw [List.filter_append, hsaid]
      simp [Code.remarks, Happening.isNotice, moved]
    · rw [← moved_moved w w.memory]
      exact hsteps.head (hstep _ _ _ _ rfl)
  | log n k ih =>
    obtain ⟨news, hsaid, hsteps⟩ := ih (w := w.moved w.memory [.notice n]) h
    refine ⟨news ++ [.notice n], ?_, ?_⟩
    · rw [List.filter_append, hsaid]
      simp [Code.remarks, Happening.isNotice, moved]
    · rw [← moved_moved w w.memory]
      exact hsteps.head (hstep _ _ _ _ rfl)
  | act x k ih => cases h

/-- **A coroutine that performs no act** gives control back, and is settled. -/
theorem steps_coroutine (x : Stint D) {code : Code D (Except ScriptError (Yield D))}
    (h : code.result? m = some (x.result, m')) (below : List (Frame D)) :
    ∃ news', Tells news' (x.leaves i) ∧
      Config.Steps I ⟨w.turned i table m news, .coroutine (.script i) x.serial code :: below⟩
        ⟨w.turned i (table.settle x) m' (news' ++ news), below⟩ := by
  obtain ⟨chatter, hsaid, hsteps⟩ := steps_result (w := w.turned i table m news)
    (F := .coroutine (.script i) x.serial) (I := I)
    (fun w code code' w' hgoes => by simp only [Frame.advance, hgoes, List.nil_append]) h below
  rw [moved_turned] at hsteps
  obtain ⟨left, hleft, hsettled⟩ := w.concludeCoroutine_turned i table m' (chatter ++ news) x
  refine ⟨left ++ chatter, (Tells.of_remarks hsaid).append hleft, hsteps.tail ?_⟩
  rw [List.append_assoc, ← hsettled]
  rfl

/-- A coroutine that is resumed performs no act: it runs, and is settled. -/
theorem steps_resume (x : Stint D) {routine : D.Coroutine}
    (h : (I.resume routine x.args).result? m = some (x.result, m')) (below : List (Frame D)) :
    ∃ news', Tells news' (x.story i) ∧
      Config.Steps I
        ⟨((w.turned i table m news).resume I (.script i) ⟨x.serial, routine⟩ x.args).1,
          ((w.turned i table m news).resume I (.script i) ⟨x.serial, routine⟩ x.args).2 :: below⟩
        ⟨w.turned i (table.settle x) m' (news' ++ news), below⟩ := by
  obtain ⟨left, hleft, hsteps⟩ := steps_coroutine (w := w) (i := i) table
    (.resumed (.script i) x.serial x.args :: news) x h below
  have hresumed : Tells [.resumed (.script i) x.serial x.args]
      [Happening.resumed (D := D) (.script i) x.serial x.args] := rfl
  refine ⟨left ++ [.resumed (.script i) x.serial x.args], hresumed.append hleft, ?_⟩
  rw [List.append_assoc]
  exact hsteps

/-- **A pass settles those it has resumed**, one after another. -/
theorem steps_pass (halive : w.isAlive i = true) {kind : EventKind} {args : Args}
    {queue : List (Task D)} {stints : List (Stint D)} (resumed : Nat)
    (h : I.resumeAll? args queue m = some (stints, m')) (below : List (Frame D)) :
    ∃ news', Tells news' (stints.flatMap (Stint.story i)) ∧
      Config.Steps I
        ⟨w.turned i table m news, .pass (.script i) kind args (.script i) queue resumed :: below⟩
        ⟨w.turned i (table.settleAll stints) m' (news' ++ news), below⟩ := by
  induction queue generalizing table m news stints resumed with
  | nil =>
    obtain ⟨rfl, rfl⟩ : [] = stints ∧ m = m' := by simpa [Interpreter.resumeAll?] using h
    exact ⟨[.passEnded (.script i) kind resumed], rfl, .single rfl⟩
  | cons task queue ih =>
    obtain ⟨result, m₁, rest, hresult, hrest, rfl⟩ := I.resumeAll?_cons h
    obtain ⟨first, hfirst, hruns⟩ := steps_resume (w := w) (i := i) table news
      ⟨task.serial, args, result⟩ hresult
      (.pass (.script i) kind args (.script i) queue (resumed + 1) :: below)
    obtain ⟨later, hlater, hsteps⟩ :=
      ih (table.settle ⟨task.serial, args, result⟩) (first ++ news) (resumed + 1) hrest
    refine ⟨later ++ first, hfirst.append hlater, ?_⟩
    have hbeats : (w.turned i table m news).isAlive i = true :=
      (w.isAlive_turned i table m news).trans halive
    have hwake : (Frame.pass (.script i) kind args (.script i) (task :: queue) resumed).advance I
        (w.turned i table m news)
        = (((w.turned i table m news).resume I (.script i) task args).1,
          [((w.turned i table m news).resume I (.script i) task args).2,
            .pass (.script i) kind args (.script i) queue (resumed + 1)]) := by
      simp [Frame.advance, Pulse.beats, hbeats]
    rw [List.append_assoc]
    refine (hruns.trans hsteps).head ?_
    simp only [Config.step?, hwake]
    rfl

/-- A coroutine that is started performs no act: it is handed over, runs, and is settled. -/
theorem steps_start (halive : w.isAlive i = true) {routine : D.Coroutine}
    {result : Except ScriptError (Yield D)}
    (h : (I.resume routine []).result? m = some (result, m')) (below : List (Frame D)) :
    ∃ news', Tells news' (.handed (.script i) table.handed
        :: (⟨table.handed, [], result⟩ : Stint D).story i) ∧
      Config.Steps I
        ⟨((w.turned i table m news).start I (.script i) routine).1,
          ((w.turned i table m news).start I (.script i) routine).2 :: below⟩
        ⟨w.turned i (table.accept.settle ⟨table.handed, [], result⟩) m' (news' ++ news),
          below⟩ := by
  obtain ⟨first, hfirst, hsteps⟩ := steps_resume (w := w) (i := i) table.accept
    (.handed (.script i) table.handed :: news) ⟨table.handed, [], result⟩ h below
  have hhanded : Tells [.handed (.script i) table.handed]
      [Happening.handed (D := D) (.script i) table.handed] := rfl
  refine ⟨first ++ [.handed (.script i) table.handed], hhanded.append hfirst, ?_⟩
  have haccept : (w.turned i table m news).accept (.script i) routine
      = (⟨table.handed, routine⟩,
        w.turned i table.accept m (.handed (.script i) table.handed :: news)) := by
    rw [accept, subscriptions_turned table m news halive, modifySubscriptions_turned]
    rfl
  rw [List.append_assoc, start, haccept]
  exact hsteps

/-- What a callback returned is started. -/
theorem steps_outcome (halive : w.isAlive i = true) (kind : EventKind)
    {outcome : Except ScriptError (Outcome D)} {spawned : Option (Stint D)}
    (h : I.start? table.handed m outcome = some (spawned, m')) (below : List (Frame D)) :
    ∃ news', Tells news' (spawned.toList.flatMap fun x =>
          .handed (.script i) x.serial :: x.story i) ∧
      Config.Steps I ⟨w.turned i table m news, .call i kind (.ret outcome) :: below⟩
        ⟨w.turned i (table.answer spawned) m' (news' ++ news), below⟩ := by
  cases outcome with
  | error e =>
    obtain ⟨rfl, rfl⟩ : none = spawned ∧ m = m' := by simpa [Interpreter.start?] using h
    cases hx : (w.turned i table m news).instance? i with
    | none =>
      refine ⟨[], rfl, .single ?_⟩
      simp [Config.step?, Frame.advance, Code.progress, hx, Subscriptions.answer]
    | some x =>
      refine ⟨[.notice (.script (.callbackRaised x.id x.path kind e))], rfl, .single ?_⟩
      simp only [Config.step?, Frame.advance, Code.progress, hx]
      rfl
  | ok outcome =>
    cases outcome with
    | done =>
      obtain ⟨rfl, rfl⟩ : none = spawned ∧ m = m' := by simpa [Interpreter.start?] using h
      exact ⟨[], rfl, .single rfl⟩
    | spawn routine =>
      simp only [Interpreter.start?, Option.bind_eq_bind, Option.bind_eq_some_iff] at h
      obtain ⟨⟨result, m₁⟩, hresult, hsome⟩ := h
      obtain ⟨rfl, rfl⟩ := Prod.mk.inj (Option.some.inj hsome)
      obtain ⟨news', htells, hsteps⟩ :=
        steps_start (w := w) (i := i) table news halive hresult below
      refine ⟨news', by simpa using htells, hsteps.head ?_⟩
      rfl

/-- An instance comes to its callback: if there is one it is called, and what it returns is
started. -/
theorem steps_callback (halive : w.isAlive i = true) {kind : EventKind} {args : Args}
    {called : Option D.Callback} {spawned : Option (Stint D)}
    (h : I.callBack? table kind args m = some (called, spawned, m')) (below : List (Frame D)) :
    ∃ news', Tells news' (called.toList.map (Happening.called i kind · args)
          ++ spawned.toList.flatMap fun x => .handed (.script i) x.serial :: x.story i) ∧
      Config.Steps I ⟨w.turned i table m news, .callback i kind args :: below⟩
        ⟨w.turned i (table.answer spawned) m' (news' ++ news), below⟩ := by
  have hlives : (w.turned i table m news).isAlive i = true :=
    (w.isAlive_turned i table m news).trans halive
  have htable := subscriptions_turned table m news halive
  unfold Interpreter.callBack? at h
  cases hc : table.callback kind with
  | none =>
    obtain ⟨rfl, rfl, rfl⟩ : none = called ∧ none = spawned ∧ m = m' := by simpa [hc] using h
    refine ⟨[], rfl, .single ?_⟩
    simp [Config.step?, Frame.advance, hlives, htable, hc, Subscriptions.answer]
  | some c =>
    simp only [hc, Option.bind_eq_bind, Option.bind_eq_some_iff] at h
    obtain ⟨⟨outcome, m₁⟩, hresult, ⟨spawned', m₂⟩, hstart, hsome⟩ := h
    obtain ⟨rfl, rfl, rfl⟩ : some c = called ∧ spawned' = spawned ∧ m₂ = m' := by
      simpa using hsome
    obtain ⟨chatter, hsaid, hruns⟩ := steps_result
      (w := w.turned i table m (.called i kind c args :: news)) (F := .call i kind) (I := I)
      (fun w code code' w' hgoes => by simp only [Frame.advance, hgoes, List.nil_append])
      hresult below
    rw [moved_turned] at hruns
    obtain ⟨later, hlater, hsteps⟩ := steps_outcome (w := w) (i := i) table
      (chatter ++ .called i kind c args :: news) halive kind hstart below
    have hcalled : Tells [.called i kind c args] [Happening.called (D := D) i kind c args] := rfl
    refine ⟨later ++ (chatter ++ [.called i kind c args]),
      (hcalled.append (Tells.of_remarks hsaid)).append hlater, ?_⟩
    have hstep : Config.step? I ⟨w.turned i table m news, .callback i kind args :: below⟩
        = some ⟨w.turned i table m (.called i kind c args :: news),
            .call i kind (I.call c args) :: below⟩ := by
      simp only [Config.step?, Frame.advance, hlives, htable, hc]
      rfl
    have hnews : (later ++ (chatter ++ [.called i kind c args])) ++ news
        = later ++ (chatter ++ .called i kind c args :: news) := by
      rw [List.append_assoc, List.append_assoc]
      rfl
    rw [hnews]
    exact Relation.ReflTransGen.head hstep (hruns.trans hsteps)

/-- **What a dispatch comes to, where nothing that runs performs an act.** -/
theorem steps_dispatch (halive : w.isAlive i = true) {kind : EventKind} {args : Args}
    {d : Dispatch D} (hd : I.dispatch? (w.subscriptions (.script i)) kind args w.memory = some d)
    (below : List (Frame D)) :
    ∃ news, Tells news (d.story i kind args) ∧
      Config.Steps I
        ⟨(w.beginPass (.script i) kind args (.script i)).1,
          (w.beginPass (.script i) kind args (.script i)).2 :: .callback i kind args :: below⟩
        ⟨w.turned i ((w.subscriptions (.script i)).dispatch kind d) d.memory news, below⟩ := by
  simp only [Interpreter.dispatch?, Option.bind_eq_bind, Option.bind_eq_some_iff] at hd
  obtain ⟨⟨resumed, m₁⟩, hresumed, ⟨called, spawned, m₂⟩, hcalled, hsome⟩ := hd
  obtain rfl := Option.some.inj hsome
  have hbegin : (w.beginPass (.script i) kind args (.script i)).1
      = w.turned i ((w.subscriptions (.script i)).drain kind) w.memory [] := by
    have hdrain := w.modifySubscriptions_turned i (w.subscriptions (.script i)) w.memory []
      (·.drain kind)
    rwa [turned_self] at hdrain
  obtain ⟨first, hfirst, hpass⟩ : ∃ news', Tells news' (resumed.flatMap (Stint.story i)) ∧
      Config.Steps I
        ⟨w.turned i ((w.subscriptions (.script i)).drain kind) w.memory [],
          (w.beginPass (.script i) kind args (.script i)).2 :: .callback i kind args :: below⟩
        ⟨w.turned i (((w.subscriptions (.script i)).drain kind).settleAll resumed) m₁
          (news' ++ []), .callback i kind args :: below⟩ :=
    steps_pass _ [] halive 0 hresumed _
  have hcalled' : I.callBack? (((w.subscriptions (.script i)).drain kind).settleAll resumed) kind
      args m₁ = some (called, spawned, m₂) := by
    rw [← hcalled]
    refine I.callBack?_congr ?_ ?_
    · rw [Subscriptions.callback_settleAll, Subscriptions.callback_drain]
    · rw [Subscriptions.handed_settleAll]
      rfl
  obtain ⟨second, hsecond, hcall⟩ := steps_callback (w := w) (i := i) _ (first ++ []) halive
    hcalled' below
  refine ⟨second ++ first, ?_, ?_⟩
  · rw [Dispatch.story, List.append_assoc]
    exact hfirst.append hsecond
  · rw [hbegin]
    rw [List.append_nil] at hpass hcall
    exact hpass.trans hcall

/-- Nothing comes of an event to which an instance never subscribed. -/
theorem deliver_of_isIdle (w : World D) (i : Nat) (event : Event)
    (h : (w.subscriptions (.script i)).isIdle event.kind = true) :
    w.deliver i event = (w, []) := by
  unfold deliver
  cases hx : w.instance? i with
  | none => rfl
  | some x =>
    have htable : w.subscriptions (.script i) = x.subscriptions := by simp [subscriptions, hx]
    simp [htable ▸ h]

/-- An event of the shape of its kind comes to an instance that subscribed to it. -/
theorem deliver_of_not_isIdle {event : Event} {args : Args} (halive : w.isAlive i = true)
    (hargs : event.args = .ok args)
    (h : ¬ (w.subscriptions (.script i)).isIdle event.kind = true) :
    w.deliver i event = ((w.beginPass (.script i) event.kind args (.script i)).1,
      [(w.beginPass (.script i) event.kind args (.script i)).2, .callback i event.kind args]) := by
  unfold isAlive at halive
  unfold deliver
  cases hx : w.instance? i with
  | none => simp [hx] at halive
  | some x =>
    have htable : w.subscriptions (.script i) = x.subscriptions := by simp [subscriptions, hx]
    have hlives : x.isAlive = true := by simpa [hx] using halive
    simp [htable ▸ h, hlives, hargs]

/-- **The full effect of one dispatch.**  An event that has the shape of its kind comes to
an instance that is alive, and nothing that runs performs an act; whatever the table is, and
whatever the routines return.

* The coroutines that wait for the kind are resumed front to back with the arguments of the
  event, then the callback is called with them, if there is one, and then the coroutine that
  it returned is started, without any; that is all the journal says, but for chatter.
* Afterwards, every queue is what it was, and that of the kind is empty, but for those who
  ran: whoever asked for a kind stands behind the others in its queue, in the order in which
  they ran, and so the coroutine of the callback is the last one.
* Whoever ran and waits for nothing is gone.
* The callbacks are as they were, and so is everything else but the memory. -/
theorem dispatch_effect {event : Event} {args : Args} (halive : w.isAlive i = true)
    (hargs : event.args = .ok args) {d : Dispatch D}
    (hd : I.dispatch? (w.subscriptions (.script i)) event.kind args w.memory = some d)
    (below : List (Frame D)) :
    ∃ table news,
      Config.Steps I ⟨(w.deliver i event).1, (w.deliver i event).2 ++ below⟩
          ⟨w.turned i table d.memory news, below⟩ ∧
        d.resumed.map (fun x => (x.serial, x.args))
          = ((w.subscriptions (.script i)).waiting event.kind).map (fun t => (t.serial, args)) ∧
        d.called = (w.subscriptions (.script i)).callback event.kind ∧
        (∀ x ∈ d.spawned, x.args = []) ∧
        Tells news (d.story i event.kind args) ∧
        (∀ kind, table.waiting kind
          = (if event.kind = kind then [] else (w.subscriptions (.script i)).waiting kind)
            ++ d.ran.filterMap (Stint.waits? kind)) ∧
        (∀ kind, table.callback kind = (w.subscriptions (.script i)).callback kind) ∧
        ∀ x ∈ d.ran, x.next? = none → ∃ why, .left (.script i) x.serial why ∈ news := by
  obtain ⟨hresumed, hcalled, hspawned⟩ := I.dispatch?_runs hd
  obtain ⟨table, news, hsteps, htells, hwaiting, hcallback⟩ :
      ∃ table news,
        Config.Steps I ⟨(w.deliver i event).1, (w.deliver i event).2 ++ below⟩
            ⟨w.turned i table d.memory news, below⟩ ∧
          Tells news (d.story i event.kind args) ∧
          (∀ kind, table.waiting kind
            = (if event.kind = kind then [] else (w.subscriptions (.script i)).waiting kind)
              ++ d.ran.filterMap (Stint.waits? kind)) ∧
          ∀ kind, table.callback kind = (w.subscriptions (.script i)).callback kind := by
    by_cases hidle : (w.subscriptions (.script i)).isIdle event.kind = true
    · obtain ⟨hcallback, hwaiting⟩ := Subscriptions.isIdle_iff.mp hidle
      obtain rfl : ⟨[], none, none, w.memory⟩ = d := by
        simpa [Interpreter.dispatch?, Interpreter.resumeAll?, Interpreter.callBack?, hcallback,
          hwaiting] using hd
      refine ⟨w.subscriptions (.script i), [], ?_, rfl, fun kind => ?_, fun kind => rfl⟩
      · rw [w.deliver_of_isIdle i event hidle, turned_self]
        exact .refl
      · by_cases hkind : event.kind = kind
        · subst hkind
          simp [hwaiting, Dispatch.ran]
        · simp [hkind, Dispatch.ran]
    · obtain ⟨news, htells, hsteps⟩ := steps_dispatch halive hd below
      refine ⟨_, news, ?_, htells, Subscriptions.waiting_dispatch _ event.kind d,
        Subscriptions.callback_dispatch _ event.kind d⟩
      rw [deliver_of_not_isIdle halive hargs hidle]
      exact hsteps
  refine ⟨table, news, hsteps, hresumed, hcalled, hspawned, htells, hwaiting, hcallback, ?_⟩
  intro x hx hnext
  obtain ⟨why, hwhy⟩ := Stint.exists_farewell hnext
  refine ⟨why, htells.mem (Dispatch.mem_story hx ?_)⟩
  simp [Stint.story, Stint.leaves, hwhy]

end World

namespace Specimen

/-- A language of coroutines that wait for a kind once, or are done; a memory that counts
them; and one callback. -/
def waitDialect : Dialect :=
  ⟨Nat, Option EventKind, Unit, Empty, Empty⟩

/-- What they do: the callback returns a coroutine that waits for a frame. -/
def waiter : Interpreter waitDialect where
  resume
    | some kind, _ => .read fun m => .write (Nat.succ m) (.ret (.ok (.await (.ofKind kind) none)))
    | none, _ => .ret (.ok .finished)
  callable _ := true
  call _ _ := .ret (.ok (.spawn (some .frameAdvance)))
  handle h := h.elim
  patience := 100

/-- Three coroutines wait for a tick: one that will wait for a frame, one that is done, and
one that will wait for the next tick. -/
def threeWaiting : World waitDialect :=
  ((World.new (0 : Nat)).beginLife ⟨1⟩ ⟨"me"⟩ false).turned 0
    (([some .frameAdvance, none, some .timerTick].foldl
      (fun s routine => s.accept.park .timerTick ⟨s.handed, routine⟩)
      (Subscriptions.empty (D := waitDialect))).setCallback .timerTick (some ()))
    (0 : Nat) []

/-- What a tick comes to. -/
def tickDispatch : Dispatch waitDialect where
  resumed := [⟨0, [], .ok (.await (.ofKind .frameAdvance) none)⟩, ⟨1, [], .ok .finished⟩,
    ⟨2, [], .ok (.await (.ofKind .timerTick) none)⟩]
  called := some ()
  spawned := some ⟨3, [], .ok (.await (.ofKind .frameAdvance) none)⟩
  memory := (3 : Nat)

end Specimen

/-- A tick moves the first coroutine of `Specimen.threeWaiting` to the frames, where the one
that the callback returns comes after it; the third one waits again, and the second one is
gone. -/
theorem World.dispatch_effect_three_waiting :
    ∃ table news,
      Config.Steps Specimen.waiter
          ⟨(Specimen.threeWaiting.deliver 0 .timerTick).1,
            (Specimen.threeWaiting.deliver 0 .timerTick).2⟩
          ⟨Specimen.threeWaiting.turned 0 table (3 : Nat) news, []⟩ ∧
        table.waiting .frameAdvance = [⟨0, none⟩, ⟨3, none⟩] ∧
        table.waiting .timerTick = [⟨2, none⟩] ∧
        ∃ why, Happening.left (.script 0) 1 why ∈ news := by
  have hd : Specimen.waiter.dispatch? (Specimen.threeWaiting.subscriptions (.script 0))
      .timerTick [] (0 : Nat) = some Specimen.tickDispatch := by rfl
  have halive : Specimen.threeWaiting.isAlive 0 = true := by rfl
  have hargs : Event.timerTick.args = .ok [] := rfl
  obtain ⟨table, news, hsteps, -, -, -, -, hwaiting, -, hgone⟩ :=
    World.dispatch_effect halive hargs hd []
  rw [List.append_nil] at hsteps
  refine ⟨table, news, hsteps, ?_, ?_, hgone ⟨1, [], .ok .finished⟩ ?_ rfl⟩
  · rw [hwaiting]
    rfl
  · rw [hwaiting]
    rfl
  · exact List.mem_append_left _ (List.mem_cons_of_mem _ List.mem_cons_self)

end ScriptHost
