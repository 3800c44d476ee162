import ScriptHost.Proofs.Farewells
import ScriptHost.Proofs.Orders

/-!
# What becomes known of an instance

Of what happens to an instance, its users see three things: which events the host emits
while it is there, which of them are delivered to it, and what its code reports.  Each is a
**sign**, and each can be read off the configuration from which the machine makes its next
step (`Config.sign?`); so a trace has a list of signs for each instance.

Where nothing that runs performs an act, the signs of what the machine does can be told in
advance (`Config.Reveals`): those of code are its reports, and those of a delivery are the
delivery and the reports of whatever it runs.

* `Config.journal_of_sign?` — what an instance reports is in the journal;
* `World.reveals_result` — code that performs no act reveals its reports;
* `World.reveals_woken`, `World.reveals_called` — an event that is delivered to one who
  waits, or who has a callback.
-/

namespace ScriptHost

variable {D : Dialect} {I : Interpreter D} {α : Type}

/-! ## Signs -/

/-- What becomes known of an instance. -/
inductive Sign where
  /-- The host emits an event while the instance is there. -/
  | emitted (event : Event)
  /-- An event is delivered to the instance, which has not ended. -/
  | delivered (event : Event)
  /-- Code of the instance reports something. -/
  | logged (n : Notice)

namespace Sign

/-- The event that is emitted. -/
def emitted? : Sign → Option Event
  | emitted event => some event
  | _ => none

/-- The event that is delivered. -/
def delivered? : Sign → Option Event
  | delivered event => some event
  | _ => none

/-- What is reported. -/
def logged? : Sign → Option Notice
  | logged n => some n
  | _ => none

end Sign

/-- What code reports with its next step. -/
def Code.notice? : Code D α → Option Notice
  | .log n _ => some n
  | _ => none

/-- What code reports on its own, until it performs an act. -/
def Code.notices : Code D α → D.Memory → List Notice
  | .ret _, _ => []
  | .read k, m => (k m).notices m
  | .write m k, _ => k.notices m
  | .remark _ k, m => k.notices m
  | .log n k, m => n :: k.notices m
  | .act _ _, _ => []

/-- What the next step of an activity makes known of an instance. -/
def Frame.sign? (w : World D) (i : Nat) : Frame D → Option Sign
  | .emission _ event (l :: _) =>
    if l.place? = some i ∧ w.isAlive i = true then some (.delivered event) else none
  | .coroutine desk _ code => if desk = .script i then code.notice?.map .logged else none
  | .call j _ code => if j = i then code.notice?.map .logged else none
  | .entry j code => if j = i then code.notice?.map .logged else none
  | _ => none

/-- Code reports by a step of its own. -/
theorem Code.eq_log_of_notice? {code : Code D α} {s : Sign}
    (h : code.notice?.map .logged = some s) : ∃ n k, code = .log n k ∧ s = .logged n := by
  cases code with
  | log n k => exact ⟨n, k, rfl, (Option.some.inj h).symm⟩
  | ret | read | write | remark | act => cases h

/-- An activity makes known that it delivers an event, or what it reports. -/
theorem Frame.sign?_cases {f : Frame D} {w : World D} {i : Nat} {s : Sign}
    (h : f.sign? w i = some s) :
    (∃ event, s = .delivered event) ∨
      ∃ n, s = .logged n ∧ ∀ I : Interpreter D, (f.advance I w).1 = w.log n := by
  cases f with
  | emission n event listeners =>
    cases listeners with
    | nil => cases h
    | cons l rest =>
      simp only [sign?] at h
      split at h
      · exact Or.inl ⟨event, (Option.some.inj h).symm⟩
      · cases h
  | coroutine desk serial code =>
    simp only [sign?] at h
    split at h
    · obtain ⟨n, k, rfl, rfl⟩ := Code.eq_log_of_notice? h
      exact Or.inr ⟨n, rfl, fun _ => rfl⟩
    · cases h
  | call j kind code =>
    simp only [sign?] at h
    split at h
    · obtain ⟨n, k, rfl, rfl⟩ := Code.eq_log_of_notice? h
      exact Or.inr ⟨n, rfl, fun _ => rfl⟩
    · cases h
  | entry j code =>
    simp only [sign?] at h
    split at h
    · obtain ⟨n, k, rfl, rfl⟩ := Code.eq_log_of_notice? h
      exact Or.inr ⟨n, rfl, fun _ => rfl⟩
    · cases h
  | handler | pass | callback | settle | ending | putBack => cases h

namespace Config

/-- What the next step makes known of an instance. -/
def sign? (i : Nat) (c : Config D) : Option Sign :=
  match c.hostEmission? with
  | some event => if i < c.world.instances.length then some (.emitted event) else none
  | none => c.stack.head?.bind (·.sign? c.world i)

/-- What a trace makes known of an instance. -/
def signs (i : Nat) (cs : List (Config D)) : List Sign :=
  cs.filterMap (sign? i)

/-- What is known after a longer trace is what was known and what became known then. -/
theorem signs_append (i : Nat) (cs cs' : List (Config D)) :
    signs i (cs ++ cs') = signs i cs ++ signs i cs' :=
  List.filterMap_append

/-- The host emits by code of its own only. -/
theorem sign?_of_ne {f : Frame D} (hf : ∀ code, f ≠ .handler code) (w : World D)
    (below : List (Frame D)) (i : Nat) : (⟨w, f :: below⟩ : Config D).sign? i = f.sign? w i := by
  have hnone : (⟨w, f :: below⟩ : Config D).hostEmission? = none := by
    cases f with
    | handler code => exact absurd rfl (hf code)
    | emission | pass | callback | coroutine | call | entry | settle | ending | putBack =>
      cases below <;> rfl
  simp [sign?, hnone]

end Config

namespace Config

/-- **What an instance reports** is written into the journal by that step. -/
theorem journal_of_sign? {c c' : Config D} {i : Nat} {n : Notice}
    (hsign : c.sign? i = some (.logged n)) (hstep : c.step? I = some c') :
    c'.world.journal = .notice n :: c.world.journal := by
  obtain ⟨f, rest, hstack, rfl⟩ := eq_advance_of_step? hstep
  have hnone : c.hostEmission? = none := by
    cases hemission : c.hostEmission? with
    | none => rfl
    | some event =>
      simp only [sign?, hemission] at hsign
      split at hsign <;> cases hsign
  have hframe : f.sign? c.world i = some (.logged n) := by
    simpa [sign?, hnone, hstack] using hsign
  rcases Frame.sign?_cases hframe with ⟨event, hdelivered⟩ | ⟨n', hlogged, hlogs⟩
  · cases hdelivered
  · obtain rfl := Sign.logged.inj hlogged
    exact congrArg World.journal (hlogs I)

variable (w : World D) (below : List (Frame D)) (kind : EventKind) (args : Args) (i j : Nat)

/-- A pass makes nothing known by itself. -/
theorem sign?_pass (desk : Desk) (pulse : Pulse D) (queue : List (Task D)) (resumed : Nat) :
    (⟨w, .pass desk kind args pulse queue resumed :: below⟩ : Config D).sign? i = none :=
  sign?_of_ne (by simp) w below i

/-- That a callback comes next makes nothing known. -/
theorem sign?_callback :
    (⟨w, .callback j kind args :: below⟩ : Config D).sign? i = none :=
  sign?_of_ne (by simp) w below i

end Config

/-- What becomes known of one instance, and nothing of the others. -/
def Sign.about (i : Nat) (signs : List Sign) (j : Nat) : List Sign :=
  if i = j then signs else []

@[simp] theorem Sign.about_nil (i : Nat) : about i [] = fun _ => [] := by
  funext j
  simp [about]

/-! ## What the machine reveals -/

namespace Config

/-- The machine comes from one configuration to another, and this becomes known of the
instances meanwhile. -/
def Reveals (I : Interpreter D) (c : Config D) (known : Nat → List Sign) (c' : Config D) : Prop :=
  ∃ cs, Trace I c cs c' ∧ ∀ i, signs i cs = known i

variable {c c₁ c' : Config D} {known known' : Nat → List Sign}

/-- A trace may be followed by another. -/
theorem Trace.trans {cs cs' : List (Config D)} (h : Trace I c cs c₁) (h' : Trace I c₁ cs' c') :
    Trace I c (cs ++ cs') c' := by
  induction h with
  | nil => exact h'
  | cons hstep _ ih => exact .cons hstep (ih h')

theorem Reveals.refl (c : Config D) : c.Reveals I (fun _ => []) c :=
  ⟨[], .nil c, fun _ => rfl⟩

/-- One step, and what follows. -/
theorem Reveals.head (h : c₁.Reveals I known c') (hstep : c.step? I = some c₁) :
    c.Reveals I (fun i => (c.sign? i).toList ++ known i) c' := by
  obtain ⟨cs, htrace, hknown⟩ := h
  refine ⟨c :: cs, .cons hstep htrace, fun i => ?_⟩
  show signs i (c :: cs) = (c.sign? i).toList ++ known i
  rw [← hknown i, signs, List.filterMap_cons]
  cases c.sign? i <;> rfl

/-- What becomes known first and what becomes known then is known. -/
theorem Reveals.trans (h : c.Reveals I known c₁) (h' : c₁.Reveals I known' c') :
    c.Reveals I (fun i => known i ++ known' i) c' := by
  obtain ⟨cs, htrace, hknown⟩ := h
  obtain ⟨cs', htrace', hknown'⟩ := h'
  refine ⟨cs ++ cs', htrace.trans htrace', fun i => ?_⟩
  show signs i (cs ++ cs') = known i ++ known' i
  rw [signs_append, hknown i, hknown' i]

/-- It only matters what becomes known of whom. -/
theorem Reveals.congr (h : c.Reveals I known c') (hsame : ∀ i, known i = known' i) :
    c.Reveals I known' c' := by
  obtain rfl : known = known' := funext hsame
  exact h

/-- A step of which nothing becomes known. -/
theorem Reveals.silent (h : c₁.Reveals I known c') (hstep : c.step? I = some c₁)
    (hsilent : ∀ i, c.sign? i = none) : c.Reveals I known c' :=
  (h.head hstep).congr fun i => by rw [hsilent i]; rfl

end Config

/-! ## Code -/

/-- Frames that run code on behalf of an instance. -/
structure Frame.RunsFor (I : Interpreter D) (F : Code D α → Frame D) (i : Nat) : Prop where
  goes : ∀ (w : World D) code code' w', code.progress I w = .goesOn code' w' [] →
    (F code).advance I w = (w', [F code'])
  sign : ∀ (w : World D) j code,
    (F code).sign? w j = if i = j then code.notice?.map .logged else none
  scripted : ∀ code c, F code ≠ .handler c

/-- A coroutine runs for the instance it belongs to. -/
theorem Frame.runsFor_coroutine (i serial : Nat) :
    RunsFor I (.coroutine (.script i) serial) i where
  goes w code code' w' hgoes := by simp only [advance, hgoes, List.nil_append]
  sign w j code := by simp [sign?]
  scripted _ _ := nofun

/-- A callback runs for the instance it belongs to. -/
theorem Frame.runsFor_call (i : Nat) (kind : EventKind) : RunsFor I (.call i kind) i where
  goes w code code' w' hgoes := by simp only [advance, hgoes, List.nil_append]
  sign w j code := rfl
  scripted _ _ := nofun

/-- Top-level code runs for the instance it brings to life. -/
theorem Frame.runsFor_entry (i : Nat) : RunsFor I (.entry i) i where
  goes w code code' w' hgoes := by simp only [advance, hgoes, List.nil_append]
  sign w j code := rfl
  scripted _ _ := nofun

/-- Code that says nothing makes nothing known. -/
theorem Frame.RunsFor.sign?_of_silent {F : Code D α → Frame D} {i : Nat} (hF : RunsFor I F i)
    {code : Code D α} (hcode : code.notice? = none) (w : World D) (below : List (Frame D))
    (j : Nat) : (⟨w, F code :: below⟩ : Config D).sign? j = none := by
  rw [Config.sign?_of_ne (hF.scripted code), hF.sign, hcode]
  split <;> rfl

namespace World

variable {w : World D} {i : Nat} {m : D.Memory}

/-- **Code that performs no act reveals its reports**, whatever frame runs it. -/
theorem reveals_result {F : Code D α → Frame D} (hF : Frame.RunsFor I F i) {code : Code D α}
    {a : α} (h : code.result? w.memory = some (a, m)) (below : List (Frame D)) :
    ∃ news, Config.Reveals I ⟨w, F code :: below⟩
      (Sign.about i ((code.notices w.memory).map .logged))
      ⟨w.moved m news, F (.ret a) :: below⟩ := by
  have hstep : ∀ (w : World D) code code' w', code.progress I w = .goesOn code' w' [] →
      Config.step? I ⟨w, F code :: below⟩ = some ⟨w', F code' :: below⟩ := by
    intro w code code' w' hprogress
    simp [Config.step?, hF.goes w code code' w' hprogress]
  induction code generalizing w with
  | ret b =>
    obtain ⟨rfl, rfl⟩ : b = a ∧ w.memory = m := by simpa [Code.result?] using h
    exact ⟨[], (Config.Reveals.refl _).congr fun j => by simp [Code.notices]⟩
  | read k ih =>
    obtain ⟨news, hreveals⟩ := ih w.memory h
    exact ⟨news, hreveals.silent (hstep _ _ _ _ rfl) (hF.sign?_of_silent rfl w below)⟩
  | write m₁ k ih =>
    obtain ⟨news, hreveals⟩ := ih (w := { w with memory := m₁ }) h
    exact ⟨news, hreveals.silent (hstep _ _ _ _ rfl) (hF.sign?_of_silent rfl w below)⟩
  | remark r k ih =>
    obtain ⟨news, hreveals⟩ := ih (w := w.moved w.memory [.remark r]) h
    rw [moved_moved] at hreveals
    exact ⟨_, hreveals.silent (hstep _ _ _ _ rfl) (hF.sign?_of_silent rfl w below)⟩
  | log n k ih =>
    obtain ⟨news, hreveals⟩ := ih (w := w.moved w.memory [.notice n]) h
    rw [moved_moved] at hreveals
    refine ⟨_, (hreveals.head (hstep _ _ _ _ rfl)).congr fun j => ?_⟩
    have hsign : (⟨w, F (.log n k) :: below⟩ : Config D).sign? j
        = if i = j then some (.logged n) else none := by
      rw [Config.sign?_of_ne (hF.scripted _), hF.sign]
      rfl
    rw [hsign, Sign.about, Sign.about]
    split <;> rfl
  | act x k ih => cases h

/-- A coroutine that suspends on an event waits for it. -/
theorem reveals_await (table : Subscriptions D) (news : List (Happening D)) (serial : Nat)
    {request : AwaitRequest} (rest : D.Coroutine) {kind : EventKind}
    (hkind : request.resolve = .ok kind) (below : List (Frame D)) :
    Config.Reveals I
      ⟨w.turned i table m news,
        .coroutine (.script i) serial (.ret (.ok (.await request rest))) :: below⟩
      (fun _ => [])
      ⟨w.turned i (table.park kind ⟨serial, rest⟩) m (.notice (.coroutine
        (.awaiting ((w.turned i table m news).label (.script i)) kind)) :: news), below⟩ := by
  refine (Config.Reveals.refl _).silent ?_
    ((Frame.runsFor_coroutine (I := I) i serial).sign?_of_silent rfl _ _)
  have hpark := w.park_turned i table m news kind ⟨serial, rest⟩
  simp only [Config.step?, Frame.advance, Code.progress, concludeCoroutine, hkind]
  exact congrArg (fun w => some (Config.mk w _)) hpark

/-! ## Deliveries -/

variable {event : Event} {args : Args}

/-- A pass over the queue of an instance begins by draining it. -/
theorem beginPass_turned (w : World D) (i : Nat) (kind : EventKind) (args : Args)
    (pulse : Pulse D) :
    w.beginPass (.script i) kind args pulse
      = (w.turned i ((w.subscriptions (.script i)).drain kind) w.memory [],
        .pass (.script i) kind args pulse ((w.subscriptions (.script i)).waiting kind) 0) := by
  have hdrain := w.modifySubscriptions_turned i (w.subscriptions (.script i)) w.memory []
    (·.drain kind)
  rw [turned_self] at hdrain
  rw [beginPass, hdrain]

/-- **An event that comes to one who waits for it** wakes him, and he waits again; nothing
else waits for the kind, and there is no callback. -/
theorem reveals_woken (halive : w.isAlive i = true) (hargs : event.args = .ok args)
    {task : Task D} (hwaiting : (w.subscriptions (.script i)).waiting event.kind = [task])
    (hcallback : (w.subscriptions (.script i)).callback event.kind = none)
    {request : AwaitRequest} {rest : D.Coroutine} {kind : EventKind}
    (hresult : (I.resume task.routine args).result? w.memory
      = some (.ok (.await request rest), m))
    (hkind : request.resolve = .ok kind) (below : List (Frame D)) :
    ∃ news, Config.Reveals I ⟨(w.deliver i event).1, (w.deliver i event).2 ++ below⟩
      (Sign.about i (((I.resume task.routine args).notices w.memory).map .logged))
      ⟨w.turned i (((w.subscriptions (.script i)).drain event.kind).park kind ⟨task.serial, rest⟩)
        m news, below⟩ := by
  have hbusy : ¬ (w.subscriptions (.script i)).isIdle event.kind = true := by
    simp [Subscriptions.isIdle_iff, hwaiting]
  -- the pass wakes him, and his code runs
  let table := (w.subscriptions (.script i)).drain event.kind
  let code := I.resume task.routine args
  let pass (queue : List (Task D)) (resumed : Nat) : Frame D :=
    .pass (.script i) event.kind args (.script i) queue resumed
  obtain ⟨news, hruns⟩ := reveals_result (w := w.turned i table w.memory
    [.resumed (.script i) task.serial args]) (Frame.runsFor_coroutine (I := I) i task.serial)
    hresult (pass [] 1 :: .callback i event.kind args :: below)
  rw [moved_turned] at hruns
  -- he waits again, the pass is over, and there is no callback
  let waiting := table.park kind ⟨task.serial, rest⟩
  let w₁ := w.turned i table m (news ++ [.resumed (.script i) task.serial args])
  let news₁ : List (Happening D) := .notice (.coroutine (.awaiting (w₁.label (.script i)) kind)) ::
    (news ++ [.resumed (.script i) task.serial args])
  let news₂ : List (Happening D) := .passEnded (.script i) event.kind 1 :: news₁
  have hnone : waiting.callback event.kind = none := by
    simp [waiting, table, hcallback]
  have hcalls := (Config.Reveals.refl (I := I) ⟨w.turned i waiting m news₂, below⟩).silent
    (c := ⟨w.turned i waiting m news₂, .callback i event.kind args :: below⟩)
    (by simp [Config.step?, Frame.advance, subscriptions_turned _ _ _ halive, hnone])
    (Config.sign?_callback _ _ _ _ · _)
  have hpasses := hcalls.silent
    (c := ⟨w.turned i waiting m news₁, pass [] 1 :: .callback i event.kind args :: below⟩) rfl
    (Config.sign?_pass _ _ _ _ · _ _ _ _)
  have hparks := (reveals_await (I := I) (w := w) (i := i) (m := m) table
    (news ++ [.resumed (.script i) task.serial args]) task.serial rest hkind
    (pass [] 1 :: .callback i event.kind args :: below)).trans hpasses
  have hwakes := (hruns.trans hparks).silent
    (c := ⟨w.turned i table w.memory [], pass [task] 0 :: .callback i event.kind args :: below⟩)
    (by
      have hbeats : (w.turned i table w.memory []).isAlive i = true :=
        (w.isAlive_turned i table w.memory []).trans halive
      simp only [Config.step?, Frame.advance, Pulse.beats, hbeats, if_true, pass]
      rfl)
    (Config.sign?_pass _ _ _ _ · _ _ _ _)
  refine ⟨news₂, ?_⟩
  rw [deliver_of_not_isIdle halive hargs hbusy, beginPass_turned, hwaiting]
  exact hwakes.congr fun j => List.append_nil _

/-- **An event that comes to one who has a callback for it** calls it; nothing waits for
the kind, and the callback returns no coroutine. -/
theorem reveals_called (halive : w.isAlive i = true) (hargs : event.args = .ok args)
    (hwaiting : (w.subscriptions (.script i)).waiting event.kind = []) {c : D.Callback}
    (hcallback : (w.subscriptions (.script i)).callback event.kind = some c)
    (hresult : (I.call c args).result? w.memory = some (.ok .done, m))
    (below : List (Frame D)) :
    ∃ news, Config.Reveals I ⟨(w.deliver i event).1, (w.deliver i event).2 ++ below⟩
      (Sign.about i (((I.call c args).notices w.memory).map .logged))
      ⟨w.turned i ((w.subscriptions (.script i)).drain event.kind) m news, below⟩ := by
  have hbusy : ¬ (w.subscriptions (.script i)).isIdle event.kind = true := by
    simp [Subscriptions.isIdle_iff, hcallback]
  let table := (w.subscriptions (.script i)).drain event.kind
  let news₀ : List (Happening D) := [.passEnded (.script i) event.kind 0]
  let news₁ : List (Happening D) := .called i event.kind c args :: news₀
  -- nobody is woken, the callback is called, and its code runs
  obtain ⟨news, hruns⟩ := reveals_result (w := w.turned i table w.memory news₁)
    (Frame.runsFor_call (I := I) i event.kind) hresult below
  rw [moved_turned] at hruns
  have hreturns := (Config.Reveals.refl (I := I) ⟨w.turned i table m (news ++ news₁), below⟩).silent
    (c := ⟨w.turned i table m (news ++ news₁), .call i event.kind (.ret (.ok .done)) :: below⟩) rfl
    ((Frame.runsFor_call (I := I) i event.kind).sign?_of_silent rfl _ _)
  have hcalls := (hruns.trans hreturns).silent
    (c := ⟨w.turned i table w.memory news₀, .callback i event.kind args :: below⟩)
    (by
      have hlives : (w.turned i table w.memory news₀).isAlive i = true :=
        (w.isAlive_turned i table w.memory news₀).trans halive
      have hslot : table.callback event.kind = some c := by simp [table, hcallback]
      simp only [Config.step?, Frame.advance, hlives, subscriptions_turned _ _ _ halive, hslot]
      rfl)
    (Config.sign?_callback _ _ _ _ · _)
  have hpasses := hcalls.silent
    (c := ⟨w.turned i table w.memory [], .pass (.script i) event.kind args (.script i) [] 0 ::
      .callback i event.kind args :: below⟩) rfl (Config.sign?_pass _ _ _ _ · _ _ _ _)
  refine ⟨news ++ news₁, ?_⟩
  rw [deliver_of_not_isIdle halive hargs hbusy, beginPass_turned, hwaiting]
  exact hpasses.congr fun j => List.append_nil _

end World

end ScriptHost
