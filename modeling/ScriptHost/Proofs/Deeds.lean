import ScriptHost.Proofs.Account

/-!
# Every move does one deed to an instance

`Act.Brings` and `Frame.Brings` list what can bring a deed about: an act of
script code, or a step of one sort of frame.  `World.act_deed` says that an act
does such a deed to an instance, `Frame.advance_deed` that a step does, and
`Config.Move.deed` that a move of a run does.

A step can only be trusted with an instance if its frame is **sound**: a pass at
an instance's desk asks whether that instance is alive, and a coroutine, a callback
or top-level code belongs to an instance that exists.
-/

namespace ScriptHost

variable {D : Dialect}

/-- What acts do to an instance. -/
inductive Act.Brings (i : Nat) : Act D → Deed D → Prop
  | awaitNext (kind : EventKind) (routine : D.Coroutine) :
      Brings i (.awaitNext (.script i) kind routine) (.hand kind routine)
  | schedule {request : AwaitRequest} {kind : EventKind} (routine : D.Coroutine)
      (h : request.resolve = .ok kind) :
      Brings i (.schedule (.script i) request routine) (.hand kind routine)
  | spawn (routine : D.Coroutine) : Brings i (.spawn (.script i) routine) (.start .context routine)
  | setCallback (kind : EventKind) (callback : Option D.Callback) :
      Brings i (.setCallback i kind callback) (.setCallback kind callback)
  | on {event : String} {kind : EventKind} (callback : Option D.Callback)
      (h : resolveKind event = .ok kind) :
      Brings i (.on i event callback) (.setCallback kind callback)
  | clearCallbacks : Brings i (.clearCallbacks i) .clearCallbacks
  | reset : Brings i (.reset i) .reset
  | nothing (a : Act D) : Brings i a .nothing

/-- The act a frame does next, if it runs code that comes to one. -/
def Frame.nextAct? : Frame D → Option (Act D)
  | .coroutine _ _ (.act a _) => some a
  | .call _ _ (.act a _) => some a
  | .handler (.act a _) => some a
  | .entry _ (.act a _) => some a
  | _ => none

/-- What steps of frames do to an instance. -/
inductive Frame.Brings (i : Nat) : Frame D → Deed D → Prop
  | act {f : Frame D} {a : Act D} {δ : Deed D} (hf : f.nextAct? = some a) (h : a.Brings i δ) :
      Brings i f δ
  | drain (n : Nat) (event : Event) (l : Listener D) (rest : List (Listener D))
      (hl : l.hook = .script i) : Brings i (.emission n event (l :: rest)) (.drain event.kind)
  | wake (kind : EventKind) (args : Args) (pulse : Pulse D) (task : Task D)
      (queue : List (Task D)) (n : Nat) :
      Brings i (.pass (.script i) kind args pulse (task :: queue) n) (.wake task args)
  | cut (kind : EventKind) (args : Args) (pulse : Pulse D) (queue : List (Task D)) (n : Nat) :
      Brings i (.pass (.script i) kind args pulse queue n) .cut
  | exhaust (kind : EventKind) (args : Args) (pulse : Pulse D) (n : Nat) :
      Brings i (.pass (.script i) kind args pulse [] n) .exhaust
  | yield (s : Nat) (r : Except ScriptError (Yield D)) :
      Brings i (.coroutine (.script i) s (.ret r)) (.yield s r)
  | call (kind : EventKind) (callback : D.Callback) (args : Args) :
      Brings i (.callback i kind args) (.call kind callback args)
  | spawned (kind : EventKind) (routine : D.Coroutine) :
      Brings i (.call i kind (.ret (.ok (.spawn routine)))) (.start .callback routine)
  | main (routine : D.Coroutine) :
      Brings i (.entry i (.ret (.ok (some routine)))) (.start .entry routine)
  | settle : Brings i (.settle i) .settle
  | ending : Brings i (.ending i) .ending
  | nothing (f : Frame D) : Brings i f .nothing

/-- What a frame has to be for its steps to do an instance no wrong. -/
def Frame.Sound (w : World D) : Frame D → Prop
  | .pass (.script i) _ _ pulse _ _ => pulse = .script i
  | .coroutine (.script i) _ _ => i < w.instances.length
  | .call i _ _ => i < w.instances.length
  | .entry i _ => i < w.instances.length
  | _ => True

namespace World

/-- Announcing an end starts nothing at an instance's own desk. -/
theorem queue?_beginEnding (w : World D) (j i : Nat) :
    (w.beginEnding j).2.filterMap (Frame.queue? i) = [] := by
  unfold beginEnding
  split
  · rfl
  · split <;> rfl

theorem running?_beginEnding (w : World D) (j i : Nat) :
    (w.beginEnding j).2.filterMap (Frame.running? i) = [] := by
  unfold beginEnding
  split
  · rfl
  · split <;> rfl

end World

/-- Two worlds in which an instance stands alike give it the same account. -/
theorem Config.account_of_standing {w w' : World D} {i : Nat} (h : w'.standing i = w.standing i)
    (stack : List (Frame D)) :
    (⟨w', stack⟩ : Config D).account i = (⟨w, stack⟩ : Config D).account i := by
  simp [Config.account, h]

@[simp] theorem Config.isAlive_account (c : Config D) (i : Nat) :
    (c.account i).isAlive = c.world.isAlive i :=
  World.isAlive_standing c.world i

/-- An instance that exists has a state. -/
theorem Config.state_account_ne_none {c : Config D} {i : Nat}
    (hi : i < c.world.instances.length) : (c.account i).state ≠ none := by
  have hx : c.world.instances[i]? = some c.world.instances[i] := List.getElem?_eq_getElem hi
  simp [account, World.standing, World.instance?, hx]

theorem Account.Step.of_eq {i : Nat} {a b : Account D} (h : b = a) : Step i a .nothing b :=
  h ▸ .nothing

namespace World

variable (I : Interpreter D)

/-- A coroutine that is started does the deed `start`, whichever door it comes
through. -/
theorem start_step {w : World D} {i : Nat} (routine : D.Coroutine) (door : Door)
    (hi : i < w.instances.length) (hdoor : door = .context → w.isAlive i = true) :
    Account.Step i ((⟨w, []⟩ : Config D).account i) (.start door routine)
      ((⟨(w.start I (.script i) routine).1, [(w.start I (.script i) routine).2]⟩ :
        Config D).account i) := by
  have hstep : Account.Step i ((⟨w, []⟩ : Config D).account i) (.start door routine) _ :=
    .start (Config.state_account_ne_none hi) fun h => by
      rw [Config.isAlive_account]
      exact hdoor h
  have hrunning : Frame.running? i (w.start I (.script i) routine).2
      = some (w.standing i).table.handed := if_pos rfl
  have hqueue : Frame.queue? i (w.start I (.script i) routine).2 = none := rfl
  simpa [Config.account, standing_start I routine hi, hrunning, hqueue] using hstep

theorem account_start_of_ne (w : World D) {i : Nat} {desk : Desk} (routine : D.Coroutine)
    (h : desk ≠ .script i) :
    (⟨(w.start I desk routine).1, [(w.start I desk routine).2]⟩ : Config D).account i
      = (⟨w, []⟩ : Config D).account i := by
  have hrunning : Frame.running? i (w.start I desk routine).2 = none := if_neg h
  rw [Config.account_cons rfl hrunning]
  exact Config.account_of_standing (standing_start_of_ne I w routine h) []

/-- A coroutine that is started does the deed `start` to the instance of the desk, and
nothing to the others. -/
theorem start_deed (w : World D) (desk : Desk) (routine : D.Coroutine) (door : Door) (i : Nat)
    (hi : desk = .script i → i < w.instances.length)
    (hdoor : door = .context → w.isOpen desk = true) :
    ∃ δ, (δ = .nothing ∨ (desk = .script i ∧ δ = .start door routine)) ∧
      Account.Step i ((⟨w, []⟩ : Config D).account i) δ
        ((⟨(w.start I desk routine).1, [(w.start I desk routine).2]⟩ : Config D).account i) := by
  by_cases hdesk : desk = .script i
  · subst hdesk
    exact ⟨.start door routine, Or.inr ⟨rfl, rfl⟩, start_step I routine door (hi rfl) hdoor⟩
  · exact ⟨.nothing, Or.inl rfl, .of_eq (account_start_of_ne I w routine hdesk)⟩

/-- What changes nothing about an instance, and starts nothing at its desk, is no
deed. -/
theorem quiet_step {w w' : World D} {i : Nat} (started : List (Frame D))
    (hst : w'.standing i = w.standing i) (hqueue : started.filterMap (Frame.queue? i) = [])
    (hrunning : started.filterMap (Frame.running? i) = []) :
    Account.Step i ((⟨w, []⟩ : Config D).account i) .nothing
      ((⟨w', started⟩ : Config D).account i) :=
  .of_eq (by simp [Config.account, hst, hqueue, hrunning])

/-- A coroutine that is taken in and parked does the deed `hand` to the instance of
the desk. -/
theorem hand_deed {w : World D} {desk : Desk} (kind : EventKind) (routine : D.Coroutine)
    (hopen : w.isOpen desk = true) (i : Nat) :
    ∃ δ, (δ = .nothing ∨ (desk = .script i ∧ δ = .hand kind routine)) ∧
      Account.Step i ((⟨w, []⟩ : Config D).account i) δ
        ((⟨(w.accept desk routine).2.park desk kind (w.accept desk routine).1, []⟩ :
          Config D).account i) := by
  by_cases hdesk : desk = .script i
  · subst hdesk
    refine ⟨.hand kind routine, Or.inr ⟨rfl, rfl⟩, ?_⟩
    have hst := standing_park_accept kind routine (lt_of_isOpen hopen)
    have hstep : Account.Step i ((⟨w, []⟩ : Config D).account i) (.hand kind routine) _ :=
      .hand (by rw [Config.isAlive_account]; exact hopen)
    simpa [Config.account, hst] using hstep
  · exact ⟨.nothing, Or.inl rfl,
      quiet_step [] (standing_park_accept_of_ne w kind routine hdesk) rfl rfl⟩

/-- A callback that is set is the callback of its instance, or nothing happens. -/
theorem setCallback_deed (w : World D) (j : Nat) (kind : EventKind)
    (callback : Option D.Callback) (i : Nat) :
    ∃ δ, (δ = .nothing ∨ (j = i ∧ δ = .setCallback kind callback)) ∧
      Account.Step i ((⟨w, []⟩ : Config D).account i) δ
        ((⟨(w.setCallback I.callable j kind callback).2, []⟩ : Config D).account i) := by
  by_cases hj : j = i
  · subst hj
    rcases standing_setCallback w I.callable j kind callback with hst | ⟨halive, hst⟩
    · exact ⟨.nothing, Or.inl rfl, quiet_step [] hst rfl rfl⟩
    · refine ⟨.setCallback kind callback, Or.inr ⟨rfl, rfl⟩, ?_⟩
      have hstep : Account.Step j ((⟨w, []⟩ : Config D).account j)
          (.setCallback kind callback) _ :=
        .setCallback (by rw [Config.isAlive_account]; exact halive)
      simpa [Config.account, hst] using hstep
  · exact ⟨.nothing, Or.inl rfl,
      quiet_step [] (standing_setCallback_of_ne w I.callable kind callback hj) rfl rfl⟩

/-- **An act does one deed to an instance**, one of those it can bring about. -/
theorem act_deed (w : World D) (a : Act D) (i : Nat) :
    ∃ δ, a.Brings i δ ∧
      Account.Step i ((⟨w, []⟩ : Config D).account i) δ
        ((⟨(w.act I a).2.1, (w.act I a).2.2⟩ : Config D).account i) := by
  cases a with
  | emit event =>
    exact ⟨.nothing, .nothing _, quiet_step _ (standing_beginEmission w event i) rfl rfl⟩
  | listen kind handler =>
    exact ⟨.nothing, .nothing _, quiet_step _ (standing_listen w kind _ i) rfl rfl⟩
  | unlisten id =>
    refine ⟨.nothing, .nothing _, ?_⟩
    cases h : w.unlisten id with
    | ok w' => simpa [act, h] using quiet_step [] (standing_unlisten h i) rfl rfl
    | error e => simpa [act, h] using quiet_step (w := w) [] rfl rfl rfl
  | terminate name =>
    refine ⟨.nothing, .nothing _, ?_⟩
    cases hheld : w.held.lookup name with
    | none => simpa [act, hheld] using quiet_step (w := w) [] rfl rfl rfl
    | some j =>
      have hst : ((w.takeHeld name).beginEnding j).1.standing i = w.standing i := by
        rw [standing_beginEnding]
        exact standing_congr rfl rfl i
      have hframes := queue?_beginEnding (w.takeHeld name) j i
      have hrunning := running?_beginEnding (w.takeHeld name) j i
      simp only [act, hheld]
      apply quiet_step _ hst
      · simp [hframes, Frame.queue?]
      · simp [hrunning, Frame.running?]
  | shutdown value => exact ⟨.nothing, .nothing _, quiet_step _ (standing_congr rfl rfl i) rfl rfl⟩
  | awaitNext desk kind routine =>
    by_cases hopen : w.isOpen desk
    · obtain ⟨δ, hδ, hstep⟩ := hand_deed kind routine hopen i
      refine ⟨δ, ?_, by simpa [act, awaitNext, hopen] using hstep⟩
      rcases hδ with rfl | ⟨rfl, rfl⟩
      · exact .nothing _
      · exact .awaitNext kind routine
    · refine ⟨.nothing, .nothing _, ?_⟩
      simpa [act, awaitNext, hopen] using quiet_step [] (standing_logClosed w desk _ i) rfl rfl
  | schedule desk request routine =>
    by_cases hopen : w.isOpen desk
    · cases hkind : request.resolve with
      | error e =>
        refine ⟨.nothing, .nothing _, ?_⟩
        simpa [act, schedule, hopen, hkind] using quiet_step (w := w) [] rfl rfl rfl
      | ok kind =>
        obtain ⟨δ, hδ, hstep⟩ := hand_deed kind routine hopen i
        refine ⟨δ, ?_, by simpa [act, schedule, hopen, hkind] using hstep⟩
        rcases hδ with rfl | ⟨rfl, rfl⟩
        · exact .nothing _
        · exact .schedule routine hkind
    · refine ⟨.nothing, .nothing _, ?_⟩
      simpa [act, schedule, hopen] using quiet_step (w := w) [] rfl rfl rfl
  | spawn desk routine =>
    by_cases hopen : w.isOpen desk
    · obtain ⟨δ, hδ, hstep⟩ := w.start_deed I desk routine .context i
        (fun hdesk => lt_of_isOpen (hdesk ▸ hopen)) fun _ => hopen
      refine ⟨δ, ?_, by simpa [act, hopen] using hstep⟩
      rcases hδ with rfl | ⟨rfl, rfl⟩
      · exact .nothing _
      · exact .spawn routine
    · refine ⟨.nothing, .nothing _, ?_⟩
      simpa [act, hopen] using quiet_step [] (standing_logClosed w desk _ i) rfl rfl
  | awaiting desk kind => exact ⟨.nothing, .nothing _, quiet_step _ rfl rfl rfl⟩
  | setCallback j kind callback =>
    obtain ⟨δ, hδ, hstep⟩ := setCallback_deed I w j kind callback i
    refine ⟨δ, ?_, hstep⟩
    rcases hδ with rfl | ⟨rfl, rfl⟩
    · exact .nothing _
    · exact .setCallback kind callback
  | on j event callback =>
    cases hkind : resolveKind event with
    | error e =>
      refine ⟨.nothing, .nothing _, ?_⟩
      simpa [act, hkind] using quiet_step (w := w) [] rfl rfl rfl
    | ok kind =>
      obtain ⟨δ, hδ, hstep⟩ := setCallback_deed I w j kind callback i
      refine ⟨δ, ?_, by simpa [act, hkind] using hstep⟩
      rcases hδ with rfl | ⟨rfl, rfl⟩
      · exact .nothing _
      · exact .on callback hkind
  | clearCallbacks j =>
    by_cases hj : j = i
    · subst hj
      by_cases hi : j < w.instances.length
      · refine ⟨.clearCallbacks, .clearCallbacks, ?_⟩
        have hst := standing_modifySubscriptions Subscriptions.clearCallbacks hi
        have hstep : Account.Step j ((⟨w, []⟩ : Config D).account j) .clearCallbacks _ :=
          .clearCallbacks
        simpa [act, Config.account, hst] using hstep
      · exact ⟨.nothing, .nothing _, quiet_step _
          (standing_modifySubscriptions_of_le _ _ (Nat.le_of_not_lt hi)) rfl rfl⟩
    · have hdesk : Desk.script j ≠ .script i := fun e => hj (Desk.script.inj e)
      exact ⟨.nothing, .nothing _,
        quiet_step _ (standing_modifySubscriptions_of_ne w _ hdesk) rfl rfl⟩
  | reset j =>
    by_cases hj : j = i
    · subst hj
      by_cases hi : j < w.instances.length
      · refine ⟨.reset, .reset, ?_⟩
        have hstep : Account.Step j ((⟨w, []⟩ : Config D).account j) .reset _ := .reset
        simpa [act, Config.account, standing_clear hi] using hstep
      · exact ⟨.nothing, .nothing _,
          quiet_step _ (standing_clear_of_le _ (Nat.le_of_not_lt hi)) rfl rfl⟩
    · have hdesk : Desk.script j ≠ .script i := fun e => hj (Desk.script.inj e)
      exact ⟨.nothing, .nothing _, quiet_step _ (standing_clear_of_ne w hdesk) rfl rfl⟩
  | request j kind path =>
    exact ⟨.nothing, .nothing _, quiet_step _ (standing_request w j kind path i) rfl rfl⟩
  | requestStopSelf j =>
    refine ⟨.nothing, .nothing _, ?_⟩
    cases hx : w.instance? j with
    | none => simpa [act, hx] using quiet_step (w := w) [] rfl rfl rfl
    | some x =>
      simpa [act, hx] using quiet_step [] (standing_request w j .stop x.path i) rfl rfl
  | identity j =>
    refine ⟨.nothing, .nothing _, ?_⟩
    cases hx : w.instance? j with
    | none => simpa [act, hx] using quiet_step (w := w) [] rfl rfl rfl
    | some x => simpa [act, hx] using quiet_step (w := w) [] rfl rfl rfl
  | notify n kind args test =>
    have hdesk : Desk.bench n ≠ .script i := by simp
    have hst := standing_modifySubscriptions_of_ne w (·.drain kind) hdesk
    exact ⟨.nothing, .nothing _, quiet_step _ hst rfl rfl⟩
  | resumed n => exact ⟨.nothing, .nothing _, quiet_step _ rfl rfl rfl⟩

/-- A coroutine that gives control back: the deed `yield`. -/
theorem concludeCoroutine_step {w : World D} {i s : Nat} {a : Account D}
    {running : List Nat} (hi : i < w.instances.length) (ha : a.toStanding = w.standing i)
    (hrun : a.running = s :: running) (r : Except ScriptError (Yield D)) :
    Account.Step i a (.yield s r)
      { a with toStanding := (w.concludeCoroutine (.script i) s r).standing i, running } := by
  cases r with
  | error e =>
    have hst : (w.concludeCoroutine (.script i) s (.error e)).standing i
        = { w.standing i with
            story := .left (.script i) s (.failed e) :: (w.standing i).story } := by
      cases e <;> simp [concludeCoroutine, standing_record, Happening.concerns]
    rw [hst, ← ha]
    exact .failed hrun
  | ok y =>
    cases y with
    | finished =>
      have hst : (w.concludeCoroutine (.script i) s (.ok .finished)).standing i
          = { w.standing i with
              story := .left (.script i) s .finished :: (w.standing i).story } := by
        simp [concludeCoroutine, standing_record, Happening.concerns]
      rw [hst, ← ha]
      exact .finished hrun
    | await request rest =>
      cases hkind : request.resolve with
      | ok kind =>
        simp only [concludeCoroutine, hkind]
        rw [standing_park _ _ hi, ← ha]
        exact .parked hrun hkind
      | error e =>
        have hst : (w.concludeCoroutine (.script i) s (.ok (.await request rest))).standing i
            = { w.standing i with
                story := .left (.script i) s (.misdirected e) :: (w.standing i).story } := by
          simp [concludeCoroutine, hkind, standing_record, Happening.concerns]
        rw [hst, ← ha]
        exact .misdirected hrun hkind

/-- A delivery begins a pass at the desk of the instance it goes to, or it does
nothing. -/
theorem deliver_deed (w : World D) (j : Nat) (event : Event) (i : Nat) :
    ∃ δ, (δ = .nothing ∨ (j = i ∧ δ = .drain event.kind)) ∧
      Account.Step i ((⟨w, []⟩ : Config D).account i) δ
        ((⟨(w.deliver j event).1, (w.deliver j event).2⟩ : Config D).account i) := by
  unfold deliver
  split
  · exact ⟨.nothing, Or.inl rfl, .nothing⟩
  · next x hx =>
    split
    · exact ⟨.nothing, Or.inl rfl, .nothing⟩
    · next hgoes =>
      have halive : x.isAlive = true := by
        cases h : x.isAlive with
        | true => rfl
        | false => simp [h] at hgoes
      split
      · exact ⟨.nothing, Or.inl rfl,
          .of_eq (Config.account_of_standing (standing_log _ _ i) [])⟩
      · next args _ =>
        by_cases hj : j = i
        · subst hj
          refine ⟨.drain event.kind, Or.inr ⟨rfl, rfl⟩, ?_⟩
          have hst := standing_modifySubscriptions (·.drain event.kind) (lt_of_instance? hx)
          have htable : w.subscriptions (.script j) = (w.standing j).table := rfl
          have hstep : Account.Step j ((⟨w, []⟩ : Config D).account j) (.drain event.kind) _ :=
            .drain (by rw [Config.isAlive_account, isAlive_of_instance? hx, halive])
          simpa [beginPass, Config.account, hst, htable, List.filterMap_cons, Frame.queue?,
            Frame.running?] using hstep
        · have hdesk : Desk.script j ≠ .script i := fun e => hj (Desk.script.inj e)
          refine ⟨.nothing, Or.inl rfl, .of_eq ?_⟩
          simp [beginPass, Config.account, standing_modifySubscriptions_of_ne _ _ hdesk,
            List.filterMap_cons, Frame.queue?, Frame.running?, hj]

end World

/-- Code that is over has come to its result. -/
theorem Code.progress_over {I : Interpreter D} {α : Type} {w : World D} {code : Code D α} {a : α}
    (h : code.progress I w = .over a) : code = .ret a := by
  cases code <;> simp_all [Code.progress]

/-- A step of code that goes on does an instance the deed of the act it comes
to, or nothing. -/
theorem Code.progress_deed {I : Interpreter D} {α : Type} {w w' : World D}
    {code code' : Code D α} {started : List (Frame D)}
    (h : code.progress I w = .goesOn code' w' started) (i : Nat) :
    ∃ δ, (δ = .nothing ∨ ∃ a k, code = .act a k ∧ a.Brings i δ) ∧
      Account.Step i ((⟨w, []⟩ : Config D).account i) δ
        ((⟨w', started⟩ : Config D).account i) := by
  cases code with
  | ret a => simp [Code.progress] at h
  | read k =>
    obtain ⟨-, rfl, rfl⟩ : _ ∧ w = w' ∧ [] = started := by simpa [Code.progress] using h
    exact ⟨.nothing, Or.inl rfl, .nothing⟩
  | write m k =>
    obtain ⟨-, rfl, rfl⟩ : _ ∧ _ = w' ∧ [] = started := by simpa [Code.progress] using h
    exact ⟨.nothing, Or.inl rfl,
      .of_eq (Config.account_of_standing (World.standing_congr rfl rfl i) [])⟩
  | remark r k =>
    obtain ⟨-, rfl, rfl⟩ : _ ∧ _ = w' ∧ [] = started := by simpa [Code.progress] using h
    exact ⟨.nothing, Or.inl rfl,
      .of_eq (Config.account_of_standing (World.standing_record_of_not w rfl) [])⟩
  | log n k =>
    obtain ⟨-, rfl, rfl⟩ : _ ∧ _ = w' ∧ [] = started := by simpa [Code.progress] using h
    exact ⟨.nothing, Or.inl rfl,
      .of_eq (Config.account_of_standing (World.standing_log w n i) [])⟩
  | act a k =>
    obtain ⟨-, rfl, rfl⟩ : _ ∧ (w.act I a).2.1 = w' ∧ (w.act I a).2.2 = started := by
      simpa [Code.progress] using h
    obtain ⟨δ, hδ, hstep⟩ := w.act_deed I a i
    exact ⟨δ, Or.inr ⟨a, k, rfl, hδ⟩, hstep⟩

/-- What code started stands above the frame that goes on with the code. -/
theorem Account.Step.above {i : Nat} {w w' : World D} {started : List (Frame D)} {δ : Deed D}
    {f g : Frame D} (hqueue : g.queue? i = f.queue? i) (hrunning : g.running? i = f.running? i)
    (h : Step i ((⟨w, []⟩ : Config D).account i) δ ((⟨w', started⟩ : Config D).account i)) :
    Step i ((⟨w, [f]⟩ : Config D).account i) δ
      ((⟨w', started ++ [g]⟩ : Config D).account i) := by
  have hg := Config.account_append w' started [g] i
  have hf := Config.account_append w [] [f] i
  rw [List.nil_append] at hf
  have hq : [g].filterMap (Frame.queue? i) = [f].filterMap (Frame.queue? i) := by
    simp [List.filterMap_cons, hqueue]
  have hr : [g].filterMap (Frame.running? i) = [f].filterMap (Frame.running? i) := by
    simp [List.filterMap_cons, hrunning]
  rw [hf, hg, hq, hr]
  exact h.under _ _

/-- A step of code that goes on, in the frame that runs it: what the code started
stands above the frame. -/
theorem Code.goesOn_deed {I : Interpreter D} {α : Type} {w w' : World D} {code code' : Code D α}
    {started : List (Frame D)} {f g : Frame D} (h : code.progress I w = .goesOn code' w' started)
    (hact : ∀ a k, code = .act a k → f.nextAct? = some a) {i : Nat}
    (hqueue : g.queue? i = f.queue? i) (hrunning : g.running? i = f.running? i) :
    ∃ δ, f.Brings i δ ∧
      Account.Step i ((⟨w, [f]⟩ : Config D).account i) δ
        ((⟨w', started ++ [g]⟩ : Config D).account i) := by
  obtain ⟨δ, hδ, hstep⟩ := Code.progress_deed h i
  refine ⟨δ, ?_, hstep.above hqueue hrunning⟩
  rcases hδ with rfl | ⟨a, k, hcode, ha⟩
  · exact .nothing f
  · exact .act (hact a k hcode) ha

namespace Frame

variable (I : Interpreter D)

/-- A coroutine that gives control back does the deed `yield`. -/
theorem yield_step {w : World D} {i : Nat} (hi : i < w.instances.length) (s : Nat)
    (r : Except ScriptError (Yield D)) :
    Account.Step i ((⟨w, [.coroutine (.script i) s (.ret r)]⟩ : Config D).account i) (.yield s r)
      ((⟨((coroutine (.script i) s (.ret r)).advance I w).1,
        ((coroutine (.script i) s (.ret r)).advance I w).2⟩ : Config D).account i) := by
  have hrun : ((⟨w, [.coroutine (.script i) s (.ret r)]⟩ : Config D).account i).running
      = s :: [] := by simp [Config.account, List.filterMap_cons, running?]
  simpa [advance, Code.progress, Config.account, List.filterMap_cons, queue?, running?] using
    World.concludeCoroutine_step hi rfl hrun r

/-- A callback that returns a coroutine starts it. -/
theorem spawned_step {w : World D} {i : Nat} (hi : i < w.instances.length) (kind : EventKind)
    (routine : D.Coroutine) :
    Account.Step i ((⟨w, [.call i kind (.ret (.ok (.spawn routine)))]⟩ : Config D).account i)
      (.start .callback routine)
      ((⟨((call i kind (.ret (.ok (.spawn routine)))).advance I w).1,
        ((call i kind (.ret (.ok (.spawn routine)))).advance I w).2⟩ : Config D).account i) :=
  w.start_step I routine .callback hi fun h => by cases h

/-- Completing an end ends an instance. -/
theorem ending_step {w : World D} {i : Nat} (hi : i < w.instances.length) :
    Account.Step i ((⟨w, [.ending i]⟩ : Config D).account i) .ending
      ((⟨((ending i).advance I w).1, ((ending i).advance I w).2⟩ : Config D).account i) := by
  have hstep : Account.Step i ((⟨w, [.ending i]⟩ : Config D).account i) .ending _ :=
    .ending (Config.state_account_ne_none hi)
  simpa [advance, Config.account, World.standing_finishEnding hi, List.filterMap_cons, queue?,
    running?] using hstep

/-- What the passes under way have yet to resume, when one is under way. -/
theorem passes_pass (w : World D) (i : Nat) (kind : EventKind) (args : Args) (pulse : Pulse D)
    (queue : List (Task D)) (n : Nat) :
    ((⟨w, [.pass (.script i) kind args pulse queue n]⟩ : Config D).account i).passes
      = queue :: [] := by
  simp [Config.account, List.filterMap_cons, queue?]

/-- A pass resumes its next coroutine, drops what is left, or is over. -/
theorem pass_deed {w : World D} {desk : Desk} {kind : EventKind} {args : Args} {pulse : Pulse D}
    {queue : List (Task D)} {n : Nat} (hf : (Frame.pass desk kind args pulse queue n).Sound w)
    (i : Nat) :
    ∃ δ, (Frame.pass desk kind args pulse queue n).Brings i δ ∧
      Account.Step i ((⟨w, [.pass desk kind args pulse queue n]⟩ : Config D).account i) δ
        ((⟨((pass desk kind args pulse queue n).advance I w).1,
          ((pass desk kind args pulse queue n).advance I w).2⟩ : Config D).account i) := by
  by_cases hdesk : desk = .script i
  · subst hdesk
    obtain rfl : pulse = .script i := hf
    have hpass := passes_pass w i kind args (.script i) queue n
    cases queue with
    | nil =>
      refine ⟨.exhaust, .exhaust kind args _ n, ?_⟩
      have hst : (w.endPass (.script i) kind n).standing i = w.standing i :=
        World.standing_endPass w _ kind n i
      have hstep : Account.Step i _ .exhaust _ := .exhaust hpass
      simpa [advance, Config.account, hst, List.filterMap_cons, queue?, running?] using hstep
    | cons task queue =>
      by_cases halive : w.isAlive i
      · refine ⟨.wake task args, .wake kind args _ task queue n, ?_⟩
        have hstep : Account.Step i _ (.wake task args) _ :=
          .wake (by rw [Config.isAlive_account]; exact halive) hpass
        simpa [advance, Pulse.beats, halive, World.resume, Config.account, List.filterMap_cons,
          queue?, running?, World.standing_record, Happening.concerns] using hstep
      · refine ⟨.cut, .cut kind args _ (task :: queue) n, ?_⟩
        have hstep : Account.Step i _ .cut _ :=
          .cut (by rw [Config.isAlive_account]; exact halive) hpass
        simpa [advance, Pulse.beats, halive, Config.account, List.filterMap_cons, queue?, running?,
          World.standing_record, World.standing_recordLeft, Happening.concerns] using hstep
  · refine ⟨.nothing, .nothing _, .of_eq ?_⟩
    cases queue with
    | nil =>
      have hst : (w.endPass desk kind n).standing i = w.standing i :=
        World.standing_endPass w desk kind n i
      simp [advance, Config.account, hst, List.filterMap_cons, queue?, running?, hdesk]
    | cons task queue =>
      simp only [advance]
      split
      · simp [World.resume, Config.account, List.filterMap_cons, queue?, running?,
          World.standing_record, Happening.concerns, hdesk]
      · simp [Config.account, List.filterMap_cons, queue?, running?,
          World.standing_recordLeft_of_ne _ _ _ hdesk, hdesk]

/-- An emission delivers to the next listener, or is over. -/
theorem emission_deed (w : World D) (n : Nat) (event : Event) (listeners : List (Listener D))
    (i : Nat) :
    ∃ δ, (Frame.emission n event listeners).Brings i δ ∧
      Account.Step i ((⟨w, [.emission n event listeners]⟩ : Config D).account i) δ
        ((⟨((emission n event listeners).advance I w).1,
          ((emission n event listeners).advance I w).2⟩ : Config D).account i) := by
  cases listeners with
  | nil => exact ⟨.nothing, .nothing _, .nothing⟩
  | cons l rest =>
    have hst : (w.record (.reached n l.id)).standing i = w.standing i :=
      World.standing_record_of_not w rfl
    cases hl : l.hook with
    | host h =>
      refine ⟨.nothing, .nothing _, .of_eq ?_⟩
      simp [advance, hl, Config.account, hst, List.filterMap_cons, Frame.queue?, Frame.running?]
    | script j =>
      obtain ⟨δ, hδ, hstep⟩ := (w.record (.reached n l.id)).deliver_deed j event i
      rw [Config.account_of_standing hst] at hstep
      refine ⟨δ, ?_, ?_⟩
      · rcases hδ with rfl | ⟨rfl, rfl⟩
        · exact .nothing _
        · exact .drain n event l rest hl
      · simpa [advance, hl] using hstep.above (f := .emission n event (l :: rest))
          (g := .emission n event rest) rfl rfl

/-- A delivery calls the callback of its instance, if that is alive and has one. -/
theorem callback_deed (w : World D) (j : Nat) (kind : EventKind) (args : Args) (i : Nat) :
    ∃ δ, (Frame.callback j kind args).Brings i δ ∧
      Account.Step i ((⟨w, [.callback j kind args]⟩ : Config D).account i) δ
        ((⟨((callback j kind args).advance I w).1,
          ((callback j kind args).advance I w).2⟩ : Config D).account i) := by
  simp only [advance]
  split
  · next c halive hcallback =>
    by_cases hj : j = i
    · subst hj
      refine ⟨.call kind c args, .call kind c args, ?_⟩
      have hstep : Account.Step j ((⟨w, [.callback j kind args]⟩ : Config D).account j)
          (.call kind c args) _ :=
        .call (by rw [Config.isAlive_account]; exact halive) hcallback
      simpa [Config.account, List.filterMap_cons, queue?, running?, World.standing_record,
        Happening.concerns] using hstep
    · refine ⟨.nothing, .nothing _, .of_eq ?_⟩
      simp [Config.account, List.filterMap_cons, queue?, running?, World.standing_record,
        Happening.concerns, hj]
  · exact ⟨.nothing, .nothing _, .nothing⟩

/-- An instance that has run its top-level code settles in. -/
theorem settle_deed (w : World D) (j i : Nat) :
    ∃ δ, (Frame.settle j : Frame D).Brings i δ ∧
      Account.Step i ((⟨w, [.settle j]⟩ : Config D).account i) δ
        ((⟨((settle j).advance I w).1, ((settle j).advance I w).2⟩ : Config D).account i) := by
  by_cases h : j = i ∧ (w.standing i).state = some .initializing
  · obtain ⟨rfl, hstate⟩ := h
    refine ⟨.settle, .settle, ?_⟩
    have hstep : Account.Step j ((⟨w, [.settle j]⟩ : Config D).account j) .settle _ :=
      .settle hstate
    simpa [advance, Config.account, World.standing_settleIn hstate, List.filterMap_cons, queue?,
      running?] using hstep
  · refine ⟨.nothing, .nothing _, .of_eq ?_⟩
    have hst : (w.settleIn j).standing i = w.standing i :=
      World.standing_settleIn_of_ne j fun hj hstate => h ⟨hj, hstate⟩
    simp [advance, Config.account, hst, List.filterMap_cons, queue?, running?]

/-- An end that is completed is the end of its instance, where there is one. -/
theorem ending_deed (w : World D) (j i : Nat) :
    ∃ δ, (Frame.ending j : Frame D).Brings i δ ∧
      Account.Step i ((⟨w, [.ending j]⟩ : Config D).account i) δ
        ((⟨((ending j).advance I w).1, ((ending j).advance I w).2⟩ : Config D).account i) := by
  by_cases h : j = i ∧ i < w.instances.length
  · obtain ⟨rfl, hi⟩ := h
    exact ⟨.ending, .ending, ending_step I hi⟩
  · refine ⟨.nothing, .nothing _, .of_eq ?_⟩
    have hst : (w.finishEnding j).standing i = w.standing i := by
      by_cases hj : j = i
      · subst hj
        rw [World.finishEnding_of_le (Nat.le_of_not_lt fun hi => h ⟨rfl, hi⟩)]
      · exact World.standing_finishEnding_of_ne w hj
    simp [advance, Config.account, hst, List.filterMap_cons, queue?, running?]

/-- **A step does one deed to an instance**, one of those its frame can bring
about. -/
theorem advance_deed {w : World D} {f : Frame D} (hf : f.Sound w) (i : Nat) :
    ∃ δ, f.Brings i δ ∧
      Account.Step i ((⟨w, [f]⟩ : Config D).account i) δ
        ((⟨(f.advance I w).1, (f.advance I w).2⟩ : Config D).account i) := by
  cases f with
  | emission n event listeners => exact emission_deed I w n event listeners i
  | pass desk kind args pulse queue n => exact pass_deed I hf i
  | callback j kind args => exact callback_deed I w j kind args i
  | coroutine desk serial code =>
    cases hcode : code.progress I w with
    | goesOn code' w' started =>
      simpa only [advance, hcode] using Code.goesOn_deed (f := .coroutine desk serial code)
        (g := .coroutine desk serial code') hcode (fun a k h => by rw [h]; rfl) rfl rfl
    | «over» r =>
      obtain rfl := Code.progress_over hcode
      by_cases hdesk : desk = .script i
      · subst hdesk
        exact ⟨.yield serial r, .yield serial r, yield_step I hf serial r⟩
      · refine ⟨.nothing, .nothing _, .of_eq ?_⟩
        simp [advance, hcode, Config.account, List.filterMap_cons, Frame.queue?, Frame.running?,
          World.standing_concludeCoroutine_of_ne _ _ _ hdesk, hdesk]
  | call j kind code =>
    cases hcode : code.progress I w with
    | goesOn code' w' started =>
      simpa only [advance, hcode] using Code.goesOn_deed (f := .call j kind code)
        (g := .call j kind code') hcode (fun a k h => by rw [h]; rfl) rfl rfl
    | «over» r =>
      obtain rfl := Code.progress_over hcode
      cases r with
      | error e =>
        refine ⟨.nothing, .nothing _, .of_eq ?_⟩
        simp only [advance, hcode]
        split
        · simp [Config.account, List.filterMap_cons, queue?, running?]
        · rfl
      | ok outcome =>
        cases outcome with
        | done => exact ⟨.nothing, .nothing _, .nothing⟩
        | spawn routine =>
          obtain ⟨δ, hδ, hstep⟩ := w.start_deed I (.script j) routine .callback i
            (fun hdesk => Desk.script.inj hdesk ▸ hf) fun h => by cases h
          refine ⟨δ, ?_, hstep⟩
          rcases hδ with rfl | ⟨hdesk, rfl⟩
          · exact .nothing _
          · obtain rfl := Desk.script.inj hdesk
            exact .spawned kind routine
  | handler code =>
    cases hcode : code.progress I w with
    | goesOn code' w' started =>
      simpa only [advance, hcode] using Code.goesOn_deed (f := .handler code)
        (g := .handler code') hcode (fun a k h => by rw [h]; rfl) rfl rfl
    | «over» r =>
      refine ⟨.nothing, .nothing _, .of_eq ?_⟩
      simp [advance, hcode, Config.account, List.filterMap_cons, Frame.queue?, Frame.running?]
  | entry j code =>
    cases hcode : code.progress I w with
    | goesOn code' w' started =>
      simpa only [advance, hcode] using Code.goesOn_deed (f := .entry j code)
        (g := .entry j code') hcode (fun a k h => by rw [h]; rfl) rfl rfl
    | «over» r =>
      obtain rfl := Code.progress_over hcode
      cases r with
      | error e =>
        refine ⟨.nothing, .nothing _, .of_eq ?_⟩
        simp only [advance, hcode]
        split
        · simp [Config.account, List.filterMap_cons, queue?, running?]
        · rfl
      | ok main =>
        cases main with
        | none => exact ⟨.nothing, .nothing _, .nothing⟩
        | some routine =>
          obtain ⟨δ, hδ, hstep⟩ := w.start_deed I (.script j) routine .entry i
            (fun hdesk => Desk.script.inj hdesk ▸ hf) fun h => by cases h
          refine ⟨δ, ?_, hstep⟩
          rcases hδ with rfl | ⟨hdesk, rfl⟩
          · exact .nothing _
          · obtain rfl := Desk.script.inj hdesk
            exact .main routine
  | settle j => exact settle_deed I w j i
  | ending j => exact ending_deed I w j i
  | putBack name j =>
    refine ⟨.nothing, .nothing _, .of_eq ?_⟩
    exact Config.account_of_standing (World.standing_congr rfl rfl i) []

end Frame

/-- What the host does of its own accord is the birth of an instance to it, or
nothing. -/
theorem Initiative.deed {w w' : World D} {started : List (Frame D)}
    (h : Initiative w w' started) (i : Nat) :
    ∃ δ, (δ = .nothing ∨ δ = .birth) ∧
      Account.Step i ((⟨w, []⟩ : Config D).account i) δ
        ((⟨w', started⟩ : Config D).account i) := by
  cases h with
  | code code => exact ⟨.nothing, Or.inl rfl, .nothing⟩
  | spawn id path detached code =>
    by_cases hi : i = w.instances.length
    · subst hi
      refine ⟨.birth, Or.inr rfl, ?_⟩
      have hnone : w.instance? w.instances.length = none := List.getElem?_eq_none (Nat.le_refl _)
      have hstep : Account.Step w.instances.length
          ((⟨w, []⟩ : Config D).account w.instances.length) .birth _ :=
        .birth (by simp [Config.account, World.standing, hnone])
          (by simp [Config.account, World.standing, World.subscriptions, hnone])
      simpa [Config.account, World.standing_beginLife, List.filterMap_cons, Frame.queue?,
        Frame.running?] using hstep
    · refine ⟨.nothing, Or.inl rfl, .of_eq ?_⟩
      simp [Config.account, World.standing_beginLife_of_ne _ _ _ _ hi, List.filterMap_cons,
        Frame.queue?, Frame.running?]
  | terminate j =>
    refine ⟨.nothing, Or.inl rfl, .of_eq ?_⟩
    simp [Config.account, World.queue?_beginEnding, World.running?_beginEnding]
  | notify n kind args pulse =>
    refine ⟨.nothing, Or.inl rfl, .of_eq ?_⟩
    have hdesk : Desk.bench n ≠ .script i := by
      intro h
      cases h
    rw [Config.account_cons rfl rfl]
    exact Config.account_of_standing (World.standing_modifySubscriptions_of_ne w _ hdesk) []
  | addBench | hold | takeHeld | setRequests | setShutdown =>
    exact ⟨.nothing, Or.inl rfl, .of_eq (Config.account_of_standing
      (World.standing_congr rfl rfl i) [])⟩

/-- A move while something is under way is a step of the innermost frame. -/
theorem Config.Move.eq_advance {I : Interpreter D} {c c' : Config D} (h : c.Move I c')
    {f : Frame D} {rest : List (Frame D)} (hstack : c.stack = f :: rest) :
    c' = ⟨(f.advance I c.world).1, (f.advance I c.world).2 ++ rest⟩ := by
  rcases h.cases with ⟨g, rest', hg, rfl⟩ | ⟨hnil, -⟩
  · obtain ⟨rfl, rfl⟩ := List.cons.inj (hg.symm.trans hstack)
    rfl
  · rw [hnil] at hstack
    cases hstack

/-- What a step of the innermost frame does to an instance, the move does. -/
theorem Config.Move.step_of_advance {I : Interpreter D} {c c' : Config D} (h : c.Move I c')
    {f : Frame D} {rest : List (Frame D)} (hstack : c.stack = f :: rest) {i : Nat} {δ : Deed D}
    (hstep : Account.Step i ((⟨c.world, [f]⟩ : Config D).account i) δ
      ((⟨(f.advance I c.world).1, (f.advance I c.world).2⟩ : Config D).account i)) :
    Account.Step i (c.account i) δ (c'.account i) := by
  obtain ⟨w, stack⟩ := c
  obtain rfl : stack = f :: rest := hstack
  rw [h.eq_advance rfl, show f :: rest = [f] ++ rest from rfl, account_append, account_append]
  exact hstep.under _ _

/-- **A move does one deed to an instance**: none, its birth, or one that the
innermost frame can bring about. -/
theorem Config.Move.deed {I : Interpreter D} {c c' : Config D}
    (hsound : ∀ f ∈ c.stack, f.Sound c.world) (h : c.Move I c') (i : Nat) :
    ∃ δ, (δ = .nothing ∨ δ = .birth ∨ ∃ f rest, c.stack = f :: rest ∧ f.Brings i δ) ∧
      Account.Step i (c.account i) δ (c'.account i) := by
  rcases h.cases with ⟨f, rest, hstack, -⟩ | ⟨hstack, hinit⟩
  · obtain ⟨δ, hδ, hstep⟩ := f.advance_deed I (hsound f (hstack ▸ List.mem_cons_self)) i
    exact ⟨δ, Or.inr (Or.inr ⟨f, rest, hstack, hδ⟩), h.step_of_advance hstack hstep⟩
  · obtain ⟨w, stack⟩ := c
    obtain rfl : stack = [] := hstack
    obtain ⟨δ, hδ, hstep⟩ := hinit.deed i
    rcases hδ with rfl | rfl
    · exact ⟨.nothing, Or.inl rfl, hstep⟩
    · exact ⟨.birth, Or.inr (Or.inl rfl), hstep⟩

end ScriptHost
