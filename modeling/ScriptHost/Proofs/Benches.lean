import ScriptHost.Proofs.Muteness
import ScriptHost.Proofs.Workload

/-!
# What happens at a bench

Every move does one turn of `Workload.Step` at a bench that is there.  Together with the
account of an instance that makes a statement about any desk: nobody is in two places,
and nobody who is nowhere any more is resumed again.

* `Config.Move.workload` — a move does one turn at a bench;
* `Config.Reachable.orderly_workload` — at any desk, nobody is in two places;
* `Config.Runs.retired` — whoever was handed over and is nowhere any more is never
  resumed again;
* `Config.Move.wakes` — whoever a move resumes runs after it.
-/

namespace ScriptHost

variable {D : Dialect}

/-! ## The board of a bench -/

/-- What of a world concerns one bench: its table, if there is such a bench, and who was
ever resumed at it. -/
structure Board (D : Dialect) where
  table : Option (Subscriptions D)
  resumed : List Nat

namespace World

/-- The board of a bench. -/
def board (w : World D) (n : Nat) : Board D :=
  ⟨w.benches[n]?.map Bench.subscriptions, w.resumptions (.bench n)⟩

/-- Only a resumption at a bench itself is new to its board. -/
theorem board_record (w : World D) {x : Happening D} {n : Nat}
    (h : x.resumedAt? (.bench n) = none) : (w.record x).board n = w.board n := by
  simp [board, resumptions, record, h]

@[simp] theorem board_log (w : World D) (x : Notice) (n : Nat) : (w.log x).board n = w.board n :=
  w.board_record rfl

/-- The table of another desk is not on the board of a bench. -/
theorem board_modifySubscriptions_of_ne (w : World D) {d : Desk} {n : Nat}
    (f : Subscriptions D → Subscriptions D) (h : d ≠ .bench n) :
    (w.modifySubscriptions d f).board n = w.board n := by
  cases d with
  | script i => rfl
  | bench m =>
    have hmn : m ≠ n := fun hmn => h (congrArg Desk.bench hmn)
    simp [board, resumptions, modifySubscriptions, hmn]

/-- Who leaves a desk is not on the board of a bench. -/
@[simp] theorem board_recordLeft (w : World D) (d : Desk) (why : Farewell) (serials : List Nat)
    (n : Nat) : (w.recordLeft d why serials).board n = w.board n :=
  recordLeft_congr (f := (·.board n)) (fun w _ => w.board_record rfl) w serials

/-- A bench that keeps how many were resumed keeps its table. -/
@[simp] theorem board_endPass (w : World D) (d : Desk) (kind : EventKind) (resumed n : Nat) :
    (w.endPass d kind resumed).board n = w.board n := by
  refine (board_record _ rfl).trans ?_
  cases d with
  | script i => rfl
  | bench m =>
    have htable : (w.benches.modify m fun b => { b with resumed })[n]?.map Bench.subscriptions
        = w.benches[n]?.map Bench.subscriptions := by
      rw [List.getElem?_modify]
      cases w.benches[n]? with
      | none => rfl
      | some b =>
        -- The number is kept beside the table, at the one bench or at none.
        by_cases hmn : m = n <;> simp [hmn]
    simp only [board, htable]
    rfl

/-- A pass that is cut short writes down who is gone. -/
theorem board_cut (w : World D) (d : Desk) (kind : EventKind) (queue : List (Task D))
    (resumed n : Nat) :
    (((w.log (.coroutine (.cutShort (w.label d) queue.length kind))).recordLeft d .cutShort
      (queue.map Task.serial)).endPass d kind resumed).board n = w.board n := by
  rw [board_endPass, board_recordLeft, board_log]

/-- Clearing the table of an instance leaves the benches alone. -/
@[simp] theorem board_clear (w : World D) (i n : Nat) :
    (w.clear (.script i)).board n = w.board n := by
  rw [clear, board_modifySubscriptions_of_ne _ _ (fun h => by cases h), board_recordLeft]

/-- A coroutine handed over elsewhere does not come to the bench. -/
theorem board_accept_of_ne (w : World D) {d : Desk} {n : Nat} (routine : D.Coroutine)
    (h : d ≠ .bench n) : (w.accept d routine).2.board n = w.board n := by
  rw [accept, board_record _ rfl, board_modifySubscriptions_of_ne _ _ h]

/-- A coroutine that waits elsewhere does not come to the bench. -/
theorem board_park_of_ne (w : World D) {d : Desk} {n : Nat} (kind : EventKind) (task : Task D)
    (h : d ≠ .bench n) : (w.park d kind task).board n = w.board n := by
  rw [park, board_modifySubscriptions_of_ne _ _ h, board_log]

/-- A coroutine started elsewhere does not come to the bench. -/
theorem board_start_of_ne (I : Interpreter D) (w : World D) {d : Desk} {n : Nat}
    (routine : D.Coroutine) (h : d ≠ .bench n) : (w.start I d routine).1.board n = w.board n := by
  simp only [start, resume]
  rw [board_record _ (by simp [Happening.resumedAt?, h]), board_accept_of_ne _ _ h]

/-- What a coroutine of another desk comes to does not reach the bench. -/
theorem board_concludeCoroutine_of_ne (w : World D) {d : Desk} {n : Nat} (s : Nat)
    (r : Except ScriptError (Yield D)) (h : d ≠ .bench n) :
    (w.concludeCoroutine d s r).board n = w.board n := by
  cases r with
  | error e => cases e <;> exact (board_record _ rfl).trans (board_log _ _ n)
  | ok y =>
    cases y with
    | finished => exact (board_record _ rfl).trans (board_log _ _ n)
    | await request rest =>
      simp only [concludeCoroutine]
      split
      · exact w.board_park_of_ne _ _ h
      · exact (board_record _ rfl).trans (board_log _ _ n)

/-- The hub's listeners have nothing to do with a bench. -/
theorem board_unlisten {w w' : World D} {id : ListenerId} (h : w.unlisten id = .ok w') (n : Nat) :
    w'.board n = w.board n :=
  unlisten_congr (f := (·.board n)) (fun _ _ => rfl) (fun w m => w.board_log m n) h

@[simp] theorem board_detachAll (w : World D) (id : ScriptId) (listeners : List ListenerId)
    (n : Nat) : (w.detachAll id listeners).board n = w.board n :=
  detachAll_congr (f := (·.board n)) (fun _ _ => rfl) (fun w m => w.board_log m n) w id listeners

/-- An instance that ends leaves the benches alone. -/
@[simp] theorem board_finishEnding (w : World D) (i n : Nat) :
    (w.finishEnding i).board n = w.board n := by
  unfold finishEnding
  split
  · rfl
  · simp only
    rw [board_record _ rfl, board_log, board_clear, board_detachAll]
    rfl

/-- An instance that comes into being leaves the benches alone. -/
@[simp] theorem board_beginLife (w : World D) (id : ScriptId) (path : Path) (detached : Bool)
    (n : Nat) : (w.beginLife id path detached).board n = w.board n := by
  have hattach : ∀ (kinds : List EventKind) (w : World D) (i : Nat),
      (w.attach i kinds).board n = w.board n := by
    intro kinds
    induction kinds with
    | nil => exact fun _ _ => rfl
    | cons kind rest ih =>
      intro w i
      rw [attach_cons]
      exact (ih _ i).trans (board_log w (.hub (.registered w.hub.nextId kind)) n)
  rw [beginLife, hattach]
  exact (board_record _ rfl).trans (board_log w (.script (.starting id path)) n)

/-- An emission that begins leaves the benches alone. -/
@[simp] theorem board_beginEmission (w : World D) (event : Event) (n : Nat) :
    (w.beginEmission event).1.board n = w.board n :=
  (board_record _ rfl).trans (board_log w _ n)

/-- An end that begins leaves the benches alone. -/
@[simp] theorem board_beginEnding (w : World D) (i n : Nat) :
    (w.beginEnding i).1.board n = w.board n := by
  unfold beginEnding
  split
  · rfl
  · split
    · exact (board_beginEmission _ _ n).trans (board_log w _ n)
    · rfl

@[simp] theorem board_logClosed (w : World D) (d : Desk) (x : ScriptId → ScriptNotice) (n : Nat) :
    (w.logClosed d x).board n = w.board n := by
  unfold logClosed
  split
  · split
    · exact board_log w _ n
    · rfl
  · rfl

/-- The callbacks of instances have nothing to do with a bench. -/
@[simp] theorem board_setCallback (w : World D) (callable : D.Callback → Bool) (i : Nat)
    (kind : EventKind) (callback : Option D.Callback) (n : Nat) :
    (w.setCallback callable i kind callback).2.board n = w.board n := by
  unfold setCallback
  split
  · rfl
  · split
    · rfl
    · simp only
      split
      · rw [board_modifySubscriptions_of_ne _ _ (fun h => by cases h), board_log]
      · exact board_log w _ n

/-- The deferred requests have nothing to do with a bench. -/
@[simp] theorem board_request (w : World D) (i : Nat) (kind : RequestKind) (path : Path)
    (n : Nat) : (w.request i kind path).board n = w.board n := by
  unfold request pushRequest
  split
  · split
    · exact board_log w _ n
    · rw [board_log]
      rfl
  · rfl

end World

/-! ## What happens at a bench -/

/-- From one configuration to the other no bench comes or goes, and what happens at the
bench of a place, if there is one, is one turn. -/
structure Config.Turns (n : Nat) (c c' : Config D) : Prop where
  there : n < c'.world.benches.length ↔ n < c.world.benches.length
  step : n < c.world.benches.length → (c.workload (.bench n)).Step (c'.workload (.bench n))

namespace World

variable (I : Interpreter D)

/-- A turn that leaves the table and the journal as said, and has under way what is said. -/
theorem turn_of {c c' : Config D} {n : Nat} {b : Workload D}
    (h : (c.workload (.bench n)).Step b)
    (hthere : n < c'.world.benches.length ↔ n < c.world.benches.length)
    (htable : n < c.world.benches.length → c'.world.subscriptions (.bench n) = b.table)
    (hresumed : c'.world.resumptions (.bench n) = b.resumed)
    (hpasses : c'.stack.filterMap (Frame.queueAt? (.bench n)) = b.passes)
    (hrunning : c'.stack.filterMap (Frame.runningAt? (.bench n)) = b.running) :
    Config.Turns n c c' := by
  refine ⟨hthere, fun hn => ?_⟩
  obtain ⟨table, resumed, passes, running⟩ := b
  obtain rfl := htable hn
  subst hresumed hpasses hrunning
  exact h

/-- Only a bench that is there has a table. -/
theorem there_of_board {w w' : World D} {n : Nat} (h : w'.board n = w.board n) :
    n < w'.benches.length ↔ n < w.benches.length := by
  have hisSome : ∀ w : World D, (w.board n).table.isSome = true ↔ n < w.benches.length :=
    fun w => by simp [board]
  rw [← hisSome, ← hisSome, h]

/-- The board of a bench has its table. -/
theorem subscriptions_of_board {w w' : World D} {n : Nat} (h : w'.board n = w.board n) :
    w'.subscriptions (.bench n) = w.subscriptions (.bench n) :=
  congrArg (fun b : Board D => b.table.getD .empty) h

/-- The board of a bench has those it has resumed. -/
theorem resumptions_of_board {w w' : World D} {n : Nat} (h : w'.board n = w.board n) :
    w'.resumptions (.bench n) = w.resumptions (.bench n) :=
  congrArg Board.resumed h

/-- Where the board stays, and so does what of the bench is under way, nothing happens
at it. -/
theorem quiet_turn {c c' : Config D} {n : Nat} (hboard : c'.world.board n = c.world.board n)
    (hpasses : c'.stack.filterMap (Frame.queueAt? (.bench n))
      = c.stack.filterMap (Frame.queueAt? (.bench n)))
    (hrunning : c'.stack.filterMap (Frame.runningAt? (.bench n))
      = c.stack.filterMap (Frame.runningAt? (.bench n))) :
    Config.Turns n c c' :=
  turn_of .nothing (there_of_board hboard) (fun _ => subscriptions_of_board hboard)
    (resumptions_of_board hboard) hpasses hrunning

/-- A bench that is there keeps the changes made to its table. -/
theorem subscriptions_bench {w : World D} {n : Nat} (f : Subscriptions D → Subscriptions D)
    (hn : n < w.benches.length) :
    (w.modifySubscriptions (.bench n) f).subscriptions (.bench n)
      = f (w.subscriptions (.bench n)) := by
  simp [subscriptions, modifySubscriptions, hn]

/-- There are as many benches when a table changes. -/
theorem length_benches_modifySubscriptions (w : World D) (d : Desk)
    (f : Subscriptions D → Subscriptions D) :
    (w.modifySubscriptions d f).benches.length = w.benches.length := by
  cases d with
  | script i => rfl
  | bench n => exact List.length_modify _ _ _

theorem length_benches_park (w : World D) (d : Desk) (kind : EventKind) (task : Task D) :
    (w.park d kind task).benches.length = w.benches.length :=
  length_benches_modifySubscriptions (w.log _) d _

theorem length_benches_accept (w : World D) (d : Desk) (routine : D.Coroutine) :
    (w.accept d routine).2.benches.length = w.benches.length :=
  length_benches_modifySubscriptions w d _

/-- A coroutine that waits at a bench waits in its table. -/
theorem subscriptions_park_bench {w : World D} {n : Nat} (hn : n < w.benches.length)
    (kind : EventKind) (task : Task D) :
    (w.park (.bench n) kind task).subscriptions (.bench n)
      = (w.subscriptions (.bench n)).park kind task :=
  subscriptions_bench (w := w.log _) _ hn

/-- A coroutine that is taken in and parked. -/
theorem hand_turn (w : World D) (n : Nat) (d : Desk) (kind : EventKind)
    (routine : D.Coroutine) :
    Config.Turns n ⟨w, []⟩ ⟨(w.accept d routine).2.park d kind (w.accept d routine).1, []⟩ := by
  by_cases hd : d = .bench n
  · subst hd
    have hlen := w.length_benches_accept (.bench n) routine
    refine turn_of (.hand kind routine) ?_ (fun hn => ?_) rfl rfl rfl
    · rw [length_benches_park, hlen]
    · have haccept : (w.accept (.bench n) routine).2.subscriptions (.bench n)
          = (w.subscriptions (.bench n)).accept := subscriptions_bench _ hn
      exact (subscriptions_park_bench (Nat.lt_of_lt_of_eq hn hlen.symm) kind _).trans
        (by rw [haccept]; rfl)
  · exact quiet_turn ((board_park_of_ne _ _ _ hd).trans (board_accept_of_ne _ _ hd)) rfl rfl

/-- A coroutine that is started. -/
theorem start_turn (w : World D) (n : Nat) (d : Desk) (routine : D.Coroutine) :
    Config.Turns n ⟨w, []⟩ ⟨(w.start I d routine).1, [(w.start I d routine).2]⟩ := by
  by_cases hd : d = .bench n
  · subst hd
    refine turn_of .start ?_ (fun hn => subscriptions_bench _ hn) ?_ rfl ?_
    · rw [← w.length_benches_accept (.bench n) routine]
      rfl
    · simp [start, resume, accept, resumptions, record, Happening.resumedAt?, modifySubscriptions,
        List.filterMap_cons, Config.workload]
    · simp [start, resume, accept, Frame.runningAt?, Config.workload]
  · refine quiet_turn (board_start_of_ne I w routine hd) rfl ?_
    simp [start, resume, Frame.runningAt?, hd]

/-- Announcing an end starts nothing at a bench. -/
theorem beginEnding_turn (w : World D) (i n : Nat) (more : List (Frame D))
    (hpasses : more.filterMap (Frame.queueAt? (.bench n)) = [])
    (hrunning : more.filterMap (Frame.runningAt? (.bench n)) = []) :
    Config.Turns n ⟨w, []⟩ ⟨(w.beginEnding i).1, (w.beginEnding i).2 ++ more⟩ := by
  have hnothing : (w.beginEnding i).2.filterMap (Frame.queueAt? (.bench n)) = []
      ∧ (w.beginEnding i).2.filterMap (Frame.runningAt? (.bench n)) = [] := by
    unfold beginEnding
    split
    · exact ⟨rfl, rfl⟩
    · split <;> exact ⟨rfl, rfl⟩
  exact quiet_turn (board_beginEnding w i n)
    (by rw [List.filterMap_append, hnothing.1, hpasses]; rfl)
    (by rw [List.filterMap_append, hnothing.2, hrunning]; rfl)

/-- A pass that begins takes the queue of its kind. -/
theorem beginPass_turn (w : World D) (n m : Nat) (kind : EventKind) (args : Args)
    (pulse : Pulse D) :
    Config.Turns n ⟨w, []⟩ ⟨(w.beginPass (.bench m) kind args pulse).1,
      [(w.beginPass (.bench m) kind args pulse).2]⟩ := by
  by_cases hm : m = n
  · subst hm
    refine turn_of (.drain kind) ?_ (fun hn => subscriptions_bench _ hn) rfl ?_ rfl
    · exact iff_of_eq (congrArg (m < ·) (w.length_benches_modifySubscriptions (.bench m) _))
    · simp [beginPass, Config.workload, Frame.queueAt?]
  · have hdesk : Desk.bench m ≠ .bench n := fun h => hm (Desk.bench.inj h)
    exact quiet_turn (board_modifySubscriptions_of_ne w _ hdesk)
      (by simp [beginPass, Frame.queueAt?, hm]) rfl

/-- **An act does one turn at a bench.** -/
theorem act_turn (w : World D) (n : Nat) (x : Act D) :
    Config.Turns n ⟨w, []⟩ ⟨(w.act I x).2.1, (w.act I x).2.2⟩ := by
  cases x with
  | emit event => exact quiet_turn (board_beginEmission w event n) rfl rfl
  | listen | shutdown | awaiting | resumed => exact quiet_turn rfl rfl rfl
  | unlisten id =>
    cases h : w.unlisten id with
    | ok w' =>
      simp only [act, h]
      exact quiet_turn (board_unlisten h n) rfl rfl
    | error e =>
      simp only [act, h]
      exact quiet_turn rfl rfl rfl
  | terminate name =>
    cases hheld : w.held.lookup name with
    | none =>
      simp only [act, hheld]
      exact quiet_turn rfl rfl rfl
    | some i =>
      simp only [act, hheld]
      have hturn := beginEnding_turn (w.takeHeld name) i n [.putBack name i] rfl rfl
      exact ⟨hturn.there, hturn.step⟩
  | awaitNext d kind routine =>
    simp only [act, awaitNext]
    split
    · exact hand_turn w n d kind routine
    · exact quiet_turn (board_logClosed w d _ n) rfl rfl
  | schedule d request routine =>
    simp only [act, schedule]
    split
    · split
      · exact hand_turn w n d _ routine
      · exact quiet_turn rfl rfl rfl
    · exact quiet_turn rfl rfl rfl
  | spawn d routine =>
    simp only [act]
    split
    · exact start_turn I w n d routine
    · exact quiet_turn (board_logClosed w d _ n) rfl rfl
  | setCallback i kind callback =>
    exact quiet_turn (board_setCallback w I.callable i kind callback n) rfl rfl
  | on i event callback =>
    simp only [act]
    split
    · exact quiet_turn rfl rfl rfl
    · exact quiet_turn (board_setCallback w I.callable i _ callback n) rfl rfl
  | clearCallbacks i => exact quiet_turn rfl rfl rfl
  | reset i => exact quiet_turn (board_clear w i n) rfl rfl
  | request i kind path => exact quiet_turn (board_request w i kind path n) rfl rfl
  | requestStopSelf i =>
    simp only [act]
    split
    · exact quiet_turn (board_request w i .stop _ n) rfl rfl
    · exact quiet_turn rfl rfl rfl
  | identity i =>
    simp only [act]
    split <;> exact quiet_turn rfl rfl rfl
  | notify m kind args test => exact beginPass_turn w n m kind args (.glance test)

/-- A delivery leaves benches alone. -/
theorem deliver_turn (w : World D) (i : Nat) (event : Event) (n : Nat) :
    Config.Turns n ⟨w, []⟩ ⟨(w.deliver i event).1, (w.deliver i event).2⟩ := by
  unfold deliver
  split
  · exact quiet_turn rfl rfl rfl
  · split
    · exact quiet_turn rfl rfl rfl
    · split <;> exact quiet_turn rfl rfl rfl

/-- A coroutine that gives control back at a bench waits again, or is gone. -/
theorem concludeCoroutine_turn (w : World D) (n s : Nat) (r : Except ScriptError (Yield D))
    (code : Code D (Except ScriptError (Yield D))) :
    Config.Turns n ⟨w, [.coroutine (.bench n) s code]⟩
      ⟨w.concludeCoroutine (.bench n) s r, []⟩ := by
  have hrun : ((⟨w, [.coroutine (.bench n) s code]⟩ : Config D).workload (.bench n)).running
      = s :: [] := by
    simp [Config.workload, List.filterMap_cons, Frame.runningAt?]
  cases r with
  | error e => cases e <;> exact turn_of (.leave hrun) Iff.rfl (fun _ => rfl) rfl rfl rfl
  | ok y =>
    cases y with
    | finished => exact turn_of (.leave hrun) Iff.rfl (fun _ => rfl) rfl rfl rfl
    | await request rest =>
      cases hkind : request.resolve with
      | ok kind =>
        simp only [concludeCoroutine, hkind]
        exact turn_of (.park kind rest hrun) (by rw [length_benches_park])
          (fun hn => subscriptions_park_bench hn kind _) rfl rfl rfl
      | error e =>
        simp only [concludeCoroutine, hkind]
        exact turn_of (.leave hrun) Iff.rfl (fun _ => rfl) rfl rfl rfl

end World

namespace Config

/-- The workload of a desk is that of the upper frames, on top of the lower ones. -/
theorem workload_append (w : World D) (fs rest : List (Frame D)) (d : Desk) :
    (⟨w, fs ++ rest⟩ : Config D).workload d
      = ((⟨w, fs⟩ : Config D).workload d).under (rest.filterMap (Frame.queueAt? d))
          (rest.filterMap (Frame.runningAt? d)) := by
  simp [workload, Workload.under]

/-- What happens at a bench does not mind what is under way further out. -/
theorem turn_above {w w' : World D} {n : Nat} {fs started : List (Frame D)}
    (h : Turns n ⟨w, fs⟩ ⟨w', started⟩) (rest : List (Frame D)) :
    Turns n ⟨w, fs ++ rest⟩ ⟨w', started ++ rest⟩ := by
  refine ⟨h.there, fun hn => ?_⟩
  rw [workload_append, workload_append]
  exact (h.step hn).under _ _

end Config

/-- A step of code that goes on, in the frame that runs it: what the code started stands
above the frame. -/
theorem Code.goesOn_turn {I : Interpreter D} {α : Type} {w w' : World D} {n : Nat}
    {code code' : Code D α} {started : List (Frame D)} {f g : Frame D}
    (h : code.progress I w = .goesOn code' w' started)
    (hqueue : [g].filterMap (Frame.queueAt? (.bench n))
      = [f].filterMap (Frame.queueAt? (.bench n)))
    (hrunning : [g].filterMap (Frame.runningAt? (.bench n))
      = [f].filterMap (Frame.runningAt? (.bench n))) :
    Config.Turns n ⟨w, [f]⟩ ⟨w', started ++ [g]⟩ := by
  have hturn : Config.Turns n ⟨w, []⟩ ⟨w', started⟩ := by
    cases code with
    | ret a => simp [Code.progress] at h
    | read k | write m k | remark r k | log x k =>
      obtain ⟨-, rfl, rfl⟩ := Progress.goesOn.inj h
      exact World.quiet_turn rfl rfl rfl
    | act a k =>
      obtain ⟨-, rfl, rfl⟩ := Progress.goesOn.inj h
      exact w.act_turn I n a
  refine ⟨hturn.there, fun hn => ?_⟩
  have habove := (Config.turn_above hturn [g]).step hn
  rw [Config.workload_append w [] [g], hqueue, hrunning,
    ← Config.workload_append w [] [f]] at habove
  exact habove

namespace Frame

variable (I : Interpreter D)

/-- A pass resumes its next coroutine, or it is over. -/
theorem pass_turn (w : World D) (d : Desk) (kind : EventKind) (args : Args) (pulse : Pulse D)
    (queue : List (Task D)) (resumed n : Nat) :
    Config.Turns n ⟨w, [.pass d kind args pulse queue resumed]⟩
      ⟨((pass d kind args pulse queue resumed).advance I w).1,
        ((pass d kind args pulse queue resumed).advance I w).2⟩ := by
  by_cases hd : d = .bench n
  · subst hd
    have hpasses : ((⟨w, [.pass (.bench n) kind args pulse queue resumed]⟩ :
        Config D).workload (.bench n)).passes = queue :: [] := by
      simp [Config.workload, List.filterMap_cons, queueAt?]
    cases queue with
    | nil =>
      have hboard := w.board_endPass (.bench n) kind resumed n
      exact World.turn_of (.cease hpasses) (World.there_of_board hboard)
        (fun _ => World.subscriptions_of_board hboard) (World.resumptions_of_board hboard) rfl rfl
    | cons task queue =>
      simp only [advance]
      split
      · refine World.turn_of (.wake hpasses) Iff.rfl (fun _ => rfl) ?_ ?_ ?_ <;>
          simp [World.resume, World.resumptions, World.record, Happening.resumedAt?,
            Config.workload, List.filterMap_cons, queueAt?, runningAt?]
      · have hboard := w.board_cut (.bench n) kind (task :: queue) resumed n
        exact World.turn_of (.cease hpasses) (World.there_of_board hboard)
          (fun _ => World.subscriptions_of_board hboard) (World.resumptions_of_board hboard) rfl rfl
  · cases queue with
    | nil =>
      exact World.quiet_turn (w.board_endPass d kind resumed n) (by simp [advance, queueAt?, hd])
        rfl
    | cons task queue =>
      simp only [advance]
      split
      · refine World.quiet_turn (World.board_record w ?_) ?_ ?_ <;>
          simp [World.resume, Happening.resumedAt?, List.filterMap_cons, queueAt?, runningAt?, hd]
      · exact World.quiet_turn (w.board_cut d kind (task :: queue) resumed n)
          (by simp [queueAt?, hd]) rfl

/-- **A step does one turn at a bench.** -/
theorem advance_turn (w : World D) (n : Nat) (f : Frame D) :
    Config.Turns n ⟨w, [f]⟩ ⟨(f.advance I w).1, (f.advance I w).2⟩ := by
  cases f with
  | emission m event listeners =>
    cases listeners with
    | nil => exact World.quiet_turn rfl rfl rfl
    | cons l rest =>
      simp only [advance]
      split
      · exact World.quiet_turn rfl rfl rfl
      · next i _ =>
        have hturn := Config.turn_above ((w.record (.reached m l.id)).deliver_turn i event n)
          [.emission m event rest]
        exact ⟨hturn.there, hturn.step⟩
  | pass d kind args pulse queue resumed => exact pass_turn I w d kind args pulse queue resumed n
  | callback i kind args =>
    simp only [advance]
    split <;> exact World.quiet_turn rfl rfl rfl
  | coroutine d serial code =>
    cases hcode : code.progress I w with
    | goesOn code' w' started =>
      simpa only [advance, hcode] using Code.goesOn_turn (f := .coroutine d serial code)
        (g := .coroutine d serial code') hcode rfl rfl
    | «over» r =>
      simp only [advance, hcode]
      by_cases hd : d = .bench n
      · subst hd
        exact w.concludeCoroutine_turn n serial r code
      · exact World.quiet_turn (w.board_concludeCoroutine_of_ne serial r hd) rfl
          (by simp [runningAt?, hd])
  | call i kind code =>
    cases hcode : code.progress I w with
    | goesOn code' w' started =>
      simpa only [advance, hcode] using Code.goesOn_turn (f := .call i kind code)
        (g := .call i kind code') hcode rfl rfl
    | «over» r =>
      simp only [advance, hcode]
      split
      · exact World.quiet_turn rfl rfl rfl
      · next routine _ =>
        have hturn := w.start_turn I n (.script i) routine
        exact ⟨hturn.there, hturn.step⟩
      · split <;> exact World.quiet_turn rfl rfl rfl
      · contradiction
  | handler code =>
    cases hcode : code.progress I w with
    | goesOn code' w' started =>
      simpa only [advance, hcode] using Code.goesOn_turn (f := .handler code)
        (g := .handler code') hcode rfl rfl
    | «over» r =>
      simp only [advance, hcode]
      exact World.quiet_turn rfl rfl rfl
  | entry i code =>
    cases hcode : code.progress I w with
    | goesOn code' w' started =>
      simpa only [advance, hcode] using Code.goesOn_turn (f := .entry i code)
        (g := .entry i code') hcode rfl rfl
    | «over» r =>
      simp only [advance, hcode]
      split
      · exact World.quiet_turn rfl rfl rfl
      · next routine _ =>
        have hturn := w.start_turn I n (.script i) routine
        exact ⟨hturn.there, hturn.step⟩
      · split <;> exact World.quiet_turn rfl rfl rfl
      · contradiction
  | settle | putBack => exact World.quiet_turn rfl rfl rfl
  | ending i => exact World.quiet_turn (w.board_finishEnding i n) rfl rfl

end Frame

/-- What the host does of its own accord.  It may set up a bench, where nobody is. -/
theorem Initiative.turn {w w' : World D} {started : List (Frame D)}
    (h : Initiative w w' started) (n : Nat) :
    Config.Turns n ⟨w, []⟩ ⟨w', started⟩ ∨
      ¬ n < w.benches.length ∧ ((⟨w', started⟩ : Config D).workload (.bench n)).present = [] := by
  cases h with
  | code | hold | takeHeld | setRequests | setShutdown =>
    exact Or.inl (World.quiet_turn rfl rfl rfl)
  | spawn id path detached code =>
    exact Or.inl (World.quiet_turn (w.board_beginLife id path detached n) rfl rfl)
  | terminate i =>
    have hturn := w.beginEnding_turn i n [] rfl rfl
    rw [List.append_nil] at hturn
    exact Or.inl hturn
  | notify m kind args pulse => exact Or.inl (w.beginPass_turn n m kind args pulse)
  | addBench label =>
    by_cases hn : n < w.benches.length
    · refine Or.inl (World.quiet_turn ?_ rfl rfl)
      simp [World.board, World.addBench, World.resumptions, List.getElem?_append_left hn]
    · refine Or.inr ⟨hn, ?_⟩
      have htable : (w.addBench label).subscriptions (.bench n) = .empty := by
        simp only [World.subscriptions, World.addBench]
        rw [List.getElem?_append_right (Nat.le_of_not_lt hn)]
        cases n - w.benches.length <;> rfl
      simp [Workload.present, Config.workload, htable]

namespace Config

variable {I : Interpreter D}

/-- **A move does one turn at a bench**, unless it is the move in which the host sets the
bench up. -/
theorem Move.workload {c c' : Config D} (h : c.Move I c') (n : Nat) :
    Turns n c c' ∨ ¬ n < c.world.benches.length ∧ (c'.workload (.bench n)).present = [] := by
  obtain ⟨w, stack⟩ := c
  rcases h.cases with ⟨f, rest, hstack, rfl⟩ | ⟨hidle, hinit⟩
  · obtain rfl : stack = [f] ++ rest := hstack
    exact Or.inl (turn_above (f.advance_turn I w n) rest)
  · obtain rfl : stack = [] := hidle
    exact hinit.turn n

end Config

/-! ## Any desk -/

/-- Whether there is such a desk. -/
def World.HasDesk (w : World D) : Desk → Prop
  | .script i => i < w.instances.length
  | .bench n => n < w.benches.length

/-- No desk is set up or removed when a table changes. -/
theorem World.hasDesk_modifySubscriptions (w : World D) (d d' : Desk)
    (f : Subscriptions D → Subscriptions D) :
    (w.modifySubscriptions d f).HasDesk d' ↔ w.HasDesk d' := by
  cases d' with
  | script i => simp only [HasDesk, length_modifySubscriptions]
  | bench n => simp only [HasDesk, length_benches_modifySubscriptions]

/-- Nobody is resumed by a change of a table. -/
theorem World.resumptions_modifySubscriptions (w : World D) (d d' : Desk)
    (f : Subscriptions D → Subscriptions D) :
    (w.modifySubscriptions d f).resumptions d' = w.resumptions d' := by
  cases d <;> rfl

/-- Somebody waits only where there is a desk. -/
theorem World.hasDesk_of_mem {w : World D} {d : Desk} {kind : EventKind} {task : Task D}
    (h : task ∈ (w.subscriptions d).waiting kind) : w.HasDesk d := by
  cases d with
  | script i =>
    refine Nat.lt_of_not_le fun hi => ?_
    have hnone : w.instance? i = none := List.getElem?_eq_none hi
    simp [World.subscriptions, hnone] at h
  | bench n =>
    refine Nat.lt_of_not_le fun hn => ?_
    have hnone : w.benches[n]? = none := List.getElem?_eq_none hn
    simp [World.subscriptions, hnone] at h

/-- Whoever a deed resumes runs after it. -/
theorem Account.Step.wakes {i : Nat} {a b : Account D} {δ : Deed D} (h : Step i a δ b) :
    ∃ woken, b.story.filterMap (Happening.resumedAt? (.script i))
        = woken ++ a.story.filterMap (Happening.resumedAt? (.script i)) ∧
      ∀ s ∈ woken, s ∈ b.running := by
  cases h with
  | nothing | birth | settle | hand | drain | exhaust | finished | parked | misdirected | failed
  | call | setCallback | clearCallbacks => exact ⟨[], rfl, by simp⟩
  | ending | reset | cut => exact ⟨[], filterMap_farewells (fun _ _ => rfl) _ _ _, by simp⟩
  | start =>
    exact ⟨[a.table.handed], by simp [Happening.resumedAt?, List.filterMap_cons], by simp⟩
  | @wake task => exact ⟨[task.serial], by simp [Happening.resumedAt?], by simp⟩

namespace Config

variable {I : Interpreter D}

/-- The story of an instance says who was resumed. -/
theorem resumptions_script (c : Config D) (i : Nat) :
    c.world.resumptions (.script i)
      = (c.account i).story.filterMap (Happening.resumedAt? (.script i)) := by
  refine (c.filterMap_story fun x hx => ?_).symm
  cases x with
  | resumed d s args => simpa [Happening.concerns, Happening.resumedAt?] using hx
  | _ => rfl

/-- No desk goes away. -/
theorem Move.hasDesk {c c' : Config D} (hc : c.Reachable I) (h : c.Move I c') {d : Desk}
    (hd : c.world.HasDesk d) : c'.world.HasDesk d := by
  cases d with
  | script i => exact h.lt hc.sound hd
  | bench n =>
    rcases h.workload n with hturn | ⟨hnot, -⟩
    · exact hturn.there.mpr hd
    · exact absurd hd hnot

/-- A desk that is there stays. -/
theorem Runs.hasDesk {c c' : Config D} (hc : c.Reachable I) (h : c.Runs I c') {d : Desk}
    (hd : c.world.HasDesk d) : c'.world.HasDesk d := by
  induction h with
  | refl => exact hd
  | tail hfirst hlast ih => exact hlast.hasDesk (hc.runs hfirst) ih

/-- **Nobody is in two places**, be it with an instance or at a bench. -/
theorem Reachable.orderly_workload {c : Config D} (hc : c.Reachable I) {d : Desk}
    (hd : c.world.HasDesk d) : (c.workload d).Orderly := by
  cases d with
  | script i =>
    have hbalanced := hc.balanced i
    refine ⟨(List.nodup_append.mp hbalanced.nodup).1, fun s hs => ?_⟩
    have hhanded : s ∈ (c.account i).handed :=
      hbalanced.perm.mem_iff.mp (List.mem_append_left _ hs)
    rw [hbalanced.numbers, List.mem_reverse, List.mem_range] at hhanded
    exact hhanded
  | bench n =>
    refine Reachable.induction
      (P := fun c => n < c.world.benches.length → (c.workload (.bench n)).Orderly)
      (fun memory hn => absurd hn (Nat.not_lt_zero n)) (fun c c' _ ih hmove hn => ?_) hc hd
    rcases hmove.workload n with hturn | ⟨-, hnobody⟩
    · have hthere := hturn.there.mp hn
      exact (ih hthere).step (hturn.step hthere)
    · exact ⟨hnobody ▸ List.nodup_nil, fun s hs => by rw [hnobody] at hs; cases hs⟩

/-- At an instance's desk, whoever is nowhere any more is gone. -/
theorem Reachable.retired_script {c : Config D} (hc : c.Reachable I) (i s : Nat) :
    (c.workload (.script i)).Retired s ↔ s ∈ (c.account i).gone := by
  have hbalanced := hc.balanced i
  have hhanded : s ∈ (c.account i).handed ↔ s < (c.account i).table.handed := by
    rw [hbalanced.numbers, List.mem_reverse, List.mem_range]
  constructor
  · rintro ⟨hlt, hnowhere⟩
    exact Decidable.not_not.mp fun hgone =>
      hnowhere ((hbalanced.mem_places_iff (hhanded.mpr hlt)).mpr hgone)
  · intro hgone
    have hmem : s ∈ (c.account i).handed :=
      hbalanced.perm.mem_iff.mp (List.mem_append_right _ hgone)
    exact ⟨hhanded.mp hmem, fun hplaces => (hbalanced.mem_places_iff hmem).mp hplaces hgone⟩

/-- **Nobody comes back**: whoever was handed over and is nowhere any more is never
anywhere again, and is not resumed again. -/
theorem Runs.retired {c c' : Config D} (hc : c.Reachable I) (h : c.Runs I c') {d : Desk}
    (hd : c.world.HasDesk d) {s : Nat} (hs : (c.workload d).Retired s) :
    (c'.workload d).Retired s ∧
      (c'.world.resumptions d).count s = (c.world.resumptions d).count s := by
  cases d with
  | script i =>
    obtain ⟨hgone, news, hstory, hnews⟩ := h.gone hc ((hc.retired_script i s).mp hs)
    refine ⟨((hc.runs h).retired_script i s).mpr hgone, ?_⟩
    have hzero : (news.filterMap (Happening.resumedAt? (.script i))).count s = 0 := by
      refine List.count_eq_zero.mpr fun hmem => ?_
      obtain ⟨x, hx, hresumed⟩ := List.mem_filterMap.mp hmem
      unfold Happening.resumedAt? at hresumed
      split at hresumed
      · next desk s' args =>
        split at hresumed
        · next hdesk => exact hnews _ hx args (by rw [hdesk, Option.some.inj hresumed])
        · cases hresumed
      · cases hresumed
    rw [resumptions_script, resumptions_script, hstory, List.filterMap_append,
      List.count_append, hzero, Nat.zero_add]
  | bench n =>
    suffices hkeep : n < c'.world.benches.length ∧ (c'.workload (.bench n)).Retired s ∧
        (c'.world.resumptions (.bench n)).count s = (c.world.resumptions (.bench n)).count s from
      hkeep.2
    induction h with
    | refl => exact ⟨hd, hs, rfl⟩
    | tail _ hmove ih =>
      obtain ⟨hthere, hretired, hcount⟩ := ih
      rcases hmove.workload n with hturn | ⟨hnot, -⟩
      · obtain ⟨hretired', hcount'⟩ := hretired.step (hturn.step hthere)
        exact ⟨hturn.there.mpr hthere, hretired', hcount'.trans hcount⟩
      · exact absurd hthere hnot

/-- Whoever a move resumes runs after it. -/
theorem Move.wakes {c c' : Config D} (hc : c.Reachable I) (h : c.Move I c') {d : Desk}
    (hd : c.world.HasDesk d) : (c.workload d).Wakes (c'.workload d) := by
  cases d with
  | bench n =>
    rcases h.workload n with hturn | ⟨hnot, -⟩
    · exact (hturn.step hd).wakes
    · exact absurd hd hnot
  | script i =>
    obtain ⟨δ, -, hstep⟩ := hc.deed h i
    obtain ⟨woken, hstory, hwoken⟩ := hstep.wakes
    exact ⟨woken, (c'.resumptions_script i).trans
      (hstory.trans (congrArg (woken ++ ·) (c.resumptions_script i).symm)), hwoken⟩

end Config

end ScriptHost
