import ScriptHost.Proofs.Posts

/-!
# How instances of the built-in scripts come and go

The top-level code of a built-in script brings the instance to its first post, at which
nothing is counted yet; a file that is no built-in script fails to load, and its instance
is idle.  An instance that ends is at its post until everybody has heard of its end, itself
included.  Nobody else's post is changed by either.

* `World.exists_opens` — where the top-level code of a file leads;
* `World.reveals_spawn`, `World.reveals_ending` — what becomes known while an instance comes
  into being, and while one ends.
-/

namespace ScriptHost

/-! ## Top-level code -/

namespace Subscriptions

variable {D : Dialect} (s : Subscriptions D) (f : EventKind → D.Callback) (kinds : List EventKind)
  (kind : EventKind)

/-- The callbacks that were set one after another are set. -/
theorem callback_registered :
    ((kinds.map fun k => (k, f k)).foldl (fun s c => s.setCallback c.1 (some c.2)) s).callback kind
      = if kind ∈ kinds then some (f kind) else s.callback kind := by
  induction kinds generalizing s with
  | nil => simp
  | cons k rest ih =>
    rw [List.map_cons, List.foldl_cons, ih, callback_setCallback]
    by_cases hrest : kind ∈ rest
    · simp [hrest]
    · by_cases hk : k = kind
      · subst hk
        simp [hrest]
      · simp [hrest, hk, Ne.symm hk]

/-- Setting callbacks lets nobody wait. -/
theorem waiting_registered :
    ((kinds.map fun k => (k, f k)).foldl (fun s c => s.setCallback c.1 (some c.2)) s).waiting kind
      = s.waiting kind := by
  induction kinds generalizing s with
  | nil => rfl
  | cons k rest ih => rw [List.map_cons, List.foldl_cons, ih, waiting_setCallback]

end Subscriptions

namespace World

open Builtin

variable {w : World Repertoire} {i : Nat}

/-- Setting a callback, in a table that has been at work. -/
theorem setCallback_turned (halive : w.isAlive i = true) (table : Subscriptions Repertoire)
    (m : Memory) (news : List (Happening Repertoire)) {callable : Responder → Bool} {c : Responder}
    (hc : callable c = true) (kind : EventKind) :
    ∃ news', (w.turned i table m news).setCallback callable i kind (some c)
      = (.ok (), w.turned i (table.setCallback kind (some c)) m news') := by
  obtain ⟨x, hx⟩ : ∃ x, w.instance? i = some x :=
    ⟨_, List.getElem?_eq_getElem (lt_of_isAlive halive)⟩
  have hlives : x.isAlive = true := (isAlive_of_instance? hx).symm.trans halive
  have hself := w.instance?_turned i table m news
  rw [hx] at hself
  refine ⟨.notice (.script (.callbackChanged x.id true kind)) :: news, ?_⟩
  simp only [setCallback, hself, Option.map_some, Option.any_some, hc, Bool.not_true,
    Bool.false_eq_true, if_false]
  have hnow : ({ x with subscriptions := table } : Instance Repertoire).isAlive = true := hlives
  rw [if_pos hnow]
  exact congrArg (Prod.mk _) (modifySubscriptions_turned w i table m
    (.notice (.script (.callbackChanged x.id true kind)) :: news) (·.setCallback kind (some c)))

/-- **Callbacks are registered** one after another, and the top-level code is over. -/
theorem reveals_registerAll (halive : w.isAlive i = true) (table : Subscriptions Repertoire)
    (m : Memory) (news : List (Happening Repertoire)) (callbacks : List (EventKind × Responder))
    (hcallable : ∀ c ∈ callbacks, repertoire.callable c.2 = true)
    (below : List (Frame Repertoire)) :
    ∃ news', Config.Reveals repertoire
      ⟨w.turned i table m news, .entry i (registerAll i callbacks) :: below⟩ (fun _ => [])
      ⟨w.turned i (callbacks.foldl (fun s c => s.setCallback c.1 (some c.2)) table) m news',
        below⟩ := by
  induction callbacks generalizing table news with
  | nil => exact ⟨news, (Config.Reveals.refl _).silent rfl
      ((Frame.runsFor_entry (I := repertoire) i).sign?_of_silent rfl _ _)⟩
  | cons c rest ih =>
    obtain ⟨hfirst, hrest⟩ := List.forall_mem_cons.mp hcallable
    obtain ⟨news₁, hset⟩ := setCallback_turned halive table m news hfirst c.1
    obtain ⟨news', hlater⟩ := ih (table.setCallback c.1 (some c.2)) news₁ hrest
    refine ⟨news', hlater.silent ?_
      ((Frame.runsFor_entry (I := repertoire) i).sign?_of_silent rfl _ _)⟩
    obtain ⟨k, hcode, hdone⟩ : ∃ k, registerAll i (c :: rest)
        = .act (.setCallback i c.1 (some c.2)) k ∧ k .done = registerAll i rest := ⟨_, rfl, rfl⟩
    simp only [Config.step?, Frame.advance, hcode, Code.progress, act, hset, ← hdone]
    rfl

/-- A new coroutine runs up to its first suspension. -/
theorem start_turned {D : Dialect} {I : Interpreter D} {w : World D} {i : Nat}
    (halive : w.isAlive i = true) (table : Subscriptions D) (m : D.Memory)
    (news : List (Happening D)) (routine : D.Coroutine) :
    (w.turned i table m news).start I (.script i) routine
      = (w.turned i table.accept m (.resumed (.script i) table.handed [] ::
          .handed (.script i) table.handed :: news),
        .coroutine (.script i) table.handed (I.resume routine [])) := by
  have haccept : (w.turned i table m news).accept (.script i) routine
      = (⟨table.handed, routine⟩,
        w.turned i table.accept m (.handed (.script i) table.handed :: news)) := by
    rw [accept, subscriptions_turned table m news halive, modifySubscriptions_turned]
    rfl
  rw [start, haccept]
  rfl

/-- What comes of the top-level code of an instance: it brings the instance to a post at
which nothing is counted yet, and whatever it counts in is a new cell. -/
def Opens (w : World Repertoire) (i : Nat) (me : ScriptId) (code : EntryCode Repertoire)
    (p : Post) : Prop :=
  ∀ below : List (Frame Repertoire), ∃ table m' news,
    Config.Reveals repertoire ⟨w, .entry i code :: below⟩ (fun _ => [])
      ⟨w.turned i table m' news, below⟩ ∧
    p.IsHeld m' me table ∧ w.memory.Extends m' ∧
    ∀ cell, p.cell? = some cell → w.memory.cells.size ≤ cell

variable {me : ScriptId} {path : Path}

/-- The top-level code of the frame counter leads to its post, with no frame counted. -/
theorem opens_counter (halive : w.isAlive i = true)
    (hempty : w.subscriptions (.script i) = .empty) :
    w.Opens i me (frameCounter i me path) (.counter me 0) := by
  intro below
  have hself : w.turned i .empty w.memory [] = w := by
    rw [← hempty, turned_self]
  have hfirst : repertoire.resume (.frameCounter me none) []
      = .ret (.ok (.await (.ofKind .frameAdvance) (.frameCounter me (some 0)))) := rfl
  have hwaits := reveals_await (I := repertoire) (w := w) (i := i) (m := w.memory)
    Subscriptions.empty.accept [.resumed (.script i) 0 [], .handed (.script i) 0] 0
    (Performer.frameCounter me (some 0))
    (AwaitRequest.resolve_ofKind .frameAdvance) below
  have hstep : Config.step? repertoire ⟨w, .entry i (frameCounter i me path) :: below⟩
      = some ⟨w.turned i Subscriptions.empty.accept w.memory
          [.resumed (.script i) 0 [], .handed (.script i) 0],
        .coroutine (.script i) 0
          (.ret (.ok (.await (.ofKind .frameAdvance) (.frameCounter me (some 0))))) :: below⟩ := by
    have hstart := start_turned (I := repertoire) halive .empty w.memory []
      (.frameCounter me none)
    rw [hself, hfirst] at hstart
    have hcode : frameCounter i me path = .ret (.ok (some (.frameCounter me none))) := rfl
    simp only [Config.step?, Frame.advance, hcode, Code.progress, hstart]
    rfl
  refine ⟨_, _, _, hwaits.silent hstep
    ((Frame.runsFor_entry (I := repertoire) i).sign?_of_silent rfl _ _),
    ⟨rfl, fun kind => ?_, 0, fun kind => ?_⟩, .refl _, by simp [Post.cell?]⟩
  · exact (Subscriptions.callback_park ..).trans (Subscriptions.callback_empty kind)
  · rw [Subscriptions.waiting_park]
    by_cases hkind : kind = .frameAdvance
    · subst hkind
      rfl
    · rw [if_neg (Ne.symm hkind), if_neg hkind]
      exact Subscriptions.waiting_empty kind

/-- The top-level code of the event logger leads to its post. -/
theorem opens_logger (halive : w.isAlive i = true)
    (hempty : w.subscriptions (.script i) = .empty) :
    w.Opens i me (eventLogger i me path) (.logger me) := by
  intro below
  obtain ⟨news, hreveals⟩ := reveals_registerAll halive (w.subscriptions (.script i)) w.memory []
    (EventKind.all.map fun kind => (kind, .eventLogger me kind))
    (fun c hc => by
      obtain ⟨kind, -, rfl⟩ := List.mem_map.mp hc
      rfl) below
  rw [turned_self] at hreveals
  refine ⟨_, _, news, hreveals, ⟨rfl, fun kind => ?_, fun kind => ?_⟩, .refl _,
    by simp [Post.cell?]⟩
  · rw [Subscriptions.waiting_registered, hempty, Subscriptions.waiting_empty]
  · rw [Subscriptions.callback_registered, if_pos (EventKind.mem_all kind)]

/-- The top-level code of the tick watch leads to its post, with a cell of its own. -/
theorem opens_watch (halive : w.isAlive i = true)
    (hempty : w.subscriptions (.script i) = .empty) :
    w.Opens i me (tickWatch i me path) (.watch me w.memory.nextCell 0) := by
  intro below
  let cell := w.memory.nextCell
  let callbacks : List (EventKind × Responder) :=
    [(.timerTick, .tickCounter cell), (.scriptEnd, .endReporter me cell)]
  have hself : w.turned i .empty w.memory [] = w := by
    rw [← hempty, turned_self]
  have hcode : tickWatch i me path = .read fun m => .read fun m' => .write m'.extend
      (registerAll i [(.timerTick, .tickCounter m.nextCell),
        (.scriptEnd, .endReporter me m.nextCell)]) := rfl
  obtain ⟨news, hregisters⟩ := reveals_registerAll halive .empty w.memory.extend [] callbacks
    (by simp [callbacks, repertoire]) below
  have hsilent : ∀ code : EntryCode Repertoire, code.notice? = none → ∀ j,
      (⟨w, .entry i code :: below⟩ : Config Repertoire).sign? j = none := fun code hcode =>
    (Frame.runsFor_entry (I := repertoire) i).sign?_of_silent hcode w below
  -- the memory is read twice, once for the number of the new cell, and extended
  have hextended : ({ w with memory := w.memory.extend } : World Repertoire)
      = w.turned i .empty w.memory.extend [] :=
    congrArg (fun w₀ : World Repertoire => { w₀ with memory := w.memory.extend }) hself.symm
  have hwrites := hregisters.silent
    (c := ⟨w, .entry i (.write w.memory.extend (registerAll i callbacks)) :: below⟩)
    (congrArg (fun w₀ => some (Config.mk w₀ _)) hextended) (hsilent _ rfl)
  have hreads := (hwrites.silent (c := ⟨w, .entry i (.read fun m' =>
    .write m'.extend (registerAll i callbacks)) :: below⟩) rfl (hsilent _ rfl)).silent
    (c := ⟨w, .entry i (tickWatch i me path) :: below⟩) rfl (hsilent _ rfl)
  refine ⟨_, _, news, hreads, ⟨rfl, fun kind => ?_, fun kind => ?_, ?_, ?_⟩, ⟨?_, ?_⟩, ?_⟩
  · simp [callbacks]
  · simp only [callbacks, List.foldl_cons, List.foldl_nil, Subscriptions.callback_setCallback,
      Subscriptions.callback_empty]
    cases kind <;> rfl
  · simp [Memory.extend, Memory.nextCell]
  · simp [Memory.count, Memory.extend, Memory.nextCell]
  · simp [Memory.extend]
  · intro c hc
    have hne : c ≠ w.memory.cells.size := Nat.ne_of_lt hc
    simp [Memory.count, Memory.extend, Array.getElem?_push, hne]
  · intro c hc
    exact Nat.le_of_eq (Option.some.inj hc)

/-- A file without top-level code fails to load; the instance stays, and does nothing. -/
theorem opens_failing (halive : w.isAlive i = true)
    (hempty : w.subscriptions (.script i) = .empty)
    (error : ScriptError) : w.Opens i me (.ret (.error error)) .idle := by
  intro below
  have hself : w.turned i .empty w.memory [] = w := by
    rw [← hempty, turned_self]
  obtain ⟨x, hx⟩ : ∃ x, w.instance? i = some x :=
    ⟨_, List.getElem?_eq_getElem (lt_of_isAlive halive)⟩
  have hstep : Config.step? repertoire ⟨w, .entry i (.ret (.error error)) :: below⟩
      = some ⟨w.turned i .empty w.memory [.notice (.script (.startupRaised x.id x.path error))],
        below⟩ := by
    have hlogged : w.log (.script (.startupRaised x.id x.path error)) = w.turned i .empty w.memory
        [.notice (.script (.startupRaised x.id x.path error))] :=
      congrArg (World.log · (.script (.startupRaised x.id x.path error))) hself.symm
    simp only [Config.step?, Frame.advance, Code.progress, hx, hlogged, List.nil_append]
  refine ⟨_, _, _, (Config.Reveals.refl _).silent hstep
    ((Frame.runsFor_entry (I := repertoire) i).sign?_of_silent rfl _ _), fun kind => ?_, .refl _,
    by simp [Post.cell?]⟩
  simp [Subscriptions.isIdle_iff]

/-- What the engine has for a file. -/
theorem entryFor?_cases (path : Path) :
    (path.stem? = some frameCounterName ∧ engine.entryFor? path = some frameCounter) ∨
      (path.stem? = some eventLoggerName ∧ engine.entryFor? path = some eventLogger) ∨
      (path.stem? = some tickWatchName ∧ engine.entryFor? path = some tickWatch) ∨
      engine.entryFor? path = none := by
  have hentries : engine.entries = [(frameCounterName, frameCounter),
    (eventLoggerName, eventLogger), (tickWatchName, tickWatch)] := rfl
  rw [Engine.entryFor?, hentries]
  cases path.stem? with
  | none => simp
  | some stem =>
    by_cases hcounter : stem = frameCounterName
    · subst hcounter
      exact Or.inl ⟨rfl, rfl⟩
    · by_cases hlogger : stem = eventLoggerName
      · subst hlogger
        exact Or.inr (Or.inl ⟨rfl, rfl⟩)
      · by_cases hwatch : stem = tickWatchName
        · subst hwatch
          exact Or.inr (Or.inr (Or.inl ⟨rfl, rfl⟩))
        · refine Or.inr (Or.inr (Or.inr ?_))
          exact List.lookup_eq_none_iff.mpr (by simp [hcounter, hlogger, hwatch])

/-- **The top-level code of a file** brings the instance to the first post of its script. -/
theorem exists_opens (halive : w.isAlive i = true)
    (hempty : w.subscriptions (.script i) = .empty) (path : Path) (me : ScriptId) :
    ∃ p, w.Opens i me (engine.entry path me i) p ∧
      p.name? = (if engine.supports path then path.stem? else none) ∧ p.count = 0 := by
  unfold Engine.entry Engine.supports
  rcases entryFor?_cases path with ⟨hstem, hentry⟩ | ⟨hstem, hentry⟩ | ⟨hstem, hentry⟩ | hentry
  · rw [hentry, hstem]
    exact ⟨_, opens_counter halive hempty, rfl, rfl⟩
  · rw [hentry, hstem]
    exact ⟨_, opens_logger halive hempty, rfl, rfl⟩
  · rw [hentry, hstem]
    exact ⟨_, opens_watch halive hempty, rfl, rfl⟩
  · rw [hentry]
    exact ⟨_, opens_failing halive hempty _, rfl, rfl⟩

end World

/-! ## Births and ends -/

namespace Builtin.Post

variable {m m' : Memory} {me : ScriptId} {s : Subscriptions Repertoire} {p : Post}

/-- Whoever counts in a cell goes on where the memory only grows. -/
theorem IsHeld.extends (h : p.IsHeld m me s) (hm : m.Extends m') : p.IsHeld m' me s := by
  cases p with
  | counter | logger | idle => exact h
  | watch id c ticks =>
    obtain ⟨hid, hwaiting, hcallback, hcell, hcount⟩ := h
    exact ⟨hid, hwaiting, hcallback, Nat.lt_of_lt_of_le hcell hm.size,
      (hm.count c hcell).trans hcount⟩

/-- The cell of a post is there. -/
theorem IsHeld.cell_lt (h : p.IsHeld m me s) {cell : Nat} (hcell : p.cell? = some cell) :
    cell < m.cells.size := by
  cases p with
  | counter | logger | idle => cases hcell
  | watch id c ticks =>
    obtain rfl := Option.some.inj hcell
    exact h.2.2.2.1

end Builtin.Post

namespace World

open Builtin

section Untouched

variable {D : Dialect}

/-- An instance comes into being without a change of the memory. -/
theorem memory_beginLife (w : World D) (id : ScriptId) (path : Path) (detached : Bool) :
    (w.beginLife id path detached).memory = w.memory := by
  suffices h : ∀ (kinds : List EventKind) (w : World D) (i : Nat),
      (w.attach i kinds).memory = w.memory from h _ _ _
  intro kinds
  induction kinds with
  | nil => exact fun _ _ => rfl
  | cons kind rest ih => exact fun w i => ih _ i

/-- An end is complete without a change of the memory. -/
theorem memory_finishEnding (w : World D) (i : Nat) : (w.finishEnding i).memory = w.memory := by
  unfold finishEnding
  split
  · rfl
  · have hclear : ∀ w : World D, (w.clear (.script i)).memory = w.memory := fun w =>
      recordLeft_congr (f := World.memory) (fun _ _ => rfl) w _
    have hdetach : ∀ (w : World D) id listeners, (w.detachAll id listeners).memory = w.memory :=
      fun w => detachAll_congr (f := World.memory) (fun _ _ => rfl) (fun _ _ => rfl) w
    exact (hclear _).trans (hdetach _ _ _)

/-- Settling in leaves the tables alone. -/
theorem subscriptions_settleIn (w : World D) (i j : Nat) :
    (w.settleIn i).subscriptions (.script j) = w.subscriptions (.script j) := by
  by_cases hstate : i = j → (w.standing j).state ≠ some .initializing
  · exact congrArg Standing.table (standing_settleIn_of_ne i hstate)
  · obtain ⟨rfl, hinit⟩ : i = j ∧ (w.standing j).state = some .initializing := by
      simpa using hstate
    exact congrArg Standing.table (standing_settleIn hinit)

end Untouched

variable {w w' : World Repertoire} {post : Nat → Post} {i : Nat}

/-- To settle an instance changes nothing about it but its state. -/
theorem Staffed.settle (h : w.Staffed post) (i : Nat) : (w.settleIn i).Staffed post := by
  refine h.inherit rfl fun j b hb halive => ?_
  rw [w.view_settleIn i, View.after, List.getElem?_modify] at hb
  obtain ⟨b₀, hb₀, rfl⟩ := Option.map_eq_some_iff.mp hb
  refine ⟨b₀, hb₀, ?_⟩
  by_cases hij : i = j
  · by_cases hinit : b₀.state = .initializing
    · simp [hij, InstanceInfo.settle, InstanceInfo.isAlive, hinit, subscriptions_settleIn]
    · simpa [hij, InstanceInfo.settle, InstanceInfo.isAlive, hinit, subscriptions_settleIn]
        using halive
  · simpa [hij, subscriptions_settleIn] using halive

/-- Whoever is left when one has ended is at his post. -/
theorem Staffed.finishEnding (h : w.Staffed post) (i : Nat) : (w.finishEnding i).Staffed post := by
  refine h.inherit (w.memory_finishEnding i) fun j b hb halive => ?_
  have hij : i ≠ j := by
    rintro rfl
    have hlives := isAlive_of_info hb
    rw [halive, w.view_finishEnding i, View.isAlive_dismiss] at hlives
    simp at hlives
  rw [w.view_finishEnding i, View.after, List.getElem?_modify] at hb
  refine ⟨b, by simpa [hij] using hb, halive, rfl, rfl, ?_, rfl⟩
  exact congrArg Standing.table (standing_finishEnding_of_ne w hij)

/-- Everybody stays on the lists, whatever is done but by listening and unlistening. -/
theorem Manned.after (h : w.Manned) {e : Effect Repertoire} (hview : w'.view = w.view.after e)
    (hlisten : ∀ kind handler, e ≠ .listen kind handler) (hunlisten : ∀ id, e ≠ .unlisten id) :
    w'.Manned := by
  have hhub : w'.hub = (w.view.after e).hub := congrArg View.hub hview
  refine ⟨hview ▸ h.orderly.after e,
    fun i => hview ▸ h.orderly.attached_after (h.attached i) e ?_, ?_⟩
  · exact fun id he => absurd he (hunlisten id)
  · rw [hhub, View.handlers_after h.orderly hlisten hunlisten]
    exact h.scripted

/-- Whoever comes to be there keeps nobody else from his post, if it counts in a cell of its
own. -/
theorem Staffed.newcomer (h : w.Staffed post) (hm : w.memory.Extends w'.memory) {n : Nat} {p : Post}
    (hnew : ∀ b, w'.view.infos[n]? = some b →
      p.IsHeld w'.memory b.id (w'.subscriptions (.script n)) ∧
        p.name? = if engine.supports b.path then b.path.stem? else none)
    (hcell : ∀ cell, p.cell? = some cell → w.memory.cells.size ≤ cell)
    (hold : ∀ j, j ≠ n → w'.view.infos[j]? = w.view.infos[j]? ∧
      w'.subscriptions (.script j) = w.subscriptions (.script j)) :
    w'.Staffed (Function.update post n p) := by
  have hbelow : ∀ j, w'.view.isAlive j = true → j ≠ n → w.view.isAlive j = true ∧
      ∀ cell, (post j).cell? = some cell → cell < w.memory.cells.size := by
    intro j hj hne
    obtain ⟨b, hb, halive⟩ := exists_info hj
    rw [(hold j hne).1] at hb
    exact ⟨(isAlive_of_info hb).trans halive, fun cell => (h.held j b hb halive).cell_lt⟩
  refine ⟨fun j b hb halive => ?_, fun j b hb halive => ?_, fun j k hj hk hjk cell => ?_⟩
  · by_cases hjn : j = n
    · subst hjn
      rw [Function.update_self]
      exact (hnew b hb).1
    · rw [(hold j hjn).1] at hb
      rw [(hold j hjn).2, Function.update_of_ne hjn]
      exact (h.held j b hb halive).extends hm
  · by_cases hjn : j = n
    · subst hjn
      rw [Function.update_self]
      exact (hnew b hb).2
    · rw [(hold j hjn).1] at hb
      rw [Function.update_of_ne hjn]
      exact h.named j b hb halive
  · by_cases hjn : j = n
    · subst hjn
      rw [Function.update_self, Function.update_of_ne (Ne.symm hjk)]
      intro hc hc'
      exact Nat.not_lt.mpr (hcell cell hc) ((hbelow k hk (Ne.symm hjk)).2 cell hc')
    · by_cases hkn : k = n
      · subst hkn
        rw [Function.update_self, Function.update_of_ne hjn]
        intro hc hc'
        exact Nat.not_lt.mpr (hcell cell hc') ((hbelow j hj hjn).2 cell hc)
      · rw [Function.update_of_ne hjn, Function.update_of_ne hkn]
        exact h.apart j k (hbelow j hj hjn).1 (hbelow k hk hkn).1 hjk cell

/-- **An instance comes into being** and comes to its first post, of which nothing becomes
known; whatever it counts in is a cell of its own. -/
theorem reveals_spawn (hstaffed : w.Staffed post) (id : ScriptId) (path : Path) :
    ∃ w' p, Config.Reveals repertoire
        ⟨w.beginLife id path false, [.entry w.instances.length
          (engine.entry path id w.instances.length), .settle w.instances.length]⟩
        (fun _ => []) ⟨w', []⟩ ∧
      w'.view = (w.view.after (.enroll id path false)).after (.settle w.instances.length) ∧
      p.count = 0 ∧ w'.Staffed (Function.update post w.instances.length p) := by
  let n := w.instances.length
  let w₁ := w.beginLife id path false
  have hview₁ : w₁.view = w.view.after (.enroll id path false) := w.view_beginLife id path false
  have hlength : w.view.infos.length = n := w.length_infos
  have halive : w₁.isAlive n = true := by
    rw [isAlive_eq, hview₁, View.isAlive_enroll, hlength]
    simp
  have hempty : w₁.subscriptions (.script n) = .empty :=
    congrArg Standing.table (w.standing_beginLife id path false)
  obtain ⟨p, hopens, hname, hcount⟩ := exists_opens halive hempty path id
  obtain ⟨table, m', news, hreveals, hheld, hm, hcell⟩ := hopens [.settle n]
  rw [w.memory_beginLife id path false] at hm hcell
  let w₂ := w₁.turned n table m' news
  have hview₂ : w₂.view = w.view.after (.enroll id path false) :=
    (w₁.view_turned n table m' news).trans hview₁
  have hstaffed₂ : w₂.Staffed (Function.update post n p) := by
    refine hstaffed.newcomer hm (fun b hb => ?_) hcell fun j hj => ⟨?_, ?_⟩
    · rw [hview₂, View.getElem?_enroll, hlength, if_pos rfl] at hb
      obtain rfl := Option.some.inj hb
      rw [subscriptions_turned table m' news halive]
      exact ⟨hheld, hname⟩
    · rw [hview₂, View.getElem?_enroll, hlength, if_neg hj]
    · rw [subscriptions_turned_of_ne w₁ (Ne.symm hj)]
      exact congrArg Standing.table (w.standing_beginLife_of_ne id path false hj)
  refine ⟨w₂.settleIn n, p, ?_, ?_, hcount, hstaffed₂.settle n⟩
  · refine (hreveals.trans ((Config.Reveals.refl _).silent rfl fun j => ?_)).congr fun j => rfl
    exact Config.sign?_of_ne (by simp) _ _ j
  · rw [w₂.view_settleIn n, hview₂]

/-- **An instance ends**: everybody hears of it who has not ended, the instance itself
included. -/
theorem reveals_ending (hmanned : w.Manned) (hstaffed : w.Staffed post) {b : InstanceInfo}
    (hb : w.view.infos[i]? = some b) (halive : b.isAlive = true) :
    ∃ w', Config.Reveals repertoire ⟨(w.beginEnding i).1, (w.beginEnding i).2⟩
        (fun j => if w.view.isAlive j then
          (post j).signs (.scriptEnd b.id) [.int (Int64.ofNat b.id.val.toNat)] else []) ⟨w', []⟩ ∧
      w'.view = w.view.after (.dismiss i) ∧ w'.Staffed post := by
  obtain ⟨x, hx, rfl⟩ : ∃ x, w.instance? i = some x ∧ x.info = b := by
    rw [infos_view] at hb
    exact Option.map_eq_some_iff.mp hb
  have hbegins : w.beginEnding i
      = (((w.log (.script (.stopping x.id x.path))).beginEmission (.scriptEnd x.id)).1,
        [((w.log (.script (.stopping x.id x.path))).beginEmission (.scriptEnd x.id)).2,
          .ending i]) := by
    have hlives : x.isAlive = true := halive
    simp only [beginEnding, hx, hlives, if_true]
  have hargs : (Event.scriptEnd x.id).args = .ok [.int (Int64.ofNat x.id.val.toNat)] := rfl
  obtain ⟨w₁, hreveals, hview, hstaffed₁⟩ := reveals_emission
    (w := w.log (.script (.stopping x.id x.path))) (hmanned.of_view rfl)
    (hstaffed.congr rfl rfl (fun _ => rfl) fun _ _ => rfl) hargs [.ending i]
  have hafter : (fun j => (post j).after (.scriptEnd x.id)) = post := by
    funext j
    cases post j <;> simp [Post.after]
  rw [hafter] at hstaffed₁
  refine ⟨w₁.finishEnding i, ?_, ?_, hstaffed₁.finishEnding i⟩
  · rw [hbegins]
    refine (hreveals.trans ((Config.Reveals.refl _).silent rfl fun j => ?_)).congr fun j => ?_
    · exact Config.sign?_of_ne (by simp) _ _ j
    · exact List.append_nil _
  · rw [w₁.view_finishEnding i, hview]
    rfl

end World

end ScriptHost
