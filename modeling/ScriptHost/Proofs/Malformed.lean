import ScriptHost.Proofs.Abreast
import ScriptHost.Proofs.Dispatches
import ScriptHost.Proofs.Workload

/-!
# Events without the shape of their kind

An event that has no arguments to hand over comes to nobody: an instance that would have
resumed or called somebody reports it and does nothing else.  The handlers of the host's
own are called as by any other event; if they perform no act, nothing else runs, and what
they come to is a function of the memory (`Interpreter.attend?`).

* `World.deliver_malformed` — what comes of it at an instance;
* `World.steps_malformed` — the listeners are called in order;
* `World.malformed_leaves_no_trace` — the scripts go on as they would have without it.
-/

namespace ScriptHost

variable {D : Dialect} {M : Setoid D.Memory} {I : Interpreter D}

/-! ## What the host's handlers come to -/

/-- What a listener says for the record, and the memory it leaves, where it is nobody's but
the host's; nothing if it performs an act. -/
def Hook.attend? (I : Interpreter D) (event : Event) : Hook D → D.Memory →
    Option (List D.Remark × D.Memory)
  | .script _, m => some ([], m)
  | .host h, m => ((I.handle h event).result? m).map fun p => ((I.handle h event).remarks m, p.2)

/-- What an emission comes to where no script takes notice of it, listener by listener. -/
def Interpreter.attend? (I : Interpreter D) (n : Nat) (event : Event) :
    List (Listener D) → D.Memory → Option (List (Happening D) × D.Memory)
  | [], m => some ([], m)
  | l :: rest, m => do
    let (said, m₁) ← l.hook.attend? I event m
    let (story, m₂) ← I.attend? n event rest m₁
    some (.reached n l.id :: said.map .remark ++ story, m₂)

/-- The handlers among these listeners perform no acts. -/
def Interpreter.Attentive (I : Interpreter D) (event : Event) (listeners : List (Listener D)) :
    Prop :=
  ∀ l ∈ listeners, ∀ h, l.hook = .host h → (I.handle h event).Actless

theorem Interpreter.Attentive.exists_attend? {event : Event} {listeners : List (Listener D)}
    (h : I.Attentive event listeners) (n : Nat) (m : D.Memory) :
    ∃ story m', I.attend? n event listeners m = some (story, m') := by
  induction listeners generalizing m with
  | nil => exact ⟨[], m, rfl⟩
  | cons l rest ih =>
    obtain ⟨hfirst, hrest⟩ := List.forall_mem_cons.mp h
    obtain ⟨said, m₁, hsaid⟩ : ∃ said m₁, l.hook.attend? I event m = some (said, m₁) := by
      cases hhook : l.hook with
      | script i => exact ⟨[], m, rfl⟩
      | host handler =>
        obtain ⟨a, m₁, hresult⟩ := (hfirst handler hhook).exists_result m
        exact ⟨(I.handle handler event).remarks m, m₁, by simp [Hook.attend?, hresult]⟩
    obtain ⟨story, m', hstory⟩ := ih hrest m₁
    exact ⟨.reached n l.id :: said.map .remark ++ story, m', by simp [attend?, hsaid, hstory]⟩

/-- Nobody is resumed. -/
theorem Interpreter.attend?_resumed {n : Nat} {event : Event} {listeners : List (Listener D)}
    {m m' : D.Memory} {story : List (Happening D)}
    (h : I.attend? n event listeners m = some (story, m')) (d : Desk) :
    story.filterMap (Happening.resumedAt? d) = [] := by
  induction listeners generalizing m story with
  | nil =>
    obtain ⟨rfl, -⟩ : [] = story ∧ m = m' := by simpa [attend?] using h
    rfl
  | cons l rest ih =>
    simp only [attend?, Option.bind_eq_bind, Option.bind_eq_some_iff] at h
    obtain ⟨⟨said, m₁⟩, -, ⟨later, m₂⟩, hlater, hsome⟩ := h
    obtain ⟨rfl, rfl⟩ : .reached n l.id :: said.map .remark ++ later = story ∧ m₂ = m' := by
      simpa using hsome
    simp [List.filterMap_cons, List.filterMap_append, Happening.resumedAt?, ih hlater]

namespace World

variable {w : World D} {event : Event} {e : EventError}

/-- **At an instance** nothing comes of such an event but perhaps a notice. -/
theorem deliver_malformed (w : World D) (i : Nat) (hargs : event.args = .error e) :
    ∃ news, news.filter (!·.isNotice) = [] ∧ w.deliver i event = (w.moved w.memory news, []) := by
  unfold deliver
  split
  · exact ⟨[], rfl, rfl⟩
  · next x _ =>
    split
    · exact ⟨[], rfl, rfl⟩
    · rw [hargs]
      exact ⟨[.notice (.script (.notDelivering x.id event.kind e))], rfl, rfl⟩

/-- **A listener is called**: a handler of the host's own runs, and an instance does
nothing. -/
theorem steps_malformed_listener (hargs : event.args = .error e) {l : Listener D}
    {said : List D.Remark} {m : D.Memory} (h : l.hook.attend? I event w.memory = some (said, m))
    (n : Nat) (rest : List (Listener D)) (below : List (Frame D)) :
    ∃ news, news.filter (!·.isNotice) = (.reached n l.id :: said.map .remark).reverse ∧
      Config.Steps I ⟨w, .emission n event (l :: rest) :: below⟩
        ⟨w.moved m news, .emission n event rest :: below⟩ := by
  have hreached : w.record (.reached n l.id) = w.moved w.memory [.reached n l.id] := rfl
  cases hhook : l.hook with
  | script i =>
    obtain ⟨rfl, rfl⟩ : [] = said ∧ w.memory = m := by simpa [Hook.attend?, hhook] using h
    obtain ⟨news, hnews, hdeliver⟩ :=
      deliver_malformed (w.moved w.memory [.reached n l.id]) i hargs
    refine ⟨news ++ [.reached n l.id], ?_, .single ?_⟩
    · rw [List.filter_append, hnews]
      rfl
    · simp only [Config.step?, Frame.advance, hhook, hreached, hdeliver, moved_moved]
      rfl
  | host handler =>
    obtain ⟨a, hresult, rfl⟩ : ∃ a, (I.handle handler event).result? w.memory = some (a, m) ∧
        (I.handle handler event).remarks w.memory = said := by
      simpa [Hook.attend?, hhook, Option.map_eq_some_iff] using h
    obtain ⟨news, hnews, hsteps⟩ := steps_result (w := w.moved w.memory [.reached n l.id])
      (F := .handler) (I := I)
      (fun w code code' w' hgoes => by simp only [Frame.advance, hgoes, List.nil_append])
      hresult (.emission n event rest :: below)
    refine ⟨news ++ [.reached n l.id], ?_, ?_⟩
    · rw [List.filter_append, hnews, List.reverse_cons]
      rfl
    · rw [moved_moved] at hsteps
      have hcall : Config.step? I ⟨w, .emission n event (l :: rest) :: below⟩
          = some ⟨w.moved w.memory [.reached n l.id],
              .handler (I.handle handler event) :: .emission n event rest :: below⟩ := by
        simp only [Config.step?, Frame.advance, hhook]
        rfl
      exact (hsteps.tail rfl).head hcall

/-- **An emission of such an event** calls its listeners one after another, and comes to
what they come to. -/
theorem steps_malformed (hargs : event.args = .error e) {n : Nat} {listeners : List (Listener D)}
    {story : List (Happening D)} {m : D.Memory}
    (h : I.attend? n event listeners w.memory = some (story, m)) (below : List (Frame D)) :
    ∃ news, news.filter (!·.isNotice) = story.reverse ∧
      Config.Steps I ⟨w, .emission n event listeners :: below⟩ ⟨w.moved m news, below⟩ := by
  induction listeners generalizing w story with
  | nil =>
    obtain ⟨rfl, rfl⟩ : [] = story ∧ w.memory = m := by simpa [Interpreter.attend?] using h
    exact ⟨[], rfl, .single rfl⟩
  | cons l rest ih =>
    simp only [Interpreter.attend?, Option.bind_eq_bind, Option.bind_eq_some_iff] at h
    obtain ⟨⟨said, m₁⟩, hsaid, ⟨later, m₂⟩, hlater, hsome⟩ := h
    obtain ⟨rfl, rfl⟩ : .reached n l.id :: said.map .remark ++ later = story ∧ m₂ = m := by
      simpa using hsome
    obtain ⟨first, hfirst, hcalled⟩ := steps_malformed_listener hargs hsaid n rest below
    obtain ⟨second, hsecond, hsteps⟩ := ih (w := w.moved m₁ first) hlater
    refine ⟨second ++ first, ?_, ?_⟩
    · rw [List.filter_append, hfirst, hsecond, List.reverse_append]
    · rw [moved_moved] at hsteps
      exact hcalled.trans hsteps

/-- **The whole emission**, from its beginning on. -/
theorem steps_malformed_emission (w : World D) (hargs : event.args = .error e)
    {story : List (Happening D)} {m : D.Memory}
    (h : I.attend? w.emissions event (w.hub.listeners event.kind) w.memory = some (story, m))
    (below : List (Frame D)) :
    ∃ news, news.filter (!·.isNotice) = (.emission w.emissions event
        ((w.hub.listeners event.kind).map Listener.id) :: story).reverse ∧
      Config.Steps I ⟨(w.beginEmission event).1, (w.beginEmission event).2 :: below⟩
        ⟨{ w with emissions := w.emissions + 1, memory := m, journal := news ++ w.journal },
          below⟩ := by
  obtain ⟨news, hnews, hsteps⟩ := steps_malformed (w := (w.beginEmission event).1) hargs h below
  refine ⟨news ++ [.emission w.emissions event ((w.hub.listeners event.kind).map Listener.id),
    .notice (.hub (.emitting event.kind (w.hub.listeners event.kind).length))], ?_, ?_⟩
  · rw [List.filter_append, hnews, List.reverse_cons]
    rfl
  · rw [List.append_assoc]
    exact hsteps

end World

/-! ## The scripts go on as they would have without it -/

/-- Where two journals agreed on who had been resumed they agree on that when they have
gained the same. -/
theorem World.Abreast.resumptions {old₁ old₂ : List (Happening D)} {w₁ w₂ : World D}
    (h : Abreast M old₁ old₂ w₁ w₂) {d : Desk}
    (hold : old₁.filterMap (Happening.resumedAt? d) = old₂.filterMap (Happening.resumedAt? d)) :
    w₁.resumptions d = w₂.resumptions d := by
  obtain ⟨news₁, news₂, hnews₁, hnews₂, hsame⟩ := h.gained
  have hnumber : ∀ x : Happening D,
      Happening.resumedAt? d x.unnumbered = Happening.resumedAt? d x := by
    intro x
    cases x <;> rfl
  have hnews : news₁.filterMap (Happening.resumedAt? d)
      = news₂.filterMap (Happening.resumedAt? d) := by
    have hmap := congrArg (List.filterMap (Happening.resumedAt? d)) hsame
    simpa only [List.filterMap_map, Function.comp_def, hnumber] using hmap
  rw [World.resumptions, World.resumptions, hnews₁, hnews₂, List.filterMap_append,
    List.filterMap_append, hnews, hold]

/-- A notice says nothing of anybody who is resumed. -/
theorem filterMap_resumedAt?_notices (d : Desk) (news : List (Happening D)) :
    (news.filter (!·.isNotice)).filterMap (Happening.resumedAt? d)
      = news.filterMap (Happening.resumedAt? d) := by
  refine filterMap_filter_of_none (fun x hx => ?_) news
  cases x <;> simp [Happening.isNotice, Happening.resumedAt?] at hx ⊢

/-- **A malformed event leaves no trace.**  It is emitted by whomever and amid whatever
else, and the handlers of the host's own that are called perform no acts.

* The emission comes to its end.  But for notices, the journal has gained that the
  listeners of the kind were called, each once and in order, and what the handlers said;
  so no coroutine was resumed, and no callback was called.
* The memory is what the handlers left, and the emissions count one more.  Everything else
  is as it was: every instance with its callbacks, queues and lifecycle, the queue of
  requests, and whatever else was under way.
* If what the handlers changed in the memory is something that scripts do not look at (if
  they changed nothing, that asks nothing of the scripts: `Interpreter.heedless_of_eq`),
  then any run that goes on from there goes on as it would have without the event, and the
  other way round: after every move the scripts are in the same state, and have done the
  same.  In particular, whatever events are emitted later, the same coroutines have been
  resumed at every desk, in the same order. -/
theorem World.malformed_leaves_no_trace (w : World D) {event : Event} {e : EventError}
    (hargs : event.args = .error e)
    (hattentive : I.Attentive event (w.hub.listeners event.kind)) (below : List (Frame D)) :
    ∃ story m news w',
      I.attend? w.emissions event (w.hub.listeners event.kind) w.memory = some (story, m) ∧
      news.filter (!·.isNotice) = (.emission w.emissions event
        ((w.hub.listeners event.kind).map Listener.id) :: story).reverse ∧
      w' = { w with emissions := w.emissions + 1, memory := m, journal := news ++ w.journal } ∧
      Config.Steps I ⟨(w.beginEmission event).1, (w.beginEmission event).2 :: below⟩
        ⟨w', below⟩ ∧
      ∀ M : Setoid D.Memory, I.Heedless M → M.r w.memory m → (∀ f ∈ below, f.Alike M f) →
        Config.Accompanies M I ⟨w', below⟩ ⟨w, below⟩ ∧
        Config.Accompanies M I ⟨w, below⟩ ⟨w', below⟩ ∧
        ∀ c c', Config.Abreast M w.journal w'.journal c c' →
          ∀ d, c.world.resumptions d = c'.world.resumptions d := by
  obtain ⟨story, m, hstory⟩ := hattentive.exists_attend? w.emissions w.memory
  obtain ⟨news, hnews, hsteps⟩ := w.steps_malformed_emission hargs hstory below
  refine ⟨story, m, news, _, hstory, hnews, rfl, hsteps, fun M hI hprivate hbelow => ?_⟩
  have halike : Alike M w
      { w with emissions := w.emissions + 1, memory := m, journal := news ++ w.journal } :=
    ⟨rfl, rfl, rfl, rfl, rfl, rfl, hprivate⟩
  have habreast : Config.Abreast M w.journal (news ++ w.journal) ⟨w, below⟩ ⟨_, below⟩ :=
    ⟨.of_alike halike, List.forall₂_same.mpr hbelow⟩
  refine ⟨habreast.accompanies hI, habreast.symm.accompanies hI, fun c c' h d => ?_⟩
  have hnobody : news.filterMap (Happening.resumedAt? d) = [] := by
    rw [← filterMap_resumedAt?_notices, hnews]
    simp [List.filterMap_append, List.filterMap_reverse, Happening.resumedAt?,
      I.attend?_resumed hstory d]
  refine h.world.resumptions ?_
  rw [List.filterMap_append, hnobody, List.nil_append]

namespace Specimen

/-- A language of coroutines that are done when they are resumed, and of handlers that
count in the memory how often they are called. -/
def frameDialect : Dialect :=
  ⟨Nat, Unit, Empty, Unit, String⟩

/-- What they do. -/
def frameCounting : Interpreter frameDialect where
  resume _ _ := .ret (.ok .finished)
  callable callback := callback.elim
  call callback := callback.elim
  handle _ _ := .read fun m => .write (Nat.succ m) (.remark "called" (.ret ()))
  patience := 100

/-- An instance whose coroutine waits for a frame, and a handler of the host's own. -/
def frameAwaited : World frameDialect :=
  let born := (World.new (0 : Nat)).beginLife ⟨1⟩ ⟨"video"⟩ false
  (born.awaitNext (.script 0) .frameDrawn ()).listen .frameDrawn (.host ())

/-- A frame of two pixels, with so many bytes. -/
def frame (bytes : Nat) : Event :=
  .frameDrawn 2 1 (List.replicate bytes 0)

/-- The host emits a whole frame, and the machine goes on from there. -/
def frameRun : Nat → Config frameDialect
  | 0 => ⟨frameAwaited, []⟩
  | k + 1 => Config.after frameCounting
      ⟨frameAwaited, [.handler (.act (.emit (frame 8)) fun _ => .ret ())]⟩ k

/-- The coroutine does not look at what the handler counts. -/
def blind : Setoid frameDialect.Memory :=
  ⟨fun _ _ => True, fun _ => trivial, fun _ => trivial, fun _ _ => trivial⟩

theorem heedless_frameCounting : frameCounting.Heedless blind where
  resume _ _ := .ret _
  call callback := callback.elim
  handle _ _ := .read fun _ _ _ => .write trivial (.remark _ (.ret ()))

theorem isHeedlessRun_frameRun : Config.IsHeedlessRun blind frameCounting frameRun 5 := by
  have hbusy : ∀ k < 4, (frameRun (k + 1)).stack.isEmpty = false := by decide +kernel
  intro k hk
  cases k with
  | zero =>
    refine ⟨.host (.code _), fun _ f hf => ?_⟩
    obtain rfl := List.mem_singleton.mp hf
    refine .handler (.act ?_ fun _ => .ret ())
    trivial
  | succ k =>
    have hstack : (frameRun (k + 1)).stack ≠ [] := by
      intro hnil
      have hk := hbusy k (by omega)
      rw [hnil] at hk
      cases hk
    exact ⟨Config.move_next frameCounting hstack, fun hnil => absurd hnil hstack⟩

end Specimen

/-- A frame that is one byte short is seen by the handler alone; afterwards the coroutine is
resumed by a whole frame. -/
theorem World.malformed_leaves_no_trace_short_frame :
    ∃ w', Config.Steps Specimen.frameCounting
        ⟨(Specimen.frameAwaited.beginEmission (Specimen.frame 7)).1,
          [(Specimen.frameAwaited.beginEmission (Specimen.frame 7)).2]⟩ ⟨w', []⟩ ∧
      w'.memory = (1 : Nat) ∧ w'.instances = Specimen.frameAwaited.instances ∧
      ∃ run, run 0 = ⟨w', []⟩ ∧ Config.IsHeedlessRun Specimen.blind Specimen.frameCounting run 5 ∧
        (run 0).world.resumptions (.script 0) = [] ∧
        (run 5).world.resumptions (.script 0) = [0] := by
  have hargs : (Specimen.frame 7).args
      = .error (.malformed .frameDrawn (.frameShort 2 1 8 7)) := by rfl
  have hattentive : Specimen.frameCounting.Attentive (Specimen.frame 7)
      (Specimen.frameAwaited.hub.listeners (Specimen.frame 7).kind) :=
    fun _ _ _ _ _ => trivial
  obtain ⟨story, m, news, w', hstory, -, rfl, hsteps, hafter⟩ :=
    World.malformed_leaves_no_trace Specimen.frameAwaited hargs hattentive []
  obtain ⟨hforth, -, hsame⟩ :=
    hafter Specimen.blind Specimen.heedless_frameCounting trivial (by simp)
  obtain ⟨run, hstart, hrun, habreast⟩ :=
    hforth Specimen.frameRun 5 rfl Specimen.isHeedlessRun_frameRun
  have hmemory : (Specimen.frameCounting.attend? 0 (Specimen.frame 7)
      (Specimen.frameAwaited.hub.listeners .frameDrawn) (0 : Nat)).map Prod.snd
      = some (1 : Nat) := by
    rfl
  refine ⟨_, hsteps, ?_, rfl, run, hstart, hrun, ?_, ?_⟩
  · have hstory' := congrArg (Option.map Prod.snd) hstory
    exact Option.some.inj (hstory'.symm.trans hmemory)
  · rw [← hsame _ _ (habreast 0 (by omega))]
    rfl
  · rw [← hsame _ _ (habreast 5 le_rfl)]
    rfl

end ScriptHost
