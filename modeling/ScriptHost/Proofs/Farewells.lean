import ScriptHost.Proofs.Announcements
import ScriptHost.Proofs.Callbacks
import ScriptHost.Proofs.Contention
import ScriptHost.Proofs.Dispatches
import ScriptHost.Proofs.Headcount

/-!
# Who hears of whose end

A registry that stops ends the instances of its entries one after another, in the order of
the entries.  Each end is announced to whoever listens at that moment: to the one that
ends, and to those whose turn has not come, in the order in which they were born.  Whose
end is complete hears of no other.

* `World.steps_emission` — everybody on a list hears of an event once;
* `World.steps_ending` — what the end of one instance comes to;
* `Host.exists_trace_destroyAll` — one end after another;
* `Scene.Reachable.ends_are_heard` — the calls that are made when a registry stops.
-/

namespace ScriptHost

variable {D : Dialect} {I : Interpreter D} {concurrent : Bool}

/-! ## The calls in the journal -/

/-- Whether an entry of the journal is the call of a callback. -/
def Happening.isCall : Happening D → Bool
  | .called .. => true
  | _ => false

/-- No coroutine calls a callback. -/
theorem Stint.filter_isCall_story (x : Stint D) (i : Nat) :
    (x.story i).filter Happening.isCall = [] := by
  unfold Stint.story Stint.leaves
  cases x.farewell? <;> rfl

/-- A dispatch calls the callback of the kind, and no other. -/
theorem Dispatch.filter_isCall_story (d : Dispatch D) (i : Nat) (kind : EventKind) (args : Args) :
    (d.story i kind args).filter Happening.isCall
      = d.called.toList.map (Happening.called i kind · args) := by
  have hresumed : (d.resumed.flatMap (Stint.story i)).filter Happening.isCall = [] := by
    rw [List.filter_flatMap]
    exact List.flatMap_eq_nil_iff.mpr fun x _ => x.filter_isCall_story i
  have hspawned : (d.spawned.toList.flatMap fun x =>
      Happening.handed (.script i) x.serial :: x.story i).filter Happening.isCall = [] := by
    rw [List.filter_flatMap]
    exact List.flatMap_eq_nil_iff.mpr fun x _ => x.filter_isCall_story i
  rw [Dispatch.story, List.filter_append, List.filter_append, hresumed, hspawned]
  cases d.called <;> rfl

/-- The calls among the news are those of the story, the latest first. -/
theorem Tells.filter_isCall {news story : List (Happening D)} (h : Tells news story) :
    news.filter Happening.isCall = (story.filter Happening.isCall).reverse := by
  calc news.filter Happening.isCall
      = (news.filter (!·.isChatter)).filter Happening.isCall := by
        rw [List.filter_filter]
        refine List.filter_congr fun x _ => ?_
        cases x <;> rfl
    _ = (story.filter Happening.isCall).reverse := by rw [h, List.filter_reverse]

namespace World

/-- The calls of callbacks there were, the latest first. -/
def called (w : World D) : List (Happening D) :=
  w.journal.filter Happening.isCall

/-- What is no call leaves the calls as they were. -/
theorem called_record (w : World D) {x : Happening D} (h : x.isCall = false) :
    (w.record x).called = w.called := by
  simp [called, record, h]

@[simp] theorem called_log (w : World D) (n : Notice) : (w.log n).called = w.called :=
  w.called_record rfl

/-- Who leaves a desk is no call. -/
@[simp] theorem called_recordLeft (w : World D) (desk : Desk) (why : Farewell)
    (serials : List Nat) : (w.recordLeft desk why serials).called = w.called :=
  recordLeft_congr (f := World.called) (fun w _ => w.called_record rfl) w serials

@[simp] theorem called_clear (w : World D) (i : Nat) :
    (w.clear (.script i)).called = w.called :=
  w.called_recordLeft _ _ _

@[simp] theorem called_detachAll (w : World D) (id : ScriptId) (listeners : List ListenerId) :
    (w.detachAll id listeners).called = w.called :=
  detachAll_congr (f := World.called) (fun _ _ => rfl) called_log w id listeners

/-- To complete an end calls no callback. -/
theorem called_finishEnding (w : World D) (i : Nat) : (w.finishEnding i).called = w.called := by
  unfold finishEnding
  split
  · rfl
  · simp only
    rw [called_record _ rfl, called_log, called_clear, called_detachAll]
    rfl

/-- The calls of a dispatch come before the earlier ones. -/
theorem called_turned (w : World D) (i : Nat) (table : Subscriptions D) (m : D.Memory)
    (news : List (Happening D)) :
    (w.turned i table m news).called = news.filter Happening.isCall ++ w.called :=
  List.filter_append ..

/-- A dispatch that is over cannot be seen. -/
theorem view_turned (w : World D) (i : Nat) (table : Subscriptions D) (m : D.Memory)
    (news : List (Happening D)) : (w.turned i table m news).view = w.view := by
  have hinfos : (w.turned i table m news).instances.map Instance.info
      = w.instances.map Instance.info := View.map_modify_same _ i fun x => rfl
  exact congrArg (View.mk w.hub) hinfos

/-- A dispatch leaves the tables of the others alone. -/
theorem subscriptions_turned_of_ne (w : World D) {i j : Nat} (h : i ≠ j) (table : Subscriptions D)
    (m : D.Memory) (news : List (Happening D)) :
    (w.turned i table m news).subscriptions (.script j) = w.subscriptions (.script j) := by
  simp [subscriptions, turned, instance?, h]

/-- Whether an instance is alive can be seen. -/
theorem isAlive_eq (w : World D) (i : Nat) : w.isAlive i = w.view.isAlive i := by
  unfold isAlive
  cases hx : w.instance? i with
  | none => rw [View.isAlive, infos_view, hx]; rfl
  | some x => exact (isAlive_view hx).symm

end World

/-! ## Ends that are complete -/

namespace View

/-- The view when ends are complete, one after another. -/
def dismissAll (r : View D) (ends : List Nat) : View D :=
  ends.foldl (fun r i => r.after (.dismiss i)) r

variable {r : View D}

/-- An end takes off every list whoever ended, and nobody else. -/
theorem Orderly.mem_listeners_dismiss (h : r.Orderly) {i : Nat} {kind : EventKind}
    {l : Listener D} :
    l ∈ (r.after (.dismiss i)).hub.listeners kind
      ↔ l ∈ r.hub.listeners kind ∧ l.hook ≠ .script i := by
  rw [hub_dismiss, Hub.listeners_without h.hub, List.mem_filter, decide_eq_true_iff]
  refine and_congr_right fun hl => not_congr ⟨fun howns => ?_, h.hooked kind l hl i⟩
  exact (h.owned i l.id howns).2 kind l hl rfl

/-- The view stays orderly when ends are complete, one after another. -/
theorem Orderly.dismissAll (h : r.Orderly) (ends : List Nat) : (r.dismissAll ends).Orderly := by
  induction ends generalizing r with
  | nil => exact h
  | cons i rest ih => exact ih (h.dismiss i)

/-- The listeners that are left are those of nobody who has ended. -/
theorem Orderly.mem_listeners_dismissAll (h : r.Orderly) {ends : List Nat} {kind : EventKind}
    {l : Listener D} :
    l ∈ (r.dismissAll ends).hub.listeners kind
      ↔ l ∈ r.hub.listeners kind ∧ ∀ i ∈ ends, l.hook ≠ .script i := by
  induction ends generalizing r with
  | nil => simp [View.dismissAll]
  | cons i rest ih =>
    rw [List.forall_mem_cons, ← and_assoc, ← h.mem_listeners_dismiss]
    exact ih (h.dismiss i)

/-- Whoever has not ended stays on the lists. -/
theorem Orderly.mem_places_dismissAll (h : r.Orderly) {ends : List Nat} {kind : EventKind}
    {i : Nat} :
    i ∈ (r.dismissAll ends).hub.places kind ↔ i ∈ r.hub.places kind ∧ i ∉ ends := by
  simp only [Hub.mem_places, h.mem_listeners_dismissAll]
  constructor
  · rintro ⟨l, ⟨hl, hleft⟩, hhook⟩
    exact ⟨⟨l, hl, hhook⟩, fun hi => hleft i hi hhook⟩
  · rintro ⟨⟨l, hl, hhook⟩, hi⟩
    refine ⟨l, ⟨hl, fun j hj hsame => hi ?_⟩, hhook⟩
    obtain rfl : i = j := Hook.script.inj (hhook.symm.trans hsame)
    exact hj

/-- Whoever has ended keeps his id, path and owner. -/
theorem tags_dismissAll (r : View D) (ends : List Nat) : (r.dismissAll ends).tags = r.tags := by
  induction ends generalizing r with
  | nil => rfl
  | cons i rest ih => exact (ih _).trans (r.tags_after nofun)

end View

/-! ## One event -/

/-- A callback that performs no act, and neither does the coroutine it may return, which
waits for some other kind of events, if it waits. -/
structure Interpreter.Harmless (I : Interpreter D) (kind : EventKind) (c : D.Callback) : Prop where
  call : ∀ args, (I.call c args).Actless
  start : ∀ args m routine m', (I.call c args).result? m = some (.ok (.spawn routine), m') →
    (I.resume routine []).Actless ∧ ∀ m request rest m',
      (I.resume routine []).result? m = some (.ok (.await request rest), m') →
        request.resolve ≠ .ok kind

/-- A coroutine that asks for no kind, or for another one, does not wait for this one. -/
theorem Stint.waits?_eq_none {x : Stint D} {kind : EventKind}
    (h : ∀ request rest, x.result = .ok (.await request rest) → request.resolve ≠ .ok kind) :
    x.waits? kind = none := by
  unfold Stint.waits? Stint.next?
  split
  · next request rest hresult =>
    split
    · next kind' hkind' =>
      have hne : kind' ≠ kind := fun heq => h request rest hresult (heq ▸ hkind')
      simp [hne]
    · rfl
  · rfl

/-- **A harmless callback comes to something**, where nothing waits for the kind; and
afterwards nothing does. -/
theorem Interpreter.Harmless.dispatch {kind : EventKind} {c : D.Callback}
    (h : I.Harmless kind c) {s : Subscriptions D} (hslot : s.callback kind = some c)
    (hwaiting : s.waiting kind = []) (args : Args) (m : D.Memory) :
    ∃ d, I.dispatch? s kind args m = some d ∧ (s.dispatch kind d).waiting kind = [] := by
  obtain ⟨outcome, m₁, hcall⟩ := (h.call args).exists_result m
  obtain ⟨spawned, m₂, hstart, hleaves⟩ : ∃ spawned m₂,
      I.start? s.handed m₁ outcome = some (spawned, m₂) ∧
        ∀ x ∈ spawned, x.waits? kind = none := by
    cases outcome with
    | error e => exact ⟨none, m₁, rfl, nofun⟩
    | ok outcome =>
      cases outcome with
      | done => exact ⟨none, m₁, rfl, nofun⟩
      | spawn routine =>
        obtain ⟨hactless, hasks⟩ := h.start args m routine m₁ hcall
        obtain ⟨result, m₂, hresult⟩ := hactless.exists_result m₁
        refine ⟨some ⟨s.handed, [], result⟩, m₂, by simp [Interpreter.start?, hresult], ?_⟩
        rintro x hx
        obtain rfl := Option.some.inj hx
        refine Stint.waits?_eq_none fun request rest hasked => ?_
        obtain rfl : result = .ok (.await request rest) := hasked
        exact hasks m₁ request rest m₂ hresult
  refine ⟨⟨[], some c, spawned, m₂⟩, ?_, ?_⟩
  · simp [Interpreter.dispatch?, Interpreter.resumeAll?, Interpreter.callBack?, hwaiting, hslot,
      hcall, hstart]
  · rw [Subscriptions.waiting_dispatch, if_pos rfl, List.nil_append]
    exact List.filterMap_eq_nil_iff.mpr fun x hx => hleaves x (Option.mem_toList.mp hx)

namespace World

/-- The call of the callback an instance has for a kind. -/
def call? (w : World D) (kind : EventKind) (args : Args) (i : Nat) : Option (Happening D) :=
  (w.slot i kind).map (Happening.called i kind · args)

/-- Some instances have ended, callbacks were called, in that order, and who is left has
for a kind what it had. -/
structure Hears (kind : EventKind) (w : World D) (ends : List Nat) (calls : List (Happening D))
    (w' : World D) : Prop where
  view : w'.view = w.view.dismissAll ends
  slot : ∀ i ∉ ends, w'.slot i kind = w.slot i kind
  waiting : ∀ i ∉ ends, (w'.subscriptions (.script i)).waiting kind
    = (w.subscriptions (.script i)).waiting kind
  called : w'.called = calls.reverse ++ w.called

variable {w w₁ w₂ : World D} {kind : EventKind} {ends ends' : List Nat} {i : Nat}
  {calls calls' : List (Happening D)}

/-- Nothing changes but what is told beside the calls. -/
theorem Hears.of_instances (hinst : w₁.instances = w.instances) (hhub : w₁.hub = w.hub)
    (hcalled : w₁.called = w.called) : w.Hears kind [] [] w₁ := by
  have htable : ∀ i, w₁.subscriptions (.script i) = w.subscriptions (.script i) := by
    intro i
    simp [subscriptions, instance?, hinst]
  refine ⟨by simp [World.view, hinst, hhub, View.dismissAll], fun i _ => ?_, fun i _ => ?_,
    hcalled⟩
  · rw [World.slot, htable, World.slot]
  · rw [htable]

/-- Where nothing but notices were reported nobody was called. -/
theorem Heard.hears (h : w.Heard w₁) (kind : EventKind) : w.Hears kind [] [] w₁ := by
  obtain ⟨notices, rfl⟩ := h
  refine .of_instances rfl rfl ?_
  have hnone : (notices.map Happening.notice).filter (Happening.isCall (D := D)) = [] := by
    simp [List.filter_eq_nil_iff, Happening.isCall]
  rw [World.called, List.filter_append, hnone]
  rfl

theorem hears_record (w : World D) (kind : EventKind) {x : Happening D} (h : x.isCall = false) :
    w.Hears kind [] [] (w.record x) :=
  .of_instances rfl rfl (w.called_record h)

/-- What is heard first and what is heard then is heard in this order. -/
theorem Hears.trans (h : w.Hears kind ends calls w₁) (h' : w₁.Hears kind ends' calls' w₂) :
    w.Hears kind (ends ++ ends') (calls ++ calls') w₂ := by
  constructor
  · rw [h'.view, h.view, View.dismissAll, View.dismissAll, View.dismissAll, List.foldl_append]
  · intro i hi
    obtain ⟨hfirst, hlater⟩ : i ∉ ends ∧ i ∉ ends' := by simpa using hi
    rw [h'.slot i hlater, h.slot i hfirst]
  · intro i hi
    obtain ⟨hfirst, hlater⟩ : i ∉ ends ∧ i ∉ ends' := by simpa using hi
    rw [h'.waiting i hlater, h.waiting i hfirst]
  · rw [h'.called, h.called, List.reverse_append, List.append_assoc]

/-- What an instance does about an event of a kind is done with its callback: nothing waits
for the kind, and the callback is harmless, if there is one. -/
structure Receptive (I : Interpreter D) (kind : EventKind) (w : World D) (i : Nat) : Prop where
  alive : w.view.isAlive i = true
  waiting : (w.subscriptions (.script i)).waiting kind = []
  harmless : ∀ c, w.slot i kind = some c → I.Harmless kind c

/-- Calls leave whoever is there as receptive as he was. -/
theorem Receptive.hears (h : w.Receptive I kind i) (hears : w.Hears kind [] calls w₁) :
    w₁.Receptive I kind i where
  alive := by rw [hears.view]; exact h.alive
  waiting := (hears.waiting i List.not_mem_nil).trans h.waiting
  harmless := hears.slot i List.not_mem_nil ▸ h.harmless

/-- **An instance hears of an event**: its callback is called, if it has one. -/
theorem steps_deliver {event : Event} {args : Args} (hargs : event.args = .ok args)
    (hi : w.Receptive I event.kind i) (below : List (Frame D)) :
    ∃ w', Config.Steps I ⟨(w.deliver i event).1, (w.deliver i event).2 ++ below⟩ ⟨w', below⟩ ∧
      w.Hears event.kind [] (w.call? event.kind args i).toList w' := by
  by_cases hidle : (w.subscriptions (.script i)).isIdle event.kind = true
  · have hnone : w.slot i event.kind = none := (Subscriptions.isIdle_iff.mp hidle).1
    refine ⟨w, ?_, ?_⟩
    · rw [w.deliver_of_isIdle i event hidle]
      exact .refl
    · rw [call?, hnone]
      exact .of_instances rfl rfl rfl
  · have halive : w.isAlive i = true := (w.isAlive_eq i).trans hi.alive
    obtain ⟨c, hc⟩ : ∃ c, w.slot i event.kind = some c := by
      refine Option.ne_none_iff_exists'.mp fun hnone => hidle ?_
      exact Subscriptions.isIdle_iff.mpr ⟨hnone, hi.waiting⟩
    obtain ⟨d, hd, hafter⟩ := (hi.harmless c hc).dispatch hc hi.waiting args w.memory
    obtain ⟨news, htells, hsteps⟩ := steps_dispatch halive hd below
    have hcalled : d.called = some c := (I.dispatch?_runs hd).2.1.trans hc
    have hafterwards : w.Hears event.kind [] (w.call? event.kind args i).toList
        (w.turned i ((w.subscriptions (.script i)).dispatch event.kind d) d.memory news) := by
      refine ⟨w.view_turned i _ _ _, fun j _ => ?_, fun j _ => ?_, ?_⟩
      · by_cases hij : i = j
        · subst hij
          rw [slot, subscriptions_turned _ _ _ halive, Subscriptions.callback_dispatch, slot]
        · rw [slot, subscriptions_turned_of_ne w hij, slot]
      · by_cases hij : i = j
        · subst hij
          rw [subscriptions_turned _ _ _ halive, hafter, hi.waiting]
        · rw [subscriptions_turned_of_ne w hij]
      · rw [called_turned, htells.filter_isCall, Dispatch.filter_isCall_story, hcalled, call?, hc]
        rfl
    refine ⟨_, ?_, hafterwards⟩
    rw [deliver_of_not_isIdle halive hargs hidle]
    exact hsteps

/-- **Everybody on a list hears of an event once**, one after another. -/
theorem steps_emission {event : Event} {args : Args} (hargs : event.args = .ok args) (n : Nat)
    {listeners : List (Listener D)}
    (hall : ∀ l ∈ listeners, ∃ i, l.hook = .script i ∧ w.Receptive I event.kind i)
    (below : List (Frame D)) :
    ∃ w', Config.Steps I ⟨w, .emission n event listeners :: below⟩ ⟨w', below⟩ ∧
      w.Hears event.kind []
        ((listeners.filterMap Listener.place?).filterMap (w.call? event.kind args)) w' := by
  induction listeners generalizing w with
  | nil => exact ⟨w, .single rfl, .of_instances rfl rfl rfl⟩
  | cons l rest ih =>
    obtain ⟨⟨i, hhook, hi⟩, hrest⟩ := List.forall_mem_cons.mp hall
    have hreached := w.hears_record event.kind (x := .reached n l.id) rfl
    obtain ⟨w₁, hdelivered, hfirst⟩ := steps_deliver hargs (hi.hears hreached)
      (.emission n event rest :: below)
    have hheard := hreached.trans hfirst
    obtain ⟨w', hsteps, hlater⟩ := ih (w := w₁) fun l hl => by
      obtain ⟨j, hj, hready⟩ := hrest l hl
      exact ⟨j, hj, hready.hears hheard⟩
    have hstep : Config.step? I ⟨w, .emission n event (l :: rest) :: below⟩
        = some ⟨((w.record (.reached n l.id)).deliver i event).1,
            ((w.record (.reached n l.id)).deliver i event).2
              ++ .emission n event rest :: below⟩ := by
      simp [Config.step?, Frame.advance, hhook]
    have hsame : w₁.call? event.kind args = w.call? event.kind args := by
      funext j
      rw [call?, hheard.slot j List.not_mem_nil, call?]
    have hplace : l.place? = some i := Listener.place?_eq_some.mpr hhook
    have hcalls : ((l :: rest).filterMap Listener.place?).filterMap (w.call? event.kind args)
        = (w.call? event.kind args i).toList
          ++ (rest.filterMap Listener.place?).filterMap (w₁.call? event.kind args) := by
      rw [hsame, List.filterMap_cons, hplace, List.filterMap_cons]
      cases w.call? event.kind args i <;> rfl
    refine ⟨w', (hdelivered.trans hsteps).head hstep, ?_⟩
    rw [hcalls]
    exact hheard.trans hlater

end World

/-! ## One end -/

/-- Instances in the order of their births. -/
def birthOrder (l : List Nat) : List Nat :=
  l.insertionSort (· ≤ ·)

/-- In the order of birth there are the same instances. -/
theorem birthOrder_perm (l : List Nat) : (birthOrder l).Perm l :=
  List.perm_insertionSort _ l

/-- Each instance in that order is younger than those before it. -/
theorem birthOrder_ascends {l : List Nat} (hl : l.Nodup) : (birthOrder l).Pairwise (· < ·) := by
  have hsorted : (birthOrder l).Pairwise (· ≤ ·) := List.pairwise_insertionSort _ l
  have hnodup : (birthOrder l).Nodup := (birthOrder_perm l).nodup_iff.mpr hl
  exact (hsorted.and hnodup).imp fun h => Nat.lt_of_le_of_ne h.1 h.2

namespace World

/-- The id of the instance at a place. -/
def scriptId? (w : World D) (i : Nat) : Option ScriptId :=
  (w.instance? i).map Instance.id

/-- The call by which an instance hears of the end of another. -/
def endCall? (w : World D) (i j : Nat) : Option (Happening D) := do
  let id ← w.scriptId? i
  w.call? .scriptEnd [.int (Int64.ofNat id.val.toNat)] j

/-- The calls that are made where instances end one after another: each hears of its own
end, and of those before. -/
def endCalls (w : World D) : List Nat → List (Happening D)
  | [] => []
  | i :: rest => (birthOrder (i :: rest)).filterMap (w.endCall? i) ++ w.endCalls rest

/-- Some instances have a harmless callback for ends, and nothing else is subscribed to
them: no coroutine of theirs, no other instance, and no handler of the host. -/
structure Attended (I : Interpreter D) (w : World D) (l : List Nat) : Prop where
  listed : ∀ i ∈ l, i ∈ w.hub.places .scriptEnd
  callback : ∀ i ∈ l, ∃ c, w.slot i .scriptEnd = some c ∧ I.Harmless .scriptEnd c
  waiting : ∀ i ∈ l, (w.subscriptions (.script i)).waiting .scriptEnd = []
  others : ∀ i ∈ w.hub.places .scriptEnd, i ∉ l →
    (w.subscriptions (.script i)).isIdle .scriptEnd = true
  scripts : ∀ x ∈ w.hub.listeners .scriptEnd, ∃ i, x.hook = .script i

variable {w w₁ : World D} {ends l : List Nat} {i : Nat} {calls : List (Happening D)}

/-- Whoever is left hears of ends as before. -/
theorem Attended.hears (h : w.Attended I (ends ++ l)) (hw : w.view.Orderly)
    (hl : ∀ i ∈ l, i ∉ ends) (hears : w.Hears .scriptEnd ends calls w₁) : w₁.Attended I l := by
  have hhub : w₁.hub = (w.view.dismissAll ends).hub := congrArg View.hub hears.view
  have hplaces : ∀ i, i ∈ w₁.hub.places .scriptEnd
      ↔ i ∈ w.hub.places .scriptEnd ∧ i ∉ ends := by
    intro i
    rw [hhub]
    exact hw.mem_places_dismissAll
  constructor
  · intro i hi
    exact (hplaces i).mpr ⟨h.listed i (List.mem_append_right _ hi), hl i hi⟩
  · intro i hi
    rw [hears.slot i (hl i hi)]
    exact h.callback i (List.mem_append_right _ hi)
  · intro i hi
    rw [hears.waiting i (hl i hi)]
    exact h.waiting i (List.mem_append_right _ hi)
  · intro i hi hother
    obtain ⟨hplace, hleft⟩ := (hplaces i).mp hi
    have hidle := h.others i hplace fun hmem => (List.mem_append.mp hmem).elim hleft hother
    rw [Subscriptions.isIdle_iff] at hidle ⊢
    exact ⟨(hears.slot i hleft).trans hidle.1, (hears.waiting i hleft).trans hidle.2⟩
  · intro x hx
    rw [hhub] at hx
    exact h.scripts x (hw.mem_listeners_dismissAll.mp hx).1

/-- Everybody on the list is receptive. -/
theorem Attended.receptive (h : w.Attended I l) (hw : w.view.Orderly) {x : Listener D}
    (hx : x ∈ w.hub.listeners .scriptEnd) :
    ∃ i, x.hook = .script i ∧ w.Receptive I .scriptEnd i := by
  obtain ⟨i, hhook⟩ := h.scripts x hx
  have hplace : i ∈ w.hub.places .scriptEnd := Hub.mem_places.mpr ⟨x, hx, hhook⟩
  have halive : w.view.isAlive i = true := hw.isAlive_of_mem_places hplace
  refine ⟨i, hhook, ?_⟩
  by_cases hi : i ∈ l
  · obtain ⟨c, hc, hharmless⟩ := h.callback i hi
    refine ⟨halive, h.waiting i hi, fun c' hc' => ?_⟩
    obtain rfl : c = c' := Option.some.inj (hc.symm.trans hc')
    exact hharmless
  · obtain ⟨hslot, hwaiting⟩ := Subscriptions.isIdle_iff.mp (h.others i hplace hi)
    exact ⟨halive, hwaiting, fun c hc => by cases hslot.symm.trans hc⟩

/-- Of those on the list, the ones with a callback stand in the order of their births. -/
theorem Attended.places_eq (h : w.Attended I l) (hw : w.view.Orderly) (hl : l.Nodup) :
    (w.hub.places .scriptEnd).filter (· ∈ l) = birthOrder l := by
  have hranked : (w.hub.places .scriptEnd).Pairwise (· < ·) := hw.ranked .scriptEnd
  refine (hranked.filter _).eq_of_mem_iff (birthOrder_ascends hl) ?_
  intro i
  rw [List.mem_filter, decide_eq_true_iff, (birthOrder_perm l).mem_iff]
  exact ⟨fun hi => hi.2, fun hi => ⟨h.listed i hi, hi⟩⟩

/-- Those on the list that have no callback for ends are not called. -/
theorem Attended.filterMap_places (h : w.Attended I l) (hw : w.view.Orderly) (hl : l.Nodup)
    (args : Args) :
    (w.hub.places .scriptEnd).filterMap (w.call? .scriptEnd args)
      = (birthOrder l).filterMap (w.call? .scriptEnd args) := by
  rw [← h.places_eq hw hl, List.filterMap_filter]
  refine List.filterMap_congr fun i hplace => ?_
  by_cases hi : i ∈ l
  · simp [hi]
  · have hslot : w.slot i .scriptEnd = none :=
      (Subscriptions.isIdle_iff.mp (h.others i hplace hi)).1
    simp [hi, call?, hslot]

/-- To complete an end is to hear of nothing. -/
theorem hears_finishEnding (w : World D) (kind : EventKind) (i : Nat) :
    w.Hears kind [i] [] (w.finishEnding i) := by
  have htable : ∀ j ∉ [i], (w.finishEnding i).subscriptions (.script j)
      = w.subscriptions (.script j) := fun j hj =>
    congrArg Standing.table (w.standing_finishEnding_of_ne fun hij => hj (by simp [hij]))
  exact ⟨w.view_finishEnding i, fun j hj => congrArg (Subscriptions.callback · kind) (htable j hj),
    fun j hj => congrArg (Subscriptions.waiting · kind) (htable j hj), w.called_finishEnding i⟩

/-- **The end of an instance is heard** by those with a callback for ends, in the order of
their births, and is complete. -/
theorem steps_ending (h : w.Attended I l) (hw : w.view.Orderly) (hl : l.Nodup) (hi : i ∈ l) :
    ∃ w', Config.Steps I ⟨(w.beginEnding i).1, (w.beginEnding i).2⟩ ⟨w', []⟩ ∧
      w.Hears .scriptEnd [i] ((birthOrder l).filterMap (w.endCall? i)) w' := by
  obtain ⟨x, hx, halive⟩ : ∃ x, w.instance? i = some x ∧ x.isAlive = true := by
    have hlives := (w.isAlive_eq i).trans (hw.isAlive_of_mem_places (h.listed i hi))
    unfold isAlive at hlives
    split at hlives
    · next x hx => exact ⟨x, hx, hlives⟩
    · cases hlives
  let args : Args := [.int (Int64.ofNat x.id.val.toNat)]
  let announced := (w.log (.script (.stopping x.id x.path))).beginEmission (.scriptEnd x.id)
  have hbegins : w.beginEnding i = (announced.1, [announced.2, .ending i]) := by
    simp [beginEnding, hx, halive, announced]
  have hannounced : w.Hears .scriptEnd [] [] announced.1 := .of_instances rfl rfl rfl
  have hargs : (Event.scriptEnd x.id).args = .ok args := rfl
  have hall : ∀ l ∈ w.hub.listeners .scriptEnd,
      ∃ j, l.hook = .script j ∧ announced.1.Receptive I .scriptEnd j := by
    intro l hl
    obtain ⟨j, hhook, hready⟩ := h.receptive hw hl
    exact ⟨j, hhook, hready.hears hannounced⟩
  obtain ⟨w₁, hsteps, hheard⟩ := steps_emission hargs w.emissions hall [.ending i]
  have hcalls : (w.hub.places .scriptEnd).filterMap (announced.1.call? .scriptEnd args)
      = (birthOrder l).filterMap (w.endCall? i) := by
    have hid : w.endCall? i = w.call? .scriptEnd args := by
      funext j
      simp [endCall?, scriptId?, hx, args]
    rw [hid]
    exact h.filterMap_places hw hl args
  refine ⟨w₁.finishEnding i, ?_, ?_⟩
  · rw [hbegins]
    exact hsteps.tail rfl
  · have hover := (hannounced.trans hheard).trans (w₁.hears_finishEnding .scriptEnd i)
    simp only [List.nil_append, List.append_nil] at hover
    rw [← hcalls]
    exact hover

/-- Who hears of whose end does not change by those that are complete. -/
theorem Hears.endCalls (h : w.Hears .scriptEnd ends calls w₁) (hl : ∀ i ∈ l, i ∉ ends) :
    w₁.endCalls l = w.endCalls l := by
  have hid : ∀ i, w₁.scriptId? i = w.scriptId? i := by
    intro i
    rw [scriptId?, id_eq, scriptId?, id_eq, h.view, View.tags_dismissAll]
  induction l with
  | nil => rfl
  | cons i rest ih =>
    have hcall : ∀ j ∈ birthOrder (i :: rest), w₁.endCall? i j = w.endCall? i j := by
      intro j hj
      have hleft : j ∉ ends := hl j ((birthOrder_perm _).mem_iff.mp hj)
      simp only [endCall?, hid, call?, h.slot j hleft]
    rw [World.endCalls, World.endCalls, List.filterMap_congr hcall,
      ih fun j hj => hl j (List.mem_cons_of_mem _ hj)]

/-- **Of `n` instances that end one after another**, the first one's end is heard by all,
and the last one's by itself. -/
theorem length_endCalls (hid : ∀ i ∈ l, (w.scriptId? i).isSome = true)
    (hslot : ∀ i ∈ l, (w.slot i .scriptEnd).isSome = true) :
    (w.endCalls l).length = l.length * (l.length + 1) / 2 := by
  have htwice : 2 * (w.endCalls l).length = l.length * (l.length + 1) := by
    induction l with
    | nil => rfl
    | cons i rest ih =>
      have hcalled : ∀ j ∈ birthOrder (i :: rest), (w.endCall? i j).isSome = true := by
        intro j hj
        have hj := hslot j ((birthOrder_perm _).mem_iff.mp hj)
        obtain ⟨id, hid⟩ := Option.isSome_iff_exists.mp (hid i List.mem_cons_self)
        obtain ⟨c, hc⟩ := Option.isSome_iff_exists.mp hj
        simp [endCall?, call?, hid, hc]
      have hrest := ih (fun j hj => hid j (List.mem_cons_of_mem _ hj))
        fun j hj => hslot j (List.mem_cons_of_mem _ hj)
      rw [World.endCalls, List.length_append, List.filterMap_length_eq_length.mpr hcalled,
        (birthOrder_perm _).length_eq, List.length_cons, Nat.mul_add, hrest,
        ← Nat.add_mul, Nat.mul_comm, Nat.add_comm 2 rest.length]
  omega

/-- Where the ids of a registry ascend, its instances have theirs in the order of their
births. -/
theorem ids_ascend (hids : w.view.registeredIds.Pairwise fun a b => a.val < b.val)
    (hl : l.Nodup) (hown : ∀ i ∈ l, w.view.isRegistered i = true) :
    ((birthOrder l).filterMap w.scriptId?).Pairwise fun a b => a.val < b.val := by
  have htag : ∀ i ∈ birthOrder l, ∀ id, w.scriptId? i = some id →
      ∃ t, w.view.tags[i]? = some t ∧ t.detached = false ∧ t.id = id := by
    intro i hi id hid
    rw [scriptId?, id_eq] at hid
    obtain ⟨t, ht, rfl⟩ := Option.map_eq_some_iff.mp hid
    have hregistered := hown i ((birthOrder_perm l).mem_iff.mp hi)
    exact ⟨t, ht, by simpa [View.isRegistered, ht] using hregistered, rfl⟩
  refine List.pairwise_filterMap.mpr ((birthOrder_ascends hl).imp_of_mem ?_)
  intro i j hi hj hij a ha b hb
  obtain ⟨s, hs, hsOwn, rfl⟩ := htag i hi a ha
  obtain ⟨t, ht, htOwn, rfl⟩ := htag j hj b hb
  exact View.id_lt_of_lt hids hij hs ht hsOwn htOwn

end World

/-! ## One end after another -/

namespace Host

variable {h : Host D} {p k : Nat}

/-- To destroy an instance is to complete its end, and to name it no more. -/
theorem exists_trace_destroy (hk : h.registry.live? p = some k) {w : World D}
    (hsteps : Config.Steps I ⟨(h.world.beginEnding k).1, (h.world.beginEnding k).2⟩ ⟨w, []⟩) :
    ∃ cs, (destroy p).Trace I h cs () ⟨w, h.registry.setLive p none⟩ := by
  obtain ⟨cs, hobeyed⟩ := hsteps.trace
  refine ⟨cs ++ [], .looking ?_⟩
  rw [hk]
  exact .keep (.order hobeyed (.done () _))

/-- **Instances that end one after another** hear of the ends before their own, and of
theirs. -/
theorem exists_trace_destroyAll {l : List Nat} (hw : h.world.view.Orderly) (hl : l.Nodup)
    (hlives : (l.filterMap h.registry.live?).Nodup)
    (hattended : h.world.Attended I (l.filterMap h.registry.live?)) :
    ∃ cs h', (destroyAll l).Trace I h cs () h' ∧
      h.world.Hears .scriptEnd (l.filterMap h.registry.live?)
        (h.world.endCalls (l.filterMap h.registry.live?)) h'.world := by
  induction l generalizing h with
  | nil => exact ⟨_, h, .done () h, .of_instances rfl rfl rfl⟩
  | cons p rest ih =>
    obtain ⟨hp, hrest⟩ := List.nodup_cons.mp hl
    rw [List.filterMap_cons] at hlives hattended ⊢
    cases hk : h.registry.live? p with
    | none =>
      simp only [hk] at hlives hattended ⊢
      obtain ⟨cs, h', htrace, hheard⟩ := ih hw hrest hlives hattended
      have hnothing : (destroy p).Trace I h [] () h := by
        refine .looking ?_
        rw [hk]
        exact .done () h
      exact ⟨_, h', hnothing.followed htrace, hheard⟩
    | some k =>
      simp only [hk] at hlives hattended ⊢
      obtain ⟨hkrest, hothers⟩ := List.nodup_cons.mp hlives
      obtain ⟨w, hsteps, hheard⟩ :=
        World.steps_ending hattended hw hlives List.mem_cons_self
      obtain ⟨cs₁, hfirst⟩ := exists_trace_destroy hk hsteps
      have hsame : rest.filterMap (h.registry.setLive p none).live?
          = rest.filterMap h.registry.live? := by
        refine List.filterMap_congr fun q hq => ?_
        have hpq : p ≠ q := fun heq => hp (heq ▸ hq)
        exact congrArg (·.bind Entry.live)
          (Registry.getElem?_modifyEntry_of_ne h.registry hpq _)
      have hleft : ∀ i ∈ rest.filterMap h.registry.live?, i ∉ [k] := by
        intro i hi hik
        exact hkrest (List.mem_singleton.mp hik ▸ hi)
      have horderly : w.view.Orderly := by
        rw [hheard.view]
        exact hw.dismissAll [k]
      have hboth : h.world.Attended I ([k] ++ rest.filterMap h.registry.live?) := hattended
      have hstill := hboth.hears hw hleft hheard
      obtain ⟨cs₂, h', htrace, hlater⟩ :=
        ih (h := ⟨w, h.registry.setLive p none⟩) horderly hrest (hsame ▸ hothers) (hsame ▸ hstill)
      rw [hsame, hheard.endCalls hleft] at hlater
      exact ⟨_, h', hfirst.followed htrace, hheard.trans hlater⟩

/-- **Stopping the registry.** -/
theorem exists_trace_stopAll (hw : h.world.view.Orderly) (hlives : h.registry.lives.Nodup)
    (hattended : h.world.Attended I h.registry.lives) :
    ∃ cs h', stopAll.Trace I h cs () h' ∧
      h.world.Hears .scriptEnd h.registry.lives (h.world.endCalls h.registry.lives) h'.world := by
  let stopped : Registry D := { h.registry with started := false }
  have hall : ∀ w, h.world.Heard w → ∃ cs h',
      (destroyAll (List.range stopped.entries.length)).Trace I ⟨w, stopped⟩ cs () h' ∧
        h.world.Hears .scriptEnd h.registry.lives (h.world.endCalls h.registry.lives)
          h'.world := by
    intro w hheard
    have hsame := hheard.hears .scriptEnd
    have hrange : h.registry.lives
        = (List.range stopped.entries.length).filterMap stopped.live? := h.registry.lives_eq_range
    have horderly : w.view.Orderly := by
      rw [hsame.view]
      exact hw
    have hboth : h.world.Attended I ([] ++ h.registry.lives) := hattended
    have hstill := hboth.hears hw (fun _ _ => List.not_mem_nil) hsame
    obtain ⟨cs, h', htrace, hlater⟩ := exists_trace_destroyAll (h := ⟨w, stopped⟩) horderly
      List.nodup_range (hrange ▸ hlives) (hrange ▸ hstill)
    rw [← hrange, hsame.endCalls fun _ _ => List.not_mem_nil] at hlater
    exact ⟨cs, h', htrace, hsame.trans hlater⟩
  have hfirst : (modifyRegistry fun r => { r with started := false }).Trace I h [] ()
      ⟨h.world, stopped⟩ := .keep (.done () _)
  by_cases hsome : 0 < stopped.liveCount
  · obtain ⟨cs₁, w, hreported, hheard, -⟩ :=
      onlyReports_report (I := I) (.stoppingAll stopped.liveCount) ⟨h.world, stopped⟩
    obtain ⟨cs₂, h', htrace, hlater⟩ := hall w hheard
    have hstopped : stopAll.Trace I h ([] ++ (cs₁ ++ cs₂)) () h' := by
      refine hfirst.followed (.looking ?_)
      dsimp only
      rw [if_pos hsome]
      exact hreported.followed htrace
    exact ⟨_, h', hstopped, hlater⟩
  · obtain ⟨cs, h', htrace, hlater⟩ := hall h.world (.refl _)
    have hstopped : stopAll.Trace I h ([] ++ cs) () h' := by
      refine hfirst.followed (.looking ?_)
      dsimp only
      rw [if_neg hsome]
      exact htrace
    exact ⟨_, h', hstopped, hlater⟩

end Host

namespace Scene

/-- **Who hears of whose end.**  Whatever a session has come to, let each script that runs
have a callback for ends that performs no act, and nothing else be subscribed to them.
Then stopping the registry comes to its end, and these are all the calls that are made:
the scripts end in the order of the entries, and the end of each calls the callback of
whoever has not ended yet, its own included, once and with the id of the one that ends, in
the order of their births, which is that of their ids until these start over.  So `n`
scripts make for `n * (n + 1) / 2` calls; and afterwards none of them is on any list. -/
theorem Reachable.ends_are_heard {x : Scene D} (h : x.Reachable I concurrent) (hrest : x.AtRest)
    (hattended : x.world.Attended I x.session.host.registry.lives) :
    (∃ cs h', Host.stopAll.Trace I x.session.host cs () h') ∧
      (∀ cs u h', Host.stopAll.Trace I x.session.host cs u h' →
        h'.world.called
            = (x.world.endCalls x.session.host.registry.lives).reverse ++ x.world.called ∧
          ∀ i ∈ x.session.host.registry.lives, ∀ kind, i ∉ h'.world.hub.places kind) ∧
      (x.world.endCalls x.session.host.registry.lives).length
        = x.session.host.registry.liveCount * (x.session.host.registry.liveCount + 1) / 2 ∧
      (x.world.view.registeredIds.length < UInt32.size →
        ∀ l, l <:+ x.session.host.registry.lives →
          ((birthOrder l).filterMap x.world.scriptId?).Pairwise fun a b => a.val < b.val) := by
  have htidy := (h.upheld.rest hrest).tidy
  have horderly : x.world.view.Orderly := htidy.reachable.orderly
  have hnodup : x.session.host.registry.lives.Nodup :=
    htidy.lives.nodup_iff.mpr x.world.view.nodup_own
  have hown : ∀ i ∈ x.session.host.registry.lives,
      x.world.view.isAlive i = true ∧ x.world.view.isRegistered i = true :=
    fun i hi => View.mem_own.mp (htidy.lives.mem_iff.mp hi)
  obtain ⟨cs₀, h₀, hstops, hheard⟩ := Host.exists_trace_stopAll horderly hnodup hattended
  refine ⟨⟨cs₀, h₀, hstops⟩, ?_, ?_, ?_⟩
  · intro cs u h' hc
    obtain ⟨-, -, rfl⟩ := hstops.unique hc
    refine ⟨hheard.called, fun i hi kind hplace => ?_⟩
    have hhub : h₀.world.hub = (x.world.view.dismissAll x.session.host.registry.lives).hub :=
      congrArg View.hub hheard.view
    rw [hhub] at hplace
    exact (horderly.mem_places_dismissAll.mp hplace).2 hi
  · rw [Registry.liveCount_eq]
    refine World.length_endCalls (fun i hi => ?_) fun i hi => ?_
    · have halive := (x.world.isAlive_eq i).trans (hown i hi).1
      unfold World.isAlive at halive
      cases hx : x.world.instance? i with
      | none => simp [hx] at halive
      | some a => simp [World.scriptId?, hx]
    · obtain ⟨c, hc, -⟩ := hattended.callback i hi
      simp [hc]
  · intro hfew l hl
    obtain ⟨m, hm, -⟩ := htidy.numbered
    have hm : x.world.view.registeredIds = Registry.firstIds m := hm
    have hlength : m < UInt32.size := by
      rw [hm] at hfew
      simpa [Registry.firstIds] using hfew
    refine World.ids_ascend (hm ▸ Registry.firstIds_ascend hlength) (hl.sublist.nodup hnodup) ?_
    exact fun i hi => (hown i (hl.subset hi)).2

end Scene

namespace Specimen

/-- Two scripts that set a callback for ends. -/
def endListeners : Engine dialect :=
  let entry : EntryPoint dialect := fun i _ _ =>
    .act (.setCallback i .scriptEnd (some ())) fun _ => .ret (.ok none)
  ⟨[("a", entry), ("b", entry)]⟩

/-- A session for them. -/
def endSession : Session dialect :=
  Session.new (World.new ()) endListeners
    { ScriptSettings.default with concurrent := true, hotReload := false } none
    ⟨.dir "" [] 0, [], 0⟩ ⟨"", none, none⟩

/-- Both run, and the first one has been restarted. -/
def twoHearing : Scene dialect :=
  ⟨(carryOut [.registry (.add ⟨"a.py"⟩ true), .registry (.add ⟨"b.py"⟩ true), .beginEmulation,
    .registry (.restart (.index 0))] endSession).getD endSession, [], .done ()⟩

theorem reachable_twoHearing : twoHearing.Reachable calmly true := by
  have hbegins : Scene.Begins calmly true ⟨endSession, [], .done ()⟩ := by
    refine Scene.begins_new ⟨(), .refl⟩ (fun i => ?_) endListeners
      { ScriptSettings.default with concurrent := true, hotReload := false } none
      ⟨.dir "" [] 0, [], 0⟩ ⟨"", none, none⟩
    simp [View.isRegistered, View.tags, World.view, World.new]
  have hgathering : Scene.Reachable calmly true ⟨endSession, [], .done ()⟩ := ⟨_, hbegins, .refl⟩
  unfold twoHearing
  cases hdone : carryOut _ endSession with
  | none => exact hgathering
  | some s => exact reachable_carryOut hgathering hdone

/-- A callback that does nothing is harmless. -/
theorem harmless_calmly (kind : EventKind) (c : dialect.Callback) : calmly.Harmless kind c where
  call _ := trivial
  start args m routine m' h := by cases h

theorem lives_twoHearing : twoHearing.session.host.registry.lives = [2, 1] := by decide +kernel

theorem slot_twoHearing : ∀ i ∈ twoHearing.session.host.registry.lives,
    twoHearing.world.slot i .scriptEnd = some () := by
  have hall : ∀ i ∈ twoHearing.session.host.registry.lives,
      (twoHearing.world.slot i .scriptEnd).isSome = true := by decide +kernel
  intro i hi
  obtain ⟨c, hc⟩ := Option.isSome_iff_exists.mp (hall i hi)
  exact hc

theorem attended_twoHearing :
    twoHearing.world.Attended calmly twoHearing.session.host.registry.lives where
  listed := by decide +kernel
  callback i hi := ⟨(), slot_twoHearing i hi, harmless_calmly _ _⟩
  waiting := by
    have hnone : ∀ i ∈ twoHearing.session.host.registry.lives,
        ((twoHearing.world.subscriptions (.script i)).waiting .scriptEnd).isEmpty = true := by
      decide +kernel
    exact fun i hi => List.isEmpty_iff.mp (hnone i hi)
  others := by decide +kernel
  scripts l _ := by
    cases l.hook with
    | script i => exact ⟨i, rfl⟩
    | host handler => exact handler.elim

end Specimen

/-- The script that has been restarted is the younger one, and the first to end: both hear
of its end, the other one first; and then the other one hears of its own. -/
theorem Scene.Reachable.ends_are_heard_two :
    ∃ cs h', Host.stopAll.Trace Specimen.calmly Specimen.twoHearing.session.host cs () h' ∧
      h'.world.called
        = [.called 1 .scriptEnd () [.int 2], .called 2 .scriptEnd () [.int 3],
            .called 1 .scriptEnd () [.int 3]] ++ Specimen.twoHearing.world.called ∧
      ∀ i ∈ [1, 2], ∀ kind, i ∉ h'.world.hub.places kind := by
  obtain ⟨⟨cs, h', hstops⟩, hcalls, -, -⟩ := Scene.Reachable.ends_are_heard
    Specimen.reachable_twoHearing ⟨rfl, rfl⟩ Specimen.attended_twoHearing
  obtain ⟨hcalled, hgone⟩ := hcalls cs () h' hstops
  have hids : Specimen.twoHearing.world.scriptId? 2 = some ⟨3⟩ ∧
      Specimen.twoHearing.world.scriptId? 1 = some ⟨2⟩ := by decide +kernel
  have hslots := Specimen.slot_twoHearing
  rw [Specimen.lives_twoHearing] at hcalled hgone hslots
  refine ⟨cs, h', hstops, ?_, fun i hi => hgone i (by simpa [or_comm] using hi)⟩
  have hcall : ∀ (i j : Nat) (id : ScriptId), Specimen.twoHearing.world.scriptId? i = some id →
      j ∈ [2, 1] → Specimen.twoHearing.world.endCall? i j
        = some (.called j .scriptEnd () [.int (Int64.ofNat id.val.toNat)]) := by
    intro i j id hid hj
    rw [World.endCall?, hid, Option.bind_eq_bind, Option.bind_some, World.call?, hslots j hj]
    rfl
  have hfirst : (birthOrder [2, 1]).filterMap (Specimen.twoHearing.world.endCall? 2)
      = [.called 1 .scriptEnd () [.int 3], .called 2 .scriptEnd () [.int 3]] := by
    have horder : birthOrder [2, 1] = [1, 2] := by decide
    rw [horder, List.filterMap_cons, hcall 2 1 _ hids.1 (by decide), List.filterMap_cons,
      hcall 2 2 _ hids.1 (by decide)]
    rfl
  have hlast : (birthOrder [1]).filterMap (Specimen.twoHearing.world.endCall? 1)
      = [.called 1 .scriptEnd () [.int 2]] := by
    have horder : birthOrder [1] = [1] := by decide
    rw [horder, List.filterMap_cons, hcall 1 1 _ hids.2 (by decide)]
    rfl
  rw [hcalled, World.endCalls, World.endCalls, World.endCalls, hfirst, hlast]
  rfl

end ScriptHost
