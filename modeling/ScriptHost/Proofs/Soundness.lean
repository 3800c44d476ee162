import Mathlib.Data.List.Basic
import ScriptHost.Proofs.Deeds

/-!
# The stack is in order

Three things hold of every configuration a run comes to (`Config.Sound`):

* its frames are sound: what they speak of exists, and a pass at an instance's
  desk asks that instance whether to go on;
* an instance whose top-level code still runs is alive, and nobody can end it:
  it is not held, and its end is not under way;
* whoever can be ended exists.

The second is why top-level code never outlives its instance: the handle to end
an instance with is given out when the top-level code is over.

`Frame.Heir` says which frames a step can put in the place of a frame.
-/

namespace ScriptHost

variable {D : Dialect}

/-- Whom a frame is about to end, or to give back to those who can end it. -/
def Frame.ends? : Frame D → Option Nat
  | .ending i => some i
  | .putBack _ i => some i
  | _ => none

/-- The instances that are held, or whose end is under way. -/
def Config.endable (c : Config D) : List Nat :=
  c.world.held.map Prod.snd ++ c.stack.filterMap Frame.ends?

/-- The stack is in order. -/
structure Config.Sound (c : Config D) : Prop where
  frames : ∀ f ∈ c.stack, f.Sound c.world
  entries : ∀ i code, .entry i code ∈ c.stack → c.world.isAlive i = true ∧ i ∉ c.endable
  endable : ∀ i ∈ c.endable, i < c.world.instances.length

/-- What may stand in the place of a frame after a step. -/
inductive Frame.Heir (w : World D) (f : Frame D) : Frame D → Prop
  | emission {n : Nat} {event : Event} {rest : List (Listener D)}
      (h : rest = w.hub.listeners event.kind ∨ ∃ l, f = .emission n event (l :: rest)) :
      Heir w f (.emission n event rest)
  | pass {desk : Desk} {kind : EventKind} {args : Args} {pulse : Pulse D}
      {queue : List (Task D)} {n : Nat} (h : ∀ i, desk = .script i → pulse = .script i) :
      Heir w f (.pass desk kind args pulse queue n)
  | callback (i : Nat) (kind : EventKind) (args : Args) : Heir w f (.callback i kind args)
  | coroutine {desk : Desk} {s : Nat} {code : Code D (Except ScriptError (Yield D))}
      (h : ∀ i, desk = .script i → i < w.instances.length) : Heir w f (.coroutine desk s code)
  | call {i : Nat} {kind : EventKind} {code : Code D (Except ScriptError (Outcome D))}
      (h : i < w.instances.length) : Heir w f (.call i kind code)
  | handler (code : Code D Unit) : Heir w f (.handler code)
  | entry {i : Nat} {code code' : EntryCode D} (h : f = .entry i code) : Heir w f (.entry i code')
  | ending {i : Nat} (h : i ∈ w.held.map Prod.snd) : Heir w f (.ending i)
  | putBack {name : String} {i : Nat} (h : i ∈ w.held.map Prod.snd) : Heir w f (.putBack name i)

namespace World

/-! ## Who is held

Only ending an instance by its name, and putting one back, change who is held. -/

/-- Tables have nothing to do with who is held. -/
@[simp] theorem held_modifySubscriptions (w : World D) (desk : Desk)
    (f : Subscriptions D → Subscriptions D) : (w.modifySubscriptions desk f).held = w.held := by
  cases desk <;> rfl

/-- Who leaves a desk has nothing to do with who is held. -/
@[simp] theorem held_recordLeft (w : World D) (desk : Desk) (why : Farewell)
    (serials : List Nat) : (w.recordLeft desk why serials).held = w.held :=
  recordLeft_congr (f := World.held) (fun _ _ => rfl) w serials

@[simp] theorem held_log (w : World D) (n : Notice) : (w.log n).held = w.held :=
  rfl

/-- What is written down has nothing to do with who is held. -/
@[simp] theorem held_record (w : World D) (h : Happening D) : (w.record h).held = w.held :=
  rfl

/-- A pass that is over lets go of nobody. -/
@[simp] theorem held_endPass (w : World D) (desk : Desk) (kind : EventKind) (resumed : Nat) :
    (w.endPass desk kind resumed).held = w.held :=
  endPass_congr (f := World.held) (fun _ _ => rfl) (fun _ => rfl) w

/-- Clearing a table lets go of nobody. -/
@[simp] theorem held_clear (w : World D) (desk : Desk) : (w.clear desk).held = w.held := by
  simp [clear]

/-- Handing a coroutine over holds no instance. -/
@[simp] theorem held_accept (w : World D) (desk : Desk) (routine : D.Coroutine) :
    (w.accept desk routine).2.held = w.held := by
  simp [accept]

/-- A coroutine that waits holds no instance. -/
@[simp] theorem held_park (w : World D) (desk : Desk) (kind : EventKind) (task : Task D) :
    (w.park desk kind task).held = w.held := by
  simp [park]

/-- Starting a coroutine holds no instance. -/
@[simp] theorem held_start (I : Interpreter D) (w : World D) (desk : Desk)
    (routine : D.Coroutine) : (w.start I desk routine).1.held = w.held := by
  simp [start, resume]

/-- A coroutine that gives control back lets go of nobody. -/
@[simp] theorem held_concludeCoroutine (w : World D) (desk : Desk) (s : Nat)
    (r : Except ScriptError (Yield D)) : (w.concludeCoroutine desk s r).held = w.held := by
  cases r with
  | error e => cases e <;> rfl
  | ok y =>
    cases y with
    | finished => rfl
    | await request rest =>
      simp only [concludeCoroutine]
      split
      · exact held_park w desk _ _
      · rfl

/-- Whoever is held stays held when a listener is taken off. -/
theorem held_unlisten {w w' : World D} {id : ListenerId} (h : w.unlisten id = .ok w') :
    w'.held = w.held :=
  unlisten_congr (f := World.held) (fun _ _ => rfl) (fun _ _ => rfl) h

/-- Whoever is held stays held when listeners are taken off. -/
@[simp] theorem held_detachAll (w : World D) (id : ScriptId) (listeners : List ListenerId) :
    (w.detachAll id listeners).held = w.held :=
  detachAll_congr (f := World.held) (fun _ _ => rfl) (fun _ _ => rfl) w id listeners

/-- An instance that has ended may still be held. -/
@[simp] theorem held_finishEnding (w : World D) (i : Nat) : (w.finishEnding i).held = w.held := by
  unfold finishEnding
  split
  · rfl
  · simp [modifyInstance]

/-- An end that begins lets go of nobody: the act that asked for it has. -/
@[simp] theorem held_beginEnding (w : World D) (i : Nat) : (w.beginEnding i).1.held = w.held := by
  unfold beginEnding
  split
  · rfl
  · split <;> rfl

/-- An instance comes into being without being held. -/
@[simp] theorem held_beginLife (w : World D) (id : ScriptId) (path : Path) (detached : Bool) :
    (w.beginLife id path detached).held = w.held := by
  suffices h : ∀ (kinds : List EventKind) (w : World D) (i : Nat),
      (w.attach i kinds).held = w.held from h _ _ _
  intro kinds
  induction kinds with
  | nil => exact fun _ _ => rfl
  | cons kind rest ih => exact fun w i => ih _ i

/-- Delivering an event lets go of nobody. -/
@[simp] theorem held_deliver (w : World D) (i : Nat) (event : Event) :
    (w.deliver i event).1.held = w.held := by
  unfold deliver
  split
  · rfl
  · split
    · rfl
    · split
      · rfl
      · simp [beginPass]

@[simp] theorem held_logClosed (w : World D) (desk : Desk) (n : ScriptId → ScriptNotice) :
    (w.logClosed desk n).held = w.held := by
  unfold logClosed
  split
  · split <;> rfl
  · rfl

/-- Callbacks have nothing to do with who is held. -/
@[simp] theorem held_setCallback (w : World D) (callable : D.Callback → Bool) (i : Nat)
    (kind : EventKind) (callback : Option D.Callback) :
    (w.setCallback callable i kind callback).2.held = w.held := by
  unfold setCallback
  split
  · rfl
  · split
    · rfl
    · simp only
      split <;> rfl

/-- Deferred requests have nothing to do with who is held. -/
@[simp] theorem held_request (w : World D) (i : Nat) (kind : RequestKind) (path : Path) :
    (w.request i kind path).held = w.held := by
  unfold request
  split
  · split <;> rfl
  · rfl

/-- An act holds nobody who was not held. -/
theorem held_act (I : Interpreter D) (w : World D) (a : Act D) :
    (w.act I a).2.1.held ⊆ w.held := by
  cases a with
  | unlisten id =>
    cases h : w.unlisten id with
    | ok w' => simp [act, h, held_unlisten h]
    | error e => simp [act, h]
  | terminate name =>
    cases h : w.held.lookup name with
    | none => simp [act, h]
    | some i =>
      simp only [act, h, held_beginEnding]
      exact List.filter_sublist.subset
  | awaitNext desk kind routine =>
    simp only [act, awaitNext]
    split <;> simp
  | schedule desk request routine =>
    simp only [act, schedule]
    split
    · split <;> simp
    · simp
  | spawn desk routine =>
    simp only [act]
    split <;> simp
  | on i event callback =>
    simp only [act]
    split <;> simp
  | requestStopSelf i =>
    simp only [act]
    split <;> simp
  | identity i =>
    simp only [act]
    split <;> simp
  | notify n kind args test => simp [act, beginPass]
  | emit | listen | shutdown | awaiting | setCallback | clearCallbacks | reset | request
  | resumed => simp [act, beginEmission, enlist, sendShutdown]

/-! ## What a step puts on the stack -/

/-- A new coroutine runs at a desk of somebody who exists. -/
theorem heir_start (I : Interpreter D) {w : World D} (f : Frame D) {desk : Desk}
    (routine : D.Coroutine) (h : ∀ i, desk = .script i → i < w.instances.length) :
    f.Heir w (w.start I desk routine).2 :=
  .coroutine h

/-- Whoever is ended was held: the frames of the end go back to that. -/
theorem heir_beginEnding (w : World D) (f : Frame D) {i : Nat} (h : i ∈ w.held.map Prod.snd)
    {w' : World D} (hhub : w'.hub = w.hub) {g : Frame D} (hg : g ∈ (w'.beginEnding i).2) :
    f.Heir w g := by
  unfold beginEnding at hg
  split at hg
  · simp at hg
  · split at hg
    · rcases List.mem_pair.mp hg with rfl | rfl
      · exact .emission (Or.inl (by rw [← hhub]; rfl))
      · exact .ending h
    · simp at hg

/-- What an act starts goes back to the frame it was done in, or to who is held. -/
theorem heir_act (I : Interpreter D) (w : World D) (a : Act D) (f : Frame D) {g : Frame D}
    (hg : g ∈ (w.act I a).2.2) : f.Heir w g := by
  cases a with
  | emit event =>
    obtain rfl := List.mem_singleton.mp hg
    exact .emission (Or.inl rfl)
  | terminate name =>
    cases h : w.held.lookup name with
    | none => simp [act, h] at hg
    | some i =>
      have hi : i ∈ w.held.map Prod.snd := by
        obtain ⟨l₁, l₂, hl, -⟩ := List.lookup_eq_some_iff.mp h
        simp [hl]
      simp only [act, h, List.mem_append, List.mem_singleton] at hg
      rcases hg with hg | rfl
      · have hhub : (w.takeHeld name).hub = w.hub := rfl
        exact heir_beginEnding w f hi hhub hg
      · exact .putBack hi
  | spawn desk routine =>
    simp only [act] at hg
    split at hg
    · next hopen =>
      obtain rfl := List.mem_singleton.mp hg
      exact heir_start I f routine fun i hi => lt_of_isOpen (hi ▸ hopen)
    · simp at hg
  | unlisten id => cases h : w.unlisten id <;> simp [act, h] at hg
  | on i event callback => cases h : resolveKind event <;> simp [act, h] at hg
  | requestStopSelf i => cases h : w.instance? i <;> simp [act, h] at hg
  | identity i => cases h : w.instance? i <;> simp [act, h] at hg
  | notify n kind args test =>
    obtain rfl := List.mem_singleton.mp hg
    exact .pass fun i hi => by cases hi
  | listen | shutdown | awaitNext | schedule | awaiting | setCallback | clearCallbacks | reset
  | request | resumed => simp [act] at hg

/-- What a delivery starts goes back to the emission. -/
theorem heir_deliver (w : World D) (i : Nat) (event : Event) (f : Frame D) {w' : World D}
    {g : Frame D} (hg : g ∈ (w'.deliver i event).2) : f.Heir w g := by
  unfold deliver at hg
  split at hg
  · simp at hg
  · split at hg
    · simp at hg
    · split at hg
      · simp at hg
      · rcases List.mem_pair.mp hg with rfl | rfl
        · exact .pass fun j hj => by rw [Desk.script.inj hj]
        · exact .callback _ _ _

end World

/-- What a step of code that goes on puts on the stack. -/
theorem Code.heir_progress {I : Interpreter D} {α : Type} {w w' : World D}
    {code code' : Code D α} {started : List (Frame D)}
    (h : code.progress I w = .goesOn code' w' started) (f : Frame D) {g : Frame D}
    (hg : g ∈ started) : f.Heir w g := by
  cases code with
  | act a k =>
    obtain ⟨-, -, rfl⟩ : _ ∧ _ ∧ (w.act I a).2.2 = started := by simpa [Code.progress] using h
    exact World.heir_act I w a f hg
  | ret | read | write | remark | log => simp_all [Code.progress]

/-- Code that goes on may give a name up, and never takes one. -/
theorem Code.held_progress {I : Interpreter D} {α : Type} {w w' : World D}
    {code code' : Code D α} {started : List (Frame D)}
    (h : code.progress I w = .goesOn code' w' started) : w'.held ⊆ w.held := by
  cases code with
  | act a k =>
    obtain ⟨-, rfl, -⟩ : _ ∧ (w.act I a).2.1 = w' ∧ _ := by simpa [Code.progress] using h
    exact World.held_act I w a
  | ret a => simp [Code.progress] at h
  | read | write | remark | log =>
    obtain ⟨-, rfl, -⟩ : _ ∧ _ = w' ∧ _ := by simpa [Code.progress] using h
    exact List.Subset.refl _

namespace Frame

variable (I : Interpreter D)

/-- **What a step puts on the stack.** -/
theorem heir_advance {w : World D} {f : Frame D} (hf : f.Sound w) {g : Frame D}
    (hg : g ∈ (f.advance I w).2) : f.Heir w g := by
  cases f with
  | emission n event listeners =>
    cases listeners with
    | nil => simp [advance] at hg
    | cons l rest =>
      simp only [advance] at hg
      split at hg
      · rcases List.mem_pair.mp hg with rfl | rfl
        · exact .handler _
        · exact .emission (Or.inr ⟨l, rfl⟩)
      · rcases List.mem_append.mp hg with hg | hg
        · exact World.heir_deliver w _ event _ hg
        · obtain rfl := List.mem_singleton.mp hg
          exact .emission (Or.inr ⟨l, rfl⟩)
  | pass desk kind args pulse queue n =>
    have hpulse : ∀ i, desk = .script i → pulse = .script i := by
      rintro i rfl
      exact hf
    cases queue with
    | nil => simp [advance] at hg
    | cons task queue =>
      simp only [advance] at hg
      split at hg
      · next hbeats =>
        rcases List.mem_pair.mp hg with rfl | rfl
        · refine .coroutine fun i hi => ?_
          obtain rfl := hpulse i hi
          exact World.lt_of_isAlive hbeats
        · exact .pass hpulse
      · simp at hg
  | callback j kind args =>
    simp only [advance] at hg
    split at hg
    · next halive _ =>
      obtain rfl := List.mem_singleton.mp hg
      exact .call (World.lt_of_isAlive halive)
    · simp at hg
  | coroutine desk serial code =>
    cases hcode : code.progress I w with
    | «over» r => simp [advance, hcode] at hg
    | goesOn code' w' started =>
      simp only [advance, hcode, List.mem_append, List.mem_singleton] at hg
      rcases hg with hg | rfl
      · exact Code.heir_progress hcode _ hg
      · refine .coroutine fun i hi => ?_
        subst hi
        exact hf
  | call j kind code =>
    cases hcode : code.progress I w with
    | «over» r =>
      cases r with
      | error e =>
        simp only [advance, hcode] at hg
        split at hg <;> simp at hg
      | ok outcome =>
        cases outcome with
        | done => simp [advance, hcode] at hg
        | spawn routine =>
          simp only [advance, hcode, List.mem_singleton] at hg
          subst hg
          refine World.heir_start I _ routine fun i hi => ?_
          obtain rfl := Desk.script.inj hi
          exact hf
    | goesOn code' w' started =>
      simp only [advance, hcode, List.mem_append, List.mem_singleton] at hg
      rcases hg with hg | rfl
      · exact Code.heir_progress hcode _ hg
      · exact .call hf
  | handler code =>
    cases hcode : code.progress I w with
    | «over» r => simp [advance, hcode] at hg
    | goesOn code' w' started =>
      simp only [advance, hcode, List.mem_append, List.mem_singleton] at hg
      rcases hg with hg | rfl
      · exact Code.heir_progress hcode _ hg
      · exact .handler _
  | entry j code =>
    cases hcode : code.progress I w with
    | «over» r =>
      cases r with
      | error e =>
        simp only [advance, hcode] at hg
        split at hg <;> simp at hg
      | ok main =>
        cases main with
        | none => simp [advance, hcode] at hg
        | some routine =>
          simp only [advance, hcode, List.mem_singleton] at hg
          subst hg
          refine World.heir_start I _ routine fun i hi => ?_
          obtain rfl := Desk.script.inj hi
          exact hf
    | goesOn code' w' started =>
      simp only [advance, hcode, List.mem_append, List.mem_singleton] at hg
      rcases hg with hg | rfl
      · exact Code.heir_progress hcode _ hg
      · exact .entry rfl
  | settle | ending | putBack => simp [advance] at hg

/-- A step holds nobody who was not held, unless its frame puts somebody back. -/
theorem held_advance (w : World D) (f : Frame D) {i : Nat}
    (hi : i ∈ (f.advance I w).1.held.map Prod.snd) :
    i ∈ w.held.map Prod.snd ∨ f.ends? = some i := by
  have same : ∀ {v : World D}, v.held ⊆ w.held → i ∈ v.held.map Prod.snd →
      i ∈ w.held.map Prod.snd ∨ f.ends? = some i :=
    fun h hi => Or.inl (List.map_subset _ h hi)
  cases f with
  | emission n event listeners =>
    cases listeners with
    | nil => exact Or.inl hi
    | cons l rest =>
      simp only [advance] at hi
      split at hi
      · exact Or.inl hi
      · exact Or.inl (by simpa using hi)
  | pass desk kind args pulse queue n =>
    cases queue with
    | nil => exact Or.inl (by simpa [advance] using hi)
    | cons task queue =>
      simp only [advance] at hi
      split at hi
      · exact Or.inl hi
      · exact Or.inl (by simpa using hi)
  | callback j kind args =>
    simp only [advance] at hi
    split at hi <;> exact Or.inl hi
  | coroutine desk serial code =>
    cases hcode : code.progress I w with
    | «over» r => exact Or.inl (by simpa [advance, hcode] using hi)
    | goesOn code' w' started =>
      simp only [advance, hcode] at hi
      exact same (Code.held_progress hcode) hi
  | call j kind code =>
    cases hcode : code.progress I w with
    | «over» r =>
      cases r with
      | error e =>
        simp only [advance, hcode] at hi
        split at hi <;> exact Or.inl hi
      | ok outcome =>
        cases outcome with
        | done => exact Or.inl (by simpa [advance, hcode] using hi)
        | spawn routine => exact Or.inl (by simpa [advance, hcode] using hi)
    | goesOn code' w' started =>
      simp only [advance, hcode] at hi
      exact same (Code.held_progress hcode) hi
  | handler code =>
    cases hcode : code.progress I w with
    | «over» r => exact Or.inl (by simpa [advance, hcode] using hi)
    | goesOn code' w' started =>
      simp only [advance, hcode] at hi
      exact same (Code.held_progress hcode) hi
  | entry j code =>
    cases hcode : code.progress I w with
    | «over» r =>
      cases r with
      | error e =>
        simp only [advance, hcode] at hi
        split at hi <;> exact Or.inl hi
      | ok main =>
        cases main with
        | none => exact Or.inl (by simpa [advance, hcode] using hi)
        | some routine => exact Or.inl (by simpa [advance, hcode] using hi)
    | goesOn code' w' started =>
      simp only [advance, hcode] at hi
      exact same (Code.held_progress hcode) hi
  | settle j => exact Or.inl hi
  | ending j => exact Or.inl (by simpa [advance] using hi)
  | putBack name j =>
    simp only [advance, World.hold, World.takeHeld, List.map_append, List.mem_append] at hi
    rcases hi with hi | hi
    · exact same (v := w.takeHeld name) List.filter_sublist.subset hi
    · exact Or.inr (by simpa [ends?] using (List.mem_singleton.mp hi).symm)

/-- What may stand in the place of a sound frame is sound. -/
theorem Heir.sound {w : World D} {f g : Frame D} (h : f.Heir w g) (hf : f.Sound w) :
    g.Sound w := by
  cases h with
  | @pass desk _ _ _ _ _ h =>
    cases desk with
    | script i => exact h i rfl
    | bench n => trivial
  | @coroutine desk _ _ h =>
    cases desk with
    | script i => exact h i rfl
    | bench n => trivial
  | call h => exact h
  | emission | callback | handler | ending | putBack => trivial
  | entry h =>
    subst h
    exact hf

/-- Frames stay sound while nobody who exists vanishes. -/
theorem Sound.mono {w w' : World D} {f : Frame D} (h : f.Sound w)
    (hle : ∀ i, i < w.instances.length → i < w'.instances.length) : f.Sound w' := by
  cases f with
  | pass desk => cases desk <;> exact h
  | coroutine desk =>
    cases desk with
    | script i => exact hle i h
    | bench n => trivial
  | call i => exact hle i h
  | entry i => exact hle i h
  | emission | callback | handler | settle | ending | putBack => trivial

end Frame

namespace Account

/-- Whoever has come into being does not vanish. -/
theorem Step.state_ne_none {i : Nat} {a b : Account D} {δ : Deed D} (h : Step i a δ b)
    (ha : a.state ≠ none) : b.state ≠ none := by
  cases h <;> simp_all [Standing.cleared]

/-- Only a completed end makes an instance count as ended. -/
theorem Step.isAlive {i : Nat} {a b : Account D} {δ : Deed D} (h : Step i a δ b)
    (ha : a.isAlive = true) (hδ : δ ≠ .ending) : b.isAlive = true := by
  cases h <;> simp_all [Standing.isAlive, Standing.cleared]

end Account

namespace Config

variable {I : Interpreter D}

/-- Whoever has a state has a place. -/
theorem lt_of_state {c : Config D} {i : Nat} (h : (c.account i).state ≠ none) :
    i < c.world.instances.length := by
  cases hx : c.world.instance? i with
  | none => simp [account, World.standing, hx] at h
  | some x => exact World.lt_of_instance? hx

/-- Whoever is there stays there. -/
theorem Move.lt {c c' : Config D} (hs : c.Sound) (h : c.Move I c') {i : Nat}
    (hi : i < c.world.instances.length) : i < c'.world.instances.length := by
  obtain ⟨δ, -, hstep⟩ := h.deed hs.frames i
  exact lt_of_state (hstep.state_ne_none (state_account_ne_none hi))

/-- A step gives nobody's end away. -/
theorem endable_step {w : World D} {f : Frame D} {rest : List (Frame D)} (hf : f.Sound w)
    {i : Nat}
    (hi : i ∈ (⟨(f.advance I w).1, (f.advance I w).2 ++ rest⟩ : Config D).endable) :
    i ∈ (⟨w, f :: rest⟩ : Config D).endable := by
  simp only [endable, List.filterMap_append, List.mem_append] at hi
  rcases hi with hi | hi | hi
  · rcases f.held_advance I w hi with hi | hi
    · exact List.mem_append_left _ hi
    · exact List.mem_append_right _ (List.mem_filterMap.mpr ⟨f, List.mem_cons_self, hi⟩)
  · obtain ⟨g, hg, hgi⟩ := List.mem_filterMap.mp hi
    cases Frame.heir_advance I hf hg with
    | ending h =>
      obtain rfl := Option.some.inj hgi
      exact List.mem_append_left _ h
    | putBack h =>
      obtain rfl := Option.some.inj hgi
      exact List.mem_append_left _ h
    | emission | pass | callback | coroutine | call | handler | entry => simp [Frame.ends?] at hgi
  · obtain ⟨g, hg, hgi⟩ := List.mem_filterMap.mp hi
    exact List.mem_append_right _ (List.mem_filterMap.mpr ⟨g, List.mem_cons_of_mem f hg, hgi⟩)

/-- A step keeps the stack in order. -/
theorem Sound.step {w : World D} {f : Frame D} {rest : List (Frame D)}
    (hs : (⟨w, f :: rest⟩ : Config D).Sound) :
    (⟨(f.advance I w).1, (f.advance I w).2 ++ rest⟩ : Config D).Sound := by
  have hf : f.Sound w := hs.frames f List.mem_cons_self
  have hmove : Move I ⟨w, f :: rest⟩ ⟨(f.advance I w).1, (f.advance I w).2 ++ rest⟩ := .step rfl
  have hlt : ∀ i, i < w.instances.length → i < (f.advance I w).1.instances.length :=
    fun i hi => hmove.lt hs hi
  refine ⟨?_, ?_, ?_⟩
  · intro g hg
    rcases List.mem_append.mp hg with hg | hg
    · exact ((Frame.heir_advance I hf hg).sound hf).mono hlt
    · exact (hs.frames g (List.mem_cons_of_mem f hg)).mono hlt
  · intro i code hcode
    obtain ⟨code', hcode'⟩ : ∃ code', Frame.entry i code' ∈ f :: rest := by
      rcases List.mem_append.mp hcode with hg | hg
      · cases Frame.heir_advance I hf hg with
        | entry h =>
          rw [h]
          exact ⟨_, List.mem_cons_self⟩
      · exact ⟨code, List.mem_cons_of_mem f hg⟩
    obtain ⟨halive, hfree⟩ := hs.entries i code' hcode'
    refine ⟨?_, fun hi => hfree (endable_step hf hi)⟩
    obtain ⟨δ, hδ, hstep⟩ := hmove.deed hs.frames i
    have hending : δ ≠ .ending := by
      rintro rfl
      rcases hδ with h | h | ⟨g, rest', hstack, hg⟩
      · cases h
      · cases h
      · cases hg with
        | act _ ha => cases ha
        | ending =>
          refine hfree (List.mem_append_right _ (List.mem_filterMap.mpr ⟨.ending i, ?_, rfl⟩))
          exact hstack ▸ List.mem_cons_self
    have := hstep.isAlive (by rw [isAlive_account]; exact halive) hending
    rwa [isAlive_account] at this
  · exact fun i hi => hlt i (hs.endable i (endable_step hf hi))

/-- What the host does of its own accord keeps the stack in order. -/
theorem Sound.host {w w' : World D} {started : List (Frame D)}
    (hs : (⟨w, []⟩ : Config D).Sound) (h : Initiative w w' started) :
    (⟨w', started⟩ : Config D).Sound := by
  have hheld : ∀ i ∈ w.held.map Prod.snd, i < w.instances.length :=
    fun i hi => hs.endable i (List.mem_append_left _ hi)
  cases h with
  | code code =>
    refine ⟨?_, ?_, ?_⟩
    · simp [Frame.Sound]
    · simp
    · intro i hi
      exact hheld i (by simpa [Config.endable, Frame.ends?, List.filterMap_cons] using hi)
  | spawn id path detached code =>
    have hfree : ∀ i ∈ (⟨w.beginLife id path detached, [.entry w.instances.length code,
        .settle w.instances.length]⟩ : Config D).endable, i < w.instances.length := by
      intro i hi
      exact hheld i (by simpa [Config.endable, Frame.ends?, List.filterMap_cons] using hi)
    refine ⟨?_, ?_, ?_⟩
    · simp [Frame.Sound]
    · intro i code' hcode
      obtain ⟨rfl, -⟩ : i = w.instances.length ∧ code' = code := by simpa using hcode
      refine ⟨?_, fun hi => Nat.lt_irrefl _ (hfree _ hi)⟩
      rw [← World.isAlive_standing, World.standing_beginLife]
      rfl
    · intro i hi
      have := hfree i hi
      simp only [World.length_beginLife]
      omega
  | terminate i =>
    unfold World.beginEnding
    split
    · exact hs
    · next x hx =>
      split
      · have hi : i < w.instances.length := World.lt_of_instance? hx
        refine ⟨by simp [Frame.Sound, World.beginEmission], by simp [World.beginEmission], ?_⟩
        intro j hj
        simp only [Config.endable, World.beginEmission, List.filterMap_cons, Frame.ends?,
          List.mem_append, List.filterMap_nil, List.mem_singleton] at hj
        rcases hj with hj | rfl
        · exact hheld j hj
        · exact hi
      · exact hs
  | notify n kind args pulse =>
    refine ⟨?_, ?_, ?_⟩
    · simp [Frame.Sound, World.beginPass]
    · simp [World.beginPass]
    · intro i hi
      exact hheld i
        (by simpa [Config.endable, Frame.ends?, World.beginPass, List.filterMap_cons] using hi)
  | hold name i hi =>
    refine ⟨by simp, by simp, ?_⟩
    intro j hj
    simp only [Config.endable, World.hold, World.takeHeld, List.map_append, List.filterMap_nil,
      List.append_nil, List.mem_append] at hj
    rcases hj with hj | hj
    · exact hheld j (List.map_subset _ List.filter_sublist.subset hj)
    · obtain rfl : j = i := by simpa using hj
      exact hi
  | takeHeld name =>
    refine ⟨by simp, by simp, ?_⟩
    intro j hj
    simp only [Config.endable, World.takeHeld, List.filterMap_nil, List.append_nil] at hj
    exact hheld j (List.map_subset _ List.filter_sublist.subset hj)
  | addBench | setRequests | setShutdown =>
    refine ⟨by simp, by simp, fun i hi => hheld i ?_⟩
    simpa [Config.endable, World.addBench] using hi

/-- **A move keeps the stack in order.** -/
theorem Sound.move {c c' : Config D} (hs : c.Sound) (h : c.Move I c') : c'.Sound := by
  obtain ⟨w, stack⟩ := c
  rcases h.cases with ⟨f, rest, hstack, rfl⟩ | ⟨hstack, hinit⟩
  · obtain rfl : stack = f :: rest := hstack
    exact hs.step
  · obtain rfl : stack = [] := hstack
    exact hs.host hinit

/-- **The stack is in order in every run.** -/
theorem Reachable.sound {c : Config D} (h : c.Reachable I) : c.Sound := by
  refine h.induction (fun memory => ?_) fun c c' _ hs hmove => hs.move hmove
  refine ⟨?_, ?_, ?_⟩ <;> simp [World.new, endable]

/-- **A move of a run does one deed to an instance.** -/
theorem Reachable.deed {c c' : Config D} (hc : c.Reachable I) (h : c.Move I c') (i : Nat) :
    ∃ δ, (δ = .nothing ∨ δ = .birth ∨ ∃ f rest, c.stack = f :: rest ∧ f.Brings i δ) ∧
      Account.Step i (c.account i) δ (c'.account i) :=
  h.deed hc.sound.frames i

end Config

end ScriptHost
