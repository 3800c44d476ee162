import ScriptHost.Proofs.Muteness

/-!
# Code that keeps the tables apart

Script code is **polite** towards a quiet instance if all it does is discreet: it hands
over at every desk what may come there.  An interpreter is **courteous** if all its code
is, and if every coroutine goes on as one that may stay where it is.  Where the interpreter
is courteous and the host starts nothing but polite code, the tables are apart in every
world that a run comes to.

* `QuietInstance.fit_advance` — a step of a fit activity leaves fit ones;
* `QuietInstance.Apart.initiative` — the host on its own;
* `QuietInstance.Courteous.apart` — every run.
-/

namespace ScriptHost

variable {D : Dialect} {α : Type}

namespace QuietInstance

variable (Q : QuietInstance D)

/-- Code that acts discreetly. -/
inductive Polite (P : α → Prop) : Code D α → Prop
  | ret {a : α} (h : P a) : Polite P (.ret a)
  | read {k : D.Memory → Code D α} (h : ∀ m, Polite P (k m)) : Polite P (.read k)
  | write {m : D.Memory} {k : Code D α} (h : Polite P k) : Polite P (.write m k)
  | remark {r : D.Remark} {k : Code D α} (h : Polite P k) : Polite P (.remark r k)
  | log {n : Notice} {k : Code D α} (h : Polite P k) : Polite P (.log n k)
  | act {x : Act D} {k : Answer → Code D α} (hx : Q.Discreet x)
      (h : ∀ answer, Polite P (k answer)) : Polite P (.act x k)

/-- Top-level code leaves a coroutine to drive that may come to where it is. -/
def Drives (own : Prop) : Except ScriptError (Option D.Coroutine) → Prop
  | .ok (some main) => Q.Suits own main
  | _ => True

/-- An interpreter all of whose code is polite. -/
structure Courteous (I : Interpreter D) : Prop where
  resume : ∀ own routine args, Q.Suits own routine →
    Q.Polite (Q.Yields own) (I.resume routine args)
  call : ∀ own callback args, Q.SuitsCallback own callback →
    Q.Polite (Q.Produces own) (I.call callback args)
  handle : ∀ handler event, Q.Polite (fun _ => True) (I.handle handler event)

/-- An activity that keeps the tables apart. -/
def Fit : Frame D → Prop
  | .pass d _ _ _ queue _ => ∀ task ∈ queue, Q.Suits (d = Q.desk) task.routine
  | .coroutine d _ code => Q.Polite (Q.Yields (d = Q.desk)) code
  | .call i _ code => Q.Polite (Q.Produces (Desk.script i = Q.desk)) code
  | .handler code => Q.Polite (fun _ => True) code
  | .entry i code => Q.Polite (Q.Drives (Desk.script i = Q.desk)) code
  | .emission .. | .callback .. | .settle _ | .ending _ | .putBack .. => True

/-- What a run comes to in which the host starts nothing that is not fit. -/
inductive Arises (I : Interpreter D) : Config D → Prop
  | new (memory : D.Memory) : Arises I ⟨World.new memory, []⟩
  | step {c c' : Config D} (h : Arises I c) (hstep : c.step? I = some c') : Arises I c'
  | host {w w' : World D} {started : List (Frame D)} (h : Arises I ⟨w, []⟩)
      (hhost : Initiative w w' started) (hfit : ∀ f ∈ started, Q.Fit f) : Arises I ⟨w', started⟩

variable {Q} {I : Interpreter D} {w w' : World D} {P : α → Prop}

/-- What arises politely is reached. -/
theorem Arises.reachable {c : Config D} (h : Q.Arises I c) : c.Reachable I := by
  induction h with
  | new memory => exact ⟨memory, .refl⟩
  | step _ hstep ih => exact ih.move (.step hstep)
  | host _ hhost _ ih => exact ih.move (.host hhost)

/-- What arises goes on arising step after step. -/
theorem Arises.after {c : Config D} (h : Q.Arises I c) (n : Nat) : Q.Arises I (c.after I n) := by
  induction n with
  | zero => exact h
  | succ n ih =>
    unfold Config.after Config.next
    cases hstep : (c.after I n).step? I with
    | none => exact ih
    | some c' => exact ih.step hstep

theorem Arises.rest {c : Config D} (h : Q.Arises I c) (hrest : c.stack = []) :
    Q.Arises I ⟨c.world, []⟩ :=
  hrest ▸ h

/-! ## What a step does -/

/-- A coroutine that starts where it belongs is fit. -/
theorem fit_start (hI : Q.Courteous I) (hw : Q.Apart w) {d : Desk} {routine : D.Coroutine}
    (hroutine : Q.Suits (d = Q.desk) routine) :
    Q.Apart (w.start I d routine).1 ∧ Q.Fit (w.start I d routine).2 :=
  ⟨hw.accept d routine, hI.resume _ routine [] hroutine⟩

theorem fit_beginEnding (w : World D) (i : Nat) : ∀ f ∈ (w.beginEnding i).2, Q.Fit f := by
  unfold World.beginEnding
  split
  · simp
  · split
    · simp [World.beginEmission, Fit]
    · simp

/-- What an act sets off is fit. -/
theorem fit_act (hI : Q.Courteous I) (hw : Q.Apart w) {x : Act D} (hx : Q.Discreet x) :
    ∀ f ∈ (w.act I x).2.2, Q.Fit f := by
  cases x with
  | emit event => simp [World.act, World.beginEmission, Fit]
  | terminate name =>
    simp only [World.act]
    split
    · simp
    · intro f hf
      rcases List.mem_append.mp hf with hf | hf
      · exact fit_beginEnding _ _ f hf
      · exact List.mem_singleton.mp hf ▸ trivial
  | spawn d routine =>
    simp only [World.act]
    split
    · exact List.forall_mem_singleton.mpr (fit_start hI hw hx).2
    · simp
  | unlisten id =>
    simp only [World.act]
    split <;> simp
  | on i event callback =>
    simp only [World.act]
    split <;> simp
  | requestStopSelf i =>
    simp only [World.act]
    split <;> simp
  | identity i =>
    simp only [World.act]
    split <;> simp
  | notify n kind args test =>
    exact List.forall_mem_singleton.mpr (hw (.bench n) kind).2
  | listen | shutdown | awaitNext | schedule | awaiting | setCallback | clearCallbacks | reset
  | request | resumed => simp [World.act]

/-- **A step of polite code**: it has come to its result, or goes on politely. -/
theorem Polite.progress (hI : Q.Courteous I) (hw : Q.Apart w) {code : Code D α}
    (h : Q.Polite P code) :
    (∃ a, P a ∧ code.progress I w = .over a) ∨
      ∃ code' w' started, code.progress I w = .goesOn code' w' started ∧ Q.Polite P code' ∧
        Q.Apart w' ∧ ∀ f ∈ started, Q.Fit f := by
  cases h with
  | ret h => exact Or.inl ⟨_, h, rfl⟩
  | read h => exact Or.inr ⟨_, w, [], rfl, h _, hw, by simp⟩
  | write h => exact Or.inr ⟨_, _, [], rfl, h, hw, by simp⟩
  | remark h => exact Or.inr ⟨_, _, [], rfl, h, hw, by simp⟩
  | log h => exact Or.inr ⟨_, _, [], rfl, h, hw, by simp⟩
  | act hx h => exact Or.inr ⟨_, _, _, rfl, h _, hw.act I hx, fit_act hI hw hx⟩

theorem fit_deliver (hw : Q.Apart w) (i : Nat) (event : Event) :
    ∀ f ∈ (w.deliver i event).2, Q.Fit f := by
  unfold World.deliver
  split
  · simp
  · split
    · simp
    · split
      · simp
      · exact List.forall_mem_cons.mpr ⟨(hw (.script i) event.kind).2,
          List.forall_mem_singleton.mpr trivial⟩

/-- **A step of a fit activity** leaves the tables apart and fit activities. -/
theorem fit_advance (hI : Q.Courteous I) (hw : Q.Apart w) {f : Frame D} (hf : Q.Fit f) :
    Q.Apart (f.advance I w).1 ∧ ∀ g ∈ (f.advance I w).2, Q.Fit g := by
  cases f with
  | emission n event rest =>
    cases rest with
    | nil => exact ⟨hw, by simp [Frame.advance]⟩
    | cons l rest =>
      simp only [Frame.advance]
      cases l.hook with
      | host handler =>
        exact ⟨hw, List.forall_mem_cons.mpr ⟨hI.handle handler event,
          List.forall_mem_singleton.mpr trivial⟩⟩
      | script i =>
        refine ⟨(hw.record _).deliver i event, fun g hg => ?_⟩
        rcases List.mem_append.mp hg with hg | hg
        · exact fit_deliver (hw.record (.reached n l.id)) i event g hg
        · exact List.mem_singleton.mp hg ▸ trivial
  | pass d kind args pulse queue resumed =>
    cases queue with
    | nil => exact ⟨hw.endPass d kind resumed, by simp [Frame.advance]⟩
    | cons task queue =>
      obtain ⟨htask, hqueue⟩ := List.forall_mem_cons.mp hf
      have hpolite := hI.resume (d = Q.desk) task.routine args htask
      simp only [Frame.advance]
      split
      · exact ⟨hw, List.forall_mem_cons.mpr ⟨hpolite, List.forall_mem_singleton.mpr hqueue⟩⟩
      · exact ⟨((hw.log _).recordLeft _ _ _).endPass d kind resumed, by simp⟩
  | callback i kind args =>
    simp only [Frame.advance]
    split
    · next c _ hc =>
      have hpolite := hI.call (Desk.script i = Q.desk) c args ((hw (.script i) kind).1 c hc)
      exact ⟨hw, List.forall_mem_singleton.mpr hpolite⟩
    · exact ⟨hw, by simp⟩
  | coroutine d serial code =>
    rcases Polite.progress hI hw hf with ⟨r, hr, hover⟩ | ⟨code', w', s, hgoes, hcode', hw', hs⟩
    · simp only [Frame.advance, hover]
      exact ⟨hw.concludeCoroutine d serial hr, by simp⟩
    · simp only [Frame.advance, hgoes]
      exact ⟨hw', List.forall_mem_append.mpr ⟨hs, List.forall_mem_singleton.mpr hcode'⟩⟩
  | call i kind code =>
    rcases Polite.progress hI hw hf with ⟨r, hr, hover⟩ | ⟨code', w', s, hgoes, hcode', hw', hs⟩
    · simp only [Frame.advance, hover]
      cases r with
      | error e =>
        dsimp only
        split <;> exact ⟨hw, by simp⟩
      | ok outcome =>
        cases outcome with
        | done => exact ⟨hw, by simp⟩
        | spawn routine =>
          obtain ⟨hapart, hfit⟩ := fit_start hI hw hr
          exact ⟨hapart, List.forall_mem_singleton.mpr hfit⟩
    · simp only [Frame.advance, hgoes]
      exact ⟨hw', List.forall_mem_append.mpr ⟨hs, List.forall_mem_singleton.mpr hcode'⟩⟩
  | handler code =>
    rcases Polite.progress hI hw hf with ⟨r, hr, hover⟩ | ⟨code', w', s, hgoes, hcode', hw', hs⟩
    · simp only [Frame.advance, hover]
      exact ⟨hw, by simp⟩
    · simp only [Frame.advance, hgoes]
      exact ⟨hw', List.forall_mem_append.mpr ⟨hs, List.forall_mem_singleton.mpr hcode'⟩⟩
  | entry i code =>
    rcases Polite.progress hI hw hf with ⟨r, hr, hover⟩ | ⟨code', w', s, hgoes, hcode', hw', hs⟩
    · simp only [Frame.advance, hover]
      cases r with
      | error e =>
        dsimp only
        split <;> exact ⟨hw, by simp⟩
      | ok main =>
        cases main with
        | none => exact ⟨hw, by simp⟩
        | some main =>
          obtain ⟨hapart, hfit⟩ := fit_start hI hw hr
          exact ⟨hapart, List.forall_mem_singleton.mpr hfit⟩
    · simp only [Frame.advance, hgoes]
      exact ⟨hw', List.forall_mem_append.mpr ⟨hs, List.forall_mem_singleton.mpr hcode'⟩⟩
  | settle i =>
    refine ⟨hw.modifyInstance i fun x => ?_, by simp [Frame.advance]⟩
    split <;> rfl
  | ending i => exact ⟨hw.finishEnding i, by simp [Frame.advance]⟩
  | putBack name i => exact ⟨hw, by simp [Frame.advance]⟩

/-! ## Every run -/

/-- In a new world nobody is anywhere. -/
theorem Apart.new (memory : D.Memory) : Q.Apart (World.new memory) := by
  intro d
  cases d <;> exact .empty

/-- Registering for events takes nobody from one desk to another. -/
theorem Apart.attach (hw : Q.Apart w) (i : Nat) (kinds : List EventKind) :
    Q.Apart (w.attach i kinds) := by
  induction kinds generalizing w with
  | nil => exact hw
  | cons kind rest ih =>
    rw [World.attach_cons]
    exact ih (Apart.modifyInstance (w := w.listen kind (.script i)) hw i fun _ => rfl)

/-- A new instance is subscribed to nothing. -/
theorem Apart.beginLife (hw : Q.Apart w) (id : ScriptId) (path : Path) (detached : Bool) :
    Q.Apart (w.beginLife id path detached) := by
  refine Apart.attach (fun d => ?_) _ _
  cases d with
  | bench n => exact hw (.bench n)
  | script i =>
    have hkeeps := hw (.script i)
    simp only [World.subscriptions, World.instance?, World.record, World.log] at hkeeps ⊢
    rw [List.getElem?_append]
    split
    · exact hkeeps
    · cases i - w.instances.length with
      | zero => exact .empty
      | succ j => exact .empty

/-- A new bench has nobody at it. -/
theorem Apart.addBench (hw : Q.Apart w) (label : String) : Q.Apart (w.addBench label) := by
  intro d
  cases d with
  | script i => exact hw (.script i)
  | bench n =>
    have hkeeps := hw (.bench n)
    simp only [World.subscriptions, World.addBench] at hkeeps ⊢
    rw [List.getElem?_append]
    split
    · exact hkeeps
    · cases n - w.benches.length with
      | zero => exact .empty
      | succ j => exact .empty

/-- **Nothing the host does on its own** mixes the tables. -/
theorem Apart.initiative (hw : Q.Apart w) {started : List (Frame D)}
    (h : Initiative w w' started) : Q.Apart w' := by
  cases h with
  | code | hold | takeHeld | setRequests | setShutdown => exact hw
  | spawn id path detached => exact hw.beginLife id path detached
  | terminate i => exact hw.beginEnding i
  | notify n kind => exact hw.modifySubscriptions (.bench n) fun _ hs => hs.drain kind
  | addBench label => exact hw.addBench label

/-- **Where the interpreter is courteous and the host starts nothing that is not fit, the
tables are apart in every world that a run comes to.** -/
theorem Courteous.apart (hI : Q.Courteous I) {c : Config D} (h : Q.Arises I c) :
    Q.Apart c.world ∧ ∀ f ∈ c.stack, Q.Fit f := by
  induction h with
  | new memory => exact ⟨.new memory, by simp⟩
  | step _ hstep ih =>
    obtain ⟨f, rest, hstack, rfl⟩ := Config.eq_advance_of_step? hstep
    obtain ⟨hapart, hfit⟩ := ih
    rw [hstack] at hfit
    obtain ⟨hf, hrest⟩ := List.forall_mem_cons.mp hfit
    obtain ⟨hapart', hfit'⟩ := fit_advance hI hapart hf
    exact ⟨hapart', List.forall_mem_append.mpr ⟨hfit', hrest⟩⟩
  | host _ hhost hfit ih => exact ⟨ih.1.initiative hhost, hfit⟩

end QuietInstance

end ScriptHost
