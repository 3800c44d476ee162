import ScriptHost.Proofs.Traces
import ScriptHost.Proofs.Muteness

/-!
# Scripts that give control back

The host waits for its scripts, and a script that never gives control back keeps it
waiting.  Where none does (`Interpreter.Calm`), every chore comes to its end; and as the
machine leaves nothing to chance, it takes just one trace there.

Calm are the scripts whose code is **modest**: it performs acts, but none that starts
something else, so nothing can go on setting itself off.

* `Chore.Trace.unique` — a chore has no other trace, and no other result;
* `Chore.exists_trace` — it has one where scripts give control back;
* `Interpreter.Modest.calm` — modest scripts do.
-/

namespace ScriptHost

variable {D : Dialect} {σ α : Type} {I : Interpreter D}

open HasWorld

namespace Config

/-- Whatever is under way comes to its end. -/
def Rests (I : Interpreter D) (c : Config D) : Prop :=
  ∃ w, c.Steps I ⟨w, []⟩

/-- The machine takes one trace until nothing is under way any more. -/
theorem Trace.unique {c c₁ c₂ : Config D} {cs₁ cs₂ : List (Config D)} (h₁ : Trace I c cs₁ c₁)
    (h₂ : Trace I c cs₂ c₂) (hrest₁ : c₁.stack = []) (hrest₂ : c₂.stack = []) :
    cs₁ = cs₂ ∧ c₁ = c₂ := by
  induction h₁ generalizing cs₂ with
  | nil c =>
    cases h₂ with
    | nil => exact ⟨rfl, rfl⟩
    | cons hstep _ => simp [step?, hrest₁] at hstep
  | cons hstep₁ _ ih =>
    cases h₂ with
    | nil => simp [step?, hrest₂] at hstep₁
    | cons hstep₂ hlater =>
      obtain rfl := Option.some.inj (hstep₁.symm.trans hstep₂)
      obtain ⟨rfl, rfl⟩ := ih hlater hrest₁
      exact ⟨rfl, rfl⟩

end Config

/-- Scripts give control back, whatever they are asked to do. -/
def Interpreter.Calm (I : Interpreter D) : Prop :=
  ∀ c : Config D, c.Reachable I → c.Rests I

/-! ## The trace of a chore -/

namespace Chore

variable [HasWorld D σ]

/-- **A chore takes one trace only**, and comes to one result. -/
theorem Trace.unique {c : Chore D σ α} {s s₁ s₂ : σ} {cs₁ cs₂ : List (Config D)} {a₁ a₂ : α}
    (h₁ : c.Trace I s cs₁ a₁ s₁) (h₂ : c.Trace I s cs₂ a₂ s₂) :
    cs₁ = cs₂ ∧ a₁ = a₂ ∧ s₁ = s₂ := by
  induction h₁ generalizing cs₂ with
  | done =>
    cases h₂ with
    | done => exact ⟨rfl, rfl, rfl⟩
  | look _ ih =>
    cases h₂ with
    | look h₂ => exact ih h₂
  | keep _ ih =>
    cases h₂ with
    | keep h₂ => exact ih h₂
  | order hobeyed₁ _ ih =>
    cases h₂ with
    | order hobeyed₂ h₂ =>
      obtain ⟨rfl, hsame⟩ := hobeyed₁.unique hobeyed₂ rfl rfl
      obtain ⟨rfl, -⟩ := Config.mk.inj hsame
      obtain ⟨rfl, rfl, rfl⟩ := ih h₂
      exact ⟨rfl, rfl, rfl⟩

/-- What an order begins, a run can come to. -/
theorem reachable_beginOrder {w : World D} (hw : (⟨w, []⟩ : Config D).Reachable I) (o : Order D) :
    (⟨(w.beginOrder o).1, (w.beginOrder o).2⟩ : Config D).Reachable I :=
  hw.move (.host (Scene.initiative_beginOrder w o))

/-- A chore leaves a world that a run can come to. -/
theorem Trace.reachable {c : Chore D σ α} {s s' : σ} {cs : List (Config D)} {a : α}
    (h : c.Trace I s cs a s') (hs : (⟨world s, []⟩ : Config D).Reachable I) :
    (⟨world s', []⟩ : Config D).Reachable I := by
  induction h with
  | done => exact hs
  | look _ ih => exact ih hs
  | keep _ ih =>
    rw [world_setWorld] at ih
    exact ih hs
  | order hobeyed _ ih =>
    rw [world_setWorld] at ih
    exact ih (hobeyed.steps.reachable_of_rest (reachable_beginOrder hs _) rfl)

/-- **Where scripts give control back, a chore comes to its end.** -/
theorem exists_trace (hcalm : I.Calm) (c : Chore D σ α) {s : σ}
    (hs : (⟨world s, []⟩ : Config D).Reachable I) : ∃ cs a s', c.Trace I s cs a s' := by
  induction c generalizing s with
  | done a => exact ⟨[], a, s, .done a s⟩
  | look k ih =>
    obtain ⟨cs, a, s', htrace⟩ := ih s hs
    exact ⟨cs, a, s', .look htrace⟩
  | keep f k ih =>
    obtain ⟨cs, a, s', htrace⟩ := ih (s := setWorld (world s) (f s)) (by rwa [world_setWorld])
    exact ⟨cs, a, s', .keep htrace⟩
  | order o k ih =>
    have hbegun := reachable_beginOrder hs o
    obtain ⟨w, hsteps⟩ := hcalm _ hbegun
    obtain ⟨cs, hobeyed⟩ := hsteps.trace
    have hover := hsteps.reachable_of_rest hbegun rfl
    obtain ⟨cs', a, s', htrace⟩ := ih (s := setWorld w s) (by rwa [world_setWorld])
    exact ⟨cs ++ cs', a, s', .order hobeyed htrace⟩

end Chore

/-! ## Modest scripts -/

/-- Whether an act is over with its answer: it starts nothing that has yet to be run. -/
def Act.isModest : Act D → Bool
  | .emit _ | .terminate _ | .spawn .. | .notify .. => false
  | _ => true

/-- Every act that code performs satisfies `P`. -/
def Code.Performs (P : Act D → Prop) : Code D α → Prop
  | .ret _ => True
  | .read k => ∀ m, (k m).Performs P
  | .write _ k | .remark _ k | .log _ k => k.Performs P
  | .act a k => P a ∧ ∀ answer, (k answer).Performs P

/-- All code performs acts of some sort. -/
theorem Code.performs_any (code : Code D α) : code.Performs fun _ => True := by
  induction code with
  | ret a => trivial
  | read k ih => exact ih
  | write m k ih | remark r k ih | log n k ih => exact ih
  | act a k ih => exact ⟨trivial, ih⟩

/-- What scripts and handlers do starts nothing else. -/
structure Interpreter.Modest (I : Interpreter D) : Prop where
  resume : ∀ routine args, (I.resume routine args).Performs (·.isModest)
  call : ∀ callback args, (I.call callback args).Performs (·.isModest)
  handle : ∀ handler event, (I.handle handler event).Performs (·.isModest)

namespace Frame

/-- Activities come to their end, in whatever world they go on. -/
def Subside (I : Interpreter D) (fs : List (Frame D)) : Prop :=
  ∀ w, Config.Rests I ⟨w, fs⟩

variable {fs gs : List (Frame D)} {f : Frame D}

/-- Where nothing is under way nothing has to subside. -/
theorem subside_nil : Subside I [] :=
  fun w => ⟨w, .refl⟩

/-- **One activity after another.** -/
theorem Subside.append (hfs : Subside I fs) (hgs : Subside I gs) : Subside I (fs ++ gs) := by
  intro w
  obtain ⟨w₁, hfirst⟩ := hfs w
  obtain ⟨w₂, hrest⟩ := hgs w₁
  exact ⟨w₂, (hfirst.above gs).trans hrest⟩

/-- A frame that subsides above others that do subsides with them. -/
theorem Subside.cons (hf : Subside I [f]) (hgs : Subside I gs) : Subside I (f :: gs) :=
  hf.append hgs

/-- An activity comes to its end if what takes its place does. -/
theorem rests_of_advance {w : World D}
    (h : Config.Rests I ⟨(f.advance I w).1, (f.advance I w).2⟩) : Config.Rests I ⟨w, [f]⟩ := by
  obtain ⟨w', hsteps⟩ := h
  have hstep : Config.step? I ⟨w, [f]⟩ = some ⟨(f.advance I w).1, (f.advance I w).2⟩ := by
    simp [Config.step?]
  exact ⟨w', hsteps.head hstep⟩

/-- What subsides after any step of a frame subsides before it. -/
theorem subside_of_advance (h : ∀ w, Subside I (f.advance I w).2) : Subside I [f] :=
  fun w => rests_of_advance (h w _)

/-- An activity that runs code comes to its end if the acts of the code do, and then what
its result sets off. -/
theorem subside_code {P : Act D → Prop} (hact : ∀ (w : World D) a, P a → Subside I (w.act I a).2.2)
    {F : Code D α → Frame D}
    (hgoes : ∀ (w : World D) code code' w' started, code.progress I w = .goesOn code' w' started →
      (F code).advance I w = (w', started ++ [F code']))
    (hover : ∀ a, Subside I [F (.ret a)]) {code : Code D α} (h : code.Performs P) :
    Subside I [F code] := by
  induction code with
  | ret a => exact hover a
  | read k ih =>
    refine subside_of_advance fun w => ?_
    rw [hgoes w _ _ _ _ rfl]
    exact ih w.memory (h w.memory)
  | write m k ih | remark r k ih | log n k ih =>
    refine subside_of_advance fun w => ?_
    rw [hgoes w _ _ _ _ rfl]
    exact ih h
  | act a k ih =>
    refine subside_of_advance fun w => ?_
    rw [hgoes w _ _ _ _ rfl]
    exact (hact w a h.1).append (ih _ (h.2 _))

/-! ### One frame after another -/

section Code

variable {P : Act D → Prop} (hact : ∀ (w : World D) a, P a → Subside I (w.act I a).2.2)

include hact

/-- A coroutine whose acts start nothing lasting subsides. -/
theorem subside_coroutine (desk : Desk) (serial : Nat)
    {code : Code D (Except ScriptError (Yield D))} (h : code.Performs P) :
    Subside I [.coroutine desk serial code] := by
  refine subside_code hact (F := .coroutine desk serial) ?_ (fun r => ?_) h
  · intro w code code' w' started hgoes
    simp only [advance, hgoes]
  · exact subside_of_advance fun w => subside_nil

/-- So does a handler of the host's own. -/
theorem subside_handler {code : Code D Unit} (h : code.Performs P) : Subside I [.handler code] := by
  refine subside_code hact (F := .handler) ?_ (fun _ => ?_) h
  · intro w code code' w' started hgoes
    simp only [advance, hgoes]
  · exact subside_of_advance fun w => subside_nil

/-- Callbacks and top-level code may return a coroutine, which is started. -/
theorem subside_call (hstart : ∀ routine args desk serial,
      Subside I [.coroutine desk serial (I.resume routine args)]) (i : Nat) (kind : EventKind)
    {code : Code D (Except ScriptError (Outcome D))} (h : code.Performs P) :
    Subside I [.call i kind code] := by
  refine subside_code hact (F := .call i kind) ?_ (fun r => ?_) h
  · intro w code code' w' started hgoes
    simp only [advance, hgoes]
  · refine subside_of_advance fun w => ?_
    cases r with
    | error e =>
      simp only [advance, Code.progress]
      split <;> exact subside_nil
    | ok outcome =>
      cases outcome with
      | done => exact subside_nil
      | spawn routine => exact hstart routine [] _ _

/-- So does top-level code, if the coroutines that it may start do. -/
theorem subside_entry (hstart : ∀ routine args desk serial,
      Subside I [.coroutine desk serial (I.resume routine args)]) (i : Nat) {code : EntryCode D}
    (h : code.Performs P) : Subside I [.entry i code] := by
  refine subside_code hact (F := .entry i) ?_ (fun r => ?_) h
  · intro w code code' w' started hgoes
    simp only [advance, hgoes]
  · refine subside_of_advance fun w => ?_
    cases r with
    | error e =>
      simp only [advance, Code.progress]
      split <;> exact subside_nil
    | ok main =>
      cases main with
      | none => exact subside_nil
      | some main => exact hstart main [] _ _

end Code

/-- A modest act is over with its answer. -/
theorem subside_of_isModest (w : World D) (a : Act D) (ha : a.isModest = true) :
    Subside I (w.act I a).2.2 := by
  have hnone : (w.act I a).2.2 = [] := by
    cases a with
    | emit | terminate | spawn | notify => cases ha
    | unlisten | on | requestStopSelf | identity =>
      simp only [World.act]
      split <;> rfl
    | _ => rfl
  rw [hnone]
  exact subside_nil

section Modest

variable (hI : I.Modest)

include hI

/-- A coroutine that is resumed. -/
theorem subside_resume (routine : D.Coroutine) (args : Args) (desk : Desk) (serial : Nat) :
    Subside I [.coroutine desk serial (I.resume routine args)] :=
  subside_coroutine subside_of_isModest desk serial (hI.resume routine args)

/-- A callback that is to be called subsides. -/
theorem subside_callback (i : Nat) (kind : EventKind) (args : Args) :
    Subside I [.callback i kind args] := by
  refine subside_of_advance fun w => ?_
  simp only [advance]
  split
  · exact subside_call subside_of_isModest (subside_resume hI) i kind (hI.call _ args)
  · exact subside_nil

/-- What waits in a queue is resumed one after another. -/
theorem subside_pass (desk : Desk) (kind : EventKind) (args : Args) (pulse : Pulse D)
    (queue : List (Task D)) (resumed : Nat) :
    Subside I [.pass desk kind args pulse queue resumed] := by
  induction queue generalizing resumed with
  | nil => exact subside_of_advance fun w => subside_nil
  | cons task queue ih =>
    refine subside_of_advance fun w => ?_
    simp only [advance]
    split
    · exact (subside_resume hI task.routine args desk _).cons (ih _)
    · exact subside_nil

/-- A delivery subsides. -/
theorem subside_deliver (w : World D) (i : Nat) (event : Event) :
    Subside I (w.deliver i event).2 := by
  unfold World.deliver
  split
  · exact subside_nil
  · split
    · exact subside_nil
    · split
      · exact subside_nil
      · exact (subside_pass hI _ _ _ _ _ _).cons (subside_callback hI i event.kind _)

/-- Listeners are called one after another. -/
theorem subside_emission (n : Nat) (event : Event) (listeners : List (Listener D)) :
    Subside I [.emission n event listeners] := by
  induction listeners with
  | nil => exact subside_of_advance fun w => subside_nil
  | cons l rest ih =>
    refine subside_of_advance fun w => ?_
    simp only [advance]
    split
    · exact (subside_handler subside_of_isModest (hI.handle _ event)).cons ih
    · exact (subside_deliver hI _ _ event).append ih

/-- The end of an instance subsides. -/
theorem subside_beginEnding (w : World D) (i : Nat) : Subside I (w.beginEnding i).2 := by
  unfold World.beginEnding
  split
  · exact subside_nil
  · split
    · exact (subside_emission hI _ _ _).cons (subside_of_advance fun w => subside_nil)
    · exact subside_nil

/-- Whatever an act starts comes to its end. -/
theorem subside_act (w : World D) (a : Act D) : Subside I (w.act I a).2.2 := by
  by_cases ha : a.isModest = true
  · exact subside_of_isModest w a ha
  · cases a with
    | emit event => exact subside_emission hI _ event _
    | terminate name =>
      simp only [World.act]
      split
      · exact subside_nil
      · exact (subside_beginEnding hI _ _).append (subside_of_advance fun w => subside_nil)
    | spawn desk routine =>
      simp only [World.act]
      split
      · exact subside_resume hI routine [] desk _
      · exact subside_nil
    | notify n kind args test => exact subside_pass hI (.bench n) kind args (.glance test) _ 0
    | _ => exact absurd rfl ha

/-- **Every activity comes to its end**, also code of the host's own and the top-level code
of scripts, which may perform any act. -/
theorem subside (f : Frame D) : Subside I [f] := by
  have hact : ∀ (w : World D) (a : Act D), True → Subside I (w.act I a).2.2 :=
    fun w a _ => subside_act hI w a
  cases f with
  | emission n event listeners => exact subside_emission hI n event listeners
  | pass desk kind args pulse queue resumed =>
    exact subside_pass hI desk kind args pulse queue resumed
  | callback i kind args => exact subside_callback hI i kind args
  | coroutine desk serial code => exact subside_coroutine hact desk serial code.performs_any
  | call i kind code => exact subside_call hact (subside_resume hI) i kind code.performs_any
  | handler code => exact subside_handler hact code.performs_any
  | entry i code => exact subside_entry hact (subside_resume hI) i code.performs_any
  | settle | ending | putBack => exact subside_of_advance fun w => subside_nil

end Modest

end Frame

/-- **Modest scripts give control back.** -/
theorem Interpreter.Modest.calm (hI : I.Modest) : I.Calm := by
  have hall : ∀ fs : List (Frame D), Frame.Subside I fs := by
    intro fs
    induction fs with
    | nil => exact Frame.subside_nil
    | cons f rest ih => exact (Frame.subside hI f).cons ih
  exact fun c _ => hall c.stack c.world

/-! ## A small calm session -/

namespace Specimen

/-- The same language, but for its callback, which does nothing. -/
def calmly : Interpreter dialect :=
  { interpreter with call := fun _ _ => .ret (.ok .done) }

theorem calm_calmly : calmly.Calm :=
  Interpreter.Modest.calm ⟨fun _ _ => trivial, fun _ _ => trivial, fun h => h.elim⟩

/-- Operations are carried out one after another. -/
def carryOut : List Operation → Session dialect → Option (Session dialect)
  | [], s => some s
  | op :: ops, s => (op.chore.run calmly s).bind fun done => carryOut ops done.2

/-- What they make of a session that has been set up. -/
def calmSession (concurrent : Bool) (ops : List Operation) : Session dialect :=
  (carryOut ops (opening concurrent).session).getD (opening concurrent).session

/-- What comes of operations in turn can come about. -/
theorem reachable_carryOut {concurrent : Bool} {ops : List Operation} {s s' : Session dialect}
    (h : Scene.Reachable calmly concurrent ⟨s, [], .done ()⟩) (hdone : carryOut ops s = some s') :
    Scene.Reachable calmly concurrent ⟨s', [], .done ()⟩ := by
  induction ops generalizing s with
  | nil =>
    obtain rfl := Option.some.inj hdone
    exact h
  | cons op ops ih =>
    obtain ⟨⟨u, s₁⟩, hrun, hrest⟩ := Option.bind_eq_some_iff.mp hdone
    obtain ⟨x₀, hbegins, hruns⟩ := h
    exact ih ⟨x₀, hbegins, hruns.trans (Scene.runs_of_operation hrun)⟩ hrest

/-- The session can come about. -/
theorem reachable_calmSession (concurrent : Bool) (ops : List Operation) :
    Scene.Reachable calmly concurrent ⟨calmSession concurrent ops, [], .done ()⟩ := by
  have hbegins : (opening concurrent).Begins calmly concurrent := by
    refine Scene.begins_new ⟨(), .refl⟩ (fun i => ?_) engine
      { ScriptSettings.default with concurrent, hotReload := false } none ⟨.dir "" [] 0, [], 0⟩
      ⟨"", none, none⟩
    simp [View.isRegistered, View.tags, World.view, World.new]
  have hopening : Scene.Reachable calmly concurrent ⟨(opening concurrent).session, [], .done ()⟩ :=
    ⟨_, hbegins, .refl⟩
  unfold calmSession
  cases hdone : carryOut ops (opening concurrent).session with
  | none => exact hopening
  | some s => exact reachable_carryOut hopening hdone

end Specimen

end ScriptHost
