import ScriptHost.Proofs.Likeness

/-!
# Runs side by side

Two configurations are **abreast** if their worlds are, and the same is under way in both.
The machine takes the same steps from both of them, and where it is the host's turn the
host can do the same to both.  So of two runs that have once been abreast everything is the
same from then on, but for the number of emissions and what nobody looks at.

* `World.Abreast.act` — an act has the same answer, and starts the same;
* `Frame.Alike.advance` — a step of the same activity;
* `Config.Abreast.step` — a step of both;
* `Config.Abreast.accompanies` — one run can go on as the other does.
-/

namespace ScriptHost

variable {D : Dialect} {α : Type} {M : Setoid D.Memory} {old₁ old₂ : List (Happening D)}
  {w₁ w₂ : World D} {I : Interpreter D}

namespace Config

/-- Two configurations are abreast: their worlds are, and the same is under way. -/
structure Abreast (M : Setoid D.Memory) (old₁ old₂ : List (Happening D)) (c₁ c₂ : Config D) :
    Prop where
  world : World.Abreast M old₁ old₂ c₁.world c₂.world
  stack : List.Forall₂ (Frame.Alike M) c₁.stack c₂.stack

namespace Abreast

/-- Being abreast goes both ways. -/
theorem symm {c₁ c₂ : Config D} (h : Abreast M old₁ old₂ c₁ c₂) : Abreast M old₂ old₁ c₂ c₁ :=
  ⟨h.world.symm, h.stack.flip.imp fun _ _ hf => hf.symm⟩

/-- Where nothing is under way it is enough that the worlds are abreast. -/
theorem rest (h : World.Abreast M old₁ old₂ w₁ w₂) : Abreast M old₁ old₂ ⟨w₁, []⟩ ⟨w₂, []⟩ :=
  ⟨h, .nil⟩

/-- Further out the same is under way. -/
theorem above {c₁ c₂ : Config D} (h : Abreast M old₁ old₂ c₁ c₂) {S₁ S₂ : List (Frame D)}
    (hS : List.Forall₂ (Frame.Alike M) S₁ S₂) :
    Abreast M old₁ old₂ ⟨c₁.world, c₁.stack ++ S₁⟩ ⟨c₂.world, c₂.stack ++ S₂⟩ :=
  ⟨h.world, List.rel_append h.stack hS⟩

end Abreast

end Config

namespace World.Abreast

/-! ## What an act does in both worlds -/

/-- An emission that begins in both runs calls the same listeners. -/
theorem beginEmission (h : Abreast M old₁ old₂ w₁ w₂) (event : Event) :
    Config.Abreast M old₁ old₂ ⟨(w₁.beginEmission event).1, [(w₁.beginEmission event).2]⟩
      ⟨(w₂.beginEmission event).1, [(w₂.beginEmission event).2]⟩ := by
  unfold World.beginEmission
  rw [h.hub]
  have hlog := h.log (.hub (.emitting event.kind (w₂.hub.listeners event.kind).length))
  refine ⟨Abreast.record ?_ rfl, .cons (.emission _ _ event _) .nil⟩
  exact { hlog with }

/-- An end that begins in both runs is announced to the same listeners. -/
theorem beginEnding (h : Abreast M old₁ old₂ w₁ w₂) (i : Nat) :
    Config.Abreast M old₁ old₂ ⟨(w₁.beginEnding i).1, (w₁.beginEnding i).2⟩
      ⟨(w₂.beginEnding i).1, (w₂.beginEnding i).2⟩ := by
  unfold World.beginEnding
  rw [h.instance?]
  cases w₂.instance? i with
  | none => exact .rest h
  | some x =>
    cases hx : x.isAlive with
    | false =>
      simp only [hx]
      exact .rest h
    | true =>
      simp only [hx, if_true]
      exact ((h.log (.script (.stopping x.id x.path))).beginEmission (.scriptEnd x.id)).above
        (.cons (.ending i) .nil)

/-- A coroutine that is resumed in both runs goes on alike. -/
theorem resume (hI : I.Heedless M) (h : Abreast M old₁ old₂ w₁ w₂) (d : Desk) (task : Task D)
    (args : Args) :
    Config.Abreast M old₁ old₂ ⟨(w₁.resume I d task args).1, [(w₁.resume I d task args).2]⟩
      ⟨(w₂.resume I d task args).1, [(w₂.resume I d task args).2]⟩ :=
  ⟨h.record rfl, .cons (.coroutine d task.serial (hI.resume task.routine args)) .nil⟩

/-- A coroutine that is started in both runs goes on alike. -/
theorem start (hI : I.Heedless M) (h : Abreast M old₁ old₂ w₁ w₂) (d : Desk)
    (routine : D.Coroutine) :
    Config.Abreast M old₁ old₂ ⟨(w₁.start I d routine).1, [(w₁.start I d routine).2]⟩
      ⟨(w₂.start I d routine).1, [(w₂.start I d routine).2]⟩ := by
  obtain ⟨htask, haccept⟩ := h.accept d routine
  unfold World.start
  dsimp only
  rw [htask]
  exact haccept.resume hI d _ []

/-- A pass that begins in both runs has the same queue. -/
theorem beginPass (h : Abreast M old₁ old₂ w₁ w₂) (d : Desk) (kind : EventKind) (args : Args)
    {pulse : Pulse D} (hpulse : pulse.Heedless M) :
    Config.Abreast M old₁ old₂
      ⟨(w₁.beginPass d kind args pulse).1, [(w₁.beginPass d kind args pulse).2]⟩
      ⟨(w₂.beginPass d kind args pulse).1, [(w₂.beginPass d kind args pulse).2]⟩ := by
  unfold World.beginPass
  rw [h.subscriptions]
  have hdrain := h.modifySubscriptions d (·.drain kind)
  exact ⟨hdrain, .cons (.pass d kind args hpulse _ 0) .nil⟩

/-- An event that is delivered in both runs finds the same table. -/
theorem deliver (h : Abreast M old₁ old₂ w₁ w₂) (i : Nat) (event : Event) :
    Config.Abreast M old₁ old₂ ⟨(w₁.deliver i event).1, (w₁.deliver i event).2⟩
      ⟨(w₂.deliver i event).1, (w₂.deliver i event).2⟩ := by
  unfold World.deliver
  rw [h.instance?]
  split
  · exact .rest h
  · split
    · exact .rest h
    · split
      · exact .rest (h.log _)
      · next args _ =>
        exact (h.beginPass (.script i) event.kind args (Pulse.heedless_script i)).above
          (.cons (.callback i event.kind args) .nil)

/-- **An act** has the same answer in both worlds, and does the same. -/
theorem act (hI : I.Heedless M) (h : Abreast M old₁ old₂ w₁ w₂) {x : Act D}
    (hx : x.Heedless M) :
    (w₁.act I x).1 = (w₂.act I x).1 ∧
      Config.Abreast M old₁ old₂ ⟨(w₁.act I x).2.1, (w₁.act I x).2.2⟩
        ⟨(w₂.act I x).2.1, (w₂.act I x).2.2⟩ := by
  cases x with
  | emit event => exact ⟨rfl, h.beginEmission event⟩
  | listen kind handler =>
    refine ⟨?_, .rest (h.listen kind _)⟩
    simp only [World.act, World.enlist, h.hub]
  | unlisten id =>
    simp only [World.act]
    rcases h.unlisten id with ⟨w₁', w₂', hw₁, hw₂, h'⟩ | ⟨e, he₁, he₂⟩
    · rw [hw₁, hw₂]
      exact ⟨rfl, .rest h'⟩
    · rw [he₁, he₂]
      exact ⟨rfl, .rest h⟩
  | terminate name =>
    simp only [World.act, h.held]
    split
    · exact ⟨rfl, .rest h⟩
    · next i _ =>
      exact ⟨rfl, ((h.takeHeld name).beginEnding i).above (.cons (.putBack name i) .nil)⟩
  | shutdown value => exact ⟨rfl, .rest (h.sendShutdown value)⟩
  | awaitNext d kind routine => exact ⟨rfl, .rest (h.awaitNext d kind routine)⟩
  | schedule d request routine =>
    obtain ⟨hresult, h'⟩ := h.schedule d request routine
    exact ⟨by simp only [World.act, hresult], .rest h'⟩
  | spawn d routine =>
    simp only [World.act, h.isOpen]
    split
    · exact ⟨rfl, h.start hI d routine⟩
    · exact ⟨rfl, .rest (h.logClosed d _)⟩
  | awaiting d kind =>
    refine ⟨?_, .rest h⟩
    simp only [World.act, h.subscriptions]
  | setCallback i kind callback =>
    obtain ⟨hresult, h'⟩ := h.setCallback I.callable i kind callback
    exact ⟨by simp only [World.act, hresult], .rest h'⟩
  | on i event callback =>
    simp only [World.act]
    cases resolveKind event with
    | error e => exact ⟨rfl, .rest h⟩
    | ok kind =>
      obtain ⟨hresult, h'⟩ := h.setCallback I.callable i kind callback
      exact ⟨by simp only [hresult], .rest h'⟩
  | clearCallbacks i => exact ⟨rfl, .rest (h.modifySubscriptions (.script i) .clearCallbacks)⟩
  | reset i => exact ⟨rfl, .rest (h.clear (.script i))⟩
  | request i kind path => exact ⟨rfl, .rest (h.request i kind path)⟩
  | requestStopSelf i =>
    simp only [World.act, h.instance?]
    split
    · exact ⟨rfl, .rest (h.request i .stop _)⟩
    · exact ⟨rfl, .rest h⟩
  | identity i =>
    simp only [World.act, h.instance?]
    split
    · exact ⟨rfl, .rest h⟩
    · exact ⟨rfl, .rest h⟩
  | notify n kind args test => exact ⟨rfl, h.beginPass (.bench n) kind args hx⟩
  | resumed n =>
    refine ⟨?_, .rest h⟩
    simp only [World.act, World.resumedAt, h.benches]

end World.Abreast

/-! ## What a step does in both runs -/

/-- **A step of code in both runs**: it has come to the same result, or goes on and has done
the same. -/
theorem Code.Alike.progress (hI : I.Heedless M) (h : World.Abreast M old₁ old₂ w₁ w₂)
    {code₁ code₂ : Code D α} (hcode : code₁.Alike M code₂) :
    (∃ a, code₁.progress I w₁ = .over a ∧ code₂.progress I w₂ = .over a) ∨
      ∃ code₁' w₁' s₁ code₂' w₂' s₂, code₁.progress I w₁ = .goesOn code₁' w₁' s₁ ∧
        code₂.progress I w₂ = .goesOn code₂' w₂' s₂ ∧ code₁'.Alike M code₂' ∧
        Config.Abreast M old₁ old₂ ⟨w₁', s₁⟩ ⟨w₂', s₂⟩ := by
  cases hcode with
  | ret a => exact Or.inl ⟨a, rfl, rfl⟩
  | read hk => exact Or.inr ⟨_, _, _, _, _, _, rfl, rfl, hk _ _ h.memory, .rest h⟩
  | write hm hk =>
    exact Or.inr ⟨_, _, _, _, _, _, rfl, rfl, hk, .rest { h with memory := hm }⟩
  | remark r hk => exact Or.inr ⟨_, _, _, _, _, _, rfl, rfl, hk, .rest (h.record rfl)⟩
  | log n hk => exact Or.inr ⟨_, _, _, _, _, _, rfl, rfl, hk, .rest (h.log n)⟩
  | @act x hx k₁ k₂ hk =>
    obtain ⟨hanswer, h'⟩ := h.act hI hx
    refine Or.inr ⟨_, _, _, _, _, _, rfl, rfl, ?_, h'⟩
    have hnext : (k₁ (w₁.act I x).1).Alike M (k₂ (w₁.act I x).1) := hk _
    exact hanswer ▸ hnext

/-- **A step of the same activity in both runs.** -/
theorem Frame.Alike.advance (hI : I.Heedless M) (h : World.Abreast M old₁ old₂ w₁ w₂)
    {f₁ f₂ : Frame D} (hf : f₁.Alike M f₂) :
    Config.Abreast M old₁ old₂ ⟨(f₁.advance I w₁).1, (f₁.advance I w₁).2⟩
      ⟨(f₂.advance I w₂).1, (f₂.advance I w₂).2⟩ := by
  cases hf with
  | emission n₁ n₂ event rest =>
    cases rest with
    | nil => exact .rest h
    | cons l rest =>
      have hreached : World.Abreast M old₁ old₂ (w₁.record (.reached n₁ l.id))
          (w₂.record (.reached n₂ l.id)) := h.record rfl
      have hbelow : List.Forall₂ (Frame.Alike M) [.emission n₁ event rest]
          [.emission n₂ event rest] := .cons (.emission n₁ n₂ event rest) .nil
      simp only [Frame.advance]
      cases l.hook with
      | host handler => exact ⟨hreached, .cons (.handler (hI.handle handler event)) hbelow⟩
      | script i => exact (hreached.deliver i event).above hbelow
  | @pass d kind args pulse hpulse queue resumed =>
    cases queue with
    | nil => exact .rest (h.endPass d kind resumed)
    | cons task queue =>
      simp only [Frame.advance, hpulse resumed w₁ w₂ h.toAlike]
      split
      · exact (h.resume hI d task args).above (.cons (.pass d kind args hpulse queue _) .nil)
      · rw [h.label]
        exact .rest (((h.log _).recordLeft d _ _).endPass d kind resumed)
  | callback i kind args =>
    simp only [Frame.advance, h.isAlive, h.subscriptions]
    split
    · next c _ _ => exact ⟨h.record rfl, .cons (.call i kind (hI.call c args)) .nil⟩
    · exact .rest h
  | coroutine d serial hcode =>
    rcases hcode.progress hI h with ⟨r, hover₁, hover₂⟩ |
      ⟨code₁', w₁', s₁, code₂', w₂', s₂, hgoes₁, hgoes₂, hcode', h'⟩
    · simp only [Frame.advance, hover₁, hover₂]
      exact .rest (h.concludeCoroutine d serial r)
    · simp only [Frame.advance, hgoes₁, hgoes₂]
      exact h'.above (.cons (.coroutine d serial hcode') .nil)
  | call i kind hcode =>
    rcases hcode.progress hI h with ⟨r, hover₁, hover₂⟩ |
      ⟨code₁', w₁', s₁, code₂', w₂', s₂, hgoes₁, hgoes₂, hcode', h'⟩
    · simp only [Frame.advance, hover₁, hover₂, h.instance?]
      cases r with
      | error e =>
        dsimp only
        split
        · exact .rest (h.log _)
        · exact .rest h
      | ok outcome =>
        cases outcome with
        | done => exact .rest h
        | spawn routine => exact h.start hI (.script i) routine
    · simp only [Frame.advance, hgoes₁, hgoes₂]
      exact h'.above (.cons (.call i kind hcode') .nil)
  | handler hcode =>
    rcases hcode.progress hI h with ⟨r, hover₁, hover₂⟩ |
      ⟨code₁', w₁', s₁, code₂', w₂', s₂, hgoes₁, hgoes₂, hcode', h'⟩
    · simp only [Frame.advance, hover₁, hover₂]
      exact .rest h
    · simp only [Frame.advance, hgoes₁, hgoes₂]
      exact h'.above (.cons (.handler hcode') .nil)
  | entry i hcode =>
    rcases hcode.progress hI h with ⟨r, hover₁, hover₂⟩ |
      ⟨code₁', w₁', s₁, code₂', w₂', s₂, hgoes₁, hgoes₂, hcode', h'⟩
    · simp only [Frame.advance, hover₁, hover₂, h.instance?]
      cases r with
      | error e =>
        dsimp only
        split
        · exact .rest (h.log _)
        · exact .rest h
      | ok main =>
        cases main with
        | none => exact .rest h
        | some routine => exact h.start hI (.script i) routine
    · simp only [Frame.advance, hgoes₁, hgoes₂]
      exact h'.above (.cons (.entry i hcode') .nil)
  | settle i => exact .rest (h.settleIn i)
  | ending i => exact .rest (h.finishEnding i)
  | putBack name i => exact .rest (h.hold name i)

/-! ## Two runs -/

namespace Config

variable (M I)

/-- A move of a run in which the host, too, is heedless of what memories that are alike
differ in. -/
def HeedlessMove (c c' : Config D) : Prop :=
  c.Move I c' ∧ (c.stack = [] → ∀ f ∈ c'.stack, f.Alike M f)

/-- A sequence of configurations whose first `n` moves are such. -/
def IsHeedlessRun (run : Nat → Config D) (n : Nat) : Prop :=
  ∀ k < n, HeedlessMove M I (run k) (run (k + 1))

/-- Whatever run one can make, the other can make side by side with it: after every move
the two are abreast. -/
def Accompanies (c₂ c₁ : Config D) : Prop :=
  ∀ run n, run 0 = c₁ → IsHeedlessRun M I run n →
    ∃ run', run' 0 = c₂ ∧ IsHeedlessRun M I run' n ∧
      ∀ k ≤ n, Abreast M c₁.world.journal c₂.world.journal (run k) (run' k)

variable {M I}

namespace Abreast

variable {c₁ c₁' c₂ : Config D}

/-- **A step of both runs.** -/
theorem step (hI : I.Heedless M) (h : Abreast M old₁ old₂ c₁ c₂) (hstep : c₁.step? I = some c₁') :
    ∃ c₂', c₂.step? I = some c₂' ∧ Abreast M old₁ old₂ c₁' c₂' := by
  obtain ⟨f₁, below₁, hstack₁, rfl⟩ := eq_advance_of_step? hstep
  obtain ⟨w₂, stack₂⟩ := c₂
  have hstack := h.stack
  rw [hstack₁] at hstack
  cases hstack with
  | cons hf hbelow => exact ⟨_, rfl, (hf.advance hI h.world).above hbelow⟩

/-- **Whatever the host does to the one world it can do to the other.** -/
theorem initiative (h : World.Abreast M old₁ old₂ w₁ w₂) {w₁' : World D}
    {started₁ : List (Frame D)} (hinit : Initiative w₁ w₁' started₁)
    (hheedless : ∀ f ∈ started₁, f.Alike M f) :
    ∃ w₂' started₂, Initiative w₂ w₂' started₂ ∧
      Abreast M old₁ old₂ ⟨w₁', started₁⟩ ⟨w₂', started₂⟩ := by
  have hsame : List.Forall₂ (Frame.Alike M) started₁ started₁ :=
    List.forall₂_same.mpr hheedless
  cases hinit with
  | code code => exact ⟨_, _, .code code, h, hsame⟩
  | spawn id path detached code =>
    refine ⟨_, _, .spawn id path detached code, h.beginLife id path detached, ?_⟩
    rw [← h.instances]
    exact hsame
  | terminate i => exact ⟨_, _, .terminate i, h.beginEnding i⟩
  | notify n kind args pulse =>
    cases List.forall_mem_singleton.mp hheedless with
    | pass _ _ _ hpulse =>
      exact ⟨_, _, .notify n kind args pulse, h.beginPass (.bench n) kind args hpulse⟩
  | addBench label => exact ⟨_, _, .addBench label, .rest (h.addBench label)⟩
  | hold name i hi => exact ⟨_, _, .hold name i (h.instances ▸ hi), .rest (h.hold name i)⟩
  | takeHeld name => exact ⟨_, _, .takeHeld name, .rest (h.takeHeld name)⟩
  | setRequests requests =>
    exact ⟨_, _, .setRequests requests, .rest { h with requests := rfl }⟩
  | setShutdown shutdown =>
    exact ⟨_, _, .setShutdown shutdown, .rest { h with shutdown := rfl }⟩

theorem move (hI : I.Heedless M) (h : Abreast M old₁ old₂ c₁ c₂)
    (hmove : HeedlessMove M I c₁ c₁') :
    ∃ c₂', HeedlessMove M I c₂ c₂' ∧ Abreast M old₁ old₂ c₁' c₂' := by
  obtain ⟨hmove, hheedless⟩ := hmove
  cases hmove with
  | step hstep =>
    obtain ⟨c₂', hstep₂, h'⟩ := h.step hI hstep
    refine ⟨c₂', ⟨.step hstep₂, fun hrest => ?_⟩, h'⟩
    obtain ⟨f, below, hstack, -⟩ := eq_advance_of_step? hstep₂
    rw [hrest] at hstack
    cases hstack
  | host hinit =>
    obtain ⟨w₂, stack₂⟩ := c₂
    obtain rfl := List.forall₂_nil_left_iff.mp h.stack
    obtain ⟨w₂', started₂, hinit₂, h'⟩ := initiative h.world hinit (hheedless rfl)
    exact ⟨_, ⟨.host hinit₂, fun _ => Frame.Alike.heedless h'.stack⟩, h'⟩

/-- **Of two runs that have once been abreast** the one can go on as the other does. -/
theorem accompanies (hI : I.Heedless M)
    (h : Abreast M c₁.world.journal c₂.world.journal c₁ c₂) : Accompanies M I c₂ c₁ := by
  intro run n hstart hrun
  induction n with
  | zero =>
    refine ⟨fun _ => c₂, rfl, fun k hk => absurd hk (Nat.not_lt_zero k), fun k hk => ?_⟩
    obtain rfl := Nat.le_zero.mp hk
    exact hstart ▸ h
  | succ n ih =>
    obtain ⟨run', hstart', hrun', habreast⟩ := ih fun k hk => hrun k (by omega)
    obtain ⟨c', hmove, hnext⟩ := (habreast n le_rfl).move hI (hrun n (Nat.lt_succ_self n))
    -- The other run so far, and one move more.
    have hbefore : ∀ k ≤ n, Function.update run' (n + 1) c' k = run' k := by
      intro k hk
      have hne : k ≠ n + 1 := by omega
      exact Function.update_of_ne hne c' run'
    have hlast : Function.update run' (n + 1) c' (n + 1) = c' := Function.update_self ..
    refine ⟨Function.update run' (n + 1) c', ?_, fun k hk => ?_, fun k hk => ?_⟩
    · rw [hbefore 0 (Nat.zero_le n), hstart']
    · rcases Nat.lt_succ_iff_lt_or_eq.mp hk with hk | rfl
      · rw [hbefore k (by omega), hbefore (k + 1) hk]
        exact hrun' k hk
      · rw [hbefore k le_rfl, hlast]
        exact hmove
    · rcases Nat.lt_or_ge n k with hnk | hkn
      · obtain rfl : k = n + 1 := by omega
        rw [hlast]
        exact hnext
      · rw [hbefore k hkn]
        exact habreast k hkn

end Abreast

end Config

end ScriptHost
