import Mathlib.Data.List.Induction
import ScriptHost.Proofs.Discretion

/-!
# A script's failures stay its own

Two interpreters are **variants** for a quiet instance if they differ in nothing but what
its routines return: they finish, fail, wait again for whatever they like, or bring another
coroutine.  Two runs with two variants are **coupled**: each has something of the
instance's under way, which subsides by itself, and below that both have the same under
way, but for what the code of others keeps in a part of the memory that concerns only the
instance.  A step of one run is no step of the other, or a step of the same activity.  So
of two runs with the same emissions everybody else sees the same.

One thing about the instance everybody can ask: how many coroutines wait at its desk.  Who
does one thing or another depending on that number sees more than the others
(`QuietInstance.DifferInReturns.not_same_elsewhere`).

* `QuietInstance.coupled_act` — an act does the same in both runs;
* `QuietInstance.twins_advance` — so does a step of what is not at the desk of the instance;
* `QuietInstance.Coupled.step` — what one run does the other can do;
* `QuietInstance.Variants.same_elsewhere` — a script's failures stay its own.
-/

namespace ScriptHost

variable {D : Dialect} {α : Type}

namespace QuietInstance

variable (Q : QuietInstance D)

/-- An act that asks how many coroutines wait at the desk of the instance. -/
def Asks : Act D → Prop
  | .awaiting d _ => d = Q.desk
  | _ => False

/-- The same code in both runs: it acts discreetly, does the same whatever it is told when it
asks who waits at the desk of the instance, and does not tell memories apart that are alike
but for the instance's part.  What it says for the record is not looked at. -/
inductive Twin (P : α → Prop) : Code D α → Code D α → Prop
  | ret {a : α} (h : P a) : Twin P (.ret a) (.ret a)
  | read {k₁ k₂ : D.Memory → Code D α}
      (h : ∀ m₁ m₂, Q.memory.r m₁ m₂ → Twin P (k₁ m₁) (k₂ m₂)) : Twin P (.read k₁) (.read k₂)
  | write {m₁ m₂ : D.Memory} {k₁ k₂ : Code D α} (hm : Q.memory.r m₁ m₂) (h : Twin P k₁ k₂) :
      Twin P (.write m₁ k₁) (.write m₂ k₂)
  | remark (r₁ r₂ : D.Remark) {k₁ k₂ : Code D α} (h : Twin P k₁ k₂) :
      Twin P (.remark r₁ k₁) (.remark r₂ k₂)
  | log (n₁ n₂ : Notice) {k₁ k₂ : Code D α} (h : Twin P k₁ k₂) :
      Twin P (.log n₁ k₁) (.log n₂ k₂)
  | act {x : Act D} {k₁ k₂ : Answer → Code D α} (hx : Q.Discreet x)
      (h : ∀ answer₁ answer₂, (answer₁ = answer₂ ∨ Q.Asks x) →
        Twin P (k₁ answer₁) (k₂ answer₂)) : Twin P (.act x k₁) (.act x k₂)

/-- Interpreters that differ in nothing but what the routines of an instance return, which
perform no acts: whatever else runs is the same. -/
structure DifferInReturns (I₁ I₂ : Interpreter D) : Prop where
  silent₁ : Q.Silent I₁
  silent₂ : Q.Silent I₂
  callable : I₁.callable = I₂.callable
  resume : ∀ routine args, ¬ Q.owns routine → I₁.resume routine args = I₂.resume routine args
  call : ∀ callback args, ¬ Q.ownsCallback callback → I₁.call callback args = I₂.call callback args
  handle : ∀ handler event, I₁.handle handler event = I₂.handle handler event

/-- Interpreters that differ in nothing but what the routines of an instance return.  Those
perform no acts; whatever else runs does the same in both: it hands over at every desk what
may come there, it does not look at the instance's part of the memory, and it goes on in the
same way whatever it is told when it asks who waits at the desk of the instance. -/
structure Variants (I₁ I₂ : Interpreter D) : Prop where
  silent₁ : Q.Silent I₁
  silent₂ : Q.Silent I₂
  callable : I₁.callable = I₂.callable
  resume : ∀ routine args, Q.shares routine →
    Q.Twin (Q.Yields False) (I₁.resume routine args) (I₂.resume routine args)
  call : ∀ callback args, Q.sharesCallback callback →
    Q.Twin (Q.Produces False) (I₁.call callback args) (I₂.call callback args)
  handle : ∀ handler event,
    Q.Twin (fun _ => True) (I₁.handle handler event) (I₂.handle handler event)

/-- The same activity in both runs, not at the desk of the instance.  There are no more
kinds of it: that an instance comes into being is left to the host, and in an emission the
host does nothing of the kind. -/
inductive Twins : Frame D → Frame D → Prop
  | emission (n : Nat) (event : Event) (rest : List (Listener D)) :
      Twins (.emission n event rest) (.emission n event rest)
  | pass {d : Desk} (hd : d ≠ Q.desk) (kind : EventKind) (args : Args) {pulse : Pulse D}
      (hpulse : Q.Overlooks pulse) {queue : List (Task D)} (resumed : Nat)
      (h : ∀ task ∈ queue, Q.shares task.routine) :
      Twins (.pass d kind args pulse queue resumed) (.pass d kind args pulse queue resumed)
  | callback {i : Nat} (hi : i ≠ Q.place) (kind : EventKind) (args : Args) :
      Twins (.callback i kind args) (.callback i kind args)
  | coroutine {d : Desk} (hd : d ≠ Q.desk) (serial : Nat)
      {code₁ code₂ : Code D (Except ScriptError (Yield D))}
      (h : Q.Twin (Q.Yields False) code₁ code₂) :
      Twins (.coroutine d serial code₁) (.coroutine d serial code₂)
  | call {i : Nat} (hi : i ≠ Q.place) (kind : EventKind)
      {code₁ code₂ : Code D (Except ScriptError (Outcome D))}
      (h : Q.Twin (Q.Produces False) code₁ code₂) : Twins (.call i kind code₁) (.call i kind code₂)
  | handler {code₁ code₂ : Code D Unit} (h : Q.Twin (fun _ => True) code₁ code₂) :
      Twins (.handler code₁) (.handler code₂)
  | ending (i : Nat) : Twins (.ending i) (.ending i)
  | putBack (name : String) (i : Nat) : Twins (.putBack name i) (.putBack name i)

/-- Two runs side by side: worlds that are the same but for the instance, and stacks that
are the same below what is under way at its desk. -/
structure Coupled (c₁ c₂ : Config D) : Prop where
  same : Q.SameBut c₁.world c₂.world
  apart₁ : Q.Apart c₁.world
  apart₂ : Q.Apart c₂.world
  stack : ∃ F₁ F₂ S₁ S₂, c₁.stack = F₁ ++ S₁ ∧ c₂.stack = F₂ ++ S₂ ∧
    (∀ f ∈ F₁, Q.Own c₁.world.memory f) ∧ (∀ f ∈ F₂, Q.Own c₂.world.memory f) ∧
    List.Forall₂ Q.Twins S₁ S₂

/-- Everybody but the instance sees the same: the coroutines and callbacks of the others ran
with the same arguments, the same listeners were called, and the others are subscribed to
the same. -/
structure SameElsewhere (w₁ w₂ : World D) : Prop where
  journal : Q.elsewhere w₁ = Q.elsewhere w₂
  subscriptions : ∀ d, d ≠ Q.desk → w₁.subscriptions d = w₂.subscriptions d
  hub : w₁.hub = w₂.hub

variable {Q} {I₁ I₂ : Interpreter D} {w w₁ w₂ : World D} {P : α → Prop}

/-- Worlds that agree but for the instance are the same elsewhere. -/
theorem SameBut.sameElsewhere (h : Q.SameBut w₁ w₂) : Q.SameElsewhere w₁ w₂ :=
  ⟨h.elsewhere, fun _ hd => h.subscriptions hd, h.hub⟩

/-- Being twins goes both ways. -/
theorem Twin.symm {code₁ code₂ : Code D α} (h : Q.Twin P code₁ code₂) : Q.Twin P code₂ code₁ := by
  induction h with
  | ret h => exact .ret h
  | read _ ih => exact .read fun m₁ m₂ hm => ih m₂ m₁ (Q.memory.iseqv.symm hm)
  | write hm _ ih => exact .write (Q.memory.iseqv.symm hm) ih
  | remark r₁ r₂ _ ih => exact .remark r₂ r₁ ih
  | log n₁ n₂ _ ih => exact .log n₂ n₁ ih
  | act hx _ ih =>
    exact .act hx fun answer₁ answer₂ h => ih answer₂ answer₁ (h.imp_left Eq.symm)

/-- Being variants goes both ways. -/
theorem Variants.symm (h : Q.Variants I₁ I₂) : Q.Variants I₂ I₁ where
  silent₁ := h.silent₂
  silent₂ := h.silent₁
  callable := h.callable.symm
  resume routine args hroutine := (h.resume routine args hroutine).symm
  call callback args hcallback := (h.call callback args hcallback).symm
  handle handler event := (h.handle handler event).symm

/-- Whether an instance is alive shows in what is seen of it. -/
theorem overlooks_script (i : Nat) : Q.Overlooks (.script i) :=
  fun _ _ _ h => h.isAlive i

/-- What waits anywhere else may come anywhere else. -/
theorem Apart.shares_of_waiting (hw : Q.Apart w) {d : Desk} (hd : d ≠ Q.desk) (kind : EventKind) :
    ∀ task ∈ (w.subscriptions d).waiting kind, Q.shares task.routine :=
  fun task htask => ((hw d kind).2 task htask).2 hd

namespace Coupled

/-- Configurations with twin frames, in worlds that agree, are coupled. -/
theorem of_twins {S₁ S₂ : List (Frame D)} (h : Q.SameBut w₁ w₂) (h₁ : Q.Apart w₁)
    (h₂ : Q.Apart w₂) (hS : List.Forall₂ Q.Twins S₁ S₂) : Q.Coupled ⟨w₁, S₁⟩ ⟨w₂, S₂⟩ :=
  ⟨h, h₁, h₂, [], [], S₁, S₂, rfl, rfl, by simp, by simp, hS⟩

/-- Where nothing is under way in either run, it is enough that the worlds agree. -/
theorem rest (h : Q.SameBut w₁ w₂) (h₁ : Q.Apart w₁) (h₂ : Q.Apart w₂) :
    Q.Coupled ⟨w₁, []⟩ ⟨w₂, []⟩ :=
  of_twins h h₁ h₂ .nil

/-- Where each run has done something at the desk of the instance. -/
theorem of_own {p₁ p₂ : World D × List (Frame D)} (h : Q.SameBut w₁ w₂) (h₁ : Q.Stays w₁ p₁)
    (h₂ : Q.Stays w₂ p₂) : Q.Coupled ⟨p₁.1, p₁.2⟩ ⟨p₂.1, p₂.2⟩ :=
  ⟨(h₁.same.trans h).trans h₂.same.symm, h₁.apart, h₂.apart, p₁.2, p₂.2, [], [],
    (List.append_nil _).symm, (List.append_nil _).symm, h₁.own, h₂.own, .nil⟩

/-- Further out both runs have the same under way. -/
theorem above {c₁ c₂ : Config D} (h : Q.Coupled c₁ c₂) {S₁ S₂ : List (Frame D)}
    (hS : List.Forall₂ Q.Twins S₁ S₂) :
    Q.Coupled ⟨c₁.world, c₁.stack ++ S₁⟩ ⟨c₂.world, c₂.stack ++ S₂⟩ := by
  obtain ⟨F₁, F₂, T₁, T₂, hstack₁, hstack₂, hF₁, hF₂, hT⟩ := h.stack
  exact ⟨h.same, h.apart₁, h.apart₂, F₁, F₂, T₁ ++ S₁, T₂ ++ S₂, by simp [hstack₁],
    by simp [hstack₂], hF₁, hF₂, List.rel_append hT hS⟩

end Coupled

/-! ## What an act does in both runs -/

/-- A coroutine that starts in both runs keeps them coupled. -/
theorem coupled_start (hV : Q.Variants I₁ I₂) (h : Q.SameBut w₁ w₂) (h₁ : Q.Apart w₁)
    (h₂ : Q.Apart w₂) {d : Desk} {routine : D.Coroutine} (hroutine : Q.Suits (d = Q.desk) routine) :
    Q.Coupled ⟨(w₁.start I₁ d routine).1, [(w₁.start I₁ d routine).2]⟩
      ⟨(w₂.start I₂ d routine).1, [(w₂.start I₂ d routine).2]⟩ := by
  by_cases hd : d = Q.desk
  · subst hd
    have hown := hroutine.1 rfl
    exact .of_own h (own_start hV.silent₁ h₁ hown) (own_start hV.silent₂ h₂ hown)
  · have htask : (w₁.accept d routine).1 = (w₂.accept d routine).1 := h.accept_task hd routine
    have hsame := (h.accept d routine).record (.resumed d (w₂.accept d routine).1.serial [])
    have htwin := hV.resume (w₂.accept d routine).1.routine [] (hroutine.2 hd)
    simp only [World.start, World.resume, htask]
    exact .of_twins hsame (h₁.accept d routine) (h₂.accept d routine)
      (.cons (.coroutine hd _ htwin) .nil)

/-- **A pass over what waits anywhere else** begins in both runs alike. -/
theorem coupled_beginPass (h : Q.SameBut w₁ w₂) (h₁ : Q.Apart w₁) (h₂ : Q.Apart w₂) {d : Desk}
    (hd : d ≠ Q.desk) (kind : EventKind) (args : Args) {pulse : Pulse D}
    (hpulse : Q.Overlooks pulse) :
    Q.Coupled ⟨(w₁.beginPass d kind args pulse).1, [(w₁.beginPass d kind args pulse).2]⟩
      ⟨(w₂.beginPass d kind args pulse).1, [(w₂.beginPass d kind args pulse).2]⟩ := by
  simp only [World.beginPass, h.subscriptions hd]
  exact .of_twins (h.modifySubscriptions _ _) (h₁.modifySubscriptions _ fun _ hs => hs.drain _)
    (h₂.modifySubscriptions _ fun _ hs => hs.drain _)
    (.cons (.pass hd kind args hpulse 0 (h₂.shares_of_waiting hd kind)) .nil)

/-- The frames of an end are twins of themselves. -/
theorem forall₂_twins_beginEnding (w : World D) (i : Nat) :
    List.Forall₂ Q.Twins (w.beginEnding i).2 (w.beginEnding i).2 := by
  unfold World.beginEnding
  split
  · exact .nil
  · split
    · exact .cons (.emission _ _ _) (.cons (.ending i) .nil)
    · exact .nil

/-- **An act has the same answer in both runs**, unless it asks who waits at the desk of the
instance, and does the same. -/
theorem coupled_act (hV : Q.Variants I₁ I₂) (h : Q.SameBut w₁ w₂) (h₁ : Q.Apart w₁)
    (h₂ : Q.Apart w₂) {x : Act D} (hx : Q.Discreet x) :
    ((w₁.act I₁ x).1 = (w₂.act I₂ x).1 ∨ Q.Asks x) ∧
      Q.Coupled ⟨(w₁.act I₁ x).2.1, (w₁.act I₁ x).2.2⟩
        ⟨(w₂.act I₂ x).2.1, (w₂.act I₂ x).2.2⟩ := by
  have hapart₁ := h₁.act I₁ hx
  have hapart₂ := h₂.act I₂ hx
  cases x with
  | emit event =>
    obtain ⟨hframe, hsame⟩ := h.beginEmission event
    refine ⟨Or.inl rfl, .of_twins hsame hapart₁ hapart₂ ?_⟩
    simp only [World.act, hframe]
    exact .cons (.emission _ _ _) .nil
  | listen kind handler =>
    refine ⟨Or.inl ?_, .rest (h.listen kind _) hapart₁ hapart₂⟩
    simp only [World.act, World.enlist, h.hub]
  | unlisten id =>
    simp only [World.act] at hapart₁ hapart₂ ⊢
    rcases h.unlisten id with ⟨w₁', w₂', hw₁, hw₂, h'⟩ | ⟨e, he₁, he₂⟩
    · rw [hw₁, hw₂]
      exact ⟨Or.inl rfl, .rest h' (h₁.unlisten hw₁) (h₂.unlisten hw₂)⟩
    · rw [he₁, he₂]
      exact ⟨Or.inl rfl, .rest h h₁ h₂⟩
  | terminate name =>
    simp only [World.act, h.held] at hapart₁ hapart₂ ⊢
    split
    · exact ⟨Or.inl rfl, .rest h h₁ h₂⟩
    · next i _ =>
      obtain ⟨hframes, hsame⟩ := (h.takeHeld name).beginEnding i
      refine ⟨Or.inl rfl, .of_twins hsame (Apart.beginEnding (w := w₁.takeHeld name) h₁ i)
        (Apart.beginEnding (w := w₂.takeHeld name) h₂ i) ?_⟩
      rw [hframes]
      exact List.rel_append (forall₂_twins_beginEnding _ i) (.cons (.putBack name i) .nil)
  | shutdown value => exact ⟨Or.inl rfl, .rest (h.sendShutdown value) hapart₁ hapart₂⟩
  | awaitNext d kind routine =>
    exact ⟨Or.inl rfl, .rest (h.awaitNext d kind routine) hapart₁ hapart₂⟩
  | schedule d request routine =>
    obtain ⟨hresult, hsame⟩ := h.schedule d request routine
    exact ⟨Or.inl (by simp only [World.act, hresult]), .rest hsame hapart₁ hapart₂⟩
  | spawn d routine =>
    simp only [World.act, h.isOpen] at hapart₁ hapart₂ ⊢
    split
    · exact ⟨Or.inl rfl, coupled_start hV h h₁ h₂ hx⟩
    · exact ⟨Or.inl rfl, .rest (h.logClosed d _) (h₁.logClosed d _) (h₂.logClosed d _)⟩
  | awaiting d kind =>
    by_cases hd : d = Q.desk
    · exact ⟨Or.inr hd, .rest h h₁ h₂⟩
    · refine ⟨Or.inl ?_, .rest h h₁ h₂⟩
      simp only [World.act, h.subscriptions hd]
  | setCallback i kind callback =>
    obtain ⟨hresult, hsame⟩ := h.setCallback I₁.callable i kind callback
    simp only [World.act, ← hV.callable] at hapart₁ hapart₂ ⊢
    exact ⟨Or.inl (by rw [hresult]), .rest hsame hapart₁ hapart₂⟩
  | on i event callback =>
    simp only [World.act, ← hV.callable] at hapart₁ hapart₂ ⊢
    cases hkind : resolveKind event with
    | error e => exact ⟨Or.inl rfl, .rest h h₁ h₂⟩
    | ok kind =>
      obtain ⟨hresult, hsame⟩ := h.setCallback I₁.callable i kind callback
      exact ⟨Or.inl (by simp only [hresult]), .rest hsame (h₁.setCallback _ i kind hx)
        (h₂.setCallback _ i kind hx)⟩
  | clearCallbacks i =>
    have hsame := h.modifySubscriptions (.script i) .clearCallbacks
    exact ⟨Or.inl rfl, .rest hsame hapart₁ hapart₂⟩
  | reset i =>
    have hsame := h.clear (.script i)
    exact ⟨Or.inl rfl, .rest hsame hapart₁ hapart₂⟩
  | request i kind path => exact ⟨Or.inl rfl, .rest (h.request i kind path) hapart₁ hapart₂⟩
  | requestStopSelf i =>
    simp only [World.act] at hapart₁ hapart₂ ⊢
    rcases h.instance?_cases i with ⟨hx₁, hx₂⟩ | ⟨x₁, x₂, hx₁, hx₂, hinfo, -⟩
    · rw [hx₁, hx₂]
      exact ⟨Or.inl rfl, .rest h h₁ h₂⟩
    · have hpath : x₁.path = x₂.path := congrArg InstanceInfo.path hinfo
      rw [hx₁, hx₂]
      simp only [hpath]
      exact ⟨Or.inl trivial,
        .rest (h.request i .stop x₂.path) (h₁.request i _ _) (h₂.request i _ _)⟩
  | identity i =>
    simp only [World.act] at hapart₁ hapart₂ ⊢
    rcases h.instance?_cases i with ⟨hx₁, hx₂⟩ | ⟨x₁, x₂, hx₁, hx₂, hinfo, -⟩
    · rw [hx₁, hx₂]
      exact ⟨Or.inl rfl, .rest h h₁ h₂⟩
    · have hid : x₁.id = x₂.id := congrArg InstanceInfo.id hinfo
      have hpath : x₁.path = x₂.path := congrArg InstanceInfo.path hinfo
      rw [hx₁, hx₂]
      simp only [hid, hpath]
      exact ⟨Or.inl trivial, .rest h h₁ h₂⟩
  | notify n kind args test =>
    have hbench : Desk.bench n ≠ Q.desk := by simp [desk]
    exact ⟨Or.inl rfl, coupled_beginPass h h₁ h₂ hbench kind args hx⟩
  | resumed n =>
    refine ⟨Or.inl ?_, .rest h h₁ h₂⟩
    simp only [World.act, World.resumedAt, h.benches]

/-! ## What a step does in both runs -/

/-- An event that is delivered to the instance. -/
theorem stays_deliver (hw : Q.Apart w) (event : Event) : Q.Stays w (w.deliver Q.place event) := by
  have hapart := hw.deliver Q.place event
  unfold World.deliver at hapart ⊢
  split
  · exact ⟨.refl Q w, hw, by simp⟩
  · split
    · exact ⟨.refl Q w, hw, by simp⟩
    · split
      · exact ⟨sameBut_log w _, hw, by simp⟩
      · next args _ =>
        have hqueue : ∀ task ∈ (w.subscriptions Q.desk).waiting event.kind, Q.owns task.routine :=
          fun task htask => ((hw Q.desk event.kind).2 task htask).1 rfl
        have hsame : Q.SameBut (w.modifySubscriptions Q.desk (·.drain event.kind)) w :=
          sameBut_own w _
        refine ⟨hsame, hw.modifySubscriptions _ fun _ hs => hs.drain _, ?_⟩
        exact List.forall_mem_cons.mpr ⟨.pass event.kind args 0 hqueue,
          List.forall_mem_singleton.mpr (.callback event.kind args)⟩

/-- An event that is delivered in both runs keeps them coupled. -/
theorem coupled_deliver (h : Q.SameBut w₁ w₂) (h₁ : Q.Apart w₁) (h₂ : Q.Apart w₂) (i : Nat)
    (event : Event) :
    Q.Coupled ⟨(w₁.deliver i event).1, (w₁.deliver i event).2⟩
      ⟨(w₂.deliver i event).1, (w₂.deliver i event).2⟩ := by
  by_cases hi : i = Q.place
  · subst hi
    exact .of_own h (stays_deliver h₁ event) (stays_deliver h₂ event)
  · have hd : Desk.script i ≠ Q.desk := fun hd => hi (Desk.script.inj hd)
    unfold World.deliver
    rw [h.others i hi]
    split
    · exact .rest h h₁ h₂
    · split
      · exact .rest h h₁ h₂
      · split
        · exact .rest (h.log _ _) h₁ h₂
        · next args _ =>
          exact (coupled_beginPass h h₁ h₂ hd event.kind args (overlooks_script i)).above
            (.cons (.callback hi event.kind args) .nil)

/-- **A step of code in both runs**: it has come to the same result, or goes on and has done
the same. -/
theorem Twin.progress (hV : Q.Variants I₁ I₂) (h : Q.SameBut w₁ w₂) (h₁ : Q.Apart w₁)
    (h₂ : Q.Apart w₂) {code₁ code₂ : Code D α} (hcode : Q.Twin P code₁ code₂) :
    (∃ a, P a ∧ code₁.progress I₁ w₁ = .over a ∧ code₂.progress I₂ w₂ = .over a) ∨
      ∃ code₁' w₁' s₁ code₂' w₂' s₂, code₁.progress I₁ w₁ = .goesOn code₁' w₁' s₁ ∧
        code₂.progress I₂ w₂ = .goesOn code₂' w₂' s₂ ∧ Q.Twin P code₁' code₂' ∧
        Q.Coupled ⟨w₁', s₁⟩ ⟨w₂', s₂⟩ := by
  cases hcode with
  | ret ha => exact Or.inl ⟨_, ha, rfl, rfl⟩
  | read hk =>
    exact Or.inr ⟨_, _, _, _, _, _, rfl, rfl, hk _ _ h.memory, .rest h h₁ h₂⟩
  | write hm hk =>
    exact Or.inr ⟨_, _, _, _, _, _, rfl, rfl, hk, .rest { h with memory := hm } h₁ h₂⟩
  | remark r₁ r₂ hk =>
    have hsaid : Q.SameBut (w₁.record (.remark r₁)) (w₂.record (.remark r₂)) :=
      ((sameBut_record w₁ rfl).trans h).trans (sameBut_record w₂ rfl).symm
    exact Or.inr ⟨_, _, _, _, _, _, rfl, rfl, hk, .rest hsaid h₁ h₂⟩
  | log n₁ n₂ hk => exact Or.inr ⟨_, _, _, _, _, _, rfl, rfl, hk, .rest (h.log _ _) h₁ h₂⟩
  | @act x k₁ k₂ hx hk =>
    obtain ⟨hanswer, hcoupled⟩ := coupled_act hV h h₁ h₂ hx
    exact Or.inr ⟨_, _, _, _, _, _, rfl, rfl, hk _ _ hanswer, hcoupled⟩

/-- **A step of the same activity in both runs.** -/
theorem twins_advance (hV : Q.Variants I₁ I₂) (h : Q.SameBut w₁ w₂) (h₁ : Q.Apart w₁)
    (h₂ : Q.Apart w₂) {f₁ f₂ : Frame D} (hf : Q.Twins f₁ f₂) :
    Q.Coupled ⟨(f₁.advance I₁ w₁).1, (f₁.advance I₁ w₁).2⟩
      ⟨(f₂.advance I₂ w₂).1, (f₂.advance I₂ w₂).2⟩ := by
  cases hf with
  | emission n event rest =>
    cases rest with
    | nil => exact .rest h h₁ h₂
    | cons l rest =>
      have hbelow : List.Forall₂ Q.Twins [.emission n event rest] [.emission n event rest] :=
        .cons (.emission n event rest) .nil
      simp only [Frame.advance]
      cases l.hook with
      | host handler =>
        exact .of_twins (h.record _) h₁ h₂ (.cons (.handler (hV.handle handler event)) hbelow)
      | script i =>
        exact (coupled_deliver (h.record (.reached n l.id)) (h₁.record _) (h₂.record _) i
          event).above hbelow
  | @pass d hd kind args pulse hpulse queue resumed hqueue =>
    cases queue with
    | nil =>
      exact .rest (h.endPass d kind resumed) (h₁.endPass d kind resumed)
        (h₂.endPass d kind resumed)
    | cons task queue =>
      obtain ⟨htask, hqueue⟩ := List.forall_mem_cons.mp hqueue
      simp only [Frame.advance, hpulse resumed w₁ w₂ h]
      split
      · exact .of_twins (h.record _) h₁ h₂
          (.cons (.coroutine hd _ (hV.resume _ args htask))
            (.cons (.pass hd kind args hpulse _ hqueue) .nil))
      · exact .rest (((h.log _ _).recordLeft _ _ _).endPass d kind resumed)
          (((h₁.log _).recordLeft _ _ _).endPass d kind resumed)
          (((h₂.log _).recordLeft _ _ _).endPass d kind resumed)
  | @callback i hi kind args =>
    have hd : Desk.script i ≠ Q.desk := fun hd => hi (Desk.script.inj hd)
    simp only [Frame.advance, h.isAlive i, h.subscriptions hd]
    split
    · next c _ hc =>
      have hshared : Q.sharesCallback c := ((h₂ (.script i) kind).1 c hc).2 hd
      exact .of_twins (h.record _) h₁ h₂ (.cons (.call hi kind (hV.call c args hshared)) .nil)
    · exact .rest h h₁ h₂
  | @coroutine d hd serial code₁ code₂ hcode =>
    rcases hcode.progress hV h h₁ h₂ with ⟨r, hr, hover₁, hover₂⟩ |
      ⟨code₁', w₁', s₁, code₂', w₂', s₂, hgoes₁, hgoes₂, hcode', hcoupled⟩
    · have hyields : Q.Yields (d = Q.desk) r := by simpa only [hd] using hr
      simp only [Frame.advance, hover₁, hover₂]
      exact .rest (h.concludeCoroutine d serial r) (h₁.concludeCoroutine d serial hyields)
        (h₂.concludeCoroutine d serial hyields)
    · simp only [Frame.advance, hgoes₁, hgoes₂]
      exact hcoupled.above (.cons (.coroutine hd serial hcode') .nil)
  | @call i hi kind code₁ code₂ hcode =>
    have hd : Desk.script i ≠ Q.desk := fun hd => hi (Desk.script.inj hd)
    rcases hcode.progress hV h h₁ h₂ with ⟨r, hr, hover₁, hover₂⟩ |
      ⟨code₁', w₁', s₁, code₂', w₂', s₂, hgoes₁, hgoes₂, hcode', hcoupled⟩
    · simp only [Frame.advance, hover₁, hover₂]
      cases r with
      | error e =>
        simp only [h.others i hi]
        split
        · exact .rest (h.log _ _) h₁ h₂
        · exact .rest h h₁ h₂
      | ok outcome =>
        cases outcome with
        | done => exact .rest h h₁ h₂
        | spawn routine =>
          have hroutine : Q.Suits (Desk.script i = Q.desk) routine := by
            simpa only [Produces, hd] using hr
          exact coupled_start hV h h₁ h₂ hroutine
    · simp only [Frame.advance, hgoes₁, hgoes₂]
      exact hcoupled.above (.cons (.call hi kind hcode') .nil)
  | handler hcode =>
    rcases hcode.progress hV h h₁ h₂ with ⟨r, hr, hover₁, hover₂⟩ |
      ⟨code₁', w₁', s₁, code₂', w₂', s₂, hgoes₁, hgoes₂, hcode', hcoupled⟩
    · simp only [Frame.advance, hover₁, hover₂]
      exact .rest h h₁ h₂
    · simp only [Frame.advance, hgoes₁, hgoes₂]
      exact hcoupled.above (.cons (.handler hcode') .nil)
  | ending i => exact .rest (h.finishEnding i) (h₁.finishEnding i) (h₂.finishEnding i)
  | putBack name i => exact .rest (h.hold name i) h₁ h₂

/-! ## Two runs -/

/-- **What one run does the other can do.** -/
theorem Coupled.step (hV : Q.Variants I₁ I₂) {c₁ c₁' c₂ : Config D} (h : Q.Coupled c₁ c₂)
    (hstep : c₁.step? I₁ = some c₁') : ∃ c₂', c₂.Steps I₂ c₂' ∧ Q.Coupled c₁' c₂' := by
  obtain ⟨f, below, hf, rfl⟩ := Config.eq_advance_of_step? hstep
  obtain ⟨F₁, F₂, S₁, S₂, hstack₁, hstack₂, hF₁, hF₂, hS⟩ := h.stack
  cases F₁ with
  | cons g F₁ =>
    -- Something of the instance's goes on, and the other run waits.
    obtain ⟨rfl, rfl⟩ : f = g ∧ below = F₁ ++ S₁ := by
      rw [hf] at hstack₁
      exact List.cons.inj hstack₁
    obtain ⟨hown, hF₁⟩ := List.forall_mem_cons.mp hF₁
    have hstays := own_advance hV.silent₁ h.apart₁ hown
    refine ⟨c₂, .refl, hstays.same.trans h.same, hstays.apart, h.apart₂, _, F₂, S₁, S₂,
      (List.append_assoc _ _ _).symm, hstack₂, fun g hg => ?_, hF₂, hS⟩
    rcases List.mem_append.mp hg with hg | hg
    · exact hstays.own g hg
    · exact (hF₁ g hg).congr (Q.memory.iseqv.symm hstays.same.memory)
  | nil =>
    -- The other run first completes what it has of the instance's.
    obtain ⟨w₂, hsubsides, hsame, hapart⟩ := subsides hV.silent₂ h.apart₂ hF₂
    cases hS with
    | nil => simp [hf] at hstack₁
    | @cons f₁ f₂ S₁ S₂ htwins hS =>
      obtain ⟨rfl, rfl⟩ : f = f₁ ∧ below = S₁ := by
        rw [hf] at hstack₁
        exact List.cons.inj hstack₁
      have hreach : c₂.Steps I₂ ⟨w₂, f₂ :: S₂⟩ := by
        have habove := hsubsides.above (f₂ :: S₂)
        rw [← hstack₂] at habove
        exact habove
      have hcoupled := twins_advance hV (h.same.trans hsame.symm) h.apart₁ hapart htwins
      exact ⟨_, hreach.tail rfl, hcoupled.above hS⟩

/-- Any number of steps of the one run has its match in the other. -/
theorem Coupled.steps (hV : Q.Variants I₁ I₂) {c₁ c₁' c₂ : Config D} (h : Q.Coupled c₁ c₂)
    (hsteps : c₁.Steps I₁ c₁') : ∃ c₂', c₂.Steps I₂ c₂' ∧ Q.Coupled c₁' c₂' := by
  induction hsteps with
  | refl => exact ⟨c₂, .refl, h⟩
  | tail _ hstep ih =>
    obtain ⟨c₂', hsteps', h'⟩ := ih
    obtain ⟨c₂'', hsteps'', h''⟩ := h'.step hV hstep
    exact ⟨c₂'', hsteps'.trans hsteps'', h''⟩

/-- When everything is over in one run, the other comes to that point as well. -/
theorem Coupled.rests (hV : Q.Variants I₁ I₂) {c₁ c₂ : Config D} (h : Q.Coupled c₁ c₂)
    (hsteps : c₁.Steps I₁ ⟨w₁, []⟩) :
    ∃ w₂, c₂.Steps I₂ ⟨w₂, []⟩ ∧ Q.SameBut w₁ w₂ ∧ Q.Apart w₁ ∧ Q.Apart w₂ := by
  obtain ⟨c₂', hsteps', hcoupled⟩ := h.steps hV hsteps
  obtain ⟨F₁, F₂, S₁, S₂, hstack₁, hstack₂, -, hF₂, hS⟩ := hcoupled.stack
  obtain ⟨rfl, rfl⟩ := List.append_eq_nil_iff.mp hstack₁.symm
  obtain rfl := List.forall₂_nil_left_iff.mp hS
  rw [List.append_nil] at hstack₂
  obtain ⟨w₂, hsubsides, hsame, hapart⟩ := subsides hV.silent₂ hcoupled.apart₂ hF₂
  rw [← hstack₂] at hsubsides
  exact ⟨w₂, hsteps'.trans hsubsides, hcoupled.same.trans hsame.symm, hcoupled.apart₁, hapart⟩

end QuietInstance

/-! ## Emissions one after another -/

/-- When everything is over, the machine has come to one world only. -/
theorem Config.Steps.rest_unique {I : Interpreter D} {c : Config D} {w₁ w₂ : World D}
    (h₁ : c.Steps I ⟨w₁, []⟩) (h₂ : c.Steps I ⟨w₂, []⟩) : w₁ = w₂ := by
  have hunique : Relator.RightUnique fun c c' : Config D => c.step? I = some c' :=
    fun c c₁ c₂ hc₁ hc₂ => Option.some.inj (hc₁.symm.trans hc₂)
  rcases Relation.ReflTransGen.total_of_right_unique hunique h₁ h₂ with h | h
  · exact (congrArg Config.world (Config.Steps.eq_of_rest h rfl)).symm
  · exact congrArg Config.world (Config.Steps.eq_of_rest h rfl)

/-- **A moment of a run** that starts at rest in a world, and in which the host makes
these emissions one after another. -/
inductive World.Emits (I : Interpreter D) (w : World D) : List Event → Config D → Prop
  | start : Emits I w [] ⟨w, []⟩
  | step {events : List Event} {c c' : Config D} (h : Emits I w events c)
      (hstep : c.step? I = some c') : Emits I w events c'
  | emit {events : List Event} {w' : World D} (h : Emits I w events ⟨w', []⟩) (event : Event) :
      Emits I w (events ++ [event]) ⟨(w'.beginEmission event).1, [(w'.beginEmission event).2]⟩

namespace World.Emits

variable {I : Interpreter D} {w w₁ w₂ : World D} {events : List Event}

/-- More steps on the way to where events have been emitted. -/
theorem steps {c c' : Config D} (h : w.Emits I events c) (hsteps : c.Steps I c') :
    w.Emits I events c' := by
  induction hsteps with
  | refl => exact h
  | tail _ hstep ih => exact ih.step hstep

/-- Where no events were to be emitted nothing has changed. -/
theorem eq_of_nil {c : Config D} (h : w.Emits I [] c) : c = ⟨w, []⟩ := by
  generalize hnil : ([] : List Event) = events at h
  induction h with
  | start => rfl
  | step _ hstep ih =>
    rw [ih hnil] at hstep
    cases hstep
  | emit => simp at hnil

/-- The last emission is made when everything else is over. -/
theorem of_append {event : Event} {c : Config D} (h : w.Emits I (events ++ [event]) c) :
    ∃ w', w.Emits I events ⟨w', []⟩ ∧
      Config.Steps I ⟨(w'.beginEmission event).1, [(w'.beginEmission event).2]⟩ c := by
  generalize hall : events ++ [event] = all at h
  induction h with
  | start => simp at hall
  | step _ hstep ih =>
    obtain ⟨w', hbefore, hsteps⟩ := ih hall
    exact ⟨w', hbefore, hsteps.tail hstep⟩
  | @emit before w' h event' =>
    obtain ⟨rfl, hevent⟩ := List.append_inj' hall rfl
    obtain rfl := List.head_eq_of_cons_eq hevent
    exact ⟨w', h, .refl⟩

/-- Emitting some events comes to one world only. -/
theorem rest_unique (h₁ : w.Emits I events ⟨w₁, []⟩) (h₂ : w.Emits I events ⟨w₂, []⟩) :
    w₁ = w₂ := by
  induction events using List.reverseRecOn generalizing w₁ w₂ with
  | nil => exact congrArg Config.world (h₁.eq_of_nil.trans h₂.eq_of_nil.symm)
  | append_singleton events event ih =>
    obtain ⟨w₁', hbefore₁, hsteps₁⟩ := h₁.of_append
    obtain ⟨w₂', hbefore₂, hsteps₂⟩ := h₂.of_append
    obtain rfl := ih hbefore₁ hbefore₂
    exact hsteps₁.rest_unique hsteps₂

end World.Emits

namespace QuietInstance

variable {Q : QuietInstance D} {I₁ I₂ : Interpreter D} {w : World D} {events : List Event}

/-- Both runs come through the same emissions side by side. -/
theorem Variants.coupled (hV : Q.Variants I₁ I₂) (hw : Q.Apart w) {c₁ : Config D}
    (h : w.Emits I₁ events c₁) : ∃ c₂, w.Emits I₂ events c₂ ∧ Q.Coupled c₁ c₂ := by
  induction h with
  | start => exact ⟨_, .start, .rest (.refl Q w) hw hw⟩
  | step _ hstep ih =>
    obtain ⟨c₂, hemits, hcoupled⟩ := ih
    obtain ⟨c₂', hsteps, hcoupled'⟩ := hcoupled.step hV hstep
    exact ⟨c₂', hemits.steps hsteps, hcoupled'⟩
  | emit _ event ih =>
    obtain ⟨c₂, hemits, hcoupled⟩ := ih
    obtain ⟨w₂, hsteps, hsame, hapart₁, hapart₂⟩ := hcoupled.rests hV .refl
    obtain ⟨hframe, hbegun⟩ := hsame.beginEmission event
    refine ⟨_, (hemits.steps hsteps).emit event, .of_twins hbegun hapart₁ hapart₂ ?_⟩
    rw [hframe]
    exact .cons (.emission _ _ _) .nil

/-- Where one run has come through the emissions, the other has as well. -/
theorem Variants.rests (hV : Q.Variants I₁ I₂) (hw : Q.Apart w) {w₁ : World D}
    (h : w.Emits I₁ events ⟨w₁, []⟩) :
    ∃ w₂, w.Emits I₂ events ⟨w₂, []⟩ ∧ Q.SameElsewhere w₁ w₂ := by
  obtain ⟨c₂, hemits, hcoupled⟩ := hV.coupled hw h
  obtain ⟨w₂, hsteps, hsame, -, -⟩ := hcoupled.rests hV .refl
  exact ⟨w₂, hemits.steps hsteps, hsame.sameElsewhere⟩

/-- **A script's failures stay its own.**  Take two runs with the same emissions that start
in the same world and differ in what the routines of one instance return.  These perform no
acts: that is what `hV` asks of whatever may come to the desk of the instance, and `hw` that
nothing else is there.  Whatever may come elsewhere is the same in both runs, and does the
same whatever it is told when it asks how many wait at the desk of the instance.

At every moment of either run everybody else has seen what they have seen at some moment of
the other one.  The one comes to the end of its emissions if and only if the other does.
And there everybody else's coroutines and callbacks have run in the same order with the
same arguments, the same listeners were called, and everybody else is subscribed to the
same. -/
theorem Variants.same_elsewhere (hV : Q.Variants I₁ I₂) (hw : Q.Apart w) (events : List Event) :
    (∀ c₁, w.Emits I₁ events c₁ →
      ∃ c₂, w.Emits I₂ events c₂ ∧ Q.SameElsewhere c₁.world c₂.world) ∧
    (∀ c₂, w.Emits I₂ events c₂ →
      ∃ c₁, w.Emits I₁ events c₁ ∧ Q.SameElsewhere c₁.world c₂.world) ∧
    ((∃ w₁, w.Emits I₁ events ⟨w₁, []⟩) ↔ ∃ w₂, w.Emits I₂ events ⟨w₂, []⟩) ∧
    ∀ w₁ w₂, w.Emits I₁ events ⟨w₁, []⟩ → w.Emits I₂ events ⟨w₂, []⟩ →
      Q.SameElsewhere w₁ w₂ := by
  refine ⟨fun c₁ h₁ => ?_, fun c₂ h₂ => ?_, ⟨?_, ?_⟩, fun w₁ w₂ h₁ h₂ => ?_⟩
  · obtain ⟨c₂, h₂, hcoupled⟩ := hV.coupled hw h₁
    exact ⟨c₂, h₂, hcoupled.same.sameElsewhere⟩
  · obtain ⟨c₁, h₁, hcoupled⟩ := hV.symm.coupled hw h₂
    exact ⟨c₁, h₁, hcoupled.same.symm.sameElsewhere⟩
  · rintro ⟨w₁, h₁⟩
    obtain ⟨w₂, h₂, -⟩ := hV.rests hw h₁
    exact ⟨w₂, h₂⟩
  · rintro ⟨w₂, h₂⟩
    obtain ⟨w₁, h₁, -⟩ := hV.symm.rests hw h₂
    exact ⟨w₁, h₁⟩
  · obtain ⟨w₂', h₂', hsame⟩ := hV.rests hw h₁
    exact h₂.rest_unique h₂' ▸ hsame

end QuietInstance

namespace Specimen

/-- A language of two coroutines, whose scripts say what they were answered. -/
def twoCoroutines : Dialect :=
  ⟨Unit, Bool, Empty, Empty, Answer⟩

/-- One of them gives control back in some way or other, and the other one runs some code. -/
def answering (neighbour : Code twoCoroutines (Except ScriptError (Yield twoCoroutines)))
    (r : Except ScriptError (Yield twoCoroutines)) : Interpreter twoCoroutines where
  resume
    | true, _ => .ret r
    | false, _ => neighbour
  callable callback := callback.elim
  call callback := callback.elim
  handle handler := handler.elim
  patience := 100

/-- The first instance, which the one coroutine belongs to. -/
def firstInstance : QuietInstance twoCoroutines where
  place := 0
  owns routine := routine = true
  ownsCallback callback := callback.elim
  shares routine := routine = false
  sharesCallback callback := callback.elim
  memory := ⟨Eq, eq_equivalence⟩

/-- What the one coroutine may do: it is lost, or it waits again. -/
def lost : Except ScriptError (Yield twoCoroutines) :=
  .error (.raised "lost")

def patient : Except ScriptError (Yield twoCoroutines) :=
  .ok (.await (.ofKind .timerTick) true)

/-- The other coroutine asks how many wait at the desk of the first instance.  It says the
answer and waits again, -/
def reporter : Code twoCoroutines (Except ScriptError (Yield twoCoroutines)) :=
  .act (.awaiting (.script 0) .timerTick) fun answer =>
    .remark answer (.ret (.ok (.await (.ofKind .timerTick) false)))

/-- or it waits again only if somebody waits there. -/
def prober : Code twoCoroutines (Except ScriptError (Yield twoCoroutines)) :=
  .act (.awaiting (.script 0) .timerTick) fun answer =>
    .ret (if answer = .count 0 then .ok .finished else .ok (.await (.ofKind .timerTick) false))

/-- Top-level code that hands over a coroutine at its own desk. -/
def waitingWith (i : Nat) (routine : Bool) : EntryCode twoCoroutines :=
  .act (.awaitNext (.script i) .timerTick routine) fun _ => .ret (.ok none)

section

variable (neighbour : Code twoCoroutines (Except ScriptError (Yield twoCoroutines)))

/-- An instance comes into being, and its top-level code has run. -/
def joined (w : World twoCoroutines) (id : ScriptId) (path : Path)
    (code : EntryCode twoCoroutines) :
    Config twoCoroutines :=
  Config.after (answering neighbour patient)
    ⟨w.beginLife id path false, [.entry w.instances.length code, .settle w.instances.length]⟩ 3

/-- There is one instance. -/
def oneInstance : Config twoCoroutines :=
  joined neighbour (World.new ()) ⟨1⟩ ⟨"hermit"⟩ (waitingWith 0 true)

/-- There are two, and each of them has a coroutine that waits for a tick. -/
def twoInstances : Config twoCoroutines :=
  joined neighbour (oneInstance neighbour).world ⟨2⟩ ⟨"neighbour"⟩ (waitingWith 1 false)

/-- The world after a tick. -/
def afterTick (r : Except ScriptError (Yield twoCoroutines)) : Option (World twoCoroutines) :=
  (twoInstances neighbour).world.emit (answering neighbour r) .timerTick

end

variable {neighbour : Code twoCoroutines (Except ScriptError (Yield twoCoroutines))}

/-- The reporter keeps to its own desk. -/
theorem polite_reporter : firstInstance.Polite (firstInstance.Yields False) reporter :=
  .act trivial fun _ => .remark (.ret (QuietInstance.suits_false.mpr rfl))

/-- So is the prober, whatever it makes of the answer. -/
theorem polite_prober : firstInstance.Polite (firstInstance.Yields False) prober := by
  refine .act trivial fun answer => .ret ?_
  split
  · trivial
  · exact QuietInstance.suits_false.mpr rfl

/-- Waiting again is what a coroutine of the instance may do. -/
theorem yields_patient : firstInstance.Yields True patient :=
  QuietInstance.suits_true.mpr rfl

/-- Whatever the onlooker is told, it goes on in the same way. -/
theorem twin_reporter : firstInstance.Twin (firstInstance.Yields False) reporter reporter := by
  refine .act trivial fun answer₁ answer₂ _ => ?_
  refine QuietInstance.Twin.remark (D := twoCoroutines) answer₁ answer₂ (.ret ?_)
  exact QuietInstance.suits_false.mpr rfl

/-- Where the neighbour is polite, everybody is courteous. -/
theorem courteous_answering (h : firstInstance.Polite (firstInstance.Yields False) neighbour) :
    firstInstance.Courteous (answering neighbour patient) where
  resume own routine args hroutine := by
    by_cases hown : own
    · obtain rfl : routine = true := hroutine.1 hown
      simp only [hown]
      exact .ret yields_patient
    · obtain rfl : routine = false := hroutine.2 hown
      simp only [hown]
      exact h
  call _ callback := callback.elim
  handle handler := handler.elim

/-- One more instance with a coroutine of its own. -/
theorem arises_joined {w : World twoCoroutines}
    (hw : firstInstance.Arises (answering neighbour patient) ⟨w, []⟩)
    (id : ScriptId) (path : Path) {i : Nat} {routine : Bool}
    (hroutine : firstInstance.Suits (Desk.script i = firstInstance.desk) routine) :
    firstInstance.Arises (answering neighbour patient)
      (joined neighbour w id path (waitingWith i routine)) := by
  have hentry : firstInstance.Fit (.entry w.instances.length (waitingWith i routine)) :=
    .act hroutine fun _ => .ret trivial
  have hbegun := QuietInstance.Arises.host hw (.spawn id path false (waitingWith i routine))
    (List.forall_mem_cons.mpr ⟨hentry, List.forall_mem_singleton.mpr trivial⟩)
  exact hbegun.after 3

theorem arises_oneInstance :
    firstInstance.Arises (answering neighbour patient) (oneInstance neighbour) := by
  have hnew : firstInstance.Arises (answering neighbour patient) ⟨World.new (), []⟩ :=
    QuietInstance.Arises.new (D := twoCoroutines) ()
  exact arises_joined hnew ⟨1⟩ ⟨"hermit"⟩ ⟨fun _ => rfl, fun hdesk => absurd rfl hdesk⟩

theorem arises_twoInstances :
    firstInstance.Arises (answering neighbour patient) ⟨(twoInstances neighbour).world, []⟩ := by
  have hrest : (oneInstance neighbour).stack = [] := List.isEmpty_iff.mp rfl
  have hother : firstInstance.Suits (Desk.script 1 = firstInstance.desk) false :=
    ⟨fun hdesk => absurd (Desk.script.inj hdesk) Nat.one_ne_zero, fun _ => rfl⟩
  have hevening := arises_joined (arises_oneInstance.rest hrest) ⟨2⟩ ⟨"neighbour"⟩ hother
  exact hevening.rest (List.isEmpty_iff.mp rfl)

/-- The coroutine of the first instance does nothing but give control back. -/
theorem silent_answering {r : Except ScriptError (Yield twoCoroutines)}
    (hr : firstInstance.Yields True r) :
    firstInstance.Silent (answering neighbour r) where
  resume routine args m hroutine := by
    obtain rfl : routine = true := hroutine
    exact .ret hr
  call callback := callback.elim

theorem emits_twoInstances {r : Except ScriptError (Yield twoCoroutines)} {w : World twoCoroutines}
    (h : afterTick neighbour r = some w) :
    (twoInstances neighbour).world.Emits (answering neighbour r) [.timerTick] ⟨w, []⟩ :=
  (World.Emits.emit .start .timerTick).steps (Config.steps_of_run h)

/-- What a tick comes to, once it is computed. -/
theorem exists_afterTick (neighbour : Code twoCoroutines (Except ScriptError (Yield twoCoroutines)))
    (r : Except ScriptError (Yield twoCoroutines)) (n m : Nat)
    (h : ((afterTick neighbour r).map fun w => ((w.subscriptions (.script 0)).awaiting .timerTick,
      (w.subscriptions (.script 1)).awaiting .timerTick)) = some (n, m)) :
    ∃ w, afterTick neighbour r = some w ∧
      (w.subscriptions (.script 0)).awaiting .timerTick = n ∧
      (w.subscriptions (.script 1)).awaiting .timerTick = m := by
  obtain ⟨w, hw, hcounts⟩ := Option.map_eq_some_iff.mp h
  obtain ⟨hn, hm⟩ := Prod.mk.inj hcounts
  exact ⟨w, hw, hn, hm⟩

end Specimen

/-- Where the coroutine of the one instance raises an error it is gone after the tick, and
where it waits again it is not.  The other instance hears a different number, and sees the
same. -/
theorem QuietInstance.Variants.same_elsewhere_failing :
    ∃ w₁ w₂, Specimen.afterTick Specimen.reporter Specimen.lost = some w₁ ∧
      Specimen.afterTick Specimen.reporter Specimen.patient = some w₂ ∧
      (w₁.subscriptions (.script 0)).awaiting .timerTick = 0 ∧
      (w₂.subscriptions (.script 0)).awaiting .timerTick = 1 ∧
      Specimen.firstInstance.SameElsewhere w₁ w₂ := by
  have hV : Specimen.firstInstance.Variants (Specimen.answering Specimen.reporter Specimen.lost)
      (Specimen.answering Specimen.reporter Specimen.patient) := by
    refine ⟨Specimen.silent_answering trivial, Specimen.silent_answering Specimen.yields_patient,
      rfl, fun routine args hroutine => ?_, fun callback => callback.elim,
      fun handler => handler.elim⟩
    obtain rfl : routine = false := hroutine
    exact Specimen.twin_reporter
  have hapart := ((Specimen.courteous_answering Specimen.polite_reporter).apart
    Specimen.arises_twoInstances).1
  obtain ⟨w₁, h₁, hgone, -⟩ := Specimen.exists_afterTick Specimen.reporter Specimen.lost 0 1
    (by decide +kernel)
  obtain ⟨w₂, h₂, hwaits, -⟩ := Specimen.exists_afterTick Specimen.reporter Specimen.patient 1 1
    (by decide +kernel)
  obtain ⟨-, -, -, hsame⟩ := QuietInstance.Variants.same_elsewhere hV hapart [.timerTick]
  exact ⟨w₁, w₂, h₁, h₂, hgone, hwaits,
    hsame w₁ w₂ (Specimen.emits_twoInstances h₁) (Specimen.emits_twoInstances h₂)⟩

/-- **Who asks how many wait at the desk of an instance** can tell whether its coroutine has
failed.  From one world that is reached, and with interpreters that differ in nothing but
what that coroutine returns, the coroutine of the other instance is done after the tick in
the one run, and waits again in the other. -/
theorem QuietInstance.DifferInReturns.not_same_elsewhere :
    Config.Reachable (Specimen.answering Specimen.prober Specimen.patient)
        ⟨(Specimen.twoInstances Specimen.prober).world, []⟩ ∧
      Specimen.firstInstance.Apart (Specimen.twoInstances Specimen.prober).world ∧
      Specimen.firstInstance.DifferInReturns (Specimen.answering Specimen.prober Specimen.lost)
        (Specimen.answering Specimen.prober Specimen.patient) ∧
      ∃ w₁ w₂,
        (Specimen.twoInstances Specimen.prober).world.Emits
          (Specimen.answering Specimen.prober Specimen.lost) [.timerTick] ⟨w₁, []⟩ ∧
        (Specimen.twoInstances Specimen.prober).world.Emits
          (Specimen.answering Specimen.prober Specimen.patient) [.timerTick] ⟨w₂, []⟩ ∧
        (w₁.subscriptions (.script 1)).awaiting .timerTick = 0 ∧
        (w₂.subscriptions (.script 1)).awaiting .timerTick = 1 ∧
        ¬ Specimen.firstInstance.SameElsewhere w₁ w₂ := by
  have hapart := ((Specimen.courteous_answering Specimen.polite_prober).apart
    Specimen.arises_twoInstances).1
  obtain ⟨w₁, h₁, -, hdone⟩ := Specimen.exists_afterTick Specimen.prober Specimen.lost 0 0
    (by decide +kernel)
  obtain ⟨w₂, h₂, -, hwaits⟩ := Specimen.exists_afterTick Specimen.prober Specimen.patient 1 1
    (by decide +kernel)
  refine ⟨Specimen.arises_twoInstances.reachable, hapart, ?_, w₁, w₂,
    Specimen.emits_twoInstances h₁, Specimen.emits_twoInstances h₂, hdone, hwaits, fun hsame => ?_⟩
  · refine ⟨Specimen.silent_answering trivial, Specimen.silent_answering Specimen.yields_patient,
      rfl, fun routine args hroutine => ?_, fun callback => callback.elim,
      fun handler => handler.elim⟩
    obtain rfl : routine = false := Bool.eq_false_iff.mpr hroutine
    rfl
  · have hneighbour : Desk.script 1 ≠ Specimen.firstInstance.desk := by decide
    have hcount := hsame.subscriptions (.script 1) hneighbour
    rw [hcount, hwaits] at hdone
    exact absurd hdone Nat.one_ne_zero

end ScriptHost
