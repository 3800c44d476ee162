import ScriptHost.Proofs.Ensuring
import ScriptHost.Proofs.Ledger

/-!
# The traces of a chore

A chore that comes to its end takes a **trace**: the configurations from which the
machine makes its steps, one after another, over all the orders that are carried out
(`Chore.Trace`).  It has as many traces as scripts have ways to behave.  What a chore
ensures holds at the end of every trace, and the queue of deferred requests can be
accounted for along it.

* `Chore.trace_of_run` — what a chore does in one go is a trace;
* `Chore.Trace.of_ensures` — what is ensured holds at the end of a trace;
* `Chore.Trace.bind`, `Session.trace_withHost` — the traces of what is made of chores;
* `Scene.runs_of_trace` — a scene can take any of them;
* `Chore.Trace.tags` — whoever has come into being stays in the view;
* `Chore.Orders` — what orders a chore can give, whatever scripts do;
* `Chore.Trace.requests` — the queue has the requests that were pushed on the trace,
  if the chore drops none.
-/

namespace ScriptHost

variable {D : Dialect} {σ α β : Type}

open HasWorld

namespace Config

variable (I : Interpreter D)

/-- The steps of the machine from one configuration to another, each with the
configuration from which it is made. -/
inductive Trace : Config D → List (Config D) → Config D → Prop
  | nil (c : Config D) : Trace c [] c
  | cons {c c₁ c' : Config D} {cs : List (Config D)} (hstep : c.step? I = some c₁)
      (hrest : Trace c₁ cs c') : Trace c (c :: cs) c'

/-- The requests the next step adds to the queue. -/
def pushes (c : Config D) : List Request :=
  (c.stack.head?.map (·.pushes c.world)).getD []

variable {I}

/-- A trace is made of steps. -/
theorem Trace.steps {c c' : Config D} {cs : List (Config D)} (h : Trace I c cs c') :
    c.Steps I c' := by
  induction h with
  | nil => exact .refl
  | cons hstep _ ih => exact ih.head hstep

/-- Whoever has come into being stays in the view. -/
theorem Steps.tags {c c' : Config D} (h : c.Steps I c') :
    c.world.view.tags <+: c'.world.view.tags := by
  induction h with
  | refl => exact List.prefix_refl _
  | tail _ hstep ih => exact ih.trans (Move.step hstep).tags

/-- Steps have a trace. -/
theorem Steps.trace {c c' : Config D} (h : c.Steps I c') : ∃ cs, Trace I c cs c' := by
  induction h using Relation.ReflTransGen.head_induction_on with
  | refl => exact ⟨[], .nil c'⟩
  | head hstep _ ih =>
    obtain ⟨cs, hrest⟩ := ih
    exact ⟨_ :: cs, .cons hstep hrest⟩

/-- **The queue grows by what is pushed**, step by step. -/
theorem Trace.requests {c c' : Config D} {cs : List (Config D)} (h : Trace I c cs c') :
    c'.world.requests = c.world.requests ++ cs.flatMap pushes := by
  induction h with
  | nil => simp
  | @cons c c₁ _ cs hstep _ ih =>
    obtain ⟨f, rest, hstack, rfl⟩ := eq_advance_of_step? hstep
    have hpushed : (f.advance I c.world).1.requests = c.world.requests ++ f.pushes c.world :=
      congrArg Ledger.requests (f.ledger_advance I c.world)
    have hpushes : c.pushes = f.pushes c.world := by simp [pushes, hstack]
    rw [ih, hpushed, List.flatMap_cons, hpushes, List.append_assoc]

end Config

namespace Chore

section World

variable [HasWorld D σ] (I : Interpreter D)

/-- The steps of the machine while a chore is done, from a state to its result and the
state it leaves. -/
inductive Trace : Chore D σ α → σ → List (Config D) → α → σ → Prop
  | done (a : α) (s : σ) : Trace (.done a) s [] a s
  | look {k : σ → Chore D σ α} {s s' : σ} {cs : List (Config D)} {a : α}
      (h : Trace (k s) s cs a s') : Trace (.look k) s cs a s'
  | keep {f : σ → σ} {k : Chore D σ α} {s s' : σ} {cs : List (Config D)} {a : α}
      (h : Trace k (setWorld (world s) (f s)) cs a s') : Trace (.keep f k) s cs a s'
  | order {o : Order D} {k : Chore D σ α} {s s' : σ} {cs cs' : List (Config D)} {w : World D}
      {a : α} (hobeyed : Config.Trace I
        ⟨((world s).beginOrder o).1, ((world s).beginOrder o).2⟩ cs ⟨w, []⟩)
      (hrest : Trace k (setWorld w s) cs' a s') : Trace (.order o k) s (cs ++ cs') a s'

/-- A chore can come to a result and a state: some trace of it leads there. -/
def ComesTo (c : Chore D σ α) (s : σ) (a : α) (s' : σ) : Prop :=
  ∃ cs, Trace I c s cs a s'

variable {I}

/-- **What a chore does in one go is a trace it can take.** -/
theorem trace_of_run {c : Chore D σ α} {s s' : σ} {a : α} (h : c.run I s = some (a, s')) :
    ∃ cs, c.Trace I s cs a s' := by
  induction c generalizing s with
  | done b =>
    obtain ⟨rfl, rfl⟩ : b = a ∧ s = s' := by simpa [run] using h
    exact ⟨[], .done b s⟩
  | look k ih =>
    obtain ⟨cs, htrace⟩ := ih s h
    exact ⟨cs, .look htrace⟩
  | keep f k ih =>
    obtain ⟨cs, htrace⟩ := ih h
    exact ⟨cs, .keep htrace⟩
  | order o k ih =>
    obtain ⟨w, hobey, hrun⟩ := Option.bind_eq_some_iff.mp h
    obtain ⟨cs, hobeyed⟩ := (Config.steps_of_run hobey).trace
    obtain ⟨cs', hrest⟩ := ih hrun
    exact ⟨cs ++ cs', .order hobeyed hrest⟩

/-- **What is ensured holds at the end of every trace.** -/
theorem Trace.of_ensures {c : Chore D σ α} {s s' : σ} {cs : List (Config D)} {a : α}
    (h : c.Trace I s cs a s') {A : σ → List (Frame D) → Prop} {Q : α → σ → Prop}
    (hensures : c.Ensures I A Q s) : Q a s' := by
  induction h with
  | done => exact hensures
  | look _ ih => exact ih hensures
  | keep _ ih => exact ih hensures.2
  | order hobeyed _ ih => exact ih ((hensures _ hobeyed.steps).2 rfl)

/-! ### Traces of what is made of chores -/

/-- **The trace of a chore that is followed by another** goes through a state in
between. -/
theorem Trace.bind {c : Chore D σ α} {f : α → Chore D σ β} {s s'' : σ} {cs : List (Config D)}
    {b : β} (h : (c >>= f).Trace I s cs b s'') :
    ∃ cs₁ a s' cs₂, cs = cs₁ ++ cs₂ ∧ c.Trace I s cs₁ a s' ∧ (f a).Trace I s' cs₂ b s'' := by
  induction c generalizing s cs with
  | done a => exact ⟨[], a, s, cs, rfl, .done a s, h⟩
  | look k ih =>
    have h : Trace I (.look fun s => (k s).bind f) s cs b s'' := h
    cases h with
    | look h =>
      obtain ⟨cs₁, a, s', cs₂, hcs, hfirst, hrest⟩ := ih s h
      exact ⟨cs₁, a, s', cs₂, hcs, .look hfirst, hrest⟩
  | keep g k ih =>
    have h : Trace I (.keep g (k.bind f)) s cs b s'' := h
    cases h with
    | keep h =>
      obtain ⟨cs₁, a, s', cs₂, hcs, hfirst, hrest⟩ := ih h
      exact ⟨cs₁, a, s', cs₂, hcs, .keep hfirst, hrest⟩
  | order o k ih =>
    have h : Trace I (.order o (k.bind f)) s cs b s'' := h
    cases h with
    | @order _ _ _ _ cs₀ _ _ _ hobeyed h =>
      obtain ⟨cs₁, a, s', cs₂, rfl, hfirst, hrest⟩ := ih h
      exact ⟨cs₀ ++ cs₁, a, s', cs₂, (List.append_assoc ..).symm, .order hobeyed hfirst, hrest⟩

/-- A trace of the first chore, followed by one of the second, is one of both. -/
theorem Trace.followed {c : Chore D σ α} {f : α → Chore D σ β} {s s' s'' : σ}
    {cs cs' : List (Config D)} {a : α} {b : β} (h : c.Trace I s cs a s')
    (h' : (f a).Trace I s' cs' b s'') : (c >>= f).Trace I s (cs ++ cs') b s'' := by
  induction h with
  | done => exact h'
  | look _ ih => exact .look (ih h')
  | keep _ ih => exact .keep (ih h')
  | order hobeyed _ ih => exact List.append_assoc .. ▸ .order hobeyed (ih h')

/-- Having nothing to do takes no step. -/
theorem Trace.of_pure {a b : α} {s s' : σ} {cs : List (Config D)}
    (h : Trace I (Pure.pure a) s cs b s') : b = a ∧ cs = [] ∧ s' = s := by
  have h : Trace I (.done a) s cs b s' := h
  cases h with
  | done => exact ⟨rfl, rfl, rfl⟩

/-- A chore that does nothing comes to what it was given. -/
theorem Trace.pure {a b : α} {s s' : σ} {cs : List (Config D)}
    (h : Trace I (Pure.pure a) s cs b s') : b = a ∧ s' = s :=
  ⟨h.of_pure.1, h.of_pure.2.2⟩

/-- The traces of a chore whose result is of no interest. -/
theorem Trace.of_void {c : Chore D σ α} {s s' : σ} {cs : List (Config D)} {u : Unit}
    (h : c.void.Trace I s cs u s') : ∃ a, c.Trace I s cs a s' := by
  obtain ⟨cs₁, a, s₁, cs₂, rfl, hfirst, hdone⟩ := Trace.bind (f := fun _ => .done ()) h
  cases hdone with
  | done => exact ⟨a, (List.append_nil cs₁).symm ▸ hfirst⟩

/-- Looking changes nothing. -/
theorem Trace.state {f : σ → Chore D σ β} {s s' : σ} {cs : List (Config D)} {b : β}
    (h : Trace I (Chore.state >>= f) s cs b s') : (f s).Trace I s cs b s' := by
  have h : Trace I (.look f) s cs b s' := h
  cases h with
  | look h => exact h

/-- A chore that looks at the state goes on from there. -/
theorem Trace.looking {f : σ → Chore D σ β} {s s' : σ} {cs : List (Config D)} {b : β}
    (h : (f s).Trace I s cs b s') : Trace I (Chore.state >>= f) s cs b s' :=
  .look h

/-- Changing what is the host's own takes no step. -/
theorem Trace.of_change {f : σ → σ} {s s' : σ} {cs : List (Config D)} {u : Unit}
    (h : Trace I (Chore.change f) s cs u s') : cs = [] ∧ s' = setWorld (world s) (f s) := by
  have h : Trace I (.keep f (.done ())) s cs u s' := h
  cases h with
  | keep h =>
    cases h with
    | done => exact ⟨rfl, rfl⟩

/-- A change of the state is all that happens. -/
theorem Trace.change {f : σ → σ} {s s' : σ} {cs : List (Config D)} {u : Unit}
    (h : Trace I (Chore.change f) s cs u s') : s' = setWorld (world s) (f s) :=
  h.of_change.2

/-- An order changes nothing but the world. -/
theorem Trace.order_done {o : Order D} {a b : α} {s s' : σ} {cs : List (Config D)}
    (h : Trace I (.order o (.done a)) s cs b s') : b = a ∧ ∃ w, s' = setWorld w s := by
  cases h with
  | order hobeyed h =>
    cases h with
    | done => exact ⟨rfl, _, rfl⟩

/-- **Whoever has come into being** stays in the view, with id, path and owner. -/
theorem Trace.tags {c : Chore D σ α} {s s' : σ} {cs : List (Config D)} {a : α}
    (h : c.Trace I s cs a s') : (world s).view.tags <+: (world s').view.tags := by
  induction h with
  | done => exact List.prefix_refl _
  | look _ ih => exact ih
  | keep _ ih => rwa [world_setWorld] at ih
  | @order o k s s' cs cs' w a hobeyed _ ih =>
    have hbegun : (world s).view.tags <+: ((world s).beginOrder o).1.view.tags :=
      (Config.Move.host (I := I) (Scene.initiative_beginOrder (world s) o)).tags
    have hsteps : ((world s).beginOrder o).1.view.tags <+: w.view.tags := hobeyed.steps.tags
    rw [world_setWorld] at ih
    exact (hbegun.trans hsteps).trans ih

/-- **Instances are never forgotten.** -/
theorem Trace.length_instances {c : Chore D σ α} {s s' : σ}
    {cs : List (Config D)} {a : α} (h : c.Trace I s cs a s') :
    (world s).instances.length ≤ (world s').instances.length := by
  have hlength := h.tags.length_le
  rwa [View.length_tags, View.length_tags, World.length_infos, World.length_infos] at hlength

end World

/-! ## What a chore can order -/

section Orders

variable {P Q : Order D → Prop}

/-- Every order the chore can give satisfies `P`. -/
def Orders (P : Order D → Prop) : Chore D σ α → Prop
  | done _ => True
  | look k => ∀ s, (k s).Orders P
  | keep _ k => k.Orders P
  | order o k => P o ∧ k.Orders P

/-- Two chores in turn give the orders of both. -/
theorem Orders.bind {c : Chore D σ α} {f : α → Chore D σ β} (hc : c.Orders P)
    (hf : ∀ a, (f a).Orders P) : (c >>= f).Orders P := by
  induction c with
  | done a => exact hf a
  | look k ih => exact fun s => ih s (hc s)
  | keep g k ih => exact ih hc
  | order o k ih => exact ⟨hc.1, ih hc.2⟩

theorem Orders.pure (a : α) : (Pure.pure a : Chore D σ α).Orders P :=
  trivial

/-- A chore that looks at the state gives the orders it goes on with. -/
theorem Orders.state {f : σ → Chore D σ β} (hf : ∀ s, (f s).Orders P) :
    (Chore.state >>= f).Orders P :=
  hf

theorem Orders.change (f : σ → σ) : (Chore.change f : Chore D σ Unit).Orders P :=
  trivial

/-- What sort of orders they are may be said more weakly. -/
theorem Orders.mono {c : Chore D σ α} (hc : c.Orders P) (h : ∀ o, P o → Q o) : c.Orders Q := by
  induction c with
  | done a => trivial
  | look k ih => exact fun s => ih s (hc s)
  | keep g k ih => exact ih hc
  | order o k ih => exact ⟨h o hc.1, ih hc.2⟩

end Orders

/-! ## The queue -/

/-- An order leaves the queue as it is, unless it empties it. -/
theorem requests_beginOrder (w : World D) {o : Order D} (ho : o ≠ .dropRequests) :
    (w.beginOrder o).1.requests = w.requests := by
  cases o with
  | code | setShutdown => rfl
  | spawn id path code => exact congrArg Ledger.requests (w.ledger_beginLife id path false)
  | terminate i =>
    exact (congrArg Ledger.requests (w.ledger_beginEnding i)).trans (List.append_nil _)
  | dropRequests => exact absurd rfl ho

variable [HasWorld D σ] {I : Interpreter D}

/-- **The queue has what it had, and what was pushed on the trace**, in that order, if the
chore does not empty it. -/
theorem Trace.requests {c : Chore D σ α} {s s' : σ} {cs : List (Config D)} {a : α}
    (h : c.Trace I s cs a s') (hc : c.Orders (· ≠ .dropRequests)) :
    (world s').requests = (world s).requests ++ cs.flatMap Config.pushes := by
  induction h with
  | done => simp
  | look _ ih => exact ih (hc _)
  | keep _ ih => exact (ih hc).trans (by rw [world_setWorld])
  | @order o k s s' cs cs' w a hobeyed _ ih =>
    have hfirst : w.requests = (world s).requests ++ cs.flatMap Config.pushes :=
      hobeyed.requests.trans (by rw [requests_beginOrder _ hc.1])
    rw [ih hc.2, world_setWorld, hfirst, List.flatMap_append, List.append_assoc]

end Chore

/-- **The trace of a chore on the registry** of a session changes nothing else of the
session. -/
theorem Session.trace_withHost {I : Interpreter D} {c : Chore D (Host D) α} {s s' : Session D}
    {cs : List (Config D)} {a : α} (h : (Session.withHost c).Trace I s cs a s') :
    ∃ h', c.Trace I s.host cs a h' ∧ s' = { s with host := h' } := by
  induction c generalizing s cs with
  | done b =>
    cases h with
    | done => exact ⟨s'.host, .done a s'.host, rfl⟩
  | look k ih =>
    cases h with
    | look h =>
      obtain ⟨h', htrace, rfl⟩ := ih s.host h
      exact ⟨h', .look htrace, rfl⟩
  | keep f k ih =>
    cases h with
    | keep h =>
      obtain ⟨h', htrace, rfl⟩ := ih h
      exact ⟨h', .keep htrace, rfl⟩
  | order o k ih =>
    cases h with
    | order hobeyed h =>
      obtain ⟨h', htrace, rfl⟩ := ih h
      exact ⟨h', .order hobeyed htrace, rfl⟩

namespace Scene

variable {I : Interpreter D} {concurrent : Bool}

/-- **The trace of a chore** is a way for a scene to come to the end of it. -/
theorem runs_of_trace {c : Chore D (Session D) α} {s s' : Session D} {cs : List (Config D)}
    {a : α} (h : c.Trace I s cs a s') (k : α → Chore D (Session D) Unit) :
    Runs I ⟨s, [], c.bind k⟩ ⟨s', [], k a⟩ := by
  induction h with
  | done => exact .refl
  | look _ ih => exact ih.head (.step rfl)
  | keep _ ih => exact ih.head (.step rfl)
  | @order o rest s s' _ _ w _ hobeyed _ ih =>
    have hbegun : Move I ⟨s, [], (Chore.order o rest).bind k⟩
        ⟨setWorld (s.host.world.beginOrder o).1 s, (s.host.world.beginOrder o).2, rest.bind k⟩ :=
      .step rfl
    have hover := runs_of_steps hobeyed.steps
      (x := ⟨setWorld (s.host.world.beginOrder o).1 s, (s.host.world.beginOrder o).2, rest.bind k⟩)
    exact (hover.trans ih).head hbegun

/-- Where a session at rest is given something to do, it rests again afterwards. -/
theorem Reachable.afterwards {s s' : Session D} (h : Reachable I concurrent ⟨s, [], .done ()⟩)
    (op : Operation) {c : Chore D (Session D) α} (hop : op.chore = c.void) {a : α}
    (hc : c.ComesTo I s a s') : Reachable I concurrent ⟨s', [], .done ()⟩ := by
  obtain ⟨x₀, hbegins, hruns⟩ := h
  obtain ⟨cs, hc⟩ := hc
  have hdone := runs_of_trace hc fun _ => .done ()
  rw [show c.bind (fun _ => .done ()) = op.chore from hop.symm] at hdone
  exact ⟨x₀, hbegins, (hruns.tail (.operation s op)).trans hdone⟩

/-- Where the host does something beside a session at rest, it rests again afterwards. -/
theorem Reachable.aside {s : Session D} (h : Reachable I concurrent ⟨s, [], .done ()⟩)
    {w w' : World D} {started : List (Frame D)} (haside : Aside s.host.world w started)
    (hsteps : Config.Steps I ⟨w, started⟩ ⟨w', []⟩) :
    Reachable I concurrent ⟨{ s with host := { s.host with world := w' } }, [], .done ()⟩ := by
  obtain ⟨x₀, hbegins, hruns⟩ := h.move (.aside haside)
  have hover := runs_of_steps hsteps
    (x := ⟨{ s with host := { s.host with world := w } }, started, .done ()⟩)
  exact ⟨x₀, hbegins, hruns.trans hover⟩

end Scene

end ScriptHost
