import ScriptHost.Proofs.Scenes

/-!
# What a chore ensures

`Chore.Ensures` says of a chore, done from a state on, that something holds at every
moment until it is done — of the state, and of the activities under way — and something
else of its result.  Where the chore gives an order, every moment the machine may come to
is one of them, whether the order ever comes to its end or not.

The definition follows the chore, so that operations are dealt with one by one:
`Chore.ensures_bind` puts two chores together, and a chore that only keeps an
invariant (`Chore.Keeps`) needs no more said about it.  `Scene.Safe` carries what was
ensured along the moves of a scene.

* `Chore.ensures_bind`, `Session.ensures_withHost` — how chores are put together;
* `Scene.Reachable.safe` — what every operation ensures from rest to rest holds in
  every scene.
-/

namespace ScriptHost

variable {D : Dialect} {σ α β : Type} {I : Interpreter D}

open HasWorld

namespace Chore

section Ensures

variable [HasWorld D σ]

/-- From a state on, `A` holds at every moment until the chore is done, and `Q` of its
result. -/
def Ensures (I : Interpreter D) (A : σ → List (Frame D) → Prop) :
    Chore D σ α → (α → σ → Prop) → σ → Prop
  | done a, Q, s => Q a s
  | look k, Q, s => (k s).Ensures I A Q s
  | keep f k, Q, s =>
    A (setWorld (world s) (f s)) [] ∧ k.Ensures I A Q (setWorld (world s) (f s))
  | order o k, Q, s =>
    ∀ c, Config.Steps I ⟨((world s).beginOrder o).1, ((world s).beginOrder o).2⟩ c →
      A (setWorld c.world s) c.stack ∧ (c.stack = [] → k.Ensures I A Q (setWorld c.world s))

/-- From a state with a property on, the property holds again when the chore is done. -/
def Keeps (I : Interpreter D) (A : σ → List (Frame D) → Prop) (J : σ → Prop)
    (c : Chore D σ α) : Prop :=
  ∀ s, J s → c.Ensures I A (fun _ s' => J s') s

variable {A : σ → List (Frame D) → Prop} {J : σ → Prop}

/-- What is ensured may be said more weakly. -/
theorem Ensures.mono {c : Chore D σ α} {Q Q' : α → σ → Prop} {s : σ} (h : c.Ensures I A Q s)
    (hQ : ∀ a s, Q a s → Q' a s) : c.Ensures I A Q' s := by
  induction c generalizing s with
  | done a => exact hQ a s h
  | look k ih => exact ih s h
  | keep f k ih => exact ⟨h.1, ih h.2⟩
  | order o k ih => exact fun c hc => ⟨(h c hc).1, fun hrest => ih ((h c hc).2 hrest)⟩

/-- So may what holds all the while. -/
theorem Ensures.mono_always {A' : σ → List (Frame D) → Prop} {c : Chore D σ α} {Q : α → σ → Prop}
    {s : σ} (h : c.Ensures I A Q s) (hA : ∀ s underWay, A s underWay → A' s underWay) :
    c.Ensures I A' Q s := by
  induction c generalizing s with
  | done a => exact h
  | look k ih => exact ih s h
  | keep f k ih => exact ⟨hA _ _ h.1, ih h.2⟩
  | order o k ih => exact fun c hc => ⟨hA _ _ (h c hc).1, fun hrest => ih ((h c hc).2 hrest)⟩

/-- **A chore followed by another** ensures what the second ensures of whatever the
first comes to. -/
theorem ensures_bind {c : Chore D σ α} {f : α → Chore D σ β} {Q : β → σ → Prop} {s : σ}
    (h : c.Ensures I A (fun a s' => (f a).Ensures I A Q s') s) : (c >>= f).Ensures I A Q s := by
  induction c generalizing s with
  | done a => exact h
  | look k ih => exact ih s h
  | keep g k ih => exact ⟨h.1, ih h.2⟩
  | order o k ih => exact fun c hc => ⟨(h c hc).1, fun hrest => ih ((h c hc).2 hrest)⟩

theorem Keeps.pure (a : α) : (Pure.pure a : Chore D σ α).Keeps I A J :=
  fun _ h => h

/-- Two chores in turn keep what each of them keeps. -/
theorem Keeps.bind {c : Chore D σ α} {f : α → Chore D σ β} (hc : c.Keeps I A J)
    (hf : ∀ a, (f a).Keeps I A J) : (c >>= f).Keeps I A J :=
  fun s hs => ensures_bind ((hc s hs).mono fun a s' hs' => hf a s' hs')

/-- Looking changes nothing. -/
theorem Keeps.state {f : σ → Chore D σ β} (hf : ∀ s, (f s).Keeps I A J) :
    (Chore.state >>= f).Keeps I A J :=
  fun s hs => hf s s hs

theorem Keeps.void {c : Chore D σ α} (hc : c.Keeps I A J) : c.void.Keeps I A J :=
  hc.bind fun _ => .pure ()

end Ensures

end Chore

/-- What a chore on the registry ensures, it ensures in a session. -/
theorem Session.ensures_withHost {A : Host D → List (Frame D) → Prop} {c : Chore D (Host D) α}
    {Q : α → Host D → Prop} {s : Session D} (h : c.Ensures I A Q s.host) :
    (Session.withHost c).Ensures I (fun s => A s.host) (fun a s' => Q a s'.host) s := by
  suffices general : ∀ (s : Session D) (host : Host D), c.Ensures I A Q host → s.host = host →
      (Session.withHost c).Ensures I (fun s => A s.host) (fun a s' => Q a s'.host) s from
    general s s.host h rfl
  clear h s
  induction c with
  | done a =>
    rintro s _ h rfl
    exact h
  | look k ih =>
    rintro s _ h rfl
    exact ih s.host s _ h rfl
  | keep f k ih =>
    rintro s _ h rfl
    exact ⟨h.1, ih _ _ h.2 rfl⟩
  | order o k ih =>
    rintro s _ h rfl
    exact fun c hc => ⟨(h c hc).1, fun hrest => ih _ _ ((h c hc).2 hrest) rfl⟩

/-- What is kept of the registry is kept of the session. -/
theorem Session.keeps_withHost {A : Host D → List (Frame D) → Prop} {J : Host D → Prop}
    {c : Chore D (Host D) α} (h : c.Keeps I A J) :
    (Session.withHost c).Keeps I (fun s => A s.host) fun s => J s.host :=
  fun s hs => ensures_withHost (h s.host hs)

namespace Scene

/-- All goes right from here on: `A` holds at every moment the machine may come to, and
the agenda ensures it until the scene is at rest, and then `Q`. -/
def Safe (I : Interpreter D) (A : Session D → List (Frame D) → Prop) (Q : Session D → Prop)
    (x : Scene D) : Prop :=
  ∀ c, x.config.Steps I c →
    A (setWorld c.world x.session) c.stack ∧
      (c.stack = [] → x.agenda.Ensures I A (fun _ => Q) (setWorld c.world x.session))

variable {A A' : Session D → List (Frame D) → Prop} {Q : Session D → Prop}

/-- In a safe scene what is to hold all the while holds now. -/
theorem Safe.always {x : Scene D} (h : x.Safe I A Q) : A x.session x.stack :=
  (h x.config .refl).1

theorem Safe.mono {x : Scene D} (h : x.Safe I A Q)
    (hA : ∀ s underWay, A s underWay → A' s underWay) : x.Safe I A' Q :=
  fun c hc => ⟨hA _ _ (h c hc).1, fun hrest => ((h c hc).2 hrest).mono_always hA⟩

theorem Safe.ensures {x : Scene D} (h : x.Safe I A Q) (hrest : x.stack = []) :
    x.agenda.Ensures I A (fun _ => Q) x.session :=
  (h x.config .refl).2 hrest

/-- A safe scene at rest has what is to hold then. -/
theorem Safe.rest {x : Scene D} (h : x.Safe I A Q) (hrest : x.AtRest) : Q x.session := by
  have hensures := h.ensures hrest.stack
  rw [hrest.agenda] at hensures
  exact hensures

/-- Where nothing is under way, all goes right if the agenda sees to it. -/
theorem safe_of_ensures {s : Session D} {agenda : Chore D (Session D) Unit} (halways : A s [])
    (h : agenda.Ensures I A (fun _ => Q) s) : (⟨s, [], agenda⟩ : Scene D).Safe I A Q := by
  intro c hc
  obtain rfl := Config.Steps.eq_of_rest hc rfl
  exact ⟨halways, fun _ => h⟩

/-- **A step goes on as it was ensured.** -/
theorem Safe.step {x x' : Scene D} (h : x.Safe I A Q) (hstep : x.step? I = some x') :
    x'.Safe I A Q := by
  rcases step?_cases hstep with ⟨c, hmachine, rfl⟩ | ⟨hrest, hagenda⟩
  · exact fun c' hc' => h c' (Relation.ReflTransGen.head hmachine hc')
  · have halways := h.always
    have hensures := h.ensures hrest
    obtain ⟨s, stack, agenda⟩ := x
    obtain rfl : stack = [] := hrest
    rcases hagenda with ⟨k, rfl, rfl⟩ | ⟨f, k, rfl, rfl⟩ | ⟨o, k, rfl, rfl⟩
    · exact safe_of_ensures halways hensures
    · exact safe_of_ensures hensures.1 hensures.2
    · exact hensures

/-- **What is ensured from rest to rest holds in every scene.** -/
theorem Reachable.safe {concurrent : Bool} (hAQ : ∀ s, Q s → A s [])
    (hbegins : ∀ x : Scene D, x.Begins I concurrent → Q x.session)
    (hoperation : ∀ op : Operation, (op.chore : Chore D (Session D) Unit).Keeps I A Q)
    (haside : ∀ (s : Session D) (w : World D) (started : List (Frame D)), Q s →
      Aside s.host.world w started → ∀ c, Config.Steps I ⟨w, started⟩ c →
        A (setWorld c.world s) c.stack ∧ (c.stack = [] → Q (setWorld c.world s)))
    {x : Scene D} (h : x.Reachable I concurrent) : x.Safe I A Q := by
  refine h.induction (fun x hx => ?_) fun x x' _ hsafe hmove => ?_
  · obtain ⟨s, stack, agenda⟩ := x
    obtain ⟨rfl : stack = [], rfl : agenda = .done ()⟩ := hx.rest
    exact safe_of_ensures (hAQ s (hbegins _ hx)) (hbegins _ hx)
  · cases hmove with
    | step hstep => exact hsafe.step hstep
    | operation s op =>
      have hQ : Q s := hsafe.rest ⟨rfl, rfl⟩
      exact safe_of_ensures (hAQ s hQ) (hoperation op s hQ)
    | @aside s w started ha =>
      have hQ : Q s := hsafe.rest ⟨rfl, rfl⟩
      exact fun c hc => haside s w started hQ ha c hc

end Scene

end ScriptHost
