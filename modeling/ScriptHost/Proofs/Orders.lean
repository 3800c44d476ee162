import ScriptHost.Proofs.Traces

/-!
# What a chore can order

Which orders a chore gives depends on what scripts do meanwhile, but of what sort they
are can be read off the chore (`Chore.Orders`).  The operations of a registry report,
bring instances into being and end them (`Order.OfRegistry`); the housekeeping of a
session also takes requests out of their queue (`Order.OfSession`).  None of them emits
an event of the host's own: whatever code of a script emits runs above something that
comes to its end without emitting anything (`Config.Subsides`).

* `Host.orders_startAll`, `Host.orders_stopAll`, `Host.orders_applyRequests` — the
  operations of a registry;
* `Session.orders_reloadOnSignal`, `Session.orders_reloadFromDisk` — the housekeeping;
* `Chore.Trace.hostEmissions_nil` — neither emits anything on the host's behalf.
-/

namespace ScriptHost

variable {D : Dialect} {σ α β : Type} {I : Interpreter D}

open HasWorld

/-- An order a registry gives. -/
inductive Order.OfRegistry : Order D → Prop
  | report (n : Notice) : OfRegistry (.code (.report n))
  | spawn (id : ScriptId) (path : Path) (code : Nat → EntryCode D) :
      OfRegistry (.spawn id path code)
  | terminate (i : Nat) : OfRegistry (.terminate i)

/-- An order a session gives where it does not emit anything. -/
inductive Order.OfSession : Order D → Prop
  | ofRegistry {o : Order D} (h : o.OfRegistry) : OfSession o
  | dropRequests : OfSession .dropRequests

/-! ## The operations of a registry -/

namespace Host

theorem orders_report (n : RegistryNotice) :
    (report n : Chore D (Host D) Unit).Orders Order.OfRegistry :=
  ⟨.report _, trivial⟩

/-- Bringing an instance into being takes only a registry's orders. -/
theorem orders_instantiate (i : Nat) :
    (instantiate i : Chore D (Host D) _).Orders Order.OfRegistry := by
  apply Chore.Orders.state
  intro h
  split
  · exact .pure _
  · split
    · exact (orders_report _).bind fun _ => .pure _
    · exact fun _ => ⟨.spawn .., trivial⟩

/-- Ending an instance takes only a registry's orders. -/
theorem orders_destroy (i : Nat) : (destroy i : Chore D (Host D) _).Orders Order.OfRegistry := by
  apply Chore.Orders.state
  intro h
  split
  · exact .pure _
  · exact ⟨.terminate _, trivial⟩

/-- Registering a script takes only a registry's orders. -/
theorem orders_add (path : Path) (enabled : Bool) :
    (add path enabled : Chore D (Host D) _).Orders Order.OfRegistry := by
  apply Chore.Orders.state
  intro h
  split
  · exact .pure _
  · refine (orders_report _).bind fun _ => (Chore.Orders.change _).bind fun _ => ?_
    split
    · exact (orders_instantiate _).bind fun _ => .pure _
    · exact .pure _

/-- Switching an entry on or off takes only a registry's orders. -/
theorem orders_setEnabledAt (i : Nat) (value : Bool) :
    (setEnabledAt i value : Chore D (Host D) _).Orders Order.OfRegistry := by
  refine (Chore.Orders.change _).bind fun _ => ?_
  split
  · apply Chore.Orders.state
    intro h
    split
    · exact orders_instantiate i
    · exact .pure _
  · exact (orders_destroy i).bind fun _ => .pure _

/-- Restarting an entry takes only a registry's orders. -/
theorem orders_restartAt (i : Nat) :
    (restartAt i : Chore D (Host D) _).Orders Order.OfRegistry := by
  apply Chore.Orders.state
  intro h
  split
  · exact .pure _
  · split
    · refine (orders_destroy i).bind fun _ => .state fun h => ?_
      split
      · exact orders_instantiate i
      · exact .pure _
    · exact (orders_report _).bind fun _ => .pure _

/-- Restarting the entry a selector names takes only a registry's orders. -/
theorem orders_restart (s : Selector) :
    (restart s : Chore D (Host D) _).Orders Order.OfRegistry := by
  apply Chore.Orders.state
  intro h
  split
  · exact orders_restartAt _
  · exact .pure _

/-- Removing a script takes only a registry's orders. -/
theorem orders_remove (s : Selector) :
    (remove s : Chore D (Host D) _).Orders Order.OfRegistry := by
  apply Chore.Orders.state
  intro h
  split
  · exact .pure _
  · refine (orders_destroy _).bind fun _ => .state fun h => ?_
    split
    · exact .pure _
    · exact (Chore.Orders.change _).bind fun _ => (orders_report _).bind fun _ => .pure _

/-- Attempting something on several entries orders what it orders on each. -/
theorem orders_attemptAll {op : Nat → Chore D (Host D) (Except RegistryError Unit)}
    (hop : ∀ i, (op i).Orders Order.OfRegistry) (l : List Nat) :
    (attemptAll op l).Orders Order.OfRegistry := by
  induction l with
  | nil => exact .pure _
  | cons i rest ih =>
    refine (hop i).bind fun result => ?_
    cases result with
    | ok => exact ih
    | error e => exact (orders_report _).bind fun _ => ih.bind fun _ => .pure _

theorem orders_restartAll : (restartAll : Chore D (Host D) _).Orders Order.OfRegistry :=
  .state fun _ => (orders_report _).bind fun _ => orders_attemptAll orders_restartAt _

theorem orders_startAll : (startAll : Chore D (Host D) _).Orders Order.OfRegistry :=
  (Chore.Orders.change _).bind fun _ => .state fun _ => (orders_report _).bind fun _ =>
    orders_attemptAll orders_instantiate _

/-- Ending instances one after another takes only a registry's orders. -/
theorem orders_destroyAll (l : List Nat) :
    (destroyAll l : Chore D (Host D) _).Orders Order.OfRegistry := by
  induction l with
  | nil => exact .pure _
  | cons i rest ih => exact (orders_destroy i).bind fun _ => ih

theorem orders_stopAll : (stopAll : Chore D (Host D) _).Orders Order.OfRegistry := by
  refine (Chore.Orders.change _).bind fun _ => .state fun h => ?_
  dsimp only
  split
  · exact (orders_report _).bind fun _ => orders_destroyAll _
  · exact orders_destroyAll _

/-- Applying a deferred request takes only a registry's orders. -/
theorem orders_applyRequest (q : Request) :
    (applyRequest q : Chore D (Host D) _).Orders Order.OfRegistry := by
  apply Chore.Orders.state
  intro h
  split
  · exact orders_setEnabledAt _ true
  · exact (orders_add q.path true).bind fun _ => .pure _
  · exact orders_setEnabledAt _ false
  · exact (orders_report _).bind fun _ => .pure _

/-- Applying deferred requests takes only a registry's orders. -/
theorem orders_applyRequests (queue : List Request) :
    (applyRequests queue : Chore D (Host D) _).Orders Order.OfRegistry := by
  induction queue with
  | nil => exact .pure _
  | cons q rest ih =>
    refine (orders_applyRequest q).bind fun result => ?_
    cases result with
    | ok => exact ih
    | error e => exact (orders_report _).bind fun _ => ih.bind fun _ => .pure _

/-- Taking the queue of requests as well is an order of a session. -/
theorem orders_processRequests :
    (processRequests : Chore D (Host D) _).Orders Order.OfSession :=
  fun _ => ⟨.dropRequests, (orders_applyRequests _).mono fun _ h => .ofRegistry h⟩

end Host

/-! ## The housekeeping of a session -/

namespace Session

/-- A chore on the registry of a session gives the orders it gives on any registry. -/
theorem orders_withHost {P : Order D → Prop} {c : Chore D (Host D) α} (hc : c.Orders P) :
    (withHost c).Orders P := by
  induction c with
  | done a => trivial
  | look k ih => exact fun s => ih s.host (hc s.host)
  | keep g k ih => exact ih hc
  | order o k ih => exact ⟨hc.1, ih hc.2⟩

/-- What a session lets its registry do takes no other orders than its own. -/
theorem orders_ofRegistry {c : Chore D (Host D) α} (hc : c.Orders Order.OfRegistry) :
    (withHost c).Orders Order.OfSession :=
  orders_withHost (hc.mono fun _ h => .ofRegistry h)

theorem orders_report (n : SessionNotice) :
    (report n : Chore D (Session D) Unit).Orders Order.OfSession :=
  ⟨.ofRegistry (.report _), trivial⟩

/-- Reporting takes only a session's orders. -/
theorem orders_reportAll (ns : List Notice) :
    (.reportAll ns : Chore D (Session D) Unit).Orders Order.OfSession := by
  induction ns with
  | nil => exact .pure ()
  | cons n rest ih => exact ⟨.ofRegistry (.report n), ih⟩

theorem orders_takeReload : (takeReload : Chore D (Session D) _).Orders Order.OfSession := by
  apply Chore.Orders.state
  intro s
  split
  · split
    · exact (Chore.Orders.change _).bind fun _ => .pure _
    · exact .pure _
  · exact .pure _

/-- **A requested reload** emits nothing. -/
theorem orders_reloadOnSignal :
    (reloadOnSignal : Chore D (Session D) _).Orders Order.OfSession := by
  refine orders_takeReload.bind fun requested => ?_
  split
  · refine .state fun s => (orders_ofRegistry Host.orders_restartAll).bind fun result => ?_
    cases result with
    | ok => exact .pure _
    | error e => exact (orders_report _).bind fun _ => .pure _
  · exact .pure _

/-- Restarting changed scripts takes only a session's orders. -/
theorem orders_restartChanged (ps : List Path) :
    (restartChanged ps : Chore D (Session D) _).Orders Order.OfSession := by
  induction ps with
  | nil => exact .pure _
  | cons p rest ih =>
    apply Chore.Orders.state
    intro s
    split
    · refine (orders_report _).bind fun _ => ?_
      refine (orders_ofRegistry (Host.orders_restart _)).bind fun result => ?_
      cases result with
      | ok => exact ih.bind fun _ => .pure _
      | error e => exact (orders_report _).bind fun _ => ih
    · exact ih

/-- Removing missing scripts takes only a session's orders. -/
theorem orders_removeMissing (ps : List Path) :
    (removeMissing ps : Chore D (Session D) _).Orders Order.OfSession := by
  induction ps with
  | nil => exact .pure _
  | cons p rest ih =>
    apply Chore.Orders.state
    intro s
    split
    · refine (orders_report _).bind fun _ => ?_
      refine (orders_ofRegistry (Host.orders_remove _)).bind fun result => ?_
      cases result with
      | ok => exact ih.bind fun _ => .pure _
      | error e => exact ih
    · exact ih

/-- Registering new scripts takes only a session's orders. -/
theorem orders_addFound (ps : List Path) :
    (addFound ps : Chore D (Session D) _).Orders Order.OfSession := by
  induction ps with
  | nil => exact .pure _
  | cons p rest ih =>
    apply Chore.Orders.state
    intro s
    split
    · refine (orders_ofRegistry (Host.orders_add p _)).bind fun result => ?_
      cases result with
      | ok => exact ih.bind fun _ => .pure _
      | error e => exact (orders_report _).bind fun _ => ih
    · exact ih

/-- **Following the directory** emits nothing. -/
theorem orders_reloadFromDisk (files : Files) (clock : Int) :
    (reloadFromDisk files clock : Chore D (Session D) _).Orders Order.OfSession := by
  apply Chore.Orders.state
  intro s
  split
  · exact .pure _
  · split
    · refine (orders_reportAll _).bind fun _ => (Chore.Orders.change _).bind fun _ => ?_
      refine (orders_restartChanged _).bind fun _ => (orders_removeMissing _).bind fun _ => ?_
      exact (orders_addFound _).bind fun _ => .pure _
    · exact .pure _

theorem orders_beginEmulation :
    (beginEmulation : Chore D (Session D) _).Orders Order.OfSession :=
  (orders_report _).bind fun _ => orders_ofRegistry Host.orders_startAll

theorem orders_endEmulation : (endEmulation : Chore D (Session D) _).Orders Order.OfSession :=
  (orders_report _).bind fun _ => orders_ofRegistry Host.orders_stopAll

end Session

/-! ## What the host emits -/

/-- The event the host itself is about to emit, which it does while nothing else is
under way. -/
def Config.hostEmission? (c : Config D) : Option Event :=
  match c.stack with
  | [.handler (.act (.emit event) _)] => some event
  | _ => none

/-- An activity that comes to its end without emitting anything. -/
inductive Frame.Closes : Frame D → Prop
  | settle (i : Nat) : Closes (.settle i)
  | ending (i : Nat) : Closes (.ending i)
  | report (n : Notice) : Closes (.handler (.report n))
  | returned : Closes (.handler (.ret ()))

/-- Nothing is left, or some such activity below whatever is under way. -/
def Config.Subsides (c : Config D) : Prop :=
  c.stack = [] ∨ ∃ above f, f.Closes ∧ c.stack = above ++ [f]

/-- After one step such an activity is over, or has one more to go. -/
theorem Frame.Closes.advance {f : Frame D} (h : f.Closes) (w : World D) :
    (f.advance I w).2 = [] ∨ ∃ g, g.Closes ∧ (f.advance I w).2 = [g] := by
  cases h with
  | settle i => exact Or.inl rfl
  | ending i => exact Or.inl rfl
  | report n => exact Or.inr ⟨_, .returned, rfl⟩
  | returned => exact Or.inl rfl

namespace Config

/-- Where everything subsides the host emits nothing. -/
theorem Subsides.hostEmission?_eq_none {c : Config D} (h : c.Subsides) :
    c.hostEmission? = none := by
  rcases h with hstack | ⟨above, f, hf, hstack⟩
  · rw [hostEmission?, hstack]
  · rw [hostEmission?, hstack]
    cases above with
    | nil => cases hf <;> rfl
    | cons g above => cases above <;> cases g <;> simp

/-- Subsiding goes on step after step. -/
theorem Subsides.step {c c' : Config D} (h : c.Subsides) (hstep : c.step? I = some c') :
    c'.Subsides := by
  obtain ⟨g, rest, hstack, rfl⟩ := eq_advance_of_step? hstep
  rcases h with hnil | ⟨above, f, hf, hbelow⟩
  · rw [hnil] at hstack
    cases hstack
  · rw [hbelow] at hstack
    cases above with
    | nil =>
      obtain ⟨rfl, rfl⟩ := List.cons.inj hstack
      rcases hf.advance (I := I) c.world with hover | ⟨g, hg, hgoes⟩
      · exact Or.inl (by rw [hover]; rfl)
      · exact Or.inr ⟨[], g, hg, by rw [hgoes]; rfl⟩
    | cons g' above =>
      obtain ⟨rfl, rfl⟩ := List.cons.inj hstack
      exact Or.inr ⟨(g'.advance I c.world).2 ++ above, f, hf, (List.append_assoc ..).symm⟩

/-- While what is under way subsides, the host emits nothing. -/
theorem Subsides.hostEmissions_nil {c c' : Config D} {cs : List (Config D)} (h : c.Subsides)
    (hc : Trace I c cs c') : cs.filterMap hostEmission? = [] := by
  induction hc with
  | nil => rfl
  | cons hstep _ ih => rw [List.filterMap_cons_none h.hostEmission?_eq_none, ih (h.step hstep)]

end Config

/-- What comes of an order that a session gives subsides. -/
theorem Order.OfSession.subsides {o : Order D} (ho : o.OfSession) (w : World D) :
    (⟨(w.beginOrder o).1, (w.beginOrder o).2⟩ : Config D).Subsides := by
  cases ho with
  | dropRequests => exact Or.inl rfl
  | ofRegistry ho =>
    cases ho with
    | report n => exact Or.inr ⟨[], _, .report n, rfl⟩
    | spawn id path code =>
      exact Or.inr ⟨[.entry w.instances.length (code w.instances.length)], _, .settle _, rfl⟩
    | terminate i =>
      cases hfarewell : w.farewell? i with
      | none => exact Or.inl (congrArg Prod.snd (World.beginEnding_of_ended hfarewell))
      | some event =>
        obtain ⟨-, hstarted⟩ := World.beginEnding_of_farewell? hfarewell
        exact Or.inr ⟨[_], _, .ending i, hstarted⟩

/-- An event that is ordered is emitted once. -/
theorem Config.Trace.hostEmissions_of_emit {w w' : World D} {event : Event}
    {cs : List (Config D)}
    (hc : Trace I ⟨w, [.handler (.act (.emit event) fun _ => .ret ())]⟩ cs ⟨w', []⟩) :
    cs.filterMap hostEmission? = [event] := by
  cases hc with
  | cons hstep hrest =>
    obtain rfl := Option.some.inj hstep
    have hover : (⟨(w.beginEmission event).1,
        [(w.beginEmission event).2, .handler (.ret ())]⟩ : Config D).Subsides :=
      Or.inr ⟨[(w.beginEmission event).2], _, .returned, rfl⟩
    exact congrArg (event :: ·) (hover.hostEmissions_nil hrest)

namespace Chore

variable [HasWorld D σ]

/-- **A session emits nothing** where it gives no order to. -/
theorem Trace.hostEmissions_nil {c : Chore D σ α} {s s' : σ} {cs : List (Config D)} {a : α}
    (h : c.Trace I s cs a s') (hc : c.Orders Order.OfSession) :
    cs.filterMap Config.hostEmission? = [] := by
  induction h with
  | done => rfl
  | look _ ih => exact ih (hc _)
  | keep _ ih => exact ih hc
  | order hobeyed _ ih =>
    have hfirst := (hc.1.subsides _).hostEmissions_nil hobeyed
    rw [List.filterMap_append, hfirst, ih hc.2, List.append_nil]

/-- **An event the host emits** is emitted once, whatever comes of it. -/
theorem Trace.hostEmissions_emit {s s' : σ} {cs : List (Config D)} {event : Event} {u : Unit}
    (h : (emit event).Trace I s cs u s') : cs.filterMap Config.hostEmission? = [event] := by
  have h : Trace I (.order (.code (.act (.emit event) fun _ => .ret ())) (.done ())) s cs u s' := h
  cases h with
  | order hobeyed h =>
    cases h with
    | done => simpa using hobeyed.hostEmissions_of_emit

end Chore

end ScriptHost
