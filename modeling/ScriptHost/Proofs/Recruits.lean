import ScriptHost.Proofs.Scenes
import ScriptHost.Proofs.Orders

/-!
# Whose code a registry runs

A registry brings its instances into being with the top-level code that its engine has for
their files, and no operation gives it another engine.  So an operation gives orders of
four sorts (`Order.Of`), and what each of them keeps and comes to the end of, the operation
does.

* `Host.employs_chore` — every operation of a registry;
* `Chore.Employs.exists_trace` — what is kept by every such order is kept by a chore that
  gives no others, and the chore comes to its end.
-/

namespace ScriptHost

variable {D : Dialect} {I : Interpreter D} {α β : Type} {e : Engine D}

/-- An order of a registry that runs scripts with an engine. -/
inductive Order.Of (e : Engine D) : Order D → Prop
  | report (n : Notice) : Of e (.code (.report n))
  | spawn (id : ScriptId) (path : Path) : Of e (.spawn id path (e.entry path id))
  | terminate (i : Nat) : Of e (.terminate i)
  | dropRequests : Of e .dropRequests

namespace Chore

/-- A chore runs scripts with an engine, as long as that is the engine of the registry, and
leaves the registry with it. -/
def Employs (e : Engine D) : Chore D (Host D) α → Prop
  | done _ => True
  | look k => ∀ h : Host D, h.registry.engine = e → (k h).Employs e
  | keep f k => (∀ h : Host D, h.registry.engine = e → (f h).registry.engine = e) ∧ k.Employs e
  | order o k => o.Of e ∧ k.Employs e

theorem Employs.pure (a : α) : (Pure.pure a : Chore D (Host D) α).Employs e :=
  trivial

/-- A chore that is followed by another employs the engine in both parts. -/
theorem Employs.bind {c : Chore D (Host D) α} {f : α → Chore D (Host D) β} (hc : c.Employs e)
    (hf : ∀ a, (f a).Employs e) : (c >>= f).Employs e := by
  induction c with
  | done a => exact hf a
  | look k ih => exact fun h hh => ih h (hc h hh)
  | keep g k ih => exact ⟨hc.1, ih hc.2⟩
  | order o k ih => exact ⟨hc.1, ih hc.2⟩

/-- A chore that looks at the registry finds the engine there. -/
theorem Employs.state {f : Host D → Chore D (Host D) β}
    (hf : ∀ h : Host D, h.registry.engine = e → (f h).Employs e) :
    (Chore.state >>= f).Employs e :=
  hf

theorem Employs.void {c : Chore D (Host D) α} (hc : c.Employs e) : c.void.Employs e :=
  hc.bind fun _ => trivial

/-- **What every order keeps, a chore keeps**, and it comes to its end: here of the world
and of the configurations up to now. -/
theorem Employs.exists_trace {J : List (Config D) → World D → Prop}
    (hJ : ∀ o cs w, o.Of e → J cs w → ∃ cs' w',
      Config.Trace I ⟨(w.beginOrder o).1, (w.beginOrder o).2⟩ cs' ⟨w', []⟩ ∧ J (cs ++ cs') w')
    {c : Chore D (Host D) α} (hc : c.Employs e) {h : Host D} (hengine : h.registry.engine = e)
    {cs : List (Config D)} (hh : J cs h.world) :
    ∃ cs' a h', c.Trace I h cs' a h' ∧ J (cs ++ cs') h'.world ∧ h'.registry.engine = e := by
  induction c generalizing h cs with
  | done a => exact ⟨[], a, h, .done a h, by rwa [List.append_nil], hengine⟩
  | look k ih =>
    obtain ⟨cs', a, h', htrace, hafter⟩ := ih h (hc h hengine) hengine hh
    exact ⟨cs', a, h', .look htrace, hafter⟩
  | keep f k ih =>
    obtain ⟨cs', a, h', htrace, hafter⟩ :=
      ih (h := { f h with world := h.world }) hc.2 (hc.1 h hengine) hh
    exact ⟨cs', a, h', .keep htrace, hafter⟩
  | order o k ih =>
    obtain ⟨cs₁, w, hobeyed, hw⟩ := hJ o cs h.world hc.1 hh
    obtain ⟨cs₂, a, h', htrace, hafter⟩ := ih (h := { h with world := w }) hc.2 hengine hw
    refine ⟨cs₁ ++ cs₂, a, h', .order hobeyed htrace, ?_⟩
    rwa [← List.append_assoc]

end Chore

namespace Host

/-! ## The operations of a registry -/

theorem employs_report (n : RegistryNotice) : (report n : Chore D (Host D) Unit).Employs e :=
  ⟨.report _, trivial⟩

/-- A change of the registry keeps the engine. -/
theorem employs_modifyRegistry {f : Registry D → Registry D}
    (hf : ∀ r, (f r).engine = r.engine) : (modifyRegistry f).Employs e :=
  ⟨fun h hh => (hf h.registry).trans hh, trivial⟩

theorem employs_reportAll (ns : List Notice) :
    (.reportAll ns : Chore D (Host D) Unit).Employs e := by
  induction ns with
  | nil => trivial
  | cons n rest ih => exact ⟨.report n, ih⟩

/-- An instance that comes into being runs what the engine makes of its file. -/
theorem employs_instantiate (i : Nat) : (instantiate i : Chore D (Host D) _).Employs e := by
  apply Chore.Employs.state
  intro h hengine
  split
  · exact .pure _
  · split
    · exact (employs_report _).bind fun _ => .pure _
    · refine (employs_modifyRegistry fun _ => rfl).bind fun _ => ?_
      have hspawn : ∀ id path, (.spawn id path (h.registry.engine.entry path id) :
          Chore D (Host D) Nat).Employs e := fun id path _ _ =>
        ⟨hengine ▸ .spawn id path, trivial⟩
      exact (hspawn _ _).bind fun _ => (employs_modifyRegistry fun _ => rfl).bind fun _ => .pure _

/-- Ending an instance employs nothing else. -/
theorem employs_destroy (i : Nat) : (destroy i : Chore D (Host D) _).Employs e := by
  apply Chore.Employs.state
  intro h hengine
  split
  · exact .pure _
  · exact (employs_modifyRegistry fun _ => rfl).bind fun _ => ⟨.terminate _, trivial⟩

/-- Registering a script employs the engine at most. -/
theorem employs_add (path : Path) (enabled : Bool) :
    (add path enabled : Chore D (Host D) _).Employs e := by
  apply Chore.Employs.state
  intro h hengine
  split
  · exact .pure _
  · refine (employs_report _).bind fun _ => (employs_modifyRegistry fun _ => rfl).bind fun _ => ?_
    split
    · exact (employs_instantiate _).bind fun _ => .pure _
    · exact .pure _

/-- Switching an entry on or off employs the engine at most. -/
theorem employs_setEnabledAt (i : Nat) (value : Bool) :
    (setEnabledAt i value : Chore D (Host D) _).Employs e := by
  refine (employs_modifyRegistry fun _ => rfl).bind fun _ => ?_
  split
  · apply Chore.Employs.state
    intro h hengine
    split
    · exact employs_instantiate i
    · exact .pure _
  · exact (employs_destroy i).bind fun _ => .pure _

/-- So does switching the entry a selector names. -/
theorem employs_setEnabled (s : Selector) (value : Bool) :
    (setEnabled s value : Chore D (Host D) _).Employs e := by
  apply Chore.Employs.state
  intro h hengine
  split
  · exact employs_setEnabledAt _ value
  · exact .pure _

/-- Restarting an entry employs the engine. -/
theorem employs_restartAt (i : Nat) : (restartAt i : Chore D (Host D) _).Employs e := by
  apply Chore.Employs.state
  intro h hengine
  split
  · exact .pure _
  · split
    · refine (employs_destroy i).bind fun _ => .state fun h hengine => ?_
      split
      · exact employs_instantiate i
      · exact .pure _
    · exact (employs_report _).bind fun _ => .pure _

/-- So does restarting the entry a selector names. -/
theorem employs_restart (s : Selector) : (restart s : Chore D (Host D) _).Employs e := by
  apply Chore.Employs.state
  intro h hengine
  split
  · exact employs_restartAt _
  · exact .pure _

/-- Removing a script employs nothing else. -/
theorem employs_remove (s : Selector) : (remove s : Chore D (Host D) _).Employs e := by
  apply Chore.Employs.state
  intro h hengine
  split
  · exact .pure _
  · refine (employs_destroy _).bind fun _ => .state fun h hengine => ?_
    split
    · exact .pure _
    · exact (employs_modifyRegistry fun _ => rfl).bind fun _ =>
        (employs_report _).bind fun _ => .pure _

/-- Attempting something on several entries runs what it runs on each. -/
theorem employs_attemptAll {op : Nat → Chore D (Host D) (Except RegistryError Unit)}
    (hop : ∀ i, (op i).Employs e) (l : List Nat) : (attemptAll op l).Employs e := by
  induction l with
  | nil => exact .pure _
  | cons i rest ih =>
    refine (hop i).bind fun result => ?_
    cases result with
    | ok => exact ih
    | error error => exact (employs_report _).bind fun _ => ih.bind fun _ => .pure _

/-- Restarting everybody employs the engine. -/
theorem employs_restartAll : (restartAll : Chore D (Host D) _).Employs e :=
  .state fun _ _ => (employs_report _).bind fun _ => employs_attemptAll employs_restartAt _

/-- Starting the emulation employs the engine. -/
theorem employs_startAll : (startAll : Chore D (Host D) _).Employs e :=
  (employs_modifyRegistry fun _ => rfl).bind fun _ => .state fun _ _ =>
    (employs_report _).bind fun _ => employs_attemptAll employs_instantiate _

/-- Ending instances one after another employs nothing else. -/
theorem employs_destroyAll (l : List Nat) : (destroyAll l : Chore D (Host D) _).Employs e := by
  induction l with
  | nil => exact .pure _
  | cons i rest ih => exact (employs_destroy i).bind fun _ => ih

/-- Stopping the emulation employs nothing else. -/
theorem employs_stopAll : (stopAll : Chore D (Host D) _).Employs e := by
  refine (employs_modifyRegistry fun _ => rfl).bind fun _ => .state fun h _ => ?_
  dsimp only
  split
  · exact (employs_report _).bind fun _ => employs_destroyAll _
  · exact employs_destroyAll _

/-- A deferred request employs the engine at most. -/
theorem employs_applyRequest (q : Request) :
    (applyRequest q : Chore D (Host D) _).Employs e := by
  apply Chore.Employs.state
  intro h hengine
  split
  · exact employs_setEnabledAt _ true
  · exact (employs_add q.path true).bind fun _ => .pure _
  · exact employs_setEnabledAt _ false
  · exact (employs_report _).bind fun _ => .pure _

/-- So does a queue of deferred requests. -/
theorem employs_applyRequests (queue : List Request) :
    (applyRequests queue : Chore D (Host D) _).Employs e := by
  induction queue with
  | nil => exact .pure _
  | cons q rest ih =>
    refine (employs_applyRequest q).bind fun result => ?_
    cases result with
    | ok => exact ih
    | error error => exact (employs_report _).bind fun _ => ih.bind fun _ => .pure _

theorem employs_processRequests : (processRequests : Chore D (Host D) _).Employs e :=
  fun _ _ => ⟨.dropRequests, employs_applyRequests _⟩

/-- Registering scripts one after another employs the engine at most. -/
theorem employs_enlist (settings : ScriptSettings) (paths : List Path) :
    (enlist settings paths : Chore D (Host D) _).Employs e := by
  induction paths with
  | nil => exact .pure _
  | cons p rest ih =>
    apply Chore.Employs.state
    intro h hengine
    split
    · exact ih
    · refine (employs_add p _).bind fun result => ?_
      cases result with
      | ok => exact ih.bind fun _ => .pure _
      | error error => exact (employs_report _).bind fun _ => ih.bind fun _ => .pure _

/-- So does registering what is found in a directory. -/
theorem employs_discover (files : Files) (dir : Path) (settings : ScriptSettings) :
    (discover files dir settings : Chore D (Host D) _).Employs e := by
  refine (employs_reportAll _).bind fun _ => (employs_enlist settings _).bind fun found => ?_
  refine (employs_report _).bind fun _ => ?_
  split
  · exact .pure _
  · exact .pure _

/-- So does registering scripts by their names. -/
theorem employs_addNamed (dir : Path) (names : List String) :
    (addNamed dir names : Chore D (Host D) _).Employs e := by
  induction names with
  | nil => exact .pure _
  | cons name rest ih =>
    apply Chore.Employs.state
    intro h hengine
    dsimp only
    split
    · exact Chore.Employs.bind (c := .report _) ⟨.report _, trivial⟩ fun _ => ih
    · refine (employs_add _ true).bind fun result => ?_
      cases result with
      | ok => exact ih.bind fun _ => .pure _
      | error error => exact .pure _

/-- **No operation of a registry runs other code** than its engine has. -/
theorem employs_chore (op : RegistryOperation) : (op.chore : Chore D (Host D) Unit).Employs e := by
  cases op with
  | add path enabled => exact (employs_add path enabled).void
  | setEnabled s value => exact (employs_setEnabled s value).void
  | restart s => exact (employs_restart s).void
  | restartAll => exact employs_restartAll.void
  | remove s => exact (employs_remove s).void
  | startAll => exact employs_startAll.void
  | stopAll => exact employs_stopAll
  | discover files dir settings => exact (employs_discover files dir settings).void
  | processRequests => exact employs_processRequests.void
  | addNamed dir names => exact (employs_addNamed dir names).void

end Host

end ScriptHost
