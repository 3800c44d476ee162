import ScriptHost.Proofs.Bystanders
import ScriptHost.Proofs.Host
import ScriptHost.Registry.Named
import ScriptHost.Session.Emulation

/-!
# A session step by step

A **scene** is a session in the middle of something: activities are under way in its
world, and when they are over the session goes on with what is left of its **agenda**.
So the moments of an operation are there to speak about, those at which the top-level
code of a script runs and those at which an end is announced among them.

While nothing is under way and the agenda is empty, the scene is **at rest**, and
anything can come next: an operation on the registry or on the session, in any order,
or something else the host does of its own accord.  In the latter the host leaves
the instances of the registry to the registry (`Aside`): it is the only owner they
have.

A registry without a session is covered too: it is the registry of a session on which
nothing but operations on the registry is done.

* `Scene.Move.config` — a move of a scene is a move of a run of the host, or none;
* `Scene.runs_of_run` — what a chore does in one go, the scene does step by step.
-/

namespace ScriptHost

variable {D : Dialect}

/-- A chore whose result is of no interest. -/
def Chore.void {σ α : Type} (c : Chore D σ α) : Chore D σ Unit :=
  c.bind fun _ => .done ()

/-- What can be done with a registry. -/
inductive RegistryOperation where
  | add (path : Path) (enabled : Bool)
  | setEnabled (s : Selector) (value : Bool)
  | restart (s : Selector)
  | restartAll
  | remove (s : Selector)
  | startAll
  | stopAll
  | discover (files : Files) (dir : Path) (settings : ScriptSettings)
  | processRequests
  | addNamed (dir : Path) (names : List String)

/-- The chore an operation is. -/
def RegistryOperation.chore : RegistryOperation → Chore D (Host D) Unit
  | .add path enabled => (Host.add path enabled).void
  | .setEnabled s value => (Host.setEnabled s value).void
  | .restart s => (Host.restart s).void
  | .restartAll => Host.restartAll.void
  | .remove s => (Host.remove s).void
  | .startAll => Host.startAll.void
  | .stopAll => Host.stopAll
  | .discover files dir settings => (Host.discover files dir settings).void
  | .processRequests => Host.processRequests.void
  | .addNamed dir names => (Host.addNamed dir names).void

/-- What can be done with a session. -/
inductive Operation where
  /-- Its registry can be operated directly. -/
  | registry (op : RegistryOperation)
  | loadScripts (files : Files) (around : Surroundings)
  | beginEmulation
  | endEmulation
  | runCycle (files : Files) (t : Moment)
  | sendReload (request : Bool)
  | closeReload
  | requestReload
  | emulate (o : EmulationOptions) (channel : Watch Bool) (files : Nat → Files)
    (turns : Nat → Turn) (fuel : Nat)

/-- The chore an operation is. -/
def Operation.chore : Operation → Chore D (Session D) Unit
  | .registry op => Session.withHost op.chore
  | .loadScripts files around => (Session.loadScripts files around).void
  | .beginEmulation => Session.beginEmulation.void
  | .endEmulation => Session.endEmulation
  | .runCycle files t => (Session.runCycle files t).void
  | .sendReload request => Session.sendReload request
  | .closeReload => Session.closeReload
  | .requestReload => Session.requestReload
  | .emulate o channel files turns fuel => (Session.emulate o channel files turns fuel).void

/-- What the host does beside its registry: it brings none of the registry's instances
into being, and neither holds one nor ends one. -/
structure Aside (w w' : World D) (started : List (Frame D)) : Prop where
  initiative : Initiative w w' started
  foreign : ∀ i, w'.view.isRegistered i = true → w.view.isRegistered i = true
  harmless : ∀ i ∈ (⟨w', started⟩ : Config D).endable, w'.view.isRegistered i = false

/-- A session, the activities under way, and what it goes on with. -/
structure Scene (D : Dialect) where
  session : Session D
  stack : List (Frame D)
  agenda : Chore D (Session D) Unit

namespace Scene

open HasWorld

/-- The world. -/
def world (x : Scene D) : World D :=
  x.session.host.world

/-- The world and the activities under way in it. -/
def config (x : Scene D) : Config D :=
  ⟨x.world, x.stack⟩

/-- The scene with the machine somewhere else. -/
def moveTo (x : Scene D) (c : Config D) : Scene D :=
  { x with session := setWorld c.world x.session, stack := c.stack }

variable (I : Interpreter D)

/-- One step: of the machine, or of the agenda when nothing is under way. -/
def step? (x : Scene D) : Option (Scene D) :=
  match x.config.step? I with
  | some c => some (x.moveTo c)
  | none =>
    match x.agenda with
    | .done _ => none
    | .look k => some { x with agenda := k x.session }
    | .keep f k => some { x with session := setWorld x.world (f x.session), agenda := k }
    | .order o k =>
      let (w, started) := x.world.beginOrder o
      some ⟨setWorld w x.session, started, k⟩

/-- One move. -/
inductive Move : Scene D → Scene D → Prop
  | step {x x' : Scene D} (h : x.step? I = some x') : Move x x'
  | operation (s : Session D) (op : Operation) : Move ⟨s, [], .done ()⟩ ⟨s, [], op.chore⟩
  | aside {s : Session D} {w : World D} {started : List (Frame D)}
      (h : Aside s.host.world w started) :
      Move ⟨s, [], .done ()⟩ ⟨setWorld w s, started, .done ()⟩

/-- Any number of moves. -/
abbrev Runs : Scene D → Scene D → Prop :=
  Relation.ReflTransGen (Move I)

/-- Nothing is under way, and nothing is left to do. -/
structure AtRest (x : Scene D) : Prop where
  stack : x.stack = []
  agenda : x.agenda = .done ()

/-- A registry is new, in a world that may have seen anything but a registry. -/
structure Begins (concurrent : Bool) (x : Scene D) : Prop where
  rest : x.AtRest
  registry : ∃ engine, x.session.host.registry = Registry.new engine concurrent
  world : x.config.Reachable I
  unregistered : ∀ i, x.world.view.isRegistered i = false

/-- What a session can come to whose registry allows concurrent scripts, or does not. -/
def Reachable (concurrent : Bool) (x : Scene D) : Prop :=
  ∃ x₀ : Scene D, x₀.Begins I concurrent ∧ x₀.Runs I x

/-- A sequence of scenes whose first `n` moves are those of a run. -/
def IsRun (run : Nat → Scene D) (n : Nat) : Prop :=
  ∀ k < n, Move I (run k) (run (k + 1))

/-- The scene that comes to an operation next. -/
def doing (x : Scene D) (op : Operation) : Scene D :=
  ⟨x.session, [], op.chore⟩

variable {I}

/-- To begin with an order is an initiative of the host. -/
theorem initiative_beginOrder (w : World D) (o : Order D) :
    Initiative w (w.beginOrder o).1 (w.beginOrder o).2 := by
  cases o with
  | code code => exact .code code
  | spawn id path code => exact .spawn id path false (code w.instances.length)
  | terminate i => exact .terminate i
  | dropRequests => exact .setRequests []
  | setShutdown channel => exact .setShutdown channel

/-- **What a step is**: a step of the machine, or, when nothing is under way, the next
thing on the agenda. -/
theorem step?_cases {x x' : Scene D} (h : x.step? I = some x') :
    (∃ c, x.config.step? I = some c ∧ x' = x.moveTo c) ∨
      (x.stack = [] ∧
        ((∃ k, x.agenda = .look k ∧ x' = { x with agenda := k x.session }) ∨
          (∃ f k, x.agenda = .keep f k ∧
            x' = { x with session := setWorld x.world (f x.session), agenda := k }) ∨
          ∃ o k, x.agenda = .order o k ∧
            x' = ⟨setWorld (x.world.beginOrder o).1 x.session, (x.world.beginOrder o).2, k⟩)) := by
  obtain ⟨s, stack, agenda⟩ := x
  cases stack with
  | cons f rest =>
    refine Or.inl ⟨_, rfl, ?_⟩
    exact (Option.some.inj h).symm
  | nil =>
    refine Or.inr ⟨rfl, ?_⟩
    cases agenda with
    | done a => cases h
    | look k => exact Or.inl ⟨k, rfl, (Option.some.inj h).symm⟩
    | keep f k => exact Or.inr (Or.inl ⟨f, k, rfl, (Option.some.inj h).symm⟩)
    | order o k => exact Or.inr (Or.inr ⟨o, k, rfl, (Option.some.inj h).symm⟩)

/-- **A move of a scene is a move of a run of the host**, or, when nothing is under way,
leaves the machine where it is. -/
theorem Move.config {x x' : Scene D} (h : x.Move I x') :
    (x.stack = [] ∧ x'.config = x.config) ∨ x.config.Move I x'.config := by
  cases h with
  | operation => exact Or.inl ⟨rfl, rfl⟩
  | aside h => exact Or.inr (.host h.initiative)
  | step h =>
    rcases step?_cases h with ⟨c, hstep, rfl⟩ | ⟨hrest, hagenda⟩
    · exact Or.inr (.step hstep)
    · obtain ⟨s, stack, agenda⟩ := x
      obtain rfl : stack = [] := hrest
      rcases hagenda with ⟨k, -, rfl⟩ | ⟨f, k, -, rfl⟩ | ⟨o, k, -, rfl⟩
      · exact Or.inl ⟨rfl, rfl⟩
      · exact Or.inl ⟨rfl, rfl⟩
      · exact Or.inr (.host (initiative_beginOrder s.host.world o))

theorem Reachable.move {concurrent : Bool} {x x' : Scene D} (h : x.Reachable I concurrent)
    (hmove : x.Move I x') : x'.Reachable I concurrent := by
  obtain ⟨x₀, hbegins, hruns⟩ := h
  exact ⟨x₀, hbegins, hruns.tail hmove⟩

/-- A run takes a session from what it can come to on. -/
theorem IsRun.reachable {concurrent : Bool} {run : Nat → Scene D} {n : Nat} (hrun : IsRun I run n)
    (h : (run 0).Reachable I concurrent) {k : Nat} (hk : k ≤ n) :
    (run k).Reachable I concurrent := by
  induction k with
  | zero => exact h
  | succ k ih => exact (ih (by omega)).move (hrun k (by omega))

/-- Where there is no step the scene is at rest. -/
theorem atRest_of_step? {x : Scene D} (h : x.step? I = none) : x.AtRest := by
  obtain ⟨s, stack, agenda⟩ := x
  cases stack with
  | cons f rest => cases h
  | nil =>
    cases agenda with
    | done a => exact ⟨rfl, rfl⟩
    | look | keep | order => cases h

/-- At rest the next operation comes. -/
theorem move_doing {x : Scene D} (h : x.AtRest) (op : Operation) : x.Move I (x.doing op) := by
  obtain ⟨s, stack, agenda⟩ := x
  obtain ⟨rfl : stack = [], rfl : agenda = .done ()⟩ := h
  exact .operation s op

theorem Runs.config {x x' : Scene D} (h : x.Runs I x') : x.config.Runs I x'.config := by
  induction h with
  | refl => exact .refl
  | tail _ hmove ih =>
    rcases hmove.config with ⟨-, hsame⟩ | hmove
    · exact hsame ▸ ih
    · exact ih.tail hmove

theorem Reachable.config {concurrent : Bool} {x : Scene D} (h : x.Reachable I concurrent) :
    x.config.Reachable I := by
  obtain ⟨x₀, hbegins, hruns⟩ := h
  exact hbegins.world.runs hruns.config

/-- What holds of a new registry and is kept by every move holds of whatever a session
comes to. -/
theorem Reachable.induction {concurrent : Bool} {P : Scene D → Prop}
    (hbegins : ∀ x : Scene D, x.Begins I concurrent → P x)
    (hmove : ∀ x x' : Scene D, x.Reachable I concurrent → P x → x.Move I x' → P x')
    {x : Scene D} (h : x.Reachable I concurrent) : P x := by
  obtain ⟨x₀, hx₀, hruns⟩ := h
  induction hruns with
  | refl => exact hbegins x₀ hx₀
  | tail hfirst h ih => exact hmove _ _ ⟨x₀, hx₀, hfirst⟩ ih h

/-! ## The beginning -/

/-- A world stays one of those a run can come to when something is reported in it. -/
theorem reachable_log {w : World D} (h : (⟨w, []⟩ : Config D).Reachable I) (n : Notice) :
    (⟨w.log n, []⟩ : Config D).Reachable I := by
  have hcode : Config.Move I ⟨w, []⟩ ⟨w, [.handler (.report n)]⟩ := .host (.code _)
  exact ((h.move hcode).move (.step rfl)).move (.step rfl)

/-- A session that was set up in such a world begins, as its settings say, if no other
registry has been there. -/
theorem begins_new {w : World D} (h : (⟨w, []⟩ : Config D).Reachable I)
    (hunregistered : ∀ i, w.view.isRegistered i = false) (engine : Engine D)
    (settings : ScriptSettings) (reload : Option (Watch Bool)) (files : Files)
    (around : Surroundings) :
    Begins I settings.concurrent
      ⟨Session.new w engine settings reload files around, [], .done ()⟩ := by
  have hhost := reachable_log h (.registry (.created settings.concurrent))
  have hscan : ∀ (ns : List ScanNotice) (w : World D), (⟨w, []⟩ : Config D).Reachable I →
      (∀ i, w.view.isRegistered i = false) →
      let w' := ns.foldl (fun w n => w.log (.scan n)) w
      (⟨w', []⟩ : Config D).Reachable I ∧ ∀ i, w'.view.isRegistered i = false := by
    intro ns
    induction ns with
    | nil => exact fun w hw hnone => ⟨hw, hnone⟩
    | cons n rest ih => exact fun w hw hnone => ih _ (reachable_log hw (.scan n)) hnone
  unfold Session.new
  split
  · obtain ⟨hworld, hnone⟩ :=
      hscan (Scanner.ofSettings files settings around).2 _ hhost hunregistered
    exact ⟨⟨rfl, rfl⟩, ⟨engine, rfl⟩, hworld, hnone⟩
  · exact ⟨⟨rfl, rfl⟩, ⟨engine, rfl⟩, hhost, hunregistered⟩

/-! ## In one go, and step by step -/

/-- The steps of the machine are steps of the scene. -/
theorem runs_of_steps {x : Scene D} {c : Config D} (h : x.config.Steps I c) :
    x.Runs I (x.moveTo c) := by
  induction h with
  | refl => exact .refl
  | @tail c c' _ hstep ih =>
    refine ih.tail (.step ?_)
    have hmachine : (x.moveTo c).config.step? I = some c' := hstep
    simp only [step?, hmachine]
    rfl

/-- **What a chore does in one go, the scene does step by step.** -/
theorem runs_of_run {α : Type} {c : Chore D (Session D) α} {s s' : Session D} {a : α}
    (h : c.run I s = some (a, s')) (k : α → Chore D (Session D) Unit) :
    Runs I ⟨s, [], c.bind k⟩ ⟨s', [], k a⟩ := by
  induction c generalizing s with
  | done b =>
    obtain ⟨rfl, rfl⟩ : b = a ∧ s = s' := by simpa [Chore.run] using h
    exact .refl
  | look f ih => exact (ih s h).head (.step rfl)
  | keep f rest ih => exact (ih h).head (.step rfl)
  | order o rest ih =>
    obtain ⟨w, hobey, hrun⟩ := Option.bind_eq_some_iff.mp h
    have hbegun : Move I ⟨s, [], (Chore.order o rest).bind k⟩
        ⟨setWorld (s.host.world.beginOrder o).1 s, (s.host.world.beginOrder o).2, rest.bind k⟩ :=
      .step rfl
    have hover := runs_of_steps (Config.steps_of_run hobey)
      (x := ⟨setWorld (s.host.world.beginOrder o).1 s, (s.host.world.beginOrder o).2, rest.bind k⟩)
    exact (hover.trans (ih hrun)).head hbegun

/-- **An operation that comes to its end leads from rest to rest.** -/
theorem runs_of_operation {op : Operation} {s s' : Session D}
    (h : (op.chore : Chore D (Session D) Unit).run I s = some ((), s')) :
    Runs I ⟨s, [], .done ()⟩ ⟨s', [], .done ()⟩ := by
  have hruns := runs_of_run h .done
  have hsame : (op.chore : Chore D (Session D) Unit).bind .done = op.chore := Chore.bind_done _
  rw [hsame] at hruns
  exact hruns.head (.operation s op)

end Scene

/-! ## A small session -/

namespace Specimen

/-- An engine with one script, which returns the coroutine. -/
def engine : Engine dialect :=
  ⟨[("a", fun _ _ _ => .ret (.ok (some ())))]⟩

/-- A session has been set up. -/
def opening (concurrent : Bool) : Scene dialect :=
  ⟨Session.new (World.new ()) engine { ScriptSettings.default with concurrent, hotReload := false }
    none ⟨.dir "" [] 0, [], 0⟩ ⟨"", none, none⟩, [], .done ()⟩

/-- The script is registered, starts with the emulation, and is restarted. -/
def restartOperations : List Operation :=
  [.registry (.add ⟨"a.py"⟩ true), .beginEmulation, .registry (.restart (.index 0))]

/-- A scene and the operations that are to come go their way: a step, or the next
operation when nothing is left to do. -/
def proceed : Scene dialect × List Operation → Scene dialect × List Operation
  | (x, ops) =>
    match x.step? interpreter, ops with
    | some x', ops => (x', ops)
    | none, op :: ops => (x.doing op, ops)
    | none, [] => (x, [])

/-- What has come of the programme after some moves.  The script is being restarted from
moment 24 on; from moment 37 to moment 39 the new instance runs its top-level code, and
at moment 41 the programme is over. -/
def restartRun (concurrent : Bool) : Nat → Scene dialect × List Operation
  | 0 => (opening concurrent, restartOperations)
  | n + 1 => proceed (restartRun concurrent n)

theorem begins_opening (concurrent : Bool) :
    (opening concurrent).Begins interpreter concurrent := by
  refine Scene.begins_new ⟨(), .refl⟩ (fun i => ?_) engine
    { ScriptSettings.default with concurrent, hotReload := false } none ⟨.dir "" [] 0, [], 0⟩
    ⟨"", none, none⟩
  simp [View.isRegistered, View.tags, World.view, World.new]

/-- Whatever goes its way moves, unless everything is over. -/
theorem move_proceed {p : Scene dialect × List Operation}
    (h : (p.1.step? interpreter).isSome || !p.2.isEmpty) : p.1.Move interpreter (proceed p).1 := by
  obtain ⟨x, ops⟩ := p
  cases hstep : x.step? interpreter with
  | some x' =>
    simp only [proceed, hstep]
    exact .step hstep
  | none =>
    cases ops with
    | nil => simp [hstep] at h
    | cons op ops =>
      simp only [proceed, hstep]
      exact Scene.move_doing (Scene.atRest_of_step? hstep) op

theorem isRun_restartRun (concurrent : Bool) :
    Scene.IsRun interpreter (fun k => (restartRun concurrent k).1) 41 := by
  have hbusy : ∀ concurrent, ∀ k < 41,
      (((restartRun concurrent k).1.step? interpreter).isSome
        || !(restartRun concurrent k).2.isEmpty) = true := by decide +kernel
  exact fun k hk => move_proceed (hbusy concurrent k hk)

theorem reachable_restartRun (concurrent : Bool) {n : Nat} (hn : n ≤ 41) :
    (restartRun concurrent n).1.Reachable interpreter concurrent :=
  (isRun_restartRun concurrent).reachable ⟨_, begins_opening concurrent, .refl⟩ hn

end Specimen

end ScriptHost
