import ScriptHost.Script.Code

/-!
# Script code runs inside script code

An emission calls listeners, a listener resumes coroutines, a coroutine emits
again: at any moment several activities are under way inside each other.  They
are the **frames** of a stack, and the machine does one small step of the
topmost frame at a time.  Each activity that outlives a nested one keeps what it
has left to do in its frame:

* an `emission` keeps the listeners it has yet to call — the list as it was when
  the emission began, whatever is registered or removed meanwhile;
* a `pass` keeps the coroutines it has yet to resume — the queue as it was when
  the pass began; what is parked meanwhile waits for the next event;
* a script's code keeps what it goes on with when its act has been answered.

A step looks at the topmost frame and the world only, and replaces that frame by
what is to be done next (`Frame.advance`).

There is one stack: everything runs on one thread.  The host guards its state with locks
and lets any thread emit; an emission on another thread while one is under way is not
among the runs of this machine, which are those of a host driven by a single thread.
Activities inside each other are those that call each other on that thread.
-/

namespace ScriptHost

/-- An activity that is under way. -/
inductive Frame (D : Dialect) where
  /-- Emission `n` has yet to call these listeners. -/
  | emission (n : Nat) (event : Event) (rest : List (Listener D))
  /-- A pass has yet to resume these coroutines. -/
  | pass (desk : Desk) (kind : EventKind) (args : Args) (pulse : Pulse D)
      (queue : List (Task D)) (resumed : Nat)
  /-- An instance has resumed what waited for an event and comes to its
  callback. -/
  | callback (i : Nat) (kind : EventKind) (args : Args)
  /-- A coroutine runs. -/
  | coroutine (desk : Desk) (serial : Nat) (code : Code D (Except ScriptError (Yield D)))
  /-- A callback runs. -/
  | call (i : Nat) (kind : EventKind) (code : Code D (Except ScriptError (Outcome D)))
  /-- A handler of the host's own runs. -/
  | handler (code : Code D Unit)
  /-- The top-level code of an instance runs. -/
  | entry (i : Nat) (code : EntryCode D)
  /-- An instance has run its top-level code. -/
  | settle (i : Nat)
  /-- The end of an instance has been announced. -/
  | ending (i : Nat)
  /-- An instance goes back among the held ones. -/
  | putBack (name : String) (i : Nat)

/-- A world and the activities under way in it, the innermost first. -/
structure Config (D : Dialect) where
  world : World D
  stack : List (Frame D)

namespace World

variable {D : Dialect} (I : Interpreter D)

/-- Begin an emission: it works on the listeners of this moment. -/
def beginEmission (w : World D) (event : Event) : World D × Frame D :=
  let listeners := w.hub.listeners event.kind
  let n := w.emissions
  let w := w.log (.hub (.emitting event.kind listeners.length))
  let w := { w with emissions := n + 1 }
  (w.record (.emission n event (listeners.map Listener.id)), .emission n event listeners)

/-- Resume a coroutine. -/
def resume (w : World D) (desk : Desk) (task : Task D) (args : Args) : World D × Frame D :=
  (w.record (.resumed desk task.serial args),
    .coroutine desk task.serial (I.resume task.routine args))

/-- Run a new coroutine up to its first suspension. -/
def start (w : World D) (desk : Desk) (routine : D.Coroutine) : World D × Frame D :=
  let (task, w) := w.accept desk routine
  w.resume I desk task []

/-- Begin a pass over the coroutines that wait for a kind: the queue is taken
as it is, and left empty. -/
def beginPass (w : World D) (desk : Desk) (kind : EventKind) (args : Args) (pulse : Pulse D) :
    World D × Frame D :=
  (w.modifySubscriptions desk (·.drain kind),
    .pass desk kind args pulse ((w.subscriptions desk).waiting kind) 0)

/-- Deliver an event to an instance.  Events it never subscribed to, and events
that come after its end, pass it by; an event that does not have the shape of
its kind is reported and goes no further. -/
def deliver (w : World D) (i : Nat) (event : Event) : World D × List (Frame D) :=
  match w.instance? i with
  | none => (w, [])
  | some x =>
    if x.subscriptions.isIdle event.kind || !x.isAlive then (w, [])
    else
      match event.args with
      | .error e => (w.log (.script (.notDelivering x.id event.kind e)), [])
      | .ok args =>
        let (w, pass) := w.beginPass (.script i) event.kind args (.script i)
        (w, [pass, .callback i event.kind args])

/-- Announce the end of an instance.  An instance ends once. -/
def beginEnding (w : World D) (i : Nat) : World D × List (Frame D) :=
  match w.instance? i with
  | none => (w, [])
  | some x =>
    if x.isAlive then
      let (w, emission) := (w.log (.script (.stopping x.id x.path))).beginEmission (.scriptEnd x.id)
      (w, [emission, .ending i])
    else (w, [])

/-- An error as an answer. -/
def answerOf {α : Type} (f : α → Answer) : Except ScriptError α → Answer
  | .ok a => f a
  | .error e => .failed e

/-- Do an act: its answer, the world after what takes effect at once, and the
activities it starts. -/
def act (w : World D) : Act D → Answer × World D × List (Frame D)
  | .emit event =>
    let (w, emission) := w.beginEmission event
    (.done, w, [emission])
  | .listen kind handler =>
    let (id, w) := w.enlist kind (.host handler)
    (.listener id, w, [])
  | .unlisten id =>
    match w.unlisten id with
    | .ok w => (.done, w, [])
    | .error e => (.failed (.event e), w, [])
  | .terminate name =>
    match w.held.lookup name with
    | none => (.absent, w, [])
    | some i =>
      let (w, frames) := (w.takeHeld name).beginEnding i
      (.done, w, frames ++ [.putBack name i])
  | .shutdown value => (.done, w.sendShutdown value, [])
  | .awaitNext desk kind routine => (.done, w.awaitNext desk kind routine, [])
  | .schedule desk request routine =>
    let (r, w) := w.schedule desk request routine
    (answerOf .kind r, w, [])
  | .spawn desk routine =>
    if w.isOpen desk then
      let (w, frame) := w.start I desk routine
      (.done, w, [frame])
    else (.done, w.logClosed desk .notSpawning, [])
  | .awaiting desk kind => (.count ((w.subscriptions desk).awaiting kind), w, [])
  | .setCallback i kind callback =>
    let (r, w) := w.setCallback I.callable i kind callback
    (answerOf (fun _ => .done) r, w, [])
  | .on i event callback =>
    match resolveKind event with
    | .error e => (.failed e, w, [])
    | .ok kind =>
      let (r, w) := w.setCallback I.callable i kind callback
      (answerOf (fun _ => .done) r, w, [])
  | .clearCallbacks i => (.done, w.modifySubscriptions (.script i) .clearCallbacks, [])
  | .reset i => (.done, w.clear (.script i), [])
  | .request i kind path => (.done, w.request i kind path, [])
  | .requestStopSelf i =>
    match w.instance? i with
    | some x => (.done, w.request i .stop x.path, [])
    | none => (.absent, w, [])
  | .identity i =>
    match w.instance? i with
    | some x => (.identity x.id x.path, w, [])
    | none => (.absent, w, [])
  | .notify n kind args test =>
    let (w, pass) := w.beginPass (.bench n) kind args (.glance test)
    (.done, w, [pass])
  | .resumed n => (.count (w.resumedAt n), w, [])

end World

/-- Code after one step: it has come to its result, or it goes on once the
activities it started are over. -/
inductive Progress (D : Dialect) (α : Type) where
  | over (a : α)
  | goesOn (code : Code D α) (world : World D) (started : List (Frame D))

/-- One step of script code. -/
def Code.progress {D : Dialect} (I : Interpreter D) {α : Type} (w : World D) :
    Code D α → Progress D α
  | .ret a => .over a
  | .read k => .goesOn (k w.memory) w []
  | .write m k => .goesOn k { w with memory := m } []
  | .remark r k => .goesOn k (w.record (.remark r)) []
  | .log n k => .goesOn k (w.log n) []
  | .act a k =>
    let (answer, w, started) := w.act I a
    .goesOn (k answer) w started

namespace Frame

variable {D : Dialect} (I : Interpreter D)

/-- One step of an activity: the world after it, and what takes the place of
the activity on the stack. -/
def advance (w : World D) : Frame D → World D × List (Frame D)
  | emission _ _ [] => (w, [])
  | emission n event (l :: rest) =>
    let w := w.record (.reached n l.id)
    match l.hook with
    | .host h => (w, [handler (I.handle h event), emission n event rest])
    | .script i =>
      let (w, frames) := w.deliver i event
      (w, frames ++ [emission n event rest])
  | pass desk kind _ _ [] resumed => (w.endPass desk kind resumed, [])
  | pass desk kind args pulse (task :: queue) resumed =>
    if pulse.beats resumed w then
      let (w, frame) := w.resume I desk task args
      (w, [frame, pass desk kind args pulse queue (resumed + 1)])
    else
      let w := w.log (.coroutine (.cutShort (w.label desk) (queue.length + 1) kind))
      let w := w.recordLeft desk .cutShort ((task :: queue).map Task.serial)
      (w.endPass desk kind resumed, [])
  | callback i kind args =>
    match w.isAlive i, (w.subscriptions (.script i)).callback kind with
    | true, some c => (w.record (.called i kind c args), [call i kind (I.call c args)])
    | _, _ => (w, [])
  | coroutine desk serial code =>
    match code.progress I w with
    | .over r => (w.concludeCoroutine desk serial r, [])
    | .goesOn code w started => (w, started ++ [coroutine desk serial code])
  | call i kind code =>
    match code.progress I w with
    | .over (.ok .done) => (w, [])
    | .over (.ok (.spawn routine)) =>
      let (w, frame) := w.start I (.script i) routine
      (w, [frame])
    | .over (.error e) =>
      match w.instance? i with
      | some x => (w.log (.script (.callbackRaised x.id x.path kind e)), [])
      | none => (w, [])
    | .goesOn code w started => (w, started ++ [call i kind code])
  | handler code =>
    match code.progress I w with
    | .over () => (w, [])
    | .goesOn code w started => (w, started ++ [handler code])
  | entry i code =>
    match code.progress I w with
    | .over (.ok none) => (w, [])
    | .over (.ok (some main)) =>
      let (w, frame) := w.start I (.script i) main
      (w, [frame])
    | .over (.error e) =>
      match w.instance? i with
      | some x => (w.log (.script (.startupRaised x.id x.path e)), [])
      | none => (w, [])
    | .goesOn code w started => (w, started ++ [entry i code])
  | settle i => (w.settleIn i, [])
  | ending i => (w.finishEnding i, [])
  | putBack name i => (w.hold name i, [])

end Frame

namespace Config

variable {D : Dialect} (I : Interpreter D)

/-- One step of the machine; none when nothing is under way. -/
def step? (c : Config D) : Option (Config D) :=
  match c.stack with
  | [] => none
  | frame :: rest =>
    let (world, frames) := frame.advance I c.world
    some ⟨world, frames ++ rest⟩

/-- Step until nothing is under way, for at most `n` steps. -/
def run : Nat → Config D → Option (World D)
  | 0, c => if c.stack.isEmpty then some c.world else none
  | n + 1, c =>
    match c.step? I with
    | none => some c.world
    | some c => c.run n

end Config

end ScriptHost
