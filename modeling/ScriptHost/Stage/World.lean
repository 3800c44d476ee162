import ScriptHost.Stage.Hub
import ScriptHost.Stage.Subscriptions
import ScriptHost.Stage.Watch

/-!
# The world scripts act in

The `World` is everything script code can see or change: the hub, the script
instances with their subscriptions, the benches (schedulers that belong to no
script), the instances held under a name, the queue of deferred requests, the
shutdown channel, the memory of the script language — and the **journal**, in
which everything that happens is written down, the latest first.  Nothing is
ever taken out of the journal, so what happened between two moments is what it
has gained.

This module has the changes that take effect at once.  What runs script code is
in `Stage.Step`.  One thread acts in the world at a time (see there), so a change needs no
lock and is not interleaved with another.
-/

namespace ScriptHost

/-- Where an instance is in its life. -/
inductive Lifecycle where
  /-- Listening already, while its top-level code runs. -/
  | initializing
  | running
  | terminated
deriving DecidableEq, Repr

/-- The name of a stage of life. -/
def Lifecycle.name : Lifecycle → String
  | .initializing => "Initializing"
  | .running => "Running"
  | .terminated => "Terminated"

/-- One execution of a script. -/
structure Instance (D : Dialect) where
  id : ScriptId
  path : Path
  state : Lifecycle
  /-- The hub listeners the instance still owns. -/
  listeners : List ListenerId
  /-- Whether its deferred requests reach no registry. -/
  detached : Bool
  subscriptions : Subscriptions D

namespace Instance

variable {D : Dialect}

/-- Whether an instance has not ended. -/
def isAlive (x : Instance D) : Bool :=
  x.state ≠ .terminated

/-- The name its coroutines go by in notices. -/
def label (x : Instance D) : String :=
  s!"script {x.id} ({x.path})"

end Instance

/-- A scheduler that belongs to no script. -/
structure Bench (D : Dialect) where
  label : String
  subscriptions : Subscriptions D
  /-- How many coroutines the pass has resumed that ended last. -/
  resumed : Nat

/-- A deferred request to start or stop the script at a path. -/
structure Request where
  kind : RequestKind
  path : Path
deriving DecidableEq, Repr

/-- Why a coroutine is gone for good. -/
inductive Farewell where
  | finished
  | failed (error : ScriptError)
  /-- It suspended on something it cannot wait for. -/
  | misdirected (error : ScriptError)
  /-- It waited when its script was reset or ended. -/
  | dropped
  /-- It stood in a queue that was being resumed when its script ended. -/
  | cutShort
deriving DecidableEq, Repr

/-- An entry of the journal. -/
inductive Happening (D : Dialect) where
  | notice (n : Notice)
  | remark (r : D.Remark)
  /-- The emission of a number began, for these listeners. -/
  | emission (n : Nat) (event : Event) (listeners : List ListenerId)
  /-- An emission called a listener. -/
  | reached (n : Nat) (id : ListenerId)
  /-- A coroutine was handed over. -/
  | handed (desk : Desk) (serial : Nat)
  | resumed (desk : Desk) (serial : Nat) (args : Args)
  /-- A coroutine is gone. -/
  | left (desk : Desk) (serial : Nat) (why : Farewell)
  /-- A resumption pass over a queue ended. -/
  | passEnded (desk : Desk) (kind : EventKind) (resumed : Nat)
  | called (i : Nat) (kind : EventKind) (callback : D.Callback) (args : Args)
  /-- An instance came into being, or its end was complete. -/
  | born (i : Nat) (id : ScriptId)
  | ended (i : Nat) (id : ScriptId)

/-- Everything scripts can see or change. -/
structure World (D : Dialect) where
  hub : Hub D
  instances : List (Instance D)
  benches : List (Bench D)
  /-- Instances held under a name, by their place. -/
  held : List (String × Nat)
  /-- Deferred requests, oldest first. -/
  requests : List Request
  /-- The shutdown channel of the emulation, while one runs. -/
  shutdown : Option (Watch Bool)
  memory : D.Memory
  /-- How many emissions have begun. -/
  emissions : Nat
  /-- What happened, the latest first. -/
  journal : List (Happening D)

namespace World

variable {D : Dialect}

/-- A world in which nothing has happened. -/
def new (memory : D.Memory) : World D :=
  { hub := Hub.empty, instances := [], benches := [], held := [], requests := [],
    shutdown := none, memory, emissions := 0, journal := [] }

/-- Write something into the journal. -/
def record (w : World D) (h : Happening D) : World D :=
  { w with journal := h :: w.journal }

/-- Report a notice. -/
def log (w : World D) (n : Notice) : World D :=
  w.record (.notice n)

/-- The instance at a place. -/
def instance? (w : World D) (i : Nat) : Option (Instance D) :=
  w.instances[i]?

/-- Change the instance at a place. -/
def modifyInstance (w : World D) (i : Nat) (f : Instance D → Instance D) : World D :=
  { w with instances := w.instances.modify i f }

/-- Whether the instance at a place has not ended. -/
def isAlive (w : World D) (i : Nat) : Bool :=
  match w.instance? i with
  | some x => x.isAlive
  | none => false

/-- Whether a desk takes coroutines: a bench always, a script until it ends. -/
def isOpen (w : World D) : Desk → Bool
  | .script i => w.isAlive i
  | .bench _ => true

/-- The subscriptions kept at a desk. -/
def subscriptions (w : World D) : Desk → Subscriptions D
  | .script i => ((w.instance? i).map Instance.subscriptions).getD .empty
  | .bench n => (w.benches[n]?.map Bench.subscriptions).getD .empty

/-- Change the subscriptions kept at a desk. -/
def modifySubscriptions (w : World D) (desk : Desk) (f : Subscriptions D → Subscriptions D) :
    World D :=
  match desk with
  | .script i => w.modifyInstance i fun x => { x with subscriptions := f x.subscriptions }
  | .bench n =>
    { w with benches := w.benches.modify n fun b => { b with subscriptions := f b.subscriptions } }

/-- The name the coroutines at a desk go by. -/
def label (w : World D) : Desk → String
  | .script i => ((w.instance? i).map Instance.label).getD ""
  | .bench n => (w.benches[n]?.map Bench.label).getD ""

/-- Set up a bench; its place is the number of benches before. -/
def addBench (w : World D) (label : String) : World D :=
  { w with benches := w.benches ++ [⟨label, .empty, 0⟩] }

/-- How many coroutines the pass has resumed that ended last at a bench. -/
def resumedAt (w : World D) (n : Nat) : Nat :=
  (w.benches[n]?.map Bench.resumed).getD 0

/-! ## The hub -/

/-- Register a listener; the id it got. -/
def enlist (w : World D) (kind : EventKind) (hook : Hook D) : ListenerId × World D :=
  let (id, hub) := w.hub.enlist kind hook
  (id, ({ w with hub } : World D).log (.hub (.registered id kind)))

/-- The world once a listener is registered. -/
def listen (w : World D) (kind : EventKind) (hook : Hook D) : World D :=
  (w.enlist kind hook).2

/-- Remove a listener, wherever it is registered. -/
def unlisten (w : World D) (id : ListenerId) : Except EventError (World D) :=
  match w.hub.kindOf? id with
  | some kind =>
    .ok (({ w with hub := w.hub.detach kind id } : World D).log (.hub (.removed id kind)))
  | none => .error (.unknownListener id)

/-! ## Coroutines -/

/-- Take a coroutine in at a desk, under the next serial number there. -/
def accept (w : World D) (desk : Desk) (routine : D.Coroutine) : Task D × World D :=
  let task : Task D := ⟨(w.subscriptions desk).handed, routine⟩
  (task, (w.modifySubscriptions desk .accept).record (.handed desk task.serial))

/-- Put a coroutine at the end of the queue of a kind. -/
def park (w : World D) (desk : Desk) (kind : EventKind) (task : Task D) : World D :=
  (w.log (.coroutine (.awaiting (w.label desk) kind))).modifySubscriptions desk (·.park kind task)

/-- Write down that coroutines are gone. -/
def recordLeft (w : World D) (desk : Desk) (why : Farewell) (serials : List Nat) : World D :=
  serials.foldl (fun w serial => w.record (.left desk serial why)) w

/-- A pass is over.  A bench keeps the number of coroutines it has resumed. -/
def endPass (w : World D) (desk : Desk) (kind : EventKind) (resumed : Nat) : World D :=
  let w :=
    match desk with
    | .script _ => w
    | .bench n => { w with benches := w.benches.modify n fun b => { b with resumed } }
  w.record (.passEnded desk kind resumed)

/-- Drop every callback and every waiting coroutine at a desk. -/
def clear (w : World D) (desk : Desk) : World D :=
  (w.recordLeft desk .dropped (w.subscriptions desk).waitingSerials).modifySubscriptions desk .clear

/-- What follows when a coroutine gives control back: it waits for the event it
asked for, or it is gone. -/
def concludeCoroutine (w : World D) (desk : Desk) (serial : Nat) :
    Except ScriptError (Yield D) → World D
  | .ok .finished =>
    (w.log (.coroutine (.finished (w.label desk)))).record (.left desk serial .finished)
  | .ok (.await request rest) =>
    match request.resolve with
    | .ok kind => w.park desk kind ⟨serial, rest⟩
    | .error e =>
      (w.log (.coroutine (.dropped (w.label desk) e))).record (.left desk serial (.misdirected e))
  | .error .cancelled =>
    (w.log (.coroutine (.cancelled (w.label desk)))).record
      (.left desk serial (.failed .cancelled))
  | .error e =>
    (w.log (.coroutine (.raised (w.label desk) e))).record (.left desk serial (.failed e))

/-! ## What script code asks for -/

/-- Report something about the script a desk belongs to. -/
def logClosed (w : World D) (desk : Desk) (n : ScriptId → ScriptNotice) : World D :=
  match desk with
  | .script i =>
    match w.instance? i with
    | some x => w.log (.script (n x.id))
    | none => w
  | .bench _ => w

/-- Suspend a coroutine until the next event of a kind.  A script that has
ended takes no more coroutines. -/
def awaitNext (w : World D) (desk : Desk) (kind : EventKind) (routine : D.Coroutine) : World D :=
  if w.isOpen desk then
    let (task, w) := w.accept desk routine
    w.park desk kind task
  else w.logClosed desk (.notAwaiting · kind)

/-- Suspend a coroutine on the event a request names. -/
def schedule (w : World D) (desk : Desk) (request : AwaitRequest) (routine : D.Coroutine) :
    Except ScriptError EventKind × World D :=
  if w.isOpen desk then
    match request.resolve with
    | .ok kind =>
      let (task, w) := w.accept desk routine
      (.ok kind, w.park desk kind task)
    | .error e => (.error e, w)
  else (.error .cancelled, w)

/-- Set or clear the callback of an instance for a kind.  Whether the value can
be called is looked at first, then whether the instance is alive. -/
def setCallback (w : World D) (callable : D.Callback → Bool) (i : Nat) (kind : EventKind)
    (callback : Option D.Callback) : Except ScriptError Unit × World D :=
  if callback.any fun c => !callable c then (.error (.notCallable kind), w)
  else
    match w.instance? i with
    | none => (.error .cancelled, w)
    | some x =>
      let w := w.log (.script (.callbackChanged x.id callback.isSome kind))
      if x.isAlive then
        (.ok (), w.modifySubscriptions (.script i) (·.setCallback kind callback))
      else (.error .cancelled, w)

/-- Queue a deferred request. -/
def pushRequest (w : World D) (kind : RequestKind) (path : Path) : World D :=
  ({ w with requests := w.requests ++ [⟨kind, path⟩] } : World D).log (.script (.queued kind path))

/-- The paths a request of a kind is queued for, oldest first. -/
def pending (w : World D) (kind : RequestKind) : List Path :=
  (w.requests.filter fun r => r.kind = kind).map Request.path

/-- Whether a request is queued for a path. -/
def isPending (w : World D) (path : Path) : Bool :=
  w.requests.any fun r => path.Same r.path

/-- Leave the queue of deferred requests empty. -/
def dropRequests (w : World D) : World D :=
  { w with requests := [] }

/-- Queue a deferred request of an instance.  What a detached instance asks for
reaches nobody. -/
def request (w : World D) (i : Nat) (kind : RequestKind) (path : Path) : World D :=
  match w.instance? i with
  | some x =>
    if x.detached then w.log (.script (.queued kind path)) else w.pushRequest kind path
  | none => w

/-! ## Life and death of an instance -/

/-- Attach an instance to the hub, once for every kind. -/
def attach (w : World D) (i : Nat) (kinds : List EventKind) : World D :=
  kinds.foldl
    (fun w kind =>
      let (id, w) := w.enlist kind (.script i)
      w.modifyInstance i fun x => { x with listeners := x.listeners ++ [id] })
    w

/-- An instance is attached to one kind after another. -/
theorem attach_cons (w : World D) (i : Nat) (kind : EventKind) (rest : List EventKind) :
    w.attach i (kind :: rest)
      = ((w.listen kind (.script i)).modifyInstance i fun x =>
          { x with listeners := x.listeners ++ [w.hub.nextId] }).attach i rest :=
  rfl

/-- Bring an instance into being: it listens to everything, and its top-level
code has yet to run. -/
def beginLife (w : World D) (id : ScriptId) (path : Path) (detached : Bool) : World D :=
  let i := w.instances.length
  let x : Instance D :=
    { id, path, state := .initializing, listeners := [], detached, subscriptions := .empty }
  let w := w.log (.script (.starting id path))
  ({ w with instances := w.instances ++ [x] } : World D).record (.born i id)
    |>.attach i EventKind.all

/-- The top-level code has run: an instance that is still initializing runs. -/
def settleIn (w : World D) (i : Nat) : World D :=
  w.modifyInstance i fun x => if x.state = .initializing then { x with state := .running } else x

/-- Take an ended instance's listeners off the hub.  One that is gone already
is reported. -/
def detachAll (w : World D) (id : ScriptId) (listeners : List ListenerId) : World D :=
  listeners.foldl
    (fun w l =>
      match w.unlisten l with
      | .ok w => w
      | .error e => w.log (.script (.detachFailed id e)))
    w

/-- Complete the end of an instance: it counts as ended, leaves the hub, and
what it was subscribed to is dropped. -/
def finishEnding (w : World D) (i : Nat) : World D :=
  match w.instance? i with
  | none => w
  | some x =>
    let w := w.modifyInstance i fun x => { x with state := .terminated, listeners := [] }
    let w := w.detachAll x.id x.listeners
    let slots := (w.subscriptions (.script i)).filled
    ((w.clear (.script i)).log (.script (.released x.id slots))).record (.ended i x.id)

/-- Take an instance out of the held ones. -/
def takeHeld (w : World D) (name : String) : World D :=
  { w with held := w.held.filter fun p => p.1 ≠ name }

/-- Hold an instance under a name, instead of whatever was held under it. -/
def hold (w : World D) (name : String) (i : Nat) : World D :=
  { w with held := (w.takeHeld name).held ++ [(name, i)] }

/-- Send on the shutdown channel of the emulation that runs, if one runs. -/
def sendShutdown (w : World D) (value : Bool) : World D :=
  { w with shutdown := w.shutdown.map (·.send value) }

end World

/-- What script code could see of the world: neither the journal nor how many emissions have
begun. -/
def World.sight {D : Dialect} (w : World D) : World D :=
  { w with emissions := 0, journal := [] }

/-- How a resumption pass knows whether to go on: by the life of a script, or
by a test that is told how often it has been asked before. -/
inductive Pulse (D : Dialect) where
  | script (i : Nat)
  | test (f : Nat → World D → Bool)

/-- The test of script code, which sees no more of the world than the code does. -/
def Pulse.glance {D : Dialect} (f : Nat → World D → Bool) : Pulse D :=
  .test fun n w => f n w.sight

/-- Whether the pass goes on, asked after `n` resumptions. -/
def Pulse.beats {D : Dialect} (p : Pulse D) (n : Nat) (w : World D) : Bool :=
  match p with
  | script i => w.isAlive i
  | test f => f n w

end ScriptHost
