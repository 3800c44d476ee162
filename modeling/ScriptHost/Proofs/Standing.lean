import Mathlib.Data.List.Basic
import ScriptHost.Stage.Step

/-!
# Where an instance stands

Of a world, an instance is concerned by three things: how far its life has come,
what it is subscribed to, and what the journal says of its coroutines and its
callbacks — its **story**.  Together they are its `Standing`.

Each operation of `Stage.World` and `Stage.Step` has a lemma here that says what
it does to a standing; the lemmas come in two sorts.  What happens at an
instance's own desk changes its standing in the way the lemma states
(`standing_park`, `standing_clear`, `standing_finishEnding`, …).  What happens at
another desk, on the hub, or in the notices does not change it at all
(`standing_park_of_ne`, `standing_log`, …).

A standing is one **reading** of a world among others.  What goes through a list to
change a world does so by small changes, and a reading that sees none of them does not
see the whole (`recordLeft_congr`, `detachAll_congr`).
-/

namespace ScriptHost

variable {D : Dialect}

/-- Whether an entry of the journal is about an instance's coroutines or
callbacks. -/
def Happening.concerns (i : Nat) : Happening D → Bool
  | .handed desk _ => desk = .script i
  | .resumed desk _ _ => desk = .script i
  | .left desk _ _ => desk = .script i
  | .called j _ _ _ => j = i
  | _ => false

/-- What is left out of a list does not matter to a reading that finds nothing in it. -/
theorem filterMap_filter_of_none {α β : Type} {p : α → Bool} {f : α → Option β}
    (h : ∀ a, p a = false → f a = none) (l : List α) :
    (l.filter p).filterMap f = l.filterMap f := by
  rw [List.filterMap_filter]
  refine List.filterMap_congr fun a _ => ?_
  cases hp : p a with
  | true => rfl
  | false => simp [h a hp]

/-- What of a world concerns one instance. -/
structure Standing (D : Dialect) where
  /-- How far its life has come; nothing before it came into being. -/
  state : Option Lifecycle
  table : Subscriptions D
  /-- What the journal says of its coroutines and callbacks, the latest first. -/
  story : List (Happening D)

/-- Whether an instance has come into being and has not ended. -/
def Standing.isAlive (s : Standing D) : Bool :=
  s.state.any (· ≠ .terminated)

/-- What is left of a standing when everything it was subscribed to is dropped: an
empty table, and a farewell for everyone who waited. -/
def Standing.cleared (s : Standing D) (i : Nat) : Standing D :=
  { s with
    table := s.table.clear
    story := (s.table.waitingSerials.map fun n => Happening.left (.script i) n .dropped).reverse
      ++ s.story }

namespace World

/-! ## What a reading does not see -/

section Reading

variable {α : Type} {f : World D → α}

/-- A reading that sees no farewell sees none of a list of them. -/
theorem recordLeft_congr {desk : Desk} {why : Farewell}
    (hleft : ∀ (w : World D) (s : Nat), f (w.record (.left desk s why)) = f w) (w : World D)
    (serials : List Nat) : f (w.recordLeft desk why serials) = f w := by
  unfold recordLeft
  induction serials generalizing w with
  | nil => rfl
  | cons s rest ih => rw [List.foldl_cons, ih, hleft]

/-- A reading that sees neither the benches nor that a pass ended does not see the end of a
pass. -/
theorem endPass_congr {desk : Desk} {kind : EventKind} {resumed : Nat}
    (hbenches : ∀ (w : World D) (benches : List (Bench D)), f { w with benches } = f w)
    (hended : ∀ w : World D, f (w.record (.passEnded desk kind resumed)) = f w) (w : World D) :
    f (w.endPass desk kind resumed) = f w := by
  cases desk with
  | script i => exact hended w
  | bench n => exact (hended _).trans (hbenches w _)

/-- A reading that sees neither hub nor notices does not see who leaves the hub. -/
theorem unlisten_congr (hhub : ∀ (w : World D) (hub : Hub D), f { w with hub } = f w)
    (hlog : ∀ (w : World D) (n : Notice), f (w.log n) = f w) {w w' : World D} {id : ListenerId}
    (h : w.unlisten id = .ok w') : f w' = f w := by
  unfold unlisten at h
  split at h <;> cases h
  rw [hlog, hhub]

/-- What depends neither on the hub nor on notices does not change when listeners are taken
off. -/
theorem detachAll_congr (hhub : ∀ (w : World D) (hub : Hub D), f { w with hub } = f w)
    (hlog : ∀ (w : World D) (n : Notice), f (w.log n) = f w) (w : World D) (id : ScriptId)
    (listeners : List ListenerId) : f (w.detachAll id listeners) = f w := by
  unfold detachAll
  induction listeners generalizing w with
  | nil => rfl
  | cons l rest ih =>
    rw [List.foldl_cons, ih]
    split
    · next h => exact unlisten_congr hhub hlog h
    · exact hlog w _

end Reading

/-! ## The standing -/

/-- Where an instance stands. -/
def standing (w : World D) (i : Nat) : Standing D :=
  { state := (w.instance? i).map Instance.state
    table := w.subscriptions (.script i)
    story := w.journal.filter (·.concerns i) }

/-- An instance that stands alive is alive. -/
theorem isAlive_standing (w : World D) (i : Nat) : (w.standing i).isAlive = w.isAlive i := by
  cases h : w.instance? i with
  | none => simp [standing, Standing.isAlive, isAlive, h]
  | some x => simp [standing, Standing.isAlive, isAlive, Instance.isAlive, h]

/-- Whether an instance is alive can be read off it. -/
theorem isAlive_of_instance? {w : World D} {i : Nat} {x : Instance D}
    (h : w.instance? i = some x) : w.isAlive i = x.isAlive := by
  simp [isAlive, h]

/-- A place with an instance is one of the places. -/
theorem lt_of_instance? {w : World D} {i : Nat} {x : Instance D}
    (h : w.instance? i = some x) : i < w.instances.length :=
  (List.getElem?_eq_some_iff.mp h).1

/-- Whoever is alive has a place. -/
theorem lt_of_isAlive {w : World D} {i : Nat} (h : w.isAlive i) : i < w.instances.length := by
  cases hx : w.instance? i with
  | none => simp [isAlive, hx] at h
  | some x => exact lt_of_instance? hx

/-- The table an instance stands with is its own. -/
theorem table_of_instance? {w : World D} {i : Nat} {x : Instance D}
    (h : w.instance? i = some x) : (w.standing i).table = x.subscriptions := by
  simp [standing, subscriptions, h]

/-- A standing depends on the instances and on the journal. -/
theorem standing_congr {w w' : World D} (hinst : w'.instances = w.instances)
    (hjournal : w'.journal = w.journal) (i : Nat) : w'.standing i = w.standing i := by
  simp [standing, subscriptions, instance?, hinst, hjournal]

/-! ## The journal -/

/-- What happens to an instance becomes the latest of its story. -/
theorem standing_record (w : World D) (h : Happening D) (i : Nat) :
    (w.record h).standing i
      = if h.concerns i then { w.standing i with story := h :: (w.standing i).story }
        else w.standing i := by
  simp only [standing, record, List.filter_cons]
  split <;> rfl

/-- What does not concern an instance leaves it as it stands. -/
theorem standing_record_of_not (w : World D) {h : Happening D} {i : Nat}
    (hh : h.concerns i = false) : (w.record h).standing i = w.standing i := by
  rw [standing_record, if_neg (by simp [hh])]

/-- A notice changes nobody's standing. -/
@[simp] theorem standing_log (w : World D) (n : Notice) (i : Nat) :
    (w.log n).standing i = w.standing i :=
  standing_record_of_not w rfl

/-! ## Subscriptions -/

/-- What is done to one instance leaves the others as they stand. -/
theorem standing_modifyInstance_of_ne (w : World D) {i j : Nat} (f : Instance D → Instance D)
    (h : j ≠ i) : (w.modifyInstance j f).standing i = w.standing i := by
  simp [standing, subscriptions, instance?, modifyInstance, h]

/-- A change of an instance shows in its state and its subscriptions. -/
theorem standing_modifyInstance {w : World D} {i : Nat} {x : Instance D}
    (f : Instance D → Instance D) (h : w.instance? i = some x) :
    (w.modifyInstance i f).standing i
      = { w.standing i with state := some (f x).state, table := (f x).subscriptions } := by
  have hx : w.instances[i]? = some x := h
  simp [standing, subscriptions, instance?, modifyInstance, hx]

/-- Changing what an instance is subscribed to changes its table alone. -/
theorem standing_modifySubscriptions {w : World D} {i : Nat}
    (f : Subscriptions D → Subscriptions D) (hi : i < w.instances.length) :
    (w.modifySubscriptions (.script i) f).standing i
      = { w.standing i with table := f (w.standing i).table } := by
  have hx : w.instance? i = some w.instances[i] := List.getElem?_eq_getElem hi
  have hstate : (w.standing i).state = some w.instances[i].state := by simp [standing, hx]
  rw [table_of_instance? hx, modifySubscriptions, standing_modifyInstance _ hx, ← hstate]

/-- What is done to the table of one desk leaves the instances at other desks as they stand. -/
theorem standing_modifySubscriptions_of_ne (w : World D) {i : Nat} {desk : Desk}
    (f : Subscriptions D → Subscriptions D) (h : desk ≠ .script i) :
    (w.modifySubscriptions desk f).standing i = w.standing i := by
  cases desk with
  | script j => exact standing_modifyInstance_of_ne w _ fun e => h (congrArg Desk.script e)
  | bench n => exact standing_congr rfl rfl i

/-- Nobody is there to be changed. -/
theorem standing_modifySubscriptions_of_le {w : World D} {i : Nat} (desk : Desk)
    (f : Subscriptions D → Subscriptions D) (hi : w.instances.length ≤ i) :
    (w.modifySubscriptions desk f).standing i = w.standing i := by
  by_cases h : desk = .script i
  · subst h
    have hnone : w.instances[i]? = none := List.getElem?_eq_none hi
    simp [standing, subscriptions, instance?, modifySubscriptions, modifyInstance, hnone]
  · exact standing_modifySubscriptions_of_ne w f h

/-- No instance comes into being when a table changes. -/
@[simp] theorem length_modifySubscriptions (w : World D) (desk : Desk)
    (f : Subscriptions D → Subscriptions D) :
    (w.modifySubscriptions desk f).instances.length = w.instances.length := by
  cases desk <;> simp [modifySubscriptions, modifyInstance]

/-! ## Coroutines -/

/-- The task a newcomer becomes: it gets the next serial number. -/
theorem task_accept (w : World D) (i : Nat) (routine : D.Coroutine) :
    (w.accept (.script i) routine).1 = ⟨(w.standing i).table.handed, routine⟩ := by
  rfl

/-- A coroutine handed to an instance is accepted by its table, and written down. -/
theorem standing_accept {w : World D} {i : Nat} (routine : D.Coroutine)
    (hi : i < w.instances.length) :
    (w.accept (.script i) routine).2.standing i
      = { w.standing i with
          table := (w.standing i).table.accept
          story := .handed (.script i) (w.standing i).table.handed :: (w.standing i).story } := by
  simp only [accept, standing_record, standing_modifySubscriptions _ hi, Happening.concerns,
    decide_true, if_true]
  rfl

/-- A coroutine handed over at one desk does not concern the instances at others. -/
theorem standing_accept_of_ne (w : World D) {i : Nat} {desk : Desk} (routine : D.Coroutine)
    (h : desk ≠ .script i) : (w.accept desk routine).2.standing i = w.standing i := by
  simp [accept, standing_record, standing_modifySubscriptions_of_ne _ _ h, Happening.concerns, h]

/-- No instance comes into being when a coroutine is handed over. -/
@[simp] theorem length_accept (w : World D) (desk : Desk) (routine : D.Coroutine) :
    (w.accept desk routine).2.instances.length = w.instances.length := by
  simp [accept, record]

/-- A coroutine that waits with an instance is parked in its table. -/
theorem standing_park {w : World D} {i : Nat} (kind : EventKind) (task : Task D)
    (hi : i < w.instances.length) :
    (w.park (.script i) kind task).standing i
      = { w.standing i with table := (w.standing i).table.park kind task } := by
  rw [park, standing_modifySubscriptions _ (by simpa [log, record] using hi), standing_log]

/-- A coroutine that waits at one desk does not concern the instances at others. -/
theorem standing_park_of_ne (w : World D) {i : Nat} {desk : Desk} (kind : EventKind)
    (task : Task D) (h : desk ≠ .script i) :
    (w.park desk kind task).standing i = w.standing i := by
  rw [park, standing_modifySubscriptions_of_ne _ _ h, standing_log]

/-- That coroutines are gone is written into the story one by one. -/
theorem standing_recordLeft (w : World D) (i : Nat) (why : Farewell) (serials : List Nat) :
    (w.recordLeft (.script i) why serials).standing i
      = { w.standing i with
          story := (serials.map fun s => Happening.left (.script i) s why).reverse
            ++ (w.standing i).story } := by
  unfold recordLeft
  induction serials generalizing w with
  | nil => rfl
  | cons s rest ih =>
    rw [List.foldl_cons, ih, standing_record]
    simp [Happening.concerns]

/-- Who leaves one desk does not concern the instances at others. -/
theorem standing_recordLeft_of_ne (w : World D) {i : Nat} {desk : Desk} (why : Farewell)
    (serials : List Nat) (h : desk ≠ .script i) :
    (w.recordLeft desk why serials).standing i = w.standing i := by
  refine recordLeft_congr (f := (·.standing i)) (fun w s => ?_) w serials
  exact standing_record_of_not w (by simp [Happening.concerns, h])

/-- No instance changes when it is written down who left. -/
@[simp] theorem instances_recordLeft (w : World D) (desk : Desk) (why : Farewell)
    (serials : List Nat) : (w.recordLeft desk why serials).instances = w.instances :=
  recordLeft_congr (f := World.instances) (fun _ _ => rfl) w serials

/-- The end of a pass is nothing that concerns an instance. -/
@[simp] theorem standing_endPass (w : World D) (desk : Desk) (kind : EventKind) (resumed : Nat)
    (i : Nat) : (w.endPass desk kind resumed).standing i = w.standing i :=
  endPass_congr (f := (·.standing i)) (fun _ _ => standing_congr rfl rfl i)
    (fun w => standing_record_of_not w rfl) w

/-- An instance whose table is cleared stands cleared. -/
theorem standing_clear {w : World D} {i : Nat} (hi : i < w.instances.length) :
    (w.clear (.script i)).standing i = (w.standing i).cleared i := by
  rw [clear, standing_modifySubscriptions _ (by simpa using hi), standing_recordLeft]
  rfl

/-- Clearing the table of one desk leaves the instances at others as they stand. -/
theorem standing_clear_of_ne (w : World D) {i : Nat} {desk : Desk} (h : desk ≠ .script i) :
    (w.clear desk).standing i = w.standing i := by
  rw [clear, standing_modifySubscriptions_of_ne _ _ h, standing_recordLeft_of_ne _ _ _ h]

/-- Where nobody is, nothing is dropped. -/
theorem standing_clear_of_le {w : World D} {i : Nat} (desk : Desk)
    (hi : w.instances.length ≤ i) : (w.clear desk).standing i = w.standing i := by
  by_cases h : desk = .script i
  · subst h
    have hempty : (w.subscriptions (.script i)).waitingSerials = [] := by
      have hnone : w.instances[i]? = none := List.getElem?_eq_none hi
      simp [subscriptions, instance?, hnone, Subscriptions.waitingSerials]
    rw [clear, hempty, standing_modifySubscriptions_of_le _ _ (by simpa using hi)]
    rfl
  · exact standing_clear_of_ne w h

/-- What a coroutine of one desk comes to does not concern the instances at others. -/
theorem standing_concludeCoroutine_of_ne (w : World D) {i : Nat} {desk : Desk} (serial : Nat)
    (r : Except ScriptError (Yield D)) (h : desk ≠ .script i) :
    (w.concludeCoroutine desk serial r).standing i = w.standing i := by
  cases r with
  | error e => cases e <;> simp [concludeCoroutine, standing_record, Happening.concerns, h]
  | ok y =>
    cases y with
    | finished => simp [concludeCoroutine, standing_record, Happening.concerns, h]
    | await request rest =>
      simp only [concludeCoroutine]
      split
      · exact standing_park_of_ne w _ _ h
      · simp [standing_record, Happening.concerns, h]

/-! ## The hub -/

/-- A new listener changes nobody's standing. -/
@[simp] theorem standing_listen (w : World D) (kind : EventKind) (hook : Hook D) (i : Nat) :
    (w.listen kind hook).standing i = w.standing i := by
  rw [listen, enlist, standing_log]
  exact standing_congr rfl rfl i

/-- Taking a listener off changes nobody's standing. -/
theorem standing_unlisten {w w' : World D} {id : ListenerId} (h : w.unlisten id = .ok w')
    (i : Nat) : w'.standing i = w.standing i :=
  unlisten_congr (f := (·.standing i)) (fun _ _ => standing_congr rfl rfl i)
    (fun w n => standing_log w n i) h

/-- Taking listeners off changes nobody's standing. -/
@[simp] theorem standing_detachAll (w : World D) (id : ScriptId) (listeners : List ListenerId)
    (i : Nat) : (w.detachAll id listeners).standing i = w.standing i :=
  detachAll_congr (f := (·.standing i)) (fun _ _ => standing_congr rfl rfl i)
    (fun w n => standing_log w n i) w id listeners

@[simp] theorem instances_detachAll (w : World D) (id : ScriptId) (listeners : List ListenerId) :
    (w.detachAll id listeners).instances = w.instances :=
  detachAll_congr (f := World.instances) (fun _ _ => rfl) (fun _ _ => rfl) w id listeners

/-! ## Life and death -/

/-- Listening changes which listeners an instance owns, nothing that concerns
its coroutines. -/
@[simp] theorem standing_attach (w : World D) (j : Nat) (kinds : List EventKind) (i : Nat) :
    (w.attach j kinds).standing i = w.standing i := by
  induction kinds generalizing w with
  | nil => rfl
  | cons kind rest ih =>
    rw [attach_cons, ih]
    by_cases h : j = i
    · subst h
      cases hx : w.instance? j with
      | none =>
        have hnone : w.instances[j]? = none := hx
        rw [← standing_listen w kind (.script j) j]
        simp [standing, subscriptions, instance?, modifyInstance, listen, enlist, log, record,
          hnone]
      | some x =>
        have hx' : (w.listen kind (.script j)).instance? j = some x := hx
        rw [standing_modifyInstance _ hx', standing_listen]
        simp [standing, subscriptions, hx]
    · rw [standing_modifyInstance_of_ne _ _ h, standing_listen]

@[simp] theorem length_attach (w : World D) (j : Nat) (kinds : List EventKind) :
    (w.attach j kinds).instances.length = w.instances.length := by
  induction kinds generalizing w with
  | nil => rfl
  | cons kind rest ih =>
    rw [attach_cons, ih]
    simp [modifyInstance, listen, enlist, log, record]

/-- One instance comes into being. -/
@[simp] theorem length_beginLife (w : World D) (id : ScriptId) (path : Path) (detached : Bool) :
    (w.beginLife id path detached).instances.length = w.instances.length + 1 := by
  simp [beginLife, record, log]

/-- A new instance stands at the beginning: it is subscribed to nothing. -/
theorem standing_beginLife (w : World D) (id : ScriptId) (path : Path) (detached : Bool) :
    (w.beginLife id path detached).standing w.instances.length
      = { w.standing w.instances.length with state := some .initializing, table := .empty } := by
  rw [beginLife, standing_attach, standing_record]
  simp [standing, subscriptions, instance?, Happening.concerns, log, record]

/-- Whoever is there when an instance comes into being stands as before. -/
theorem standing_beginLife_of_ne (w : World D) (id : ScriptId) (path : Path) (detached : Bool)
    {i : Nat} (h : i ≠ w.instances.length) :
    (w.beginLife id path detached).standing i = w.standing i := by
  rw [beginLife, standing_attach, standing_record]
  have hget : (w.instances ++ [(⟨id, path, .initializing, [], detached, .empty⟩ : Instance D)])[i]?
      = w.instances[i]? := by
    rcases Nat.lt_or_gt_of_ne h with hlt | hgt
    · exact List.getElem?_append_left hlt
    · rw [List.getElem?_eq_none (l := w.instances) (by omega), List.getElem?_eq_none]
      rw [List.length_append, List.length_singleton]
      omega
  simp [standing, subscriptions, instance?, Happening.concerns, log, record, hget]

/-- An instance whose top-level code has run is running. -/
theorem standing_settleIn {w : World D} {i : Nat} (h : (w.standing i).state = some .initializing) :
    (w.settleIn i).standing i = { w.standing i with state := some .running } := by
  cases hx : w.instance? i with
  | none => simp [standing, hx] at h
  | some x =>
    have hstate : x.state = .initializing := by simpa [standing, hx] using h
    rw [settleIn, standing_modifyInstance _ hx, if_pos hstate, ← table_of_instance? hx]

/-- Only an instance that initializes settles in. -/
theorem standing_settleIn_of_ne {w : World D} {i : Nat} (j : Nat)
    (h : j = i → (w.standing i).state ≠ some .initializing) :
    (w.settleIn j).standing i = w.standing i := by
  by_cases hj : j = i
  · subst hj
    cases hx : w.instance? j with
    | none =>
      have hnone : w.instances[j]? = none := hx
      simp [settleIn, standing, subscriptions, instance?, modifyInstance, hnone]
    | some x =>
      have hstate : x.state ≠ .initializing := by simpa [standing, hx] using h rfl
      rw [settleIn, standing_modifyInstance _ hx, if_neg hstate]
      simp [standing, subscriptions, hx]
  · exact standing_modifyInstance_of_ne w _ hj

/-- A completed end: the instance counts as ended, and what it was subscribed to
is dropped. -/
theorem standing_finishEnding {w : World D} {i : Nat} (hi : i < w.instances.length) :
    (w.finishEnding i).standing i
      = { (w.standing i).cleared i with state := some .terminated } := by
  have hx : w.instance? i = some w.instances[i] := List.getElem?_eq_getElem hi
  simp only [finishEnding, hx]
  rw [standing_record_of_not _ rfl, standing_log,
    standing_clear (by simpa [modifyInstance] using hi), standing_detachAll,
    standing_modifyInstance _ hx]
  simp [Standing.cleared, table_of_instance? hx]

/-- The end of one instance leaves the others as they stand. -/
theorem standing_finishEnding_of_ne (w : World D) {i j : Nat} (h : j ≠ i) :
    (w.finishEnding j).standing i = w.standing i := by
  cases hx : w.instance? j with
  | none => simp [finishEnding, hx]
  | some x =>
    have hdesk : Desk.script j ≠ .script i := fun e => h (Desk.script.inj e)
    simp only [finishEnding, hx]
    rw [standing_record_of_not _ rfl, standing_log, standing_clear_of_ne _ hdesk,
      standing_detachAll, standing_modifyInstance_of_ne _ _ h]

/-- Where nobody is, nobody ends. -/
theorem finishEnding_of_le {w : World D} {i : Nat} (hi : w.instances.length ≤ i) :
    w.finishEnding i = w := by
  have hnone : w.instance? i = none := List.getElem?_eq_none hi
  simp [finishEnding, hnone]

/-! ## What starts activities -/

/-- The beginning of an emission changes nobody's standing. -/
@[simp] theorem standing_beginEmission (w : World D) (event : Event) (i : Nat) :
    (w.beginEmission event).1.standing i = w.standing i := by
  rw [beginEmission, standing_record_of_not _ rfl,
    ← standing_log w (.hub (.emitting event.kind (w.hub.listeners event.kind).length)) i]
  exact standing_congr rfl rfl i

/-- Nothing has been taken from anybody when an end begins: it is announced first. -/
@[simp] theorem standing_beginEnding (w : World D) (j i : Nat) :
    (w.beginEnding j).1.standing i = w.standing i := by
  cases hx : w.instance? j with
  | none => simp [beginEnding, hx]
  | some x =>
    simp only [beginEnding, hx]
    split <;> simp

/-! ## What acts do -/

/-- A desk that takes coroutines and belongs to a script belongs to one that
exists. -/
theorem lt_of_isOpen {w : World D} {i : Nat} (h : w.isOpen (.script i) = true) :
    i < w.instances.length :=
  lt_of_isAlive h

/-- A notice about a closed desk changes nobody's standing. -/
theorem standing_logClosed (w : World D) (desk : Desk) (n : ScriptId → ScriptNotice) (i : Nat) :
    (w.logClosed desk n).standing i = w.standing i := by
  unfold logClosed
  split
  · split
    · exact standing_log _ _ i
    · rfl
  · rfl

/-- A deferred request changes nobody's standing. -/
theorem standing_request (w : World D) (j : Nat) (kind : RequestKind) (path : Path) (i : Nat) :
    (w.request j kind path).standing i = w.standing i := by
  unfold request pushRequest
  split
  · split
    · exact standing_log _ _ i
    · rw [standing_log]
      exact standing_congr rfl rfl i
  · rfl

/-- A newcomer that is parked at once: the deed `hand`. -/
theorem standing_park_accept {w : World D} {i : Nat} (kind : EventKind) (routine : D.Coroutine)
    (hi : i < w.instances.length) :
    ((w.accept (.script i) routine).2.park (.script i) kind
        (w.accept (.script i) routine).1).standing i
      = { w.standing i with
          table := (w.standing i).table.accept.park kind ⟨(w.standing i).table.handed, routine⟩
          story := .handed (.script i) (w.standing i).table.handed :: (w.standing i).story } := by
  rw [standing_park _ _ (by simpa using hi), standing_accept _ hi, task_accept]

/-- A coroutine handed over to wait at one desk does not concern the instances at others. -/
theorem standing_park_accept_of_ne (w : World D) {i : Nat} {desk : Desk} (kind : EventKind)
    (routine : D.Coroutine) (h : desk ≠ .script i) :
    ((w.accept desk routine).2.park desk kind (w.accept desk routine).1).standing i
      = w.standing i := by
  rw [standing_park_of_ne _ _ _ h, standing_accept_of_ne _ _ h]

/-- A newcomer that runs at once: the deed `start`. -/
theorem standing_start (I : Interpreter D) {w : World D} {i : Nat} (routine : D.Coroutine)
    (hi : i < w.instances.length) :
    (w.start I (.script i) routine).1.standing i
      = { w.standing i with
          table := (w.standing i).table.accept
          story := .resumed (.script i) (w.standing i).table.handed [] ::
            .handed (.script i) (w.standing i).table.handed :: (w.standing i).story } := by
  simp only [start, resume, standing_record, standing_accept _ hi, Happening.concerns,
    decide_true, if_true, task_accept]

/-- A coroutine started at one desk does not concern the instances at others. -/
theorem standing_start_of_ne (I : Interpreter D) (w : World D) {i : Nat} {desk : Desk}
    (routine : D.Coroutine) (h : desk ≠ .script i) :
    (w.start I desk routine).1.standing i = w.standing i := by
  simp only [start, resume]
  rw [standing_record_of_not _ (by simp [Happening.concerns, h]), standing_accept_of_ne _ _ h]

/-- A callback of one instance does not concern the others. -/
theorem standing_setCallback_of_ne (w : World D) (callable : D.Callback → Bool) {i j : Nat}
    (kind : EventKind) (callback : Option D.Callback) (h : j ≠ i) :
    (w.setCallback callable j kind callback).2.standing i = w.standing i := by
  have hdesk : Desk.script j ≠ .script i := fun e => h (Desk.script.inj e)
  unfold setCallback
  split
  · rfl
  · split
    · rfl
    · simp only
      split
      · rw [standing_modifySubscriptions_of_ne _ _ hdesk, standing_log]
      · exact standing_log _ _ i

/-- Setting a callback changes nothing, or it sets the callback of an instance
that is alive. -/
theorem standing_setCallback (w : World D) (callable : D.Callback → Bool) (i : Nat)
    (kind : EventKind) (callback : Option D.Callback) :
    (w.setCallback callable i kind callback).2.standing i = w.standing i ∨
      (w.isAlive i ∧ (w.setCallback callable i kind callback).2.standing i
        = { w.standing i with table := (w.standing i).table.setCallback kind callback }) := by
  unfold setCallback
  split
  · exact Or.inl rfl
  · split
    · exact Or.inl rfl
    · next x hx =>
      by_cases halive : x.isAlive
      · refine Or.inr ⟨by rw [isAlive_of_instance? hx, halive], ?_⟩
        simp only [halive, if_true]
        rw [standing_modifySubscriptions _ (by simpa [log, record] using lt_of_instance? hx),
          standing_log]
      · left
        simp only [halive, Bool.false_eq_true, if_false]
        exact standing_log _ _ i

end World

end ScriptHost
