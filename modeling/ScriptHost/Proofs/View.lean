import Mathlib.Data.List.Basic
import ScriptHost.Proofs.Deeds

/-!
# What can be seen of instances and listeners

What can be seen of an instance from outside is its `InstanceInfo`: all of it but its
subscriptions.  That of all instances and the hub's lists make up the
`View`.  Script code changes it in few ways, and none of them depends on anything
else: `Frame.effect` reads off a frame what its next step does to the view, and
`Frame.view_advance` says that the step does exactly that.

* `Hub.listeners_attach`, `Hub.listeners_without` — what a birth and an end do to the
  lists;
* `Frame.view_advance`, `Initiative.view` — the view after a step, and after what the
  host does of its own accord;
* `Config.Move.view` — both in one statement about moves.
-/

namespace ScriptHost

variable {D : Dialect}

/-! ## The hub's lists -/

namespace Hub

/-- Take the listener of an id off the list it is on. -/
def remove (h : Hub D) (id : ListenerId) : Hub D :=
  match h.kindOf? id with
  | some kind => h.detach kind id
  | none => h

/-- Take listeners off, one after another. -/
def without (h : Hub D) (ids : List ListenerId) : Hub D :=
  ids.foldl remove h

/-- Register an instance, once for every kind. -/
def attach (h : Hub D) (i : Nat) (kinds : List EventKind) : Hub D :=
  kinds.foldl (fun h kind => h.listen kind (.script i)) h

/-- Ids are given in ascending order, an id stands on one list only, and no id was
given that is still to be given. -/
structure Orderly (h : Hub D) : Prop where
  bound : ∀ kind, ∀ l ∈ h.listeners kind, l.id.val < h.given
  ascending : ∀ kind, (h.listeners kind).Pairwise fun l l' => l.id.val < l'.id.val
  apart : ∀ kind kind', ∀ l ∈ h.listeners kind, ∀ l' ∈ h.listeners kind', l.id = l'.id →
    kind = kind'

/-- A listener takes one id. -/
@[simp] theorem given_listen (h : Hub D) (kind : EventKind) (hook : Hook D) :
    (h.listen kind hook).given = h.given + 1 :=
  rfl

/-- No id is taken back. -/
@[simp] theorem given_remove (h : Hub D) (id : ListenerId) : (h.remove id).given = h.given := by
  unfold remove
  split <;> rfl

/-- No ids are taken back. -/
@[simp] theorem given_without (h : Hub D) (ids : List ListenerId) :
    (h.without ids).given = h.given := by
  induction ids generalizing h with
  | nil => rfl
  | cons id rest ih => exact (ih (h.remove id)).trans (given_remove h id)

/-- A hub nobody listens to is orderly. -/
theorem orderly_empty : (empty : Hub D).Orderly := by
  refine ⟨?_, ?_, ?_⟩ <;> simp

/-- Where no list has the id, it belongs to no kind. -/
theorem kindOf?_eq_none {h : Hub D} {id : ListenerId} (hid : h.kindOf? id = none) (kind : EventKind)
    {l : Listener D} (hl : l ∈ h.listeners kind) : l.id ≠ id := by
  intro hsame
  have hnone := List.find?_eq_none.mp hid kind (EventKind.mem_all kind)
  exact hnone (List.any_eq_true.mpr ⟨l, hl, by simp [hsame]⟩)

/-- The list an id belongs to has it. -/
theorem exists_of_kindOf? {h : Hub D} {id : ListenerId} {kind : EventKind}
    (hid : h.kindOf? id = some kind) : ∃ l ∈ h.listeners kind, l.id = id := by
  have hany := List.find?_some hid
  obtain ⟨l, hl, hsame⟩ := List.any_eq_true.mp hany
  exact ⟨l, hl, by simpa using hsame⟩

/-- Taking an id off leaves everything else where it was. -/
theorem listeners_remove {h : Hub D} (ho : h.Orderly) (id : ListenerId) (kind : EventKind) :
    (h.remove id).listeners kind = (h.listeners kind).filter fun l => l.id ≠ id := by
  have keep : (∀ l ∈ h.listeners kind, l.id ≠ id) →
      (h.listeners kind).filter (fun l => l.id ≠ id) = h.listeners kind := by
    intro hne
    exact List.filter_eq_self.mpr fun l hl => by simpa using hne l hl
  unfold remove
  split
  · next k hk =>
    rw [listeners_detach]
    split
    · rfl
    · next hne =>
      refine (keep fun l hl hsame => hne ?_).symm
      obtain ⟨l', hl', hid'⟩ := exists_of_kindOf? hk
      exact ho.apart k kind l' hl' l hl (hid'.trans hsame.symm)
  · next hnone => exact (keep fun l hl => kindOf?_eq_none hnone kind hl).symm

/-- A new listener comes last of its kind, with the greatest id of all. -/
theorem Orderly.listen {h : Hub D} (ho : h.Orderly) (kind : EventKind) (hook : Hook D) :
    (h.listen kind hook).Orderly := by
  have mem : ∀ k, ∀ l ∈ (h.listen kind hook).listeners k,
      l ∈ h.listeners k ∨ (k = kind ∧ l = ⟨h.nextId, hook⟩) := by
    intro k l hl
    rw [listeners_listen] at hl
    split at hl
    · next hk =>
      rcases List.mem_append.mp hl with hl | hl
      · exact Or.inl hl
      · exact Or.inr ⟨hk.symm, List.mem_singleton.mp hl⟩
    · exact Or.inl hl
  refine ⟨?_, ?_, ?_⟩
  · intro k l hl
    rcases mem k l hl with hl | ⟨-, rfl⟩
    · have := ho.bound k l hl
      simp only [given_listen]
      omega
    · simp [nextId]
  · intro k
    rw [listeners_listen]
    split
    · refine List.pairwise_append.mpr ⟨ho.ascending k, List.pairwise_singleton _ _, ?_⟩
      intro l hl l' hl'
      obtain rfl := List.mem_singleton.mp hl'
      exact ho.bound k l hl
    · exact ho.ascending k
  · intro k k' l hl l' hl' hsame
    rcases mem k l hl with hold | ⟨hk, hnew⟩ <;> rcases mem k' l' hl' with hold' | ⟨hk', hnew'⟩
    · exact ho.apart k k' l hold l' hold' hsame
    · have := ho.bound k l hold
      rw [hsame, hnew'] at this
      exact absurd this (Nat.lt_irrefl _)
    · have := ho.bound k' l' hold'
      rw [← hsame, hnew] at this
      exact absurd this (Nat.lt_irrefl _)
    · exact hk.trans hk'.symm

/-- A hub stays orderly when a listener is taken off. -/
theorem Orderly.remove {h : Hub D} (ho : h.Orderly) (id : ListenerId) : (h.remove id).Orderly := by
  have sub : ∀ k, ((h.remove id).listeners k).Sublist (h.listeners k) := by
    intro k
    rw [listeners_remove ho]
    exact List.filter_sublist
  refine ⟨?_, fun k => (ho.ascending k).sublist (sub k), ?_⟩
  · intro k l hl
    rw [given_remove]
    exact ho.bound k l ((sub k).subset hl)
  · intro k k' l hl l' hl' hsame
    exact ho.apart k k' l ((sub k).subset hl) l' ((sub k').subset hl') hsame

/-- A hub stays orderly when an instance registers for some kinds. -/
theorem Orderly.attach {h : Hub D} (ho : h.Orderly) (i : Nat) (kinds : List EventKind) :
    (h.attach i kinds).Orderly := by
  induction kinds generalizing h with
  | nil => exact ho
  | cons kind rest ih => exact ih (ho.listen kind (.script i))

/-- A hub stays orderly when some listeners are taken off. -/
theorem Orderly.without {h : Hub D} (ho : h.Orderly) (ids : List ListenerId) :
    (h.without ids).Orderly := by
  induction ids generalizing h with
  | nil => exact ho
  | cons id rest ih => exact ih (ho.remove id)

/-- Taking ids off leaves everything else where it was. -/
theorem listeners_without {h : Hub D} (ho : h.Orderly) (ids : List ListenerId)
    (kind : EventKind) :
    (h.without ids).listeners kind = (h.listeners kind).filter fun l => l.id ∉ ids := by
  induction ids generalizing h with
  | nil =>
    refine (List.filter_eq_self.mpr fun l _ => ?_).symm
    simp
  | cons id rest ih =>
    have hrest := ih (ho.remove id)
    rw [listeners_remove ho, List.filter_filter] at hrest
    refine hrest.trans (List.filter_congr fun l _ => ?_)
    simp [Bool.and_comm]

/-- A new instance stands last on the list of every kind it registers for, under an
id of its own. -/
theorem listeners_attach (h : Hub D) (i : Nat) {kinds : List EventKind} (hnodup : kinds.Nodup)
    (kind : EventKind) :
    (h.attach i kinds).listeners kind = h.listeners kind
      ++ if kind ∈ kinds then [⟨⟨h.given + kinds.idxOf kind⟩, .script i⟩] else [] := by
  induction kinds generalizing h with
  | nil => simp [attach]
  | cons k rest ih =>
    obtain ⟨hk, hrest⟩ := List.nodup_cons.mp hnodup
    have hattach : h.attach i (k :: rest) = (h.listen k (.script i)).attach i rest := rfl
    rw [hattach, ih (h.listen k (.script i)) hrest, listeners_listen]
    by_cases hsame : k = kind
    · subst hsame
      simp [hk, nextId]
    · have hidx : (k :: rest).idxOf kind = rest.idxOf kind + 1 := List.idxOf_cons_ne rest hsame
      have hmem : kind ∈ k :: rest ↔ kind ∈ rest := by simp [Ne.symm hsame]
      have hplace : h.given + 1 + rest.idxOf kind = h.given + (rest.idxOf kind + 1) := by omega
      simp only [hsame, if_false, hmem, hidx, given_listen, hplace]

/-- An instance takes one id for each kind it registers for. -/
theorem given_attach (h : Hub D) (i : Nat) (kinds : List EventKind) :
    (h.attach i kinds).given = h.given + kinds.length := by
  induction kinds generalizing h with
  | nil => rfl
  | cons k rest ih =>
    have hattach : h.attach i (k :: rest) = (h.listen k (.script i)).attach i rest := rfl
    rw [hattach, ih, given_listen, List.length_cons]
    omega

end Hub

/-! ## The view -/

/-- What can be seen of an instance from outside. -/
structure InstanceInfo where
  id : ScriptId
  path : Path
  state : Lifecycle
  listeners : List ListenerId
  detached : Bool

/-- What can be seen of this instance. -/
def Instance.info (x : Instance D) : InstanceInfo :=
  ⟨x.id, x.path, x.state, x.listeners, x.detached⟩

namespace InstanceInfo

/-- Whether the instance has not ended. -/
def isAlive (b : InstanceInfo) : Bool :=
  b.state ≠ .terminated

/-- Its top-level code has run. -/
def settle (b : InstanceInfo) : InstanceInfo :=
  if b.state = .initializing then { b with state := .running } else b

/-- Its end is complete. -/
def dismiss (b : InstanceInfo) : InstanceInfo :=
  { b with state := .terminated, listeners := [] }

end InstanceInfo

/-- The hub, and what can be seen of the instances, in the order of their birth. -/
structure View (D : Dialect) where
  hub : Hub D
  infos : List InstanceInfo

/-- What is done to the view. -/
inductive Effect (D : Dialect) where
  | nothing
  | listen (kind : EventKind) (handler : D.Handler)
  | unlisten (id : ListenerId)
  /-- An instance comes into being. -/
  | enroll (id : ScriptId) (path : Path) (detached : Bool)
  | settle (i : Nat)
  /-- The end of an instance is complete. -/
  | dismiss (i : Nat)

/-- The listeners an instance has that registers when so many ids are given. -/
def View.freshIds (given : Nat) : List ListenerId :=
  (List.range' given EventKind.count).map ListenerId.mk

/-- The view after an effect. -/
def View.after (r : View D) : Effect D → View D
  | .nothing => r
  | .listen kind handler => { r with hub := r.hub.listen kind (.host handler) }
  | .unlisten id => { r with hub := r.hub.remove id }
  | .enroll id path detached =>
    { hub := r.hub.attach r.infos.length EventKind.all
      infos := r.infos ++ [⟨id, path, .initializing, freshIds r.hub.given, detached⟩] }
  | .settle i => { r with infos := r.infos.modify i .settle }
  | .dismiss i =>
    { hub := r.hub.without ((r.infos[i]?.map InstanceInfo.listeners).getD [])
      infos := r.infos.modify i .dismiss }

namespace World

/-- The view of a world. -/
def view (w : World D) : View D :=
  ⟨w.hub, w.instances.map Instance.info⟩

/-- What the view has at a place is what can be seen of the instance there. -/
theorem infos_view (w : World D) (i : Nat) :
    w.view.infos[i]? = (w.instance? i).map Instance.info :=
  List.getElem?_map

/-- Everybody who ever came into being is in the view. -/
theorem length_infos (w : World D) : w.view.infos.length = w.instances.length :=
  List.length_map _

/-- What is written into the journal is not in the view. -/
@[simp] theorem view_record (w : World D) (h : Happening D) : (w.record h).view = w.view :=
  rfl

@[simp] theorem view_log (w : World D) (n : Notice) : (w.log n).view = w.view :=
  rfl

/-- Whatever is done to an instance can be seen, or cannot. -/
theorem view_modifyInstance (w : World D) (i : Nat) {f : Instance D → Instance D}
    {g : InstanceInfo → InstanceInfo} (h : ∀ x, (f x).info = g x.info) :
    (w.modifyInstance i f).view = { w.view with infos := w.view.infos.modify i g } := by
  have hmap : (w.instances.modify i f).map Instance.info
      = (w.instances.map Instance.info).modify i g := by
    apply List.ext_getElem?
    intro j
    simp only [List.getElem?_map, List.getElem?_modify]
    cases w.instances[j]? with
    | none => rfl
    | some x =>
      by_cases hij : i = j
      · simp [hij, h]
      · simp [hij]
  simp only [view, modifyInstance, hmap]

/-- The table of a desk is not in the view. -/
@[simp] theorem view_modifySubscriptions (w : World D) (desk : Desk)
    (f : Subscriptions D → Subscriptions D) : (w.modifySubscriptions desk f).view = w.view := by
  cases desk with
  | bench n => rfl
  | script i =>
    have hsame := view_modifyInstance w i (g := id)
      (f := fun x => { x with subscriptions := f x.subscriptions }) fun x => rfl
    rw [List.modify_id] at hsame
    exact hsame

/-- Who leaves a desk cannot be seen. -/
@[simp] theorem view_recordLeft (w : World D) (desk : Desk) (why : Farewell)
    (serials : List Nat) : (w.recordLeft desk why serials).view = w.view :=
  recordLeft_congr (f := World.view) (fun _ _ => rfl) w serials

/-- That a pass is over cannot be seen. -/
@[simp] theorem view_endPass (w : World D) (desk : Desk) (kind : EventKind) (resumed : Nat) :
    (w.endPass desk kind resumed).view = w.view :=
  endPass_congr (f := World.view) (fun _ _ => rfl) (fun _ => rfl) w

@[simp] theorem view_clear (w : World D) (desk : Desk) : (w.clear desk).view = w.view := by
  simp [clear]

@[simp] theorem view_accept (w : World D) (desk : Desk) (routine : D.Coroutine) :
    (w.accept desk routine).2.view = w.view := by
  simp [accept]

@[simp] theorem view_park (w : World D) (desk : Desk) (kind : EventKind) (task : Task D) :
    (w.park desk kind task).view = w.view := by
  simp [park]

/-- That a coroutine starts cannot be seen. -/
@[simp] theorem view_start (I : Interpreter D) (w : World D) (desk : Desk)
    (routine : D.Coroutine) : (w.start I desk routine).1.view = w.view := by
  simp [start, resume]

/-- What a coroutine comes to cannot be seen. -/
@[simp] theorem view_concludeCoroutine (w : World D) (desk : Desk) (s : Nat)
    (r : Except ScriptError (Yield D)) : (w.concludeCoroutine desk s r).view = w.view := by
  cases r with
  | error e => cases e <;> rfl
  | ok y =>
    cases y with
    | finished => rfl
    | await request rest =>
      simp only [concludeCoroutine]
      split
      · exact view_park w desk _ _
      · rfl

/-- An end can be seen when it is complete, not when it begins. -/
@[simp] theorem view_beginEnding (w : World D) (i : Nat) : (w.beginEnding i).1.view = w.view := by
  unfold beginEnding
  split
  · rfl
  · split <;> rfl

/-- That an event is delivered cannot be seen. -/
@[simp] theorem view_deliver (w : World D) (i : Nat) (event : Event) :
    (w.deliver i event).1.view = w.view := by
  unfold deliver
  split
  · rfl
  · split
    · rfl
    · split
      · rfl
      · simp [beginPass]

@[simp] theorem view_logClosed (w : World D) (desk : Desk) (n : ScriptId → ScriptNotice) :
    (w.logClosed desk n).view = w.view := by
  unfold logClosed
  split
  · split <;> rfl
  · rfl

/-- Callbacks are not in the view. -/
@[simp] theorem view_setCallback (w : World D) (callable : D.Callback → Bool) (i : Nat)
    (kind : EventKind) (callback : Option D.Callback) :
    (w.setCallback callable i kind callback).2.view = w.view := by
  unfold setCallback
  split
  · rfl
  · split
    · rfl
    · simp only
      split
      · rw [view_modifySubscriptions, view_log]
      · rfl

/-- Deferred requests are not in the view. -/
@[simp] theorem view_request (w : World D) (i : Nat) (kind : RequestKind) (path : Path) :
    (w.request i kind path).view = w.view := by
  unfold request
  split
  · split <;> rfl
  · rfl

/-- A listener that is taken off is gone from the view. -/
theorem view_unlisten {w w' : World D} {id : ListenerId} (h : w.unlisten id = .ok w') :
    w'.view = { w.view with hub := w.hub.remove id } := by
  unfold unlisten at h
  split at h
  · next kind hkind =>
    obtain rfl := Except.ok.inj h
    simp [Hub.remove, hkind, view, log, record]
  · cases h

/-- Where an id is unknown there is nothing to take off. -/
theorem remove_of_unlisten {w : World D} {id : ListenerId} {e : EventError}
    (h : w.unlisten id = .error e) : w.hub.remove id = w.hub := by
  unfold unlisten at h
  split at h
  · cases h
  · next hnone => simp [Hub.remove, hnone]

/-- Listeners that are taken off are gone from the view. -/
theorem view_detachAll (w : World D) (id : ScriptId) (listeners : List ListenerId) :
    (w.detachAll id listeners).view = { w.view with hub := w.hub.without listeners } := by
  unfold detachAll
  induction listeners generalizing w with
  | nil => rfl
  | cons l rest ih =>
    rw [List.foldl_cons, ih]
    cases h : w.unlisten l with
    | ok w' =>
      have hview := view_unlisten h
      have hhub : w'.hub = w.hub.remove l := congrArg View.hub hview
      simp [hview, hhub, Hub.without]
    | error e =>
      have hhub : (w.log (.script (.detachFailed id e))).hub = w.hub.remove l :=
        (remove_of_unlisten h).symm
      simp [hhub, Hub.without]

/-- An instance that registers owns an id for every kind. -/
theorem view_attach (w : World D) (i : Nat) (kinds : List EventKind) :
    (w.attach i kinds).view
      = { hub := w.hub.attach i kinds
          infos := w.view.infos.modify i fun b =>
            { b with listeners := b.listeners
                ++ (List.range' w.hub.given kinds.length).map ListenerId.mk } } := by
  induction kinds generalizing w with
  | nil =>
    have hsame : (fun b : InstanceInfo => { b with listeners := b.listeners
        ++ (List.range' w.hub.given ([] : List EventKind).length).map ListenerId.mk }) = id := by
      funext b
      simp
    rw [hsame, List.modify_id]
    rfl
  | cons kind rest ih =>
    have hfirst : ((w.listen kind (.script i)).modifyInstance i fun x =>
        { x with listeners := x.listeners ++ [w.hub.nextId] }).view
        = { hub := w.hub.listen kind (.script i)
            infos := w.view.infos.modify i fun b =>
              { b with listeners := b.listeners ++ [w.hub.nextId] } } :=
      view_modifyInstance _ _ fun x => rfl
    rw [attach_cons, ih]
    have hhub := congrArg View.hub hfirst
    have hinfos := congrArg View.infos hfirst
    simp only [view] at hhub hinfos ⊢
    rw [hhub, hinfos, List.modify_modify_eq]
    simp [Hub.attach, Hub.nextId, List.range'_succ, Function.comp_def]

/-- An instance comes into being. -/
theorem view_beginLife (w : World D) (id : ScriptId) (path : Path) (detached : Bool) :
    (w.beginLife id path detached).view = w.view.after (.enroll id path detached) := by
  rw [beginLife, view_attach]
  have hlast : ∀ (l : List InstanceInfo) (b : InstanceInfo) (f : InstanceInfo → InstanceInfo),
      (l ++ [b]).modify l.length f = l ++ [f b] := by
    intro l b f
    induction l with
    | nil => rfl
    | cons a l ih => simpa using ih
  have hinfos : (w.view.infos ++ [(⟨id, path, .initializing, [], detached⟩ : InstanceInfo)]).modify
      w.instances.length (fun b => { b with listeners := b.listeners
        ++ (List.range' w.hub.given EventKind.count).map ListenerId.mk })
      = w.view.infos ++ [⟨id, path, .initializing, View.freshIds w.hub.given, detached⟩] := by
    rw [← length_infos, hlast]
    simp [View.freshIds]
  simp only [View.after, length_infos]
  simpa [view, record, log, Instance.info, EventKind.all] using hinfos

/-- The view when top-level code has run. -/
theorem view_settleIn (w : World D) (i : Nat) : (w.settleIn i).view = w.view.after (.settle i) := by
  refine view_modifyInstance w i fun x => ?_
  by_cases h : x.state = .initializing
  · simp [h, Instance.info, InstanceInfo.settle]
  · simp [h, Instance.info, InstanceInfo.settle]

/-- The view when an end is complete. -/
theorem view_finishEnding (w : World D) (i : Nat) :
    (w.finishEnding i).view = w.view.after (.dismiss i) := by
  cases hx : w.instance? i with
  | none =>
    have hnone : w.view.infos[i]? = none := by rw [infos_view, hx]; rfl
    have hsame : w.view.infos.modify i InstanceInfo.dismiss = w.view.infos :=
      List.modify_eq_self (Nat.le_of_not_lt fun hlt => by simp [hlt] at hnone)
    simp [finishEnding, hx, View.after, hnone, hsame, Hub.without]
  | some x =>
    have hinfo : w.view.infos[i]? = some x.info := by rw [infos_view, hx]; rfl
    have hended : (w.modifyInstance i fun x =>
        { x with state := .terminated, listeners := [] }).view
        = { w.view with infos := w.view.infos.modify i InstanceInfo.dismiss } :=
      view_modifyInstance w i fun x => rfl
    simp only [finishEnding, hx, view_record, view_log, view_clear, view_detachAll, hended,
      View.after, hinfo]
    rfl

end World

/-! ## What a step does to the view -/

/-- What an act does to the view: script code can listen and unlisten. -/
def Act.effect : Act D → Effect D
  | .listen kind handler => .listen kind handler
  | .unlisten id => .unlisten id
  | _ => .nothing

/-- What the next step of a frame does to the view. -/
def Frame.effect : Frame D → Effect D
  | .settle i => .settle i
  | .ending i => .dismiss i
  | f => (f.nextAct?.map Act.effect).getD .nothing

/-- An act lets code listen or unlisten, or cannot be seen. -/
theorem Act.effect_cases (a : Act D) :
    a.effect = .nothing ∨ (∃ kind handler, a = .listen kind handler) ∨ ∃ id, a = .unlisten id := by
  cases a with
  | listen kind handler => exact Or.inr (Or.inl ⟨kind, handler, rfl⟩)
  | unlisten id => exact Or.inr (Or.inr ⟨id, rfl⟩)
  | emit | terminate | shutdown | awaitNext | schedule | spawn | awaiting | setCallback | on
  | clearCallbacks | reset | request | requestStopSelf | identity | notify | resumed =>
    exact Or.inl rfl

/-- A frame runs the effect of its act, settles or ends an instance, or does nothing to
the view. -/
theorem Frame.effect_cases (f : Frame D) :
    f.effect = .nothing ∨
      (∃ kind handler, f.effect = .listen kind handler ∧
        f.nextAct? = some (.listen kind handler)) ∨
      (∃ id, f.effect = .unlisten id ∧ f.nextAct? = some (.unlisten id)) ∨
      (∃ i, f = .settle i) ∨ ∃ i, f = .ending i := by
  have sorts : f.effect = (f.nextAct?.map Act.effect).getD .nothing ∨
      (∃ i, f = .settle i) ∨ ∃ i, f = .ending i := by
    cases f with
    | settle i => exact Or.inr (Or.inl ⟨i, rfl⟩)
    | ending i => exact Or.inr (Or.inr ⟨i, rfl⟩)
    | emission | pass | callback | coroutine | call | handler | entry | putBack =>
      exact Or.inl rfl
  rcases sorts with heffect | hlife
  · cases hact : f.nextAct? with
    | none => exact Or.inl (by rw [heffect, hact]; rfl)
    | some a =>
      have heffect : f.effect = a.effect := by rw [heffect, hact]; rfl
      rcases a.effect_cases with hnothing | ⟨kind, handler, rfl⟩ | ⟨id, rfl⟩
      · exact Or.inl (heffect.trans hnothing)
      · exact Or.inr (Or.inl ⟨kind, handler, heffect, rfl⟩)
      · exact Or.inr (Or.inr (Or.inl ⟨id, heffect, rfl⟩))
  · exact Or.inr (Or.inr (Or.inr hlife))

/-- **An act runs its effect.** -/
theorem World.view_act (I : Interpreter D) (w : World D) (a : Act D) :
    (w.act I a).2.1.view = w.view.after a.effect := by
  cases a with
  | listen kind handler => rfl
  | unlisten id =>
    cases h : w.unlisten id with
    | ok w' =>
      simp only [act, h]
      exact view_unlisten h
    | error e =>
      have hsame : w.view = w.view.after (.unlisten id) := by
        simp only [View.after, view, remove_of_unlisten h]
      simp only [act, h]
      exact hsame
  | terminate name =>
    cases h : w.held.lookup name with
    | none => simp [act, h, Act.effect, View.after]
    | some i =>
      have hview := view_beginEnding (w.takeHeld name) i
      simp only [act, h, hview]
      rfl
  | awaitNext desk kind routine =>
    simp only [act, awaitNext, Act.effect, View.after]
    split <;> simp
  | schedule desk request routine =>
    simp only [act, schedule, Act.effect, View.after]
    split
    · split <;> simp
    · rfl
  | spawn desk routine =>
    simp only [act, Act.effect, View.after]
    split <;> simp
  | on i event callback =>
    simp only [act, Act.effect, View.after]
    split <;> simp
  | requestStopSelf i =>
    simp only [act, Act.effect, View.after]
    split <;> simp
  | identity i =>
    simp only [act, Act.effect, View.after]
    split <;> rfl
  | notify n kind args test => exact view_modifySubscriptions w (.bench n) (·.drain kind)
  | emit | shutdown | awaiting | resumed => rfl
  | setCallback | clearCallbacks | reset | request => simp [act, Act.effect, View.after]

/-- A step of code that goes on runs the effect of the act it comes to. -/
theorem Code.view_progress {I : Interpreter D} {α : Type} {w w' : World D}
    {code code' : Code D α} {started : List (Frame D)}
    (h : code.progress I w = .goesOn code' w' started) {f : Frame D}
    (hact : f.nextAct? = match code with | .act a _ => some a | _ => none) :
    w'.view = w.view.after ((f.nextAct?.map Act.effect).getD .nothing) := by
  cases code with
  | act a k =>
    obtain ⟨-, rfl, -⟩ : _ ∧ (w.act I a).2.1 = w' ∧ _ := by simpa [Code.progress] using h
    rw [hact]
    exact World.view_act I w a
  | ret a => simp [Code.progress] at h
  | read | write | remark | log =>
    obtain ⟨-, rfl, -⟩ : _ ∧ _ = w' ∧ _ := by simpa [Code.progress] using h
    rw [hact]
    rfl

/-- **A step runs the effect of its frame.** -/
theorem Frame.view_advance (I : Interpreter D) (w : World D) (f : Frame D) :
    (f.advance I w).1.view = w.view.after f.effect := by
  cases f with
  | emission n event listeners =>
    cases listeners with
    | nil => rfl
    | cons l rest =>
      simp only [advance]
      split
      · rfl
      · exact World.view_deliver _ _ event
  | pass desk kind args pulse queue n =>
    cases queue with
    | nil => exact World.view_endPass w desk kind n
    | cons task queue =>
      simp only [advance]
      split
      · rfl
      · rw [World.view_endPass, World.view_recordLeft]
        rfl
  | callback j kind args =>
    simp only [advance]
    split <;> rfl
  | coroutine desk serial code =>
    cases hcode : code.progress I w with
    | goesOn code' w' started =>
      simp only [advance, hcode]
      exact Code.view_progress hcode (by cases code <;> rfl)
    | «over» r =>
      obtain rfl := Code.progress_over hcode
      simp only [advance, hcode]
      exact World.view_concludeCoroutine w desk serial r
  | call j kind code =>
    cases hcode : code.progress I w with
    | goesOn code' w' started =>
      simp only [advance, hcode]
      exact Code.view_progress hcode (by cases code <;> rfl)
    | «over» r =>
      obtain rfl := Code.progress_over hcode
      cases r with
      | error e =>
        simp only [advance, hcode]
        split <;> rfl
      | ok outcome =>
        cases outcome with
        | done => rfl
        | spawn routine => exact World.view_start I w (.script j) routine
  | handler code =>
    cases hcode : code.progress I w with
    | goesOn code' w' started =>
      simp only [advance, hcode]
      exact Code.view_progress hcode (by cases code <;> rfl)
    | «over» r =>
      obtain rfl := Code.progress_over hcode
      rfl
  | entry j code =>
    cases hcode : code.progress I w with
    | goesOn code' w' started =>
      simp only [advance, hcode]
      exact Code.view_progress hcode (by cases code <;> rfl)
    | «over» r =>
      obtain rfl := Code.progress_over hcode
      cases r with
      | error e =>
        simp only [advance, hcode]
        split <;> rfl
      | ok main =>
        cases main with
        | none => rfl
        | some routine => exact World.view_start I w (.script j) routine
  | settle j => exact World.view_settleIn w j
  | ending j => exact World.view_finishEnding w j
  | putBack name j => rfl

/-- What the host does of its own accord enrolls an instance, or does nothing to the
view. -/
theorem Initiative.view {w w' : World D} {started : List (Frame D)}
    (h : Initiative w w' started) :
    w'.view = w.view ∨ ∃ id path detached, w'.view = w.view.after (.enroll id path detached) ∧
      ∃ code, started = [.entry w.instances.length code, .settle w.instances.length] := by
  cases h with
  | spawn id path detached code =>
    exact Or.inr ⟨id, path, detached, World.view_beginLife w id path detached, code, rfl⟩
  | terminate i => exact Or.inl (World.view_beginEnding w i)
  | notify n kind args pulse =>
    exact Or.inl (World.view_modifySubscriptions w (.bench n) (·.drain kind))
  | code | addBench | hold | takeHeld | setRequests | setShutdown => exact Or.inl rfl

namespace Config

/-- The act that is done next. -/
def nextAct? (c : Config D) : Option (Act D) :=
  c.stack.head?.bind Frame.nextAct?

/-- **What a move does to the view**: the effect of the innermost frame, or a birth. -/
theorem Move.view {I : Interpreter D} {c c' : Config D} (h : c.Move I c') :
    (∃ f rest, c.stack = f :: rest ∧ c'.world.view = c.world.view.after f.effect) ∨
      (c.stack = [] ∧ (c'.world.view = c.world.view ∨
        ∃ id path detached, c'.world.view = c.world.view.after (.enroll id path detached))) := by
  rcases h.cases with ⟨f, rest, hstack, rfl⟩ | ⟨hstack, hinit⟩
  · exact Or.inl ⟨f, rest, hstack, f.view_advance I c.world⟩
  · refine Or.inr ⟨hstack, ?_⟩
    rcases hinit.view with hsame | ⟨id, path, detached, hview, -⟩
    · exact Or.inl hsame
    · exact Or.inr ⟨id, path, detached, hview⟩

end Config

end ScriptHost
