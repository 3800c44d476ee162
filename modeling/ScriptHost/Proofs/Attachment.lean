import Mathlib.Data.List.Sort
import ScriptHost.Proofs.View

/-!
# Who is on which list

The instances say which listeners they own, and the hub says to whom a
listener belongs.  `View.Orderly` says that the two agree, in every run, and that
the instances stand on each list in the order of their birth.

That a live instance is on **every** list takes more: nobody may take its listeners
off the hub.  A configuration **spares** an instance if its next act does no such
thing.

* `View.Orderly.after`, `Config.Reachable.orderly` — hub and instances agree;
* `View.Orderly.attached_after`, `Config.ReachableWithin.attached` — an instance that
  is spared stays on every list until it ends;
* `View.places_eq_alive` — where everybody is spared, every list has exactly the live
  instances, oldest first.
-/

namespace ScriptHost

variable {D : Dialect}

/-- The instance a listener belongs to. -/
def Listener.place? (l : Listener D) : Option Nat :=
  match l.hook with
  | .script i => some i
  | .host _ => none

theorem Listener.place?_eq_some {l : Listener D} {i : Nat} :
    l.place? = some i ↔ l.hook = .script i := by
  unfold Listener.place?
  cases l.hook <;> simp

namespace Hub

/-- The instances on the list of a kind, first to last. -/
def places (h : Hub D) (kind : EventKind) : List Nat :=
  (h.listeners kind).filterMap Listener.place?

/-- An instance stands on a list if it has a listener there. -/
theorem mem_places {h : Hub D} {kind : EventKind} {i : Nat} :
    i ∈ h.places kind ↔ ∃ l ∈ h.listeners kind, l.hook = .script i := by
  simp [places, List.mem_filterMap, Listener.place?_eq_some]

/-- A handler of the host's own is nobody's. -/
theorem places_listen_host (h : Hub D) (kind kind' : EventKind) (handler : D.Handler) :
    (h.listen kind (.host handler)).places kind' = h.places kind' := by
  unfold places
  rw [listeners_listen]
  split
  · simp [List.filterMap_append, Listener.place?]
  · rfl

/-- A new instance is the last on every list. -/
theorem places_attach (h : Hub D) (i : Nat) (kind : EventKind) :
    (h.attach i EventKind.all).places kind = h.places kind ++ [i] := by
  have hlisteners := h.listeners_attach i EventKind.nodup_all kind
  rw [if_pos (EventKind.mem_all kind)] at hlisteners
  simp [places, hlisteners, Listener.place?]

end Hub

namespace View

/-- Whether the instance at a place has come into being and has not ended. -/
def isAlive (r : View D) (i : Nat) : Bool :=
  r.infos[i]?.any InstanceInfo.isAlive

/-- The instances that have not ended, oldest first. -/
def alive (r : View D) : List Nat :=
  (List.range r.infos.length).filter r.isAlive

/-- The listeners an instance owns. -/
def listenersOf (r : View D) (i : Nat) : List ListenerId :=
  (r.infos[i]?.map InstanceInfo.listeners).getD []

/-- Whoever is alive is in the view. -/
theorem lt_of_isAlive {r : View D} {i : Nat} (h : r.isAlive i = true) : i < r.infos.length := by
  by_contra hle
  simp [isAlive, List.getElem?_eq_none (Nat.le_of_not_lt hle)] at h

/-- The instances that are alive. -/
theorem mem_alive {r : View D} {i : Nat} : i ∈ r.alive ↔ r.isAlive i = true := by
  simp only [alive, List.mem_filter, List.mem_range]
  exact ⟨fun h => h.2, fun h => ⟨lt_of_isAlive h, h⟩⟩

/-- Hub and instances agree on whose listener is whose. -/
structure Orderly (r : View D) : Prop where
  hub : r.hub.Orderly
  /-- The instances on a list stand in the order of their birth, each once. -/
  ranked : ∀ kind, (r.hub.places kind).Pairwise (· < ·)
  hooked : ∀ kind, ∀ l ∈ r.hub.listeners kind, ∀ i, l.hook = .script i → l.id ∈ r.listenersOf i
  owned : ∀ i, ∀ id ∈ r.listenersOf i, id.val < r.hub.given ∧
    ∀ kind, ∀ l ∈ r.hub.listeners kind, l.id = id → l.hook = .script i
  ended : ∀ i, r.isAlive i = false → r.listenersOf i = []

/-- An instance is on every list for as long as it lives. -/
def Attached (r : View D) (i : Nat) : Prop :=
  r.isAlive i = true → ∀ kind, i ∈ r.hub.places kind

/-- Where nobody is there the view is orderly. -/
theorem orderly_empty : (⟨.empty, []⟩ : View D).Orderly := by
  refine ⟨Hub.orderly_empty, ?_, ?_, ?_, ?_⟩ <;> simp [Hub.places, listenersOf]

/-! ## What an effect does to one instance -/

/-- An instance that settles in keeps its listeners. -/
@[simp] theorem listenersOf_settle (r : View D) (i j : Nat) :
    (r.after (.settle j)).listenersOf i = r.listenersOf i := by
  simp only [listenersOf, after, List.getElem?_modify]
  cases r.infos[i]? with
  | none => rfl
  | some b =>
    by_cases h : j = i
    · by_cases hb : b.state = .initializing <;> simp [h, InstanceInfo.settle, hb]
    · simp [h]

/-- Settling in ends nobody. -/
@[simp] theorem isAlive_settle (r : View D) (i j : Nat) :
    (r.after (.settle j)).isAlive i = r.isAlive i := by
  simp only [isAlive, after, List.getElem?_modify]
  cases r.infos[i]? with
  | none => rfl
  | some b =>
    by_cases h : j = i
    · by_cases hb : b.state = .initializing <;>
        simp [h, InstanceInfo.settle, InstanceInfo.isAlive, hb]
    · simp [h]

/-- An end leaves the instance without listeners, and everybody else with theirs. -/
theorem listenersOf_dismiss (r : View D) (i j : Nat) :
    (r.after (.dismiss j)).listenersOf i = if j = i then [] else r.listenersOf i := by
  simp only [listenersOf, after, List.getElem?_modify]
  cases r.infos[i]? with
  | none => simp
  | some b => by_cases h : j = i <;> simp [h, InstanceInfo.dismiss]

/-- Once its end is complete an instance is not alive, and nobody else is concerned. -/
theorem isAlive_dismiss (r : View D) (i j : Nat) :
    (r.after (.dismiss j)).isAlive i = (r.isAlive i && j ≠ i) := by
  simp only [isAlive, after, List.getElem?_modify]
  cases r.infos[i]? with
  | none => simp
  | some b => by_cases h : j = i <;> simp [h, InstanceInfo.dismiss, InstanceInfo.isAlive]

/-- A birth adds an instance and leaves the others as they are. -/
theorem getElem?_enroll (r : View D) (id : ScriptId) (path : Path) (detached : Bool) (i : Nat) :
    (r.after (.enroll id path detached)).infos[i]?
      = if i = r.infos.length
        then some ⟨id, path, .initializing, freshIds r.hub.given, detached⟩ else r.infos[i]? := by
  simp only [after]
  rcases Nat.lt_trichotomy i r.infos.length with hlt | rfl | hgt
  · rw [List.getElem?_append_left hlt, if_neg (Nat.ne_of_lt hlt)]
  · rw [List.getElem?_concat_length, if_pos rfl]
  · rw [if_neg (Nat.ne_of_gt hgt), List.getElem?_eq_none (Nat.le_of_lt hgt)]
    refine List.getElem?_eq_none ?_
    rw [List.length_append]
    exact hgt

/-- A birth gives the newcomer listeners of its own. -/
theorem listenersOf_enroll (r : View D) (id : ScriptId) (path : Path) (detached : Bool) (i : Nat) :
    (r.after (.enroll id path detached)).listenersOf i
      = if i = r.infos.length then freshIds r.hub.given else r.listenersOf i := by
  simp only [listenersOf, getElem?_enroll]
  split <;> rfl

/-- A new instance is alive, and nobody else is concerned. -/
theorem isAlive_enroll (r : View D) (id : ScriptId) (path : Path) (detached : Bool) (i : Nat) :
    (r.after (.enroll id path detached)).isAlive i = (i == r.infos.length || r.isAlive i) := by
  simp only [isAlive, getElem?_enroll]
  split
  · next h => simp [h, InstanceInfo.isAlive]
  · next h => simp [h]

/-! ## Hub and instances agree -/

/-- Hub and instances go on to agree when listeners are only taken off, as long as nobody
is left on a list with a listener it does not own. -/
theorem Orderly.thin {r r' : View D} (h : r.Orderly) (hhub : r'.hub.Orderly)
    (hgiven : r'.hub.given = r.hub.given)
    (hsub : ∀ kind, (r'.hub.listeners kind).Sublist (r.hub.listeners kind))
    (hlisteners : ∀ i, r'.listenersOf i ⊆ r.listenersOf i)
    (hhooked : ∀ kind, ∀ l ∈ r'.hub.listeners kind, ∀ i, l.hook = .script i →
      l.id ∈ r'.listenersOf i)
    (hended : ∀ i, r'.isAlive i = false → r'.listenersOf i = []) : r'.Orderly := by
  refine ⟨hhub, fun kind => ?_, hhooked, fun i id hid => ?_, hended⟩
  · exact (h.ranked kind).sublist ((hsub kind).filterMap _)
  · obtain ⟨hlt, hhook⟩ := h.owned i id (hlisteners i hid)
    exact ⟨hgiven ▸ hlt, fun kind l hl => hhook kind l ((hsub kind).subset hl)⟩

/-- A handler of the host's own leaves the instances on their lists. -/
theorem Orderly.listen {r : View D} (h : r.Orderly) (kind : EventKind) (handler : D.Handler) :
    (r.after (.listen kind handler)).Orderly := by
  have old : ∀ k, ∀ l ∈ (r.after (.listen kind handler)).hub.listeners k,
      l ∈ r.hub.listeners k ∨ l = ⟨r.hub.nextId, .host handler⟩ := by
    intro k l hl
    simp only [after, Hub.listeners_listen] at hl
    split at hl
    · rcases List.mem_append.mp hl with hl | hl
      · exact Or.inl hl
      · exact Or.inr (List.mem_singleton.mp hl)
    · exact Or.inl hl
  refine ⟨h.hub.listen kind _, fun k => ?_, fun k l hl i hi => ?_, fun i id hid => ?_, h.ended⟩
  · simpa [after, Hub.places_listen_host] using h.ranked k
  · rcases old k l hl with hl | rfl
    · exact h.hooked k l hl i hi
    · cases hi
  · obtain ⟨hlt, hhook⟩ := h.owned i id hid
    refine ⟨Nat.lt_succ_of_lt hlt, fun k l hl hsame => ?_⟩
    rcases old k l hl with hl | rfl
    · exact hhook k l hl hsame
    · rw [← hsame] at hlt
      exact absurd hlt (Nat.lt_irrefl _)

/-- Taking a listener off leaves the instances in order. -/
theorem Orderly.unlisten {r : View D} (h : r.Orderly) (id : ListenerId) :
    (r.after (.unlisten id)).Orderly := by
  have hsub : ∀ kind, ((r.after (.unlisten id)).hub.listeners kind).Sublist
      (r.hub.listeners kind) := by
    intro kind
    simp only [after, Hub.listeners_remove h.hub]
    exact List.filter_sublist
  refine h.thin (h.hub.remove id) (r.hub.given_remove id) hsub (fun i => List.Subset.refl _) ?_
    h.ended
  exact fun kind l hl i hi => h.hooked kind l ((hsub kind).subset hl) i hi

/-- Settling in leaves everybody where he is. -/
theorem Orderly.settle {r : View D} (h : r.Orderly) (i : Nat) : (r.after (.settle i)).Orderly := by
  refine h.thin h.hub rfl (fun kind => List.Sublist.refl _) (fun j => ?_) (fun kind l hl j hj => ?_)
    fun j hj => ?_
  · rw [listenersOf_settle]
    exact List.Subset.refl _
  · rw [listenersOf_settle]
    exact h.hooked kind l hl j hj
  · rw [isAlive_settle] at hj
    rw [listenersOf_settle]
    exact h.ended j hj

/-- The end of an instance takes its listeners off the hub. -/
theorem hub_dismiss (r : View D) (i : Nat) :
    (r.after (.dismiss i)).hub = r.hub.without (r.listenersOf i) :=
  rfl

/-- Whoever has ended stands on no list, and the others stand as they did. -/
theorem Orderly.dismiss {r : View D} (h : r.Orderly) (i : Nat) :
    (r.after (.dismiss i)).Orderly := by
  have hlists : ∀ kind, (r.after (.dismiss i)).hub.listeners kind
      = (r.hub.listeners kind).filter fun l => l.id ∉ r.listenersOf i := by
    intro kind
    rw [hub_dismiss, Hub.listeners_without h.hub]
  refine h.thin (h.hub.without _) (Hub.given_without _ _) (fun kind => ?_) (fun j => ?_)
    (fun kind l hl j hj => ?_) fun j hj => ?_
  · rw [hlists]
    exact List.filter_sublist
  · rw [listenersOf_dismiss]
    split
    · exact List.nil_subset _
    · exact List.Subset.refl _
  · obtain ⟨hl, hgone⟩ := List.mem_filter.mp (hlists kind ▸ hl)
    have howns := h.hooked kind l hl j hj
    rw [listenersOf_dismiss]
    split
    · next hsame =>
      subst hsame
      simp [howns] at hgone
    · exact howns
  · rw [listenersOf_dismiss]
    split
    · rfl
    · next hne =>
      rw [isAlive_dismiss] at hj
      exact h.ended j (by simpa [hne] using hj)

/-- A new instance stands last on every list. -/
theorem Orderly.enroll {r : View D} (h : r.Orderly) (id : ScriptId) (path : Path)
    (detached : Bool) : (r.after (.enroll id path detached)).Orderly := by
  have hlists : ∀ kind, (r.after (.enroll id path detached)).hub.listeners kind
      = r.hub.listeners kind
        ++ [⟨⟨r.hub.given + EventKind.all.idxOf kind⟩, .script r.infos.length⟩] := by
    intro kind
    have hlisteners := r.hub.listeners_attach r.infos.length EventKind.nodup_all kind
    rwa [if_pos (EventKind.mem_all kind)] at hlisteners
  have hfresh : ∀ kind, (⟨r.hub.given + EventKind.all.idxOf kind⟩ : ListenerId)
      ∈ freshIds r.hub.given := by
    intro kind
    have hidx := List.idxOf_lt_length_of_mem (EventKind.mem_all kind)
    refine List.mem_map.mpr ⟨_, List.mem_range'_1.mpr ⟨Nat.le_add_right _ _, ?_⟩, rfl⟩
    exact Nat.add_lt_add_left hidx _
  have hplaces : ∀ kind, ∀ i ∈ r.hub.places kind, i < r.infos.length := by
    intro kind i hi
    obtain ⟨l, hl, hhook⟩ := Hub.mem_places.mp hi
    have howns := h.hooked kind l hl i hhook
    by_contra hle
    simp [listenersOf, List.getElem?_eq_none (Nat.le_of_not_lt hle)] at howns
  refine ⟨h.hub.attach _ _, fun kind => ?_, fun kind l hl i hi => ?_, fun i l hl => ?_,
    fun i hi => ?_⟩
  · simp only [after, Hub.places_attach]
    refine List.pairwise_append.mpr ⟨h.ranked kind, List.pairwise_singleton _ _, ?_⟩
    intro i hi j hj
    obtain rfl := List.mem_singleton.mp hj
    exact hplaces kind i hi
  · rw [listenersOf_enroll]
    rcases List.mem_append.mp (hlists kind ▸ hl) with hl | hl
    · have hlt := hplaces kind i (Hub.mem_places.mpr ⟨l, hl, hi⟩)
      rw [if_neg (Nat.ne_of_lt hlt)]
      exact h.hooked kind l hl i hi
    · obtain rfl := List.mem_singleton.mp hl
      obtain rfl := Hook.script.inj hi
      rw [if_pos rfl]
      exact hfresh kind
  · rw [listenersOf_enroll] at hl
    have hgiven : (r.after (.enroll id path detached)).hub.given
        = r.hub.given + EventKind.all.length := r.hub.given_attach _ _
    rw [hgiven]
    split at hl
    · next hnew =>
      -- The newcomer's ids were not given before.
      subst hnew
      obtain ⟨v, hv, rfl⟩ := List.mem_map.mp hl
      obtain ⟨hle, hlt⟩ := List.mem_range'_1.mp hv
      refine ⟨hlt, fun kind l hl hsame => ?_⟩
      rcases List.mem_append.mp (hlists kind ▸ hl) with hl | hl
      · have hbound := h.hub.bound kind l hl
        rw [hsame] at hbound
        exact absurd hbound (Nat.not_lt.mpr hle)
      · rw [List.mem_singleton.mp hl]
    · obtain ⟨hlt, hhook⟩ := h.owned i l hl
      refine ⟨Nat.lt_of_lt_of_le hlt (Nat.le_add_right _ _), fun kind l' hl' hsame => ?_⟩
      rcases List.mem_append.mp (hlists kind ▸ hl') with hl' | hl'
      · exact hhook kind l' hl' hsame
      · have hid : r.hub.given + EventKind.all.idxOf kind = l.val := by
          rw [← hsame, List.mem_singleton.mp hl']
        omega
  · rw [isAlive_enroll] at hi
    obtain ⟨hne, hdead⟩ : i ≠ r.infos.length ∧ r.isAlive i = false := by simpa using hi
    rw [listenersOf_enroll, if_neg hne]
    exact h.ended i hdead

/-- **Every effect leaves hub and instances in agreement.** -/
theorem Orderly.after {r : View D} (h : r.Orderly) (e : Effect D) : (r.after e).Orderly := by
  cases e with
  | nothing => exact h
  | listen kind handler => exact h.listen kind handler
  | unlisten id => exact h.unlisten id
  | enroll id path detached => exact h.enroll id path detached
  | settle i => exact h.settle i
  | dismiss i => exact h.dismiss i

/-! ## Who is spared stays attached -/

/-- **An instance stays on every list until it ends**, if no effect takes a listener of
its own off the hub. -/
theorem Orderly.attached_after {r : View D} (h : r.Orderly) {i : Nat} (hi : r.Attached i)
    (e : Effect D) (hspared : ∀ id, e = .unlisten id → id ∉ r.listenersOf i) :
    (r.after e).Attached i := by
  intro halive kind
  cases e with
  | nothing => exact hi halive kind
  | listen k handler =>
    simp only [View.after, Hub.places_listen_host]
    exact hi halive kind
  | unlisten id =>
    obtain ⟨l, hl, hhook⟩ := Hub.mem_places.mp (hi halive kind)
    refine Hub.mem_places.mpr ⟨l, ?_, hhook⟩
    simp only [View.after, Hub.listeners_remove h.hub]
    refine List.mem_filter.mpr ⟨hl, ?_⟩
    have hne : l.id ≠ id := by
      rintro rfl
      exact hspared l.id rfl (h.hooked kind l hl i hhook)
    simpa using hne
  | enroll id path detached =>
    simp only [View.after, Hub.places_attach]
    rw [isAlive_enroll] at halive
    rcases Bool.or_eq_true_iff.mp halive with hnew | hold
    · exact List.mem_append_right _ (List.mem_singleton.mpr (by simpa using hnew))
    · exact List.mem_append_left _ (hi hold kind)
  | settle j =>
    rw [isAlive_settle] at halive
    exact hi halive kind
  | dismiss j =>
    rw [isAlive_dismiss] at halive
    obtain ⟨halive, hne⟩ : r.isAlive i = true ∧ j ≠ i := by simpa using halive
    obtain ⟨l, hl, hhook⟩ := Hub.mem_places.mp (hi halive kind)
    refine Hub.mem_places.mpr ⟨l, ?_, hhook⟩
    rw [hub_dismiss, Hub.listeners_without h.hub]
    refine List.mem_filter.mpr ⟨hl, ?_⟩
    -- A listener belongs to one instance only.
    have hother : l.id ∉ r.listenersOf j := by
      intro howns
      have hsame := (h.owned j l.id howns).2 kind l hl rfl
      rw [hhook] at hsame
      exact hne (Hook.script.inj hsame).symm
    simpa using hother

/-- Whoever is on a list has not ended. -/
theorem Orderly.isAlive_of_mem_places {r : View D} (h : r.Orderly) {kind : EventKind} {i : Nat}
    (hi : i ∈ r.hub.places kind) : r.isAlive i = true := by
  obtain ⟨l, hl, hhook⟩ := Hub.mem_places.mp hi
  have howns := h.hooked kind l hl i hhook
  by_contra hdead
  rw [h.ended i (by simpa using hdead)] at howns
  cases howns

/-- **Every list has exactly the live instances, oldest first**, where every live
instance is on every list. -/
theorem places_eq_alive {r : View D} (h : r.Orderly) (hall : ∀ i, r.Attached i)
    (kind : EventKind) : r.hub.places kind = r.alive := by
  have hsorted : r.alive.Pairwise (· < ·) := List.pairwise_lt_range.filter _
  have hsame : ∀ i, i ∈ r.hub.places kind ↔ i ∈ r.alive := by
    intro i
    rw [mem_alive]
    exact ⟨h.isAlive_of_mem_places, fun halive => hall i halive kind⟩
  exact (h.ranked kind).eq_of_mem_iff hsorted hsame

end View

/-! ## Runs -/

namespace Config

variable {I : Interpreter D}

/-- Whether the next act takes no listener of an instance off the hub. -/
def spares (c : Config D) (i : Nat) : Bool :=
  match c.nextAct? with
  | some (.unlisten id) => id ∉ c.world.view.listenersOf i
  | _ => true

/-- What a run can come to that goes on from configurations of one sort only. -/
def ReachableWithin (I : Interpreter D) (P : Config D → Prop) (c : Config D) : Prop :=
  ∃ memory, Relation.ReflTransGen (fun c c' => P c ∧ c.Move I c') ⟨World.new memory, []⟩ c

/-- What is reached within bounds is reached. -/
theorem ReachableWithin.reachable {P : Config D → Prop} {c : Config D}
    (h : c.ReachableWithin I P) : c.Reachable I := by
  obtain ⟨memory, hruns⟩ := h
  exact ⟨memory, Relation.ReflTransGen.mono (fun _ _ h => h.2) _ _ hruns⟩

/-- One more move from within the bounds. -/
theorem ReachableWithin.move {P : Config D → Prop} {c c' : Config D} (hc : c.ReachableWithin I P)
    (hP : P c) (h : c.Move I c') : c'.ReachableWithin I P := by
  obtain ⟨memory, hruns⟩ := hc
  exact ⟨memory, hruns.tail ⟨hP, h⟩⟩

/-- What the machine does on its own may be part of such a run. -/
theorem ReachableWithin.after {P : Config D → Prop} {c : Config D} (hc : c.ReachableWithin I P)
    {n : Nat} (hP : ∀ k < n, P (c.after I k)) : (c.after I n).ReachableWithin I P := by
  induction n with
  | zero => exact hc
  | succ n ih =>
    have hn := ih fun k hk => hP k (by omega)
    by_cases hrest : (c.after I n).stack = []
    · have hstays : c.after I (n + 1) = c.after I n := by
        simp [Config.after, next, step?, hrest]
      exact hstays ▸ hn
    · exact hn.move (hP n (Nat.lt_succ_self n)) (move_next I hrest)

/-- **Every move keeps the view orderly.** -/
theorem Move.orderly {c c' : Config D} (h : c.Move I c') (hc : c.world.view.Orderly) :
    c'.world.view.Orderly := by
  rcases h.view with ⟨f, rest, -, hview⟩ | ⟨-, hview | ⟨id, path, detached, hview⟩⟩
  · exact hview ▸ hc.after _
  · exact hview ▸ hc
  · exact hview ▸ hc.after _

/-- **Hub and instances agree in every run.** -/
theorem Reachable.orderly {c : Config D} (hc : c.Reachable I) : c.world.view.Orderly :=
  hc.induction (fun _ => View.orderly_empty) fun _ _ _ horderly h => h.orderly horderly

/-- A step that takes an id off the hub does the act. -/
theorem nextAct?_of_effect {f : Frame D} {id : ListenerId} (h : f.effect = .unlisten id) :
    f.nextAct? = some (.unlisten id) := by
  rcases f.effect_cases with hnone | ⟨kind, handler, hlisten, -⟩ | ⟨id', hunlisten, hact⟩
    | ⟨i, rfl⟩ | ⟨i, rfl⟩
  · rw [hnone] at h
    cases h
  · rw [hlisten] at h
    cases h
  · rw [hunlisten] at h
    exact Effect.unlisten.inj h ▸ hact
  · cases h
  · cases h

/-- A move that spares an instance leaves it on every list. -/
theorem Move.attached {c c' : Config D} (h : c.Move I c') (hc : c.world.view.Orderly) {i : Nat}
    (hspares : c.spares i = true) (hi : c.world.view.Attached i) : c'.world.view.Attached i := by
  rcases h.view with ⟨f, rest, hstack, hview⟩ | ⟨-, hview | ⟨id, path, detached, hview⟩⟩
  · refine hview ▸ hc.attached_after hi _ fun id heffect => ?_
    have hnext : c.nextAct? = some (.unlisten id) := by
      simp [nextAct?, hstack, nextAct?_of_effect heffect]
    simpa [spares, hnext] using hspares
  · exact hview ▸ hi
  · exact hview ▸ hc.attached_after hi _ fun id' heq => by cases heq

/-- **An instance that is spared stays on every list until it ends.** -/
theorem ReachableWithin.attached {c : Config D} {i : Nat}
    (hc : c.ReachableWithin I (·.spares i)) : c.world.view.Attached i := by
  obtain ⟨memory, hruns⟩ := hc
  induction hruns with
  | refl =>
    intro halive
    simp [World.view, World.new, View.isAlive] at halive
  | tail hfirst h ih =>
    have hreachable : ReachableWithin I (·.spares i) _ := ⟨memory, hfirst⟩
    exact h.2.attached hreachable.reachable.orderly h.1 ih

end Config

end ScriptHost
