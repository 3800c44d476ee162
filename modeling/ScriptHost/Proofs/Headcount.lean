import ScriptHost.Proofs.Sessions

/-!
# How many listeners there are, and in which order

Where nobody takes a listener of an instance off the hub, every list has the
instances that have not ended, each once and oldest first, and besides them handlers
of the host's own.  The handlers are as many as were registered and not taken off
again.

An emission works on a list as it was when it began, and forgets whom it has called;
so it reaches instances in the order of their birth, whatever they do to the lists
meanwhile.

* `Config.Move.handlers` — the acts that change the number of handlers;
* `Config.Reachable.reaches` — the order in which an emission reaches instances;
* `Scene.IsRun.headcount` — the account of the listeners in a run of a session.
-/

namespace ScriptHost

variable {D : Dialect}

/-! ## The handlers of the host -/

namespace Hub

/-- How many handlers of the host's own are on the list of a kind. -/
def handlersOf (h : Hub D) (kind : EventKind) : Nat :=
  (h.listeners kind).countP fun l => l.place?.isNone

/-- How many handlers of the host's own there are. -/
def handlers (h : Hub D) : Nat :=
  (EventKind.all.flatMap h.listeners).countP fun l => l.place?.isNone

/-- A list is made up of instances and of handlers of the host's own. -/
theorem length_listeners (h : Hub D) (kind : EventKind) :
    (h.listeners kind).length = (h.places kind).length + h.handlersOf kind := by
  have hothers : (h.listeners kind).countP (fun l => decide ¬(l.place?.isSome = true))
      = h.handlersOf kind := List.countP_congr fun l _ => by simp
  rw [places, List.length_filterMap_eq_countP, ← hothers]
  exact List.length_eq_countP_add_countP _

/-- Where every list has the same instances, the total is theirs and the handlers'. -/
theorem total_eq {h : Hub D} {l : List Nat} (hplaces : ∀ kind, h.places kind = l) :
    h.total = 13 * l.length + h.handlers := by
  have hlists : ∀ kinds : List EventKind, (kinds.flatMap h.listeners).length
      = kinds.length * l.length
        + (kinds.flatMap h.listeners).countP fun l => l.place?.isNone := by
    intro kinds
    induction kinds with
    | nil => simp
    | cons kind rest ih =>
      have hlength := h.length_listeners kind
      rw [hplaces, handlersOf] at hlength
      simp only [List.flatMap_cons, List.length_append, List.countP_append, List.length_cons,
        Nat.add_mul]
      omega
  exact hlists EventKind.all

/-- Where no kind has more handlers or fewer, all have as many as before. -/
theorem countP_flatMap_congr {h h' : Hub D} {kinds : List EventKind}
    (hsame : ∀ k ∈ kinds, h'.handlersOf k = h.handlersOf k) :
    (kinds.flatMap h'.listeners).countP (fun l => l.place?.isNone)
      = (kinds.flatMap h.listeners).countP fun l => l.place?.isNone := by
  induction kinds with
  | nil => rfl
  | cons kind rest ih =>
    have hkind := hsame kind List.mem_cons_self
    have hrest := ih fun k hk => hsame k (List.mem_cons_of_mem kind hk)
    simp only [handlersOf] at hkind
    simp only [List.flatMap_cons, List.countP_append, hkind, hrest]

/-- The handlers are counted kind by kind. -/
theorem handlers_congr {h h' : Hub D} (hsame : ∀ k, h'.handlersOf k = h.handlersOf k) :
    h'.handlers = h.handlers :=
  countP_flatMap_congr fun k _ => hsame k

/-- Where the handlers of one kind become one more and the others stay, they become one
more in all. -/
theorem handlers_succ {h h' : Hub D} (kind : EventKind)
    (hsucc : h'.handlersOf kind = h.handlersOf kind + 1)
    (hsame : ∀ k, k ≠ kind → h'.handlersOf k = h.handlersOf k) : h'.handlers = h.handlers + 1 := by
  have hapart : ∀ h : Hub D, h.handlers = h.handlersOf kind
      + ((EventKind.all.erase kind).flatMap h.listeners).countP fun l => l.place?.isNone := by
    intro h
    have hperm := (List.perm_cons_erase (EventKind.mem_all kind)).flatMap_right h.listeners
    rw [handlers, hperm.countP_eq, List.flatMap_cons, List.countP_append]
    rfl
  have hothers : ∀ k ∈ EventKind.all.erase kind, h'.handlersOf k = h.handlersOf k := by
    intro k hk
    apply hsame
    rintro rfl
    exact EventKind.nodup_all.not_mem_erase hk
  rw [hapart h', hapart h, hsucc, countP_flatMap_congr hothers]
  omega

/-- A handler of the host's own is one more. -/
theorem handlers_listen (h : Hub D) (kind : EventKind) (handler : D.Handler) :
    (h.listen kind (.host handler)).handlers = h.handlers + 1 := by
  apply handlers_succ kind
  · simp [handlersOf, listeners_listen, Listener.place?]
  · intro k hk
    simp [handlersOf, listeners_listen, Ne.symm hk]

/-- A new instance is not a handler. -/
theorem handlers_attach (h : Hub D) (i : Nat) :
    (h.attach i EventKind.all).handlers = h.handlers := by
  apply handlers_congr
  intro k
  have hlisteners := h.listeners_attach i EventKind.nodup_all k
  rw [if_pos (EventKind.mem_all k)] at hlisteners
  simp [handlersOf, hlisteners, Listener.place?]

/-- To take listeners of instances off leaves the handlers. -/
theorem handlers_without {h : Hub D} (ho : h.Orderly) {ids : List ListenerId}
    (hids : ∀ kind, ∀ l ∈ h.listeners kind, l.id ∈ ids → ∃ i, l.hook = .script i) :
    (h.without ids).handlers = h.handlers := by
  apply handlers_congr
  intro k
  rw [handlersOf, listeners_without ho, List.countP_filter]
  refine List.countP_congr fun l hl => ?_
  by_cases hmem : l.id ∈ ids
  · obtain ⟨i, hi⟩ := hids k l hl hmem
    simp [Listener.place?, hi]
  · simp [hmem]

/-- To take an unknown listener off changes nothing. -/
theorem remove_of_kindOf?_eq_none {h : Hub D} {id : ListenerId} (hid : h.kindOf? id = none) :
    h.remove id = h := by
  simp [remove, hid]

/-- To take a handler off makes one less. -/
theorem handlers_remove {h : Hub D} (ho : h.Orderly) {id : ListenerId} {kind : EventKind}
    (hid : h.kindOf? id = some kind)
    (hhost : ∀ k, ∀ l ∈ h.listeners k, l.id = id → l.place? = none) :
    h.handlers = (h.remove id).handlers + 1 := by
  obtain ⟨l, hl, rfl⟩ := exists_of_kindOf? hid
  apply handlers_succ kind
  · obtain ⟨before, rest, hsplit⟩ := List.append_of_mem hl
    have hasc := ho.ascending kind
    rw [hsplit, List.pairwise_append, List.pairwise_cons] at hasc
    obtain ⟨-, ⟨hrest, -⟩, hbefore⟩ := hasc
    have hkept : (h.remove l.id).listeners kind = before ++ rest := by
      rw [listeners_remove ho, hsplit, List.filter_append, List.filter_cons_of_neg (by simp)]
      congr 1
      · refine List.filter_eq_self.mpr fun l' hl' => ?_
        have hlt := hbefore l' hl' l List.mem_cons_self
        have hne : l'.id ≠ l.id := fun heq => by simp [heq] at hlt
        simpa using hne
      · refine List.filter_eq_self.mpr fun l' hl' => ?_
        have hlt := hrest l' hl'
        have hne : l'.id ≠ l.id := fun heq => by simp [heq] at hlt
        simpa using hne
    simp only [handlersOf, hkept, hsplit, List.countP_append, List.countP_cons,
      hhost kind l hl rfl, Option.isNone_none, if_true]
    omega
  · intro k hk
    have hkept : (h.remove l.id).listeners k = h.listeners k := by
      rw [listeners_remove ho]
      refine List.filter_eq_self.mpr fun l' hl' => ?_
      have hne : l'.id ≠ l.id := fun heq => hk (ho.apart k kind l' hl' l hl heq)
      simpa using hne
    simp [handlersOf, hkept]

end Hub

namespace View

/-- Only an act of that name registers a handler or takes one off. -/
theorem handlers_after {r : View D} (hr : r.Orderly) {e : Effect D}
    (hlisten : ∀ kind handler, e ≠ .listen kind handler) (hunlisten : ∀ id, e ≠ .unlisten id) :
    (r.after e).hub.handlers = r.hub.handlers := by
  cases e with
  | nothing | settle => rfl
  | enroll => exact r.hub.handlers_attach r.infos.length
  | dismiss i =>
    rw [hub_dismiss]
    exact Hub.handlers_without hr.hub fun kind l hl hmem =>
      ⟨i, (hr.owned i l.id hmem).2 kind l hl rfl⟩
  | listen kind handler => exact absurd rfl (hlisten kind handler)
  | unlisten id => exact absurd rfl (hunlisten id)

/-- A listener that is no instance's is a handler. -/
theorem handlers_unlisten {r : View D} (hr : r.Orderly) {id : ListenerId}
    (hspared : ∀ i, id ∉ r.listenersOf i) :
    (r.after (.unlisten id)).hub.handlers + (r.hub.kindOf? id).isSome.toNat = r.hub.handlers := by
  have hhub : (r.after (.unlisten id)).hub = r.hub.remove id := rfl
  rw [hhub]
  cases hkind : r.hub.kindOf? id with
  | none =>
    simp only [Hub.remove_of_kindOf?_eq_none hkind, Option.isSome_none, Bool.toNat_false,
      Nat.add_zero]
  | some kind =>
    refine (Hub.handlers_remove hr.hub hkind fun k l hl hid => ?_).symm
    by_contra hsome
    obtain ⟨i, hi⟩ := Option.ne_none_iff_exists'.mp hsome
    apply hspared i
    rw [← hid]
    exact hr.hooked k l hl i (Listener.place?_eq_some.mp hi)

end View

/-! ## Acts that register a handler, or take one off -/

/-- A frame runs the effect of its act. -/
theorem Frame.effect_of_nextAct? {f : Frame D} {a : Act D} (h : f.nextAct? = some a) :
    f.effect = a.effect := by
  cases f with
  | settle | ending => cases h
  | emission | pass | callback | coroutine | call | handler | entry | putBack =>
    simp [effect, h]

namespace Config

/-- Whether a listener is registered next. -/
def listens (c : Config D) : Bool :=
  match c.nextAct? with
  | some (.listen _ _) => true
  | _ => false

/-- The listener that is taken off next. -/
def unlistened? (c : Config D) : Option ListenerId :=
  match c.nextAct? with
  | some (.unlisten id) => some id
  | _ => none

/-- Whether a listener is taken off next that is on a list. -/
def unlistens (c : Config D) : Bool :=
  c.unlistened?.any fun id => (c.world.hub.kindOf? id).isSome

/-- The next act takes no listener of an instance off the hub. -/
def Civil (c : Config D) : Prop :=
  ∀ i, c.spares i = true

/-- Nobody is taken off unless the next act says so. -/
theorem unlistened?_eq_none {c : Config D} (h : ∀ id, c.nextAct? ≠ some (.unlisten id)) :
    c.unlistened? = none := by
  unfold unlistened?
  split
  · next id hid => exact absurd hid (h id)
  · rfl

/-- Where nothing is taken off the hub next, no instance loses a listener. -/
theorem civil_of_unlistened? {c : Config D} (h : c.unlistened? = none) : c.Civil := by
  intro i
  unfold spares
  split
  · next id hid => simp [unlistened?, hid] at h
  · rfl

/-- Whoever neither listens nor unlistens next. -/
theorem quiet_of_nextAct? {c : Config D}
    (hlisten : ∀ kind handler, c.nextAct? ≠ some (.listen kind handler))
    (hunlisten : ∀ id, c.nextAct? ≠ some (.unlisten id)) :
    c.listens = false ∧ c.unlistens = false := by
  refine ⟨?_, by simp [unlistens, unlistened?_eq_none hunlisten]⟩
  unfold listens
  split
  · next kind handler hact => exact absurd hact (hlisten kind handler)
  · rfl

variable {I : Interpreter D}

/-- A move leaves the handlers, if its effect is none of those. -/
theorem handlers_of_quiet {c c' : Config D} (hc : c.world.view.Orderly) {e : Effect D}
    (hview : c'.world.view = c.world.view.after e)
    (hlisten : ∀ kind handler, e ≠ .listen kind handler) (hunlisten : ∀ id, e ≠ .unlisten id)
    (hact : ∀ a, c.nextAct? = some a → a.effect = e) :
    c'.world.hub.handlers + c.unlistens.toNat = c.world.hub.handlers + c.listens.toNat := by
  have hhandlers := View.handlers_after hc hlisten hunlisten
  rw [← hview] at hhandlers
  obtain ⟨hl, hu⟩ := quiet_of_nextAct? (c := c)
    (fun kind handler h => hlisten kind handler (hact _ h).symm)
    fun id h => hunlisten id (hact _ h).symm
  rw [hl, hu]
  exact congrArg (· + 0) hhandlers

/-- **Handlers come and go one by one**, by the acts of that name. -/
theorem Move.handlers {c c' : Config D} (h : c.Move I c') (hc : c.world.view.Orderly)
    (hcivil : c.Civil) :
    c'.world.hub.handlers + c.unlistens.toNat = c.world.hub.handlers + c.listens.toNat := by
  rcases h.view with ⟨f, rest, hstack, hview⟩ | ⟨hstack, hhost⟩
  · have hnext : c.nextAct? = f.nextAct? := by simp [nextAct?, hstack]
    have hact : ∀ a, c.nextAct? = some a → a.effect = f.effect := fun a ha =>
      (Frame.effect_of_nextAct? (hnext ▸ ha)).symm
    rcases f.effect_cases with heffect | ⟨kind, handler, heffect, hlisten⟩
      | ⟨id, heffect, hunlisten⟩ | ⟨i, rfl⟩ | ⟨i, rfl⟩
    · exact handlers_of_quiet hc hview (by simp [heffect]) (by simp [heffect]) hact
    · have hhub : c'.world.hub = c.world.hub.listen kind (.host handler) := by
        rw [heffect] at hview
        exact congrArg View.hub hview
      have hlistens : c.listens = true := by simp [listens, hnext, hlisten]
      have hunlistens : c.unlistens = false := by simp [unlistens, unlistened?, hnext, hlisten]
      simp only [hhub, Hub.handlers_listen, hlistens, hunlistens, Bool.toNat_true, Bool.toNat_false,
        Nat.add_zero]
    · have hspared : ∀ i, id ∉ c.world.view.listenersOf i := by
        intro i
        simpa [spares, hnext, hunlisten] using hcivil i
      have hhub : c'.world.hub = (c.world.view.after (.unlisten id)).hub := by
        rw [heffect] at hview
        exact congrArg View.hub hview
      have hunlistens : c.unlistens = (c.world.view.hub.kindOf? id).isSome := by
        simp only [unlistens, unlistened?, hnext, hunlisten]
        rfl
      have hlistens : c.listens = false := by simp [listens, hnext, hunlisten]
      simp only [hhub, hunlistens, hlistens, Bool.toNat_false, Nat.add_zero]
      exact View.handlers_unlisten hc hspared
    · exact handlers_of_quiet hc hview (by simp [Frame.effect]) (by simp [Frame.effect]) hact
    · exact handlers_of_quiet hc hview (by simp [Frame.effect]) (by simp [Frame.effect]) hact
  · have hnone : c.nextAct? = none := by simp [nextAct?, hstack]
    rcases hhost with hsame | ⟨id, path, detached, hview⟩
    · exact handlers_of_quiet (e := .nothing) hc hsame (by simp) (by simp) (by simp [hnone])
    · exact handlers_of_quiet hc hview (by simp) (by simp) (by simp [hnone])

end Config

/-! ## Emissions -/

/-- The instances an emission has yet to reach, in the order in which it will. -/
def Frame.reaches : Frame D → List Nat
  | .emission _ _ listeners => listeners.filterMap Listener.place?
  | _ => []

namespace Config

variable {I : Interpreter D}

/-- What the host starts of its own accord reaches whoever is on a list. -/
theorem reaches_of_initiative {w w' : World D} {started : List (Frame D)}
    (h : Initiative w w' started) {f : Frame D} (hf : f ∈ started) :
    f.reaches = [] ∨ ∃ kind, f.reaches = w.hub.places kind := by
  cases h with
  | terminate i =>
    unfold World.beginEnding at hf
    split at hf
    · cases hf
    · split at hf
      · rcases List.mem_pair.mp hf with rfl | rfl
        · exact Or.inr ⟨_, rfl⟩
        · exact Or.inl rfl
      · cases hf
  | spawn id path detached code =>
    rcases List.mem_pair.mp hf with rfl | rfl
    · exact Or.inl rfl
    · exact Or.inl rfl
  | code code =>
    obtain rfl := List.mem_singleton.mp hf
    exact Or.inl rfl
  | notify n kind args pulse =>
    obtain rfl := List.mem_singleton.mp hf
    exact Or.inl rfl
  | addBench | hold | takeHeld | setRequests | setShutdown => cases hf

/-- **An emission reaches instances in the order of their birth.** -/
theorem Reachable.reaches {c : Config D} (hc : c.Reachable I) {f : Frame D} (hf : f ∈ c.stack) :
    f.reaches.Pairwise (· < ·) := by
  suffices h : ∀ f ∈ c.stack, f.reaches.Pairwise (· < ·) from h f hf
  refine hc.induction (P := fun c => ∀ f ∈ c.stack, f.reaches.Pairwise (· < ·))
    (fun memory f hf => by cases hf) fun c c' hc ih hmove f hf => ?_
  rcases hmove.cases with ⟨g, rest, hstack, rfl⟩ | ⟨hstack, hinit⟩
  · have hg : g ∈ c.stack := hstack ▸ List.mem_cons_self
    rcases List.mem_append.mp hf with hf | hf
    · cases Frame.heir_advance I (hc.sound.frames g hg) hf with
      | emission h =>
        rcases h with rfl | ⟨l, rfl⟩
        · exact hc.orderly.ranked _
        · exact (ih _ hg).sublist ((List.sublist_cons_self l _).filterMap _)
      | pass | callback | coroutine | call | handler | entry | ending | putBack =>
        exact List.Pairwise.nil
    · exact ih f (hstack ▸ List.mem_cons_of_mem g hf)
  · rcases reaches_of_initiative hinit hf with hnone | ⟨kind, hlist⟩
    · rw [hnone]
      exact List.Pairwise.nil
    · rw [hlist]
      exact hc.orderly.ranked kind

end Config

/-! ## The registry's instances on a list -/

namespace Registry

/-- So many entries pass a test as there are positions that do. -/
theorem length_positions (r : Registry D) (p : Entry → Bool) :
    (r.positions p).length = r.entries.countP p := by
  have hcount : ∀ l : List Entry,
      (List.range l.length).countP (fun i => l[i]?.any p) = l.countP p := by
    intro l
    induction l with
    | nil => rfl
    | cons e rest ih =>
      rw [List.length_cons, List.range_succ_eq_map, List.countP_cons, List.countP_map,
        List.countP_cons, ← ih]
      simp [Function.comp_def]
  rw [← hcount, positions, List.countP_eq_length_filter]

/-- The count of live scripts is that of the instances the entries have. -/
theorem liveCount_eq (r : Registry D) : r.liveCount = r.lives.length := by
  rw [liveCount, livePositions, length_positions, lives, List.length_filterMap_eq_countP]

end Registry

namespace View

/-- The instances that have not ended and belong to no registry. -/
def loose (r : View D) : List Nat :=
  r.alive.filter fun i => !r.isRegistered i

/-- Whoever is alive belongs to the registry or to nobody. -/
theorem length_alive (r : View D) : r.alive.length = r.own.length + r.loose.length :=
  List.length_eq_length_filter_add r.isRegistered

/-- Where the ids of a registry ascend, a younger instance has the greater id. -/
theorem id_lt_of_lt {r : View D} (hids : r.registeredIds.Pairwise fun a b => a.val < b.val)
    {i j : Nat} (hij : i < j) {s t : Tag} (hs : r.tags[i]? = some s) (ht : r.tags[j]? = some t)
    (hsOwn : s.detached = false) (htOwn : t.detached = false) : s.id.val < t.id.val := by
  rw [registeredIds, List.pairwise_map, List.pairwise_filter] at hids
  obtain ⟨hi, rfl⟩ := List.getElem?_eq_some_iff.mp hs
  obtain ⟨hj, rfl⟩ := List.getElem?_eq_some_iff.mp ht
  exact List.pairwise_iff_getElem.mp hids i j hi hj hij (by simp [hsOwn]) (by simp [htOwn])

end View

/-- The registry's instances on the list of a kind, first to last. -/
def World.listed (w : World D) (kind : EventKind) : List (Instance D) :=
  ((w.hub.places kind).filterMap w.instance?).filter fun x => !x.detached

/-- Where the ids of a registry ascend, they ascend on every list. -/
theorem World.listed_ascend {w : World D} (hw : w.view.Orderly)
    (hids : w.view.registeredIds.Pairwise fun a b => a.val < b.val) (kind : EventKind) :
    (w.listed kind).Pairwise fun x y => x.id.val < y.id.val := by
  have hplaces : (w.hub.places kind).Pairwise (· < ·) := hw.ranked kind
  have htag : ∀ (i : Nat) (x : Instance D), w.instance? i = some x →
      w.view.tags[i]? = some x.info.tag := by
    intro i x hx
    simp [View.tags, infos_view, hx]
  rw [listed, List.pairwise_filter, List.pairwise_filterMap]
  refine hplaces.imp fun hij x hx y hy hxOwn hyOwn => ?_
  have hxOwn : x.detached = false := by simpa using hxOwn
  have hyOwn : y.detached = false := by simpa using hyOwn
  exact View.id_lt_of_lt hids hij (htag _ x hx) (htag _ y hy) hxOwn hyOwn

/-! ## The account of a session -/

/-- What is reached within bounds is reached within wider ones. -/
theorem Config.ReachableWithin.mono {I : Interpreter D} {P Q : Config D → Prop} {c : Config D}
    (h : c.ReachableWithin I P) (hPQ : ∀ c, P c → Q c) : c.ReachableWithin I Q := by
  obtain ⟨memory, hruns⟩ := h
  exact ⟨memory, Relation.ReflTransGen.mono (fun c _ h => ⟨hPQ c h.1, h.2⟩) _ _ hruns⟩

/-- Where nobody takes a listener of an instance off, every list has exactly the
instances that have not ended. -/
theorem Config.ReachableWithin.places {I : Interpreter D} {c : Config D}
    (h : c.ReachableWithin I Config.Civil) (kind : EventKind) :
    c.world.hub.places kind = c.world.view.alive :=
  View.places_eq_alive h.reachable.orderly
    (fun i => (h.mono fun _ hcivil => hcivil i).attached) kind

namespace Scene

variable {I : Interpreter D} {concurrent : Bool} {run : Nat → Scene D} {n : Nat}

/-- A run in which nobody takes an instance off the hub reaches only what can be reached so. -/
theorem IsRun.reachableWithin (hrun : IsRun I run n) (hcivil : ∀ k < n, (run k).config.Civil)
    (h : (run 0).config.ReachableWithin I Config.Civil) {k : Nat} (hk : k ≤ n) :
    (run k).config.ReachableWithin I Config.Civil := by
  induction k with
  | zero => exact h
  | succ k ih =>
    have hbefore := ih (by omega)
    rcases (hrun k (by omega)).config with ⟨-, hsame⟩ | hmove
    · exact hsame ▸ hbefore
    · exact hbefore.move (hcivil k (by omega)) hmove

/-- **The handlers of a run** are those there were, and those registered since, but for
those taken off since. -/
theorem IsRun.handlers (hrun : IsRun I run n) (hcivil : ∀ k < n, (run k).config.Civil)
    (h : (run 0).config.ReachableWithin I Config.Civil) {k : Nat} (hk : k ≤ n) :
    (run k).world.hub.handlers + (List.range k).countP (fun j => (run j).config.unlistens)
      = (run 0).world.hub.handlers + (List.range k).countP fun j => (run j).config.listens := by
  induction k with
  | zero => rfl
  | succ k ih =>
    have hk' : k ≤ n := by omega
    have hbefore := ih hk'
    have hreachable := (hrun.reachableWithin hcivil h hk').reachable
    have hmoved : (run (k + 1)).world.hub.handlers + (run k).config.unlistens.toNat
        = (run k).world.hub.handlers + (run k).config.listens.toNat := by
      rcases (hrun k (by omega)).config with ⟨hstack, hsame⟩ | hmove
      · have hquiet : (run k).config.nextAct? = none := by
          simp [Config.nextAct?, config, hstack]
        obtain ⟨hl, hu⟩ := Config.quiet_of_nextAct? (c := (run k).config) (by simp [hquiet])
          (by simp [hquiet])
        have hworld : (run (k + 1)).world = (run k).world := congrArg Config.world hsame
        simp only [hl, hu, hworld]
      · exact hmove.handlers hreachable.orderly (hcivil k (by omega))
    have hcount : ∀ b : Bool, (if b = true then 1 else 0) = b.toNat := by decide
    simp only [List.range_succ, List.countP_append, List.countP_singleton, hcount]
    omega

/-- **The account of the listeners.**  Nobody takes a listener of an instance off the hub.
Then, whenever nothing is under way:

* an instance of the registry has one listener on every list while an entry names it,
  and none when it has been destroyed;
* there are thirteen listeners for each of these instances, and for each the host has
  started beside its registry, and besides the handlers that were registered and have
  not been taken off;
* the registry's instances stand on every list in the order of their ids, until these
  start over.

And at every moment an emission reaches instances in the order in which they came into
being. -/
theorem IsRun.headcount (hrun : IsRun I run n) (hbegins : (run 0).Begins I concurrent)
    (hbefore : (run 0).config.ReachableWithin I Config.Civil)
    (hcivil : ∀ k < n, (run k).config.Civil) (hrest : (run n).AtRest) :
    (∀ kind i, (run n).world.view.isRegistered i = true →
        ((run n).world.hub.places kind).count i
          = if i ∈ (run n).session.host.registry.lives then 1 else 0) ∧
      (run n).world.hub.total + (List.range n).countP (fun k => (run k).config.unlistens)
        = 13 * ((run n).session.host.registry.liveCount + (run n).world.view.loose.length)
          + ((run 0).world.hub.handlers + (List.range n).countP fun k => (run k).config.listens) ∧
      ((run n).world.view.registeredIds.length < UInt32.size → ∀ kind,
        ((run n).world.listed kind).Pairwise fun x y => x.id.val < y.id.val) ∧
      ∀ k ≤ n, ∀ f ∈ (run k).stack, f.reaches.Pairwise (· < ·) := by
  have hreachable : ∀ k ≤ n, (run k).Reachable I concurrent := fun k hk =>
    hrun.reachable ⟨_, hbegins, .refl⟩ hk
  have hlast := hrun.reachableWithin hcivil hbefore (Nat.le_refl n)
  have htidy := ((hreachable n (Nat.le_refl n)).upheld.rest hrest).tidy
  refine ⟨fun kind i hi => ?_, ?_, fun hfew kind => ?_, fun k hk f hf => ?_⟩
  · have hplaces : (run n).world.hub.places kind = (run n).world.view.alive := hlast.places kind
    have hlives : i ∈ (run n).session.host.registry.lives ↔ i ∈ (run n).world.view.alive := by
      rw [htidy.lives.mem_iff]
      exact View.mem_own.trans ⟨fun h => View.mem_alive.mpr h.1, fun h => ⟨View.mem_alive.mp h, hi⟩⟩
    have hnodup : (run n).world.view.alive.Nodup := List.nodup_range.filter _
    rw [hplaces, hnodup.count]
    simp only [hlives]
  · have htotal := Hub.total_eq (h := (run n).world.hub) hlast.places
    have halive := (run n).world.view.length_alive
    have hown := htidy.lives.length_eq
    have hlive := (run n).session.host.registry.liveCount_eq
    have hhandlers := hrun.handlers hcivil hbefore (Nat.le_refl n)
    have hworld : (run n).session.host.world = (run n).world := rfl
    have hconfig : (run n).config.world = (run n).world := rfl
    rw [hworld] at hown
    rw [hconfig] at htotal
    omega
  · obtain ⟨m, hm, -⟩ := htidy.numbered
    have hm : (run n).world.view.registeredIds = Registry.firstIds m := hm
    have hlength : m < UInt32.size := by
      rw [hm] at hfew
      simpa [Registry.firstIds] using hfew
    have hids : (run n).world.view.registeredIds.Pairwise fun a b => a.val < b.val :=
      hm ▸ Registry.firstIds_ascend hlength
    exact World.listed_ascend (hreachable n (Nat.le_refl n)).config.orderly hids kind
  · exact (hreachable k hk).config.reaches hf

end Scene

namespace Specimen

/-- Nobody is taken off the hub while the script is restarted. -/
theorem civil_restartRun {k : Nat} (hk : k < 41) : (restartRun true k).1.config.Civil := by
  have hquiet : ∀ k < 41, (restartRun true k).1.config.unlistened? = none := by decide +kernel
  exact Config.civil_of_unlistened? (hquiet k hk)

theorem reachableWithin_opening :
    (restartRun true 0).1.config.ReachableWithin interpreter Config.Civil := by
  have hnew : (⟨World.new (), []⟩ : Config dialect).ReachableWithin interpreter Config.Civil :=
    ⟨(), .refl⟩
  have hcode := hnew.move (Config.civil_of_unlistened? rfl)
    (.host (.code (.report (.registry (.created true)))))
  have hlog := hcode.move (Config.civil_of_unlistened? rfl) (.step rfl)
  exact hlog.move (Config.civil_of_unlistened? rfl) (.step rfl)

end Specimen

/-- When the script has been restarted, its new instance has one listener for ticks, the
old one has none, and there are thirteen listeners in all. -/
theorem Scene.IsRun.headcount_restarted :
    ((Specimen.restartRun true 41).1.world.hub.places .timerTick).count 1 = 1 ∧
      ((Specimen.restartRun true 41).1.world.hub.places .timerTick).count 0 = 0 ∧
      (Specimen.restartRun true 41).1.world.hub.total = 13 := by
  obtain ⟨honce, htotal, -, -⟩ := headcount (Specimen.isRun_restartRun true)
    (Specimen.begins_opening true) Specimen.reachableWithin_opening
    (fun _ => Specimen.civil_restartRun) ⟨rfl, rfl⟩
  have hunlistens : (List.range 41).countP
      (fun k => (Specimen.restartRun true k).1.config.unlistens) = 0 := by decide +kernel
  have haccount : 13 * ((Specimen.restartRun true 41).1.session.host.registry.liveCount
      + (Specimen.restartRun true 41).1.world.view.loose.length)
      + ((Specimen.restartRun true 0).1.world.hub.handlers
        + (List.range 41).countP fun k => (Specimen.restartRun true k).1.config.listens) = 13 := by
    decide +kernel
  refine ⟨(honce .timerTick 1 (by decide +kernel)).trans (by decide +kernel),
    (honce .timerTick 0 (by decide +kernel)).trans (by decide +kernel), ?_⟩
  rw [hunlistens, haccount, Nat.add_zero] at htotal
  exact htotal

end ScriptHost
