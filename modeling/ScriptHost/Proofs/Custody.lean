import Mathlib.Data.List.Perm.Basic
import Mathlib.Data.List.Nodup
import ScriptHost.Proofs.Soundness

/-!
# Custody of coroutines

A coroutine that is handed to an instance gets a serial number, and from then on it
is in one **place** — it waits in a queue of the instance's table or in the queue of
a pass that has taken it out, or it runs — until it is **gone**.  Nested emissions
interleave passes, and code may reset or end the instance at any depth; the sum of
the places and of those who are gone changes with none of it.

* `Account.Step.census` — a deed neither makes nor loses a coroutine;
* `Account.Step.leaves` — whoever leaves its place for good leaves for a reason;
* `Config.Reachable.balanced` — those who are somewhere and those who are gone are
  those who were handed over, each once;
* `Config.Reachable.custody` — all of it, in terms of runs.
-/

namespace ScriptHost

variable {D : Dialect}

/-! ## What a queue holds -/

/-- Lists that differ in what they hold for one key differ by that. -/
theorem perm_flatMap_of_update {α β : Type} {l : List α} (hl : l.Nodup) {k : α} (hk : k ∈ l)
    {f g : α → List β} {xs : List β} (hself : (g k).Perm (xs ++ f k))
    (hne : ∀ k' ∈ l, k' ≠ k → g k' = f k') : (l.flatMap g).Perm (xs ++ l.flatMap f) := by
  induction l with
  | nil => cases hk
  | cons a rest ih =>
    obtain ⟨ha, hrest⟩ := List.nodup_cons.mp hl
    simp only [List.flatMap_cons]
    rcases List.mem_cons.mp hk with rfl | hmem
    · have htail : rest.flatMap g = rest.flatMap f :=
        List.flatMap_congr fun k' hk' => hne k' (List.mem_cons_of_mem _ hk') fun e => ha (e ▸ hk')
      rw [htail, ← List.append_assoc]
      exact hself.append_right _
    · have hhead : g a = f a := hne a List.mem_cons_self fun e => ha (e ▸ hmem)
      have htail : (rest.flatMap g).Perm (xs ++ rest.flatMap f) :=
        ih hrest hmem fun k' hk' => hne k' (List.mem_cons_of_mem _ hk')
      have hswap : (f a ++ (xs ++ rest.flatMap f)).Perm (xs ++ (f a ++ rest.flatMap f)) := by
        simpa only [List.append_assoc] using List.perm_append_comm.append_right (rest.flatMap f)
      rw [hhead]
      exact (htail.append_left _).trans hswap

namespace Subscriptions

/-- Nobody waits in the empty table. -/
@[simp] theorem waitingSerials_empty : (empty : Subscriptions D).waitingSerials = [] := by
  simp [waitingSerials]

/-- Nobody waits in a table that was cleared. -/
@[simp] theorem waitingSerials_clear (s : Subscriptions D) : s.clear.waitingSerials = [] := by
  simp [waitingSerials]

/-- Whoever is handed over does not wait yet. -/
@[simp] theorem waitingSerials_accept (s : Subscriptions D) :
    s.accept.waitingSerials = s.waitingSerials :=
  rfl

/-- A callback lets nobody wait, and nobody go. -/
@[simp] theorem waitingSerials_setCallback (s : Subscriptions D) (kind : EventKind)
    (callback : Option D.Callback) :
    (s.setCallback kind callback).waitingSerials = s.waitingSerials := by
  simp [waitingSerials]

@[simp] theorem waitingSerials_clearCallbacks (s : Subscriptions D) :
    s.clearCallbacks.waitingSerials = s.waitingSerials := by
  simp [waitingSerials]

/-- Whoever is parked waits, besides those who waited. -/
theorem waitingSerials_park (s : Subscriptions D) (kind : EventKind) (task : Task D) :
    (s.park kind task).waitingSerials.Perm (task.serial :: s.waitingSerials) := by
  have hself : (((s.park kind task).waiting kind).map Task.serial).Perm
      ([task.serial] ++ (s.waiting kind).map Task.serial) := by
    rw [waiting_park, if_pos rfl, List.map_append]
    exact List.perm_append_comm
  refine perm_flatMap_of_update (f := fun k => (s.waiting k).map Task.serial)
    (g := fun k => ((s.park kind task).waiting k).map Task.serial) EventKind.nodup_all
    (EventKind.mem_all kind) hself fun kind' _ h => ?_
  rw [waiting_park, if_neg (Ne.symm h)]

/-- A queue and what is left when it is drained. -/
theorem waitingSerials_drain (s : Subscriptions D) (kind : EventKind) :
    s.waitingSerials.Perm
      ((s.waiting kind).map Task.serial ++ (s.drain kind).waitingSerials) := by
  refine perm_flatMap_of_update EventKind.nodup_all (EventKind.mem_all kind) ?_ fun kind' _ h => ?_
  · rw [waiting_drain, if_pos rfl, List.map_nil, List.append_nil]
  · rw [waiting_drain, if_neg (Ne.symm h)]

end Subscriptions

/-- Whom an entry of the journal says to be handed over. -/
def Happening.handed? : Happening D → Option Nat
  | .handed _ s => some s
  | _ => none

/-- Whom an entry of the journal says to be gone. -/
def Happening.gone? : Happening D → Option Nat
  | .left _ s _ => some s
  | _ => none

namespace Account

/-- Who waits, in the table or in the queue of a pass. -/
def waiting (a : Account D) : List Nat :=
  a.table.waitingSerials ++ a.passes.flatten.map Task.serial

/-- Every place a coroutine can be in: it waits or it runs. -/
def places (a : Account D) : List Nat :=
  a.waiting ++ a.running

/-- Who was ever handed over, the latest first. -/
def handed (a : Account D) : List Nat :=
  a.story.filterMap Happening.handed?

/-- Who is gone for good, the latest first. -/
def gone (a : Account D) : List Nat :=
  a.story.filterMap Happening.gone?

/-- Whoever was handed over is in one place or gone, and nobody twice. -/
structure Balanced (a : Account D) : Prop where
  numbers : a.handed = (List.range a.table.handed).reverse
  perm : (a.places ++ a.gone).Perm a.handed

/-! ## A deed keeps the balance -/

/-- How often a serial number occurs among those who are somewhere and those who
are gone. -/
def census (a : Account D) (s : Nat) : Nat :=
  (a.places ++ a.gone).count s

/-- Where a coroutine is counted: in the table, in a pass, running, or gone. -/
theorem census_eq (a : Account D) (s : Nat) :
    a.census s = a.table.waitingSerials.count s + (a.passes.flatten.map Task.serial).count s
      + a.running.count s + a.gone.count s := by
  simp only [census, places, waiting, List.count_append]

/-- A story that gains farewells. -/
theorem gone_farewells (i : Nat) (why : Farewell) (serials : List Nat)
    (story : List (Happening D)) :
    ((serials.map fun s => Happening.left (.script i) s why).reverse ++ story).filterMap
        Happening.gone?
      = serials.reverse ++ story.filterMap Happening.gone? := by
  have hleft : serials.filterMap (fun s => (Happening.left (.script i) s why).gone? (D := D))
      = serials := by
    simp [Happening.gone?]
  rw [List.filterMap_append, List.filterMap_reverse, List.filterMap_map]
  exact congrArg (fun l => l.reverse ++ _) hleft

/-- Nobody is handed over by leaving. -/
theorem handed_farewells (i : Nat) (why : Farewell) (serials : List Nat)
    (story : List (Happening D)) :
    ((serials.map fun s => Happening.left (.script i) s why).reverse ++ story).filterMap
        Happening.handed?
      = story.filterMap Happening.handed? :=
  filterMap_farewells (fun _ _ => rfl) why serials story

/-- Dropping everyone who waits in the table moves them among the gone. -/
theorem census_cleared (a : Account D) (i s : Nat) :
    ({ a with toStanding := a.toStanding.cleared i } : Account D).census s = a.census s := by
  simp only [census_eq, gone, Standing.cleared, gone_farewells, Subscriptions.waitingSerials_clear,
    List.count_append, List.count_reverse, List.count_nil]
  omega

/-- Nobody is handed over by a table being cleared. -/
theorem handed_cleared (a : Account D) (i : Nat) :
    ({ a with toStanding := a.toStanding.cleared i } : Account D).handed = a.handed :=
  handed_farewells i .dropped a.table.waitingSerials a.story

/-- **A deed moves coroutines about.**  It neither makes nor loses one, but for
the newcomer that is handed over. -/
theorem Step.census {i : Nat} {a b : Account D} {δ : Deed D} (h : Step i a δ b) (s : Nat) :
    b.census s + a.handed.count s = a.census s + b.handed.count s := by
  cases h with
  | nothing | settle => rfl
  | birth h htable => simp [Account.census_eq, htable, gone, handed]
  | ending | reset =>
    exact (congrArg (· + a.handed.count s) (census_cleared a i s)).trans
      (congrArg (fun l => a.census s + List.count s l) (handed_cleared a i).symm)
  | @hand kind routine h =>
    have hpark := (a.table.accept.waitingSerials_park kind ⟨a.table.handed, routine⟩).count_eq s
    simp [census_eq, gone, handed, hpark, Happening.gone?, Happening.handed?, List.filterMap_cons,
      List.count_cons]
    omega
  | start h hdoor =>
    simp [census_eq, gone, handed, Happening.gone?, Happening.handed?, List.filterMap_cons,
      List.count_cons]
    omega
  | @drain kind h =>
    have hdrain := (a.table.waitingSerials_drain kind).count_eq s
    simp only [census_eq, gone, handed, hdrain, List.flatten_cons, List.map_append,
      List.count_append]
    omega
  | wake h hpass =>
    simp [census_eq, gone, handed, Happening.gone?, Happening.handed?, List.filterMap_cons,
      List.count_cons, hpass]
    omega
  | cut h hpass =>
    simp only [census_eq, gone, handed, gone_farewells, handed_farewells, hpass, List.flatten_cons,
      List.map_append, List.count_append, List.count_reverse]
    omega
  | exhaust hpass => simp [census_eq, gone, handed, hpass]
  | finished hrun | misdirected hrun _ | failed hrun =>
    simp [census_eq, gone, handed, Happening.gone?, Happening.handed?, List.filterMap_cons,
      List.count_cons, hrun]
    omega
  | @parked t running request rest kind hrun hkind =>
    have hpark := (a.table.waitingSerials_park kind ⟨t, rest⟩).count_eq s
    simp only [census_eq, gone, handed, hrun, hpark, List.count_cons]
    omega
  | call h hcallback =>
    simp [census_eq, gone, handed, Happening.gone?, Happening.handed?, List.filterMap_cons]
  | setCallback | clearCallbacks => simp [census_eq, gone, handed]

/-- Serial numbers are given out one after another. -/
theorem Step.numbers {i : Nat} {a b : Account D} {δ : Deed D} (h : Step i a δ b)
    (ha : a.handed = (List.range a.table.handed).reverse) :
    b.handed = (List.range b.table.handed).reverse := by
  have newcomer : a.table.handed :: a.handed = (List.range (a.table.handed + 1)).reverse := by
    rw [ha, List.range_succ, List.reverse_append, List.reverse_singleton]
    rfl
  cases h with
  | birth h htable =>
    rw [htable] at ha
    exact ha
  | nothing | settle | drain | wake | exhaust | finished | parked | misdirected | failed | call
  | setCallback | clearCallbacks => exact ha
  | hand | start => exact newcomer
  | ending | reset => exact (handed_cleared a i).trans ha
  | cut => exact (handed_farewells i .cutShort _ a.story).trans ha

/-- Whatever an instance does, its account stays balanced. -/
theorem Balanced.step {i : Nat} {a b : Account D} {δ : Deed D} (ha : a.Balanced)
    (h : Step i a δ b) : b.Balanced := by
  refine ⟨h.numbers ha.numbers, List.perm_iff_count.mpr fun s => ?_⟩
  have hcensus : b.census s + a.handed.count s = a.census s + b.handed.count s := h.census s
  have hperm : a.census s = a.handed.count s := ha.perm.count_eq s
  change b.census s = b.handed.count s
  omega

/-- Nobody is in two places, or in one although gone. -/
theorem Balanced.nodup {a : Account D} (h : a.Balanced) : (a.places ++ a.gone).Nodup := by
  rw [h.perm.nodup_iff, h.numbers, List.nodup_reverse]
  exact List.nodup_range

/-- The next serial number is nobody's. -/
theorem Balanced.newcomer {a : Account D} (h : a.Balanced) : a.table.handed ∉ a.handed := by
  rw [h.numbers, List.mem_reverse, List.mem_range]
  exact Nat.lt_irrefl _

/-- Whoever was handed over has a place, unless he is gone. -/
theorem Balanced.mem_places_iff {a : Account D} (h : a.Balanced) {s : Nat} (hs : s ∈ a.handed) :
    s ∈ a.places ↔ s ∉ a.gone := by
  have hdisjoint := (List.nodup_append.mp h.nodup).2.2
  have hmem : s ∈ a.places ++ a.gone := h.perm.mem_iff.mpr hs
  refine ⟨fun hp hg => hdisjoint s hp s hg rfl, fun hg => ?_⟩
  exact (List.mem_append.mp hmem).resolve_right hg

/-! ## How a coroutine leaves -/

/-- The deeds by which somebody who is somewhere leaves for good, and why. -/
inductive Leaves (a : Account D) (s : Nat) : Deed D → Farewell → Prop
  | finished : Leaves a s (.yield s (.ok .finished)) .finished
  | failed (e : ScriptError) : Leaves a s (.yield s (.error e)) (.failed e)
  | misdirected {request : AwaitRequest} {e : ScriptError} (rest : D.Coroutine)
      (he : request.resolve = .error e) :
      Leaves a s (.yield s (.ok (.await request rest))) (.misdirected e)
  | reset (h : s ∈ a.table.waitingSerials) : Leaves a s .reset .dropped
  | ending (h : s ∈ a.table.waitingSerials) : Leaves a s .ending .dropped
  | cut {queue : List (Task D)} {passes : List (List (Task D))} (h : ¬ a.isAlive)
      (hpass : a.passes = queue :: passes) (hs : s ∈ queue.map Task.serial) :
      Leaves a s .cut .cutShort

/-- Whoever has a place waits in the table, stands in a pass or runs. -/
theorem mem_places {a : Account D} {s : Nat} :
    s ∈ a.places ↔
      s ∈ a.table.waitingSerials ∨ s ∈ a.passes.flatten.map Task.serial ∨ s ∈ a.running := by
  rw [places, waiting, List.mem_append, List.mem_append, or_assoc]

/-- Each of those who leave is written down. -/
theorem left_mem_farewells (i : Nat) (why : Farewell) {serials : List Nat} {s : Nat}
    (hs : s ∈ serials) (story : List (Happening D)) :
    Happening.left (.script i) s why
      ∈ (serials.map fun s => Happening.left (.script i) s why).reverse ++ story :=
  List.mem_append_left story (List.mem_reverse.mpr (List.mem_map_of_mem hs))

/-- **Nobody vanishes.**  Whoever is somewhere before a deed and nowhere after
it has left for a reason, and the story says so. -/
theorem Step.leaves {i : Nat} {a b : Account D} {δ : Deed D} (h : Step i a δ b) {s : Nat}
    (hs : s ∈ a.places) (hs' : s ∉ b.places) :
    ∃ why, Leaves a s δ why ∧ .left (.script i) s why ∈ b.story := by
  rw [mem_places] at hs hs'
  cases h with
  | nothing | settle | call => exact absurd hs hs'
  | birth h htable => exact absurd (htable ▸ hs) hs'
  | ending h =>
    have hwaits : s ∈ a.table.waitingSerials := hs.resolve_right fun h => hs' (Or.inr h)
    exact ⟨_, .ending hwaits, left_mem_farewells i .dropped hwaits a.story⟩
  | reset =>
    have hwaits : s ∈ a.table.waitingSerials := hs.resolve_right fun h => hs' (Or.inr h)
    exact ⟨_, .reset hwaits, left_mem_farewells i .dropped hwaits a.story⟩
  | @hand kind routine h =>
    have hpark := (a.table.accept.waitingSerials_park kind ⟨a.table.handed, routine⟩).mem_iff
      (a := s)
    refine absurd (hs.imp_left fun h => ?_) hs'
    exact hpark.mpr (List.mem_cons_of_mem _ h)
  | start h hdoor =>
    exact absurd (hs.imp_right (Or.imp_right (List.mem_cons_of_mem _))) hs'
  | @drain kind h =>
    have hdrain := (a.table.waitingSerials_drain kind).mem_iff (a := s)
    rw [List.flatten_cons, List.map_append, List.mem_append] at hs'
    rw [hdrain, List.mem_append] at hs
    tauto
  | wake h hpass =>
    rw [hpass, List.flatten_cons, List.cons_append, List.map_cons, List.mem_cons] at hs
    rw [List.flatten_cons, List.mem_cons] at hs'
    tauto
  | @cut queue passes h hpass =>
    have hqueue : s ∈ queue.map Task.serial := by
      rw [hpass, List.flatten_cons, List.map_append, List.mem_append] at hs
      tauto
    exact ⟨_, .cut h hpass hqueue, left_mem_farewells i .cutShort hqueue a.story⟩
  | exhaust hpass =>
    rw [hpass, List.flatten_cons, List.nil_append] at hs
    exact absurd hs hs'
  | @finished t running hrun =>
    obtain rfl : s = t := by
      rw [hrun, List.mem_cons] at hs
      tauto
    exact ⟨_, .finished, List.mem_cons_self⟩
  | @misdirected t running request rest e hrun he =>
    obtain rfl : s = t := by
      rw [hrun, List.mem_cons] at hs
      tauto
    exact ⟨_, .misdirected rest he, List.mem_cons_self⟩
  | @failed t running e hrun =>
    obtain rfl : s = t := by
      rw [hrun, List.mem_cons] at hs
      tauto
    exact ⟨_, .failed e, List.mem_cons_self⟩
  | @parked t running request rest kind hrun hkind =>
    have hpark := (a.table.waitingSerials_park kind ⟨t, rest⟩).mem_iff (a := s)
    rw [hpark, List.mem_cons] at hs'
    rw [hrun, List.mem_cons] at hs
    tauto
  | setCallback | clearCallbacks => simp_all

/-! ## Gone for good -/

/-- A deed brings nobody back, and resumes nobody who is gone. -/
theorem Balanced.gone_step {i : Nat} {a b : Account D} {δ : Deed D} (ha : a.Balanced)
    (h : Step i a δ b) {s : Nat} (hs : s ∈ a.gone) :
    s ∈ b.gone ∧ Gains (fun x => ∀ args, x ≠ .resumed (.script i) s args) a b := by
  obtain ⟨news, hstory, hnews⟩ := h.writes
  refine ⟨?_, news, hstory, fun x hx args hresumed => ?_⟩
  · rw [gone, hstory, List.filterMap_append]
    exact List.mem_append_right _ hs
  · have hhanded : s ∈ a.handed := ha.perm.mem_iff.mp (List.mem_append_right _ hs)
    subst hresumed
    cases hnews _ hx with
    | woken halive hpass =>
      refine (ha.mem_places_iff hhanded).mp ?_ hs
      rw [mem_places, hpass, List.flatten_cons, List.cons_append, List.map_cons]
      exact Or.inr (Or.inl List.mem_cons_self)
    | started door routine => exact ha.newcomer hhanded

end Account

/-- The well-formed request for a kind means that kind. -/
theorem AwaitRequest.resolve_ofKind (kind : EventKind) :
    (AwaitRequest.ofKind kind).resolve = .ok kind := by
  simp [AwaitRequest.resolve, AwaitRequest.ofKind, AwaitRequest.ofName, resolveKind,
    EventKind.ofName?_name]

/-- A request that means no kind has the wrong tag, or names no event. -/
theorem AwaitRequest.resolve_eq_error {request : AwaitRequest} {e : ScriptError}
    (h : request.resolve = .error e) :
    request.tag ≠ AwaitRequest.wellFormedTag ∨ EventKind.ofName? request.event = none := by
  unfold AwaitRequest.resolve resolveKind at h
  split at h
  · split at h
    · cases h
    · next hnone => exact Or.inr hnone
  · next htag => exact Or.inl htag

namespace Config

/-- The ways in which the next move can take a coroutine of an instance out of the
system. -/
inductive Departs (c : Config D) (i s : Nat) : Farewell → Prop
  /-- It returns. -/
  | finished {rest : List (Frame D)}
      (h : c.stack = .coroutine (.script i) s (.ret (.ok .finished)) :: rest) :
      Departs c i s .finished
  | failed {e : ScriptError} {rest : List (Frame D)}
      (h : c.stack = .coroutine (.script i) s (.ret (.error e)) :: rest) :
      Departs c i s (.failed e)
  /-- It suspends with a wrong tag, or on an event of an unknown name. -/
  | misdirected {request : AwaitRequest} {routine : D.Coroutine} {e : ScriptError}
      {rest : List (Frame D)}
      (h : c.stack = .coroutine (.script i) s (.ret (.ok (.await request routine))) :: rest)
      (he : request.resolve = .error e)
      (hwrong : request.tag ≠ AwaitRequest.wellFormedTag ∨
        EventKind.ofName? request.event = none) :
      Departs c i s (.misdirected e)
  /-- It waits in the table when script code resets the instance. -/
  | reset {f : Frame D} {rest : List (Frame D)} (h : c.stack = f :: rest)
      (hact : f.nextAct? = some (.reset i)) (hs : s ∈ (c.account i).table.waitingSerials) :
      Departs c i s .dropped
  /-- It waits in the table when the instance ends. -/
  | ending {rest : List (Frame D)} (h : c.stack = .ending i :: rest)
      (hs : s ∈ (c.account i).table.waitingSerials) : Departs c i s .dropped
  /-- It waits in the queue of a pass that finds its instance ended. -/
  | cut {kind : EventKind} {args : Args} {pulse : Pulse D} {queue : List (Task D)} {n : Nat}
      {rest : List (Frame D)}
      (h : c.stack = .pass (.script i) kind args pulse queue n :: rest)
      (hdead : c.world.isAlive i = false) (hs : s ∈ queue.map Task.serial) :
      Departs c i s .cutShort

variable {I : Interpreter D}

/-- A deed by which somebody leaves is done by a frame from which one departs. -/
theorem departs_of_brings {c : Config D} {f : Frame D} {rest : List (Frame D)} {i s : Nat}
    {δ : Deed D} {why : Farewell} (hstack : c.stack = f :: rest) (hbrings : f.Brings i δ)
    (h : (c.account i).Leaves s δ why) : c.Departs i s why := by
  cases h with
  | finished =>
    cases hbrings with
    | act _ ha => cases ha
    | yield => exact .finished hstack
  | failed e =>
    cases hbrings with
    | act _ ha => cases ha
    | yield => exact .failed hstack
  | misdirected routine he =>
    cases hbrings with
    | act _ ha => cases ha
    | yield => exact .misdirected hstack he (AwaitRequest.resolve_eq_error he)
  | reset hs =>
    cases hbrings with
    | act hf ha =>
      cases ha
      exact .reset hstack hf hs
  | ending hs =>
    cases hbrings with
    | act _ ha => cases ha
    | ending => exact .ending hstack hs
  | @cut queue passes hdead hpass hs =>
    cases hbrings with
    | act _ ha => cases ha
    | @cut kind args pulse queue' n =>
      have hqueue : queue' = queue := by
        simp only [account, hstack, List.filterMap_cons, Frame.queue?, if_true] at hpass
        exact (List.cons.inj hpass).1
      rw [isAlive_account] at hdead
      exact .cut hstack (by simpa using hdead) (hqueue ▸ hs)

/-- **Coroutines are in balance in every run.** -/
theorem Reachable.balanced {c : Config D} (hc : c.Reachable I) (i : Nat) :
    (c.account i).Balanced := by
  refine Reachable.induction (P := fun c => (c.account i).Balanced) (fun memory => ⟨rfl, ?_⟩)
    (fun c c' hc hbalanced hmove => ?_) hc
  · simp [Account.places, Account.waiting, Account.gone, Account.handed, account, World.standing,
      World.new, World.subscriptions, World.instance?]
  · obtain ⟨δ, -, hstep⟩ := hc.deed hmove i
    exact hbalanced.step hstep

/-- Whoever is somewhere before a move and nowhere after it has departed. -/
theorem Move.departs {c c' : Config D} (hc : c.Reachable I) (h : c.Move I c') {i s : Nat}
    (hs : s ∈ (c.account i).places) (hs' : s ∉ (c'.account i).places) :
    ∃ why, c.Departs i s why ∧ .left (.script i) s why ∈ (c'.account i).story := by
  obtain ⟨δ, hδ, hstep⟩ := hc.deed h i
  obtain ⟨why, hleaves, hleft⟩ := hstep.leaves hs hs'
  rcases hδ with rfl | rfl | ⟨f, rest, hstack, hbrings⟩
  · cases hleaves
  · cases hleaves
  · exact ⟨why, departs_of_brings hstack hbrings hleaves, hleft⟩

/-- Whoever is gone stays gone, and is not resumed. -/
theorem Runs.gone {c c' : Config D} (hc : c.Reachable I) (h : c.Runs I c') {i s : Nat}
    (hs : s ∈ (c.account i).gone) :
    s ∈ (c'.account i).gone ∧ c.Gains i (fun x => ∀ args, x ≠ .resumed (.script i) s args) c' := by
  have hkeep : ∀ c₁ c₂ : Config D, (c₁.Reachable I ∧ s ∈ (c₁.account i).gone) → c₁.Move I c₂ →
      (c₂.Reachable I ∧ s ∈ (c₂.account i).gone) ∧
        c₁.Gains i (fun x => ∀ args, x ≠ .resumed (.script i) s args) c₂ := by
    rintro c₁ c₂ ⟨hc₁, hgone⟩ hmove
    obtain ⟨δ, -, hstep⟩ := hc₁.deed hmove i
    obtain ⟨hgone', hgains⟩ := (hc₁.balanced i).gone_step hstep hgone
    exact ⟨⟨hc₁.move hmove, hgone'⟩, hgains⟩
  obtain ⟨⟨-, hgone⟩, hgains⟩ := h.gains hkeep ⟨hc, hs⟩
  exact ⟨hgone, hgains⟩

/-- **Coroutines are neither duplicated nor lost.**  In every configuration that a
run comes to, whoever was ever handed to an instance is in one place — in a queue
of its table, in the queue of a pass, or in a frame that runs it — or is gone, and
nobody twice.  A move takes somebody out of the system only in one of the ways of
`Departs`, and the journal says so.  Whoever is gone is never anywhere again, and
is never resumed again. -/
theorem Reachable.custody {c : Config D} (hc : c.Reachable I) (i : Nat) :
    (c.account i).handed.Nodup ∧
      ((c.account i).places ++ (c.account i).gone).Perm (c.account i).handed ∧
      (∀ c', c.Move I c' → ∀ s ∈ (c.account i).places, s ∉ (c'.account i).places →
        ∃ why, c.Departs i s why ∧ .left (.script i) s why ∈ (c'.account i).story) ∧
      (∀ c', c.Runs I c' → ∀ s ∈ (c.account i).gone,
        s ∉ (c'.account i).places ∧
          c.Gains i (fun x => ∀ args, x ≠ .resumed (.script i) s args) c') := by
  have hbalanced : (c.account i).Balanced := hc.balanced i
  refine ⟨?_, hbalanced.perm, fun c' hmove s => hmove.departs hc, fun c' hruns s hs => ?_⟩
  · rw [← hbalanced.perm.nodup_iff]
    exact hbalanced.nodup
  · obtain ⟨hgone, hgains⟩ := hruns.gone hc hs
    refine ⟨fun hplaces => ?_, hgains⟩
    exact (List.nodup_append.mp ((hc.runs hruns).balanced i).nodup).2.2 s hplaces s hgone rfl

/-- The coroutine of `Specimen` waits until its script ends itself; with the end it
leaves, for good. -/
theorem Reachable.custody_self_ended :
    ((Specimen.endingRun 9).account 0).places = [0] ∧
      (∃ why, (Specimen.endingRun 9).Departs 0 0 why ∧
        .left (.script 0) 0 why ∈ ((Specimen.endingRun 10).account 0).story) ∧
      ∀ c, (Specimen.endingRun 10).Runs Specimen.interpreter c → 0 ∉ (c.account 0).places := by
  have hplaces : ((Specimen.endingRun 9).account 0).places = [0] := by decide +kernel
  have hnot : 0 ∉ ((Specimen.endingRun 10).account 0).places := by decide +kernel
  have hgone : 0 ∈ ((Specimen.endingRun 10).account 0).gone := by decide +kernel
  obtain ⟨-, -, hdeparts, -⟩ := Reachable.custody (Specimen.reachable_endingRun 9) 0
  obtain ⟨-, -, -, hforever⟩ := Reachable.custody (Specimen.reachable_endingRun 10) 0
  refine ⟨hplaces, ?_, fun c hruns => (hforever c hruns 0 hgone).1⟩
  exact hdeparts _ (Specimen.isRun_endingRun 9 (by decide)) 0 (by simp [hplaces]) hnot

end Config

end ScriptHost
