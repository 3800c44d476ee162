import ScriptHost.Proofs.Ensuring

/-!
# A registry and its instances

Between two orders the entries of a registry name exactly those of its instances that
have not ended, and each of them runs; nobody else can end one (`Host.Tidy`).  So a
registry that runs one script at a time has at most one instance that has not ended
(`Host.Single`), and that goes for the moments within its orders too: when a new
instance is ordered, no other entry names one, and the entry itself has none.  What else
holds within its orders is that no path is registered twice, that the instances got
their ids one after another, and that nobody's end is under way whom an entry names
(`Host.Lawful`).

* `Host.Tidy.aside` — what the host does beside its registry leaves it tidy;
* `Host.Tidy.terminate`, `Host.Tidy.spawn` — an end and a birth, up to the entry that
  is to name the instance no more, or from then on.
-/

namespace ScriptHost

variable {D : Dialect}

/-! ## The instances the entries name -/

namespace Registry

/-- The instances the entries name. -/
def lives (r : Registry D) : List Nat :=
  r.entries.filterMap Entry.live

/-- The entry at a position names an instance, or none. -/
def setLive (r : Registry D) (i : Nat) (live : Option Nat) : Registry D :=
  r.modifyEntry i fun e => { e with live }

/-- Where an entry is changed, the others stand before it and after it. -/
theorem entries_modifyEntry {r : Registry D} {i : Nat} {e : Entry} (f : Entry → Entry)
    (he : r.entries[i]? = some e) :
    ∃ before rest, r.entries = before ++ e :: rest ∧
      (r.modifyEntry i f).entries = before ++ f e :: rest := by
  obtain ⟨hi, rfl⟩ := List.getElem?_eq_some_iff.mp he
  obtain ⟨before, a, rest, hsplit, hlength, hmodify⟩ := List.exists_of_modify f hi
  have ha : r.entries[i] = a := by simp [hsplit, ← hlength]
  exact ⟨before, rest, ha ▸ hsplit, ha ▸ hmodify⟩

/-- Nothing changes at a position where no entry is. -/
theorem modifyEntry_of_none {r : Registry D} {i : Nat} (f : Entry → Entry)
    (he : r.entries[i]? = none) : r.modifyEntry i f = r := by
  have hsame : r.entries.modify i f = r.entries :=
    List.modify_eq_self (List.getElem?_eq_none_iff.mp he)
  simp [modifyEntry, hsame]

theorem lives_modifyEntry_same (r : Registry D) (i : Nat) {f : Entry → Entry}
    (hf : ∀ e, (f e).live = e.live) : (r.modifyEntry i f).lives = r.lives := by
  cases he : r.entries[i]? with
  | none => rw [modifyEntry_of_none f he]
  | some e =>
    obtain ⟨before, rest, hentries, hmodify⟩ := entries_modifyEntry f he
    simp [lives, hentries, hmodify, List.filterMap_cons, hf]

/-- An entry that named nobody names one more. -/
theorem lives_setLive_some {r : Registry D} {i : Nat} {e : Entry} (he : r.entries[i]? = some e)
    (hlive : e.live = none) (k : Nat) : ((r.setLive i (some k)).lives).Perm (k :: r.lives) := by
  obtain ⟨before, rest, hentries, hmodify⟩ :=
    entries_modifyEntry (fun e => { e with live := some k }) he
  simp only [setLive, lives, hentries, hmodify, List.filterMap_append, List.filterMap_cons, hlive]
  exact List.perm_middle

/-- An entry that named somebody names nobody. -/
theorem lives_setLive_none {r : Registry D} {i k : Nat} (hlive : r.live? i = some k) :
    (k :: (r.setLive i none).lives).Perm r.lives := by
  obtain ⟨e, he, hk⟩ := Option.bind_eq_some_iff.mp hlive
  obtain ⟨before, rest, hentries, hmodify⟩ :=
    entries_modifyEntry (fun e => { e with live := none }) he
  simp only [setLive, lives, hentries, hmodify, List.filterMap_append, List.filterMap_cons, hk]
  exact List.perm_middle.symm

/-- Nothing changes where an entry that names nobody is to name nobody. -/
theorem setLive_of_none {r : Registry D} {i : Nat} (hlive : r.live? i = none) :
    r.setLive i none = r := by
  cases he : r.entries[i]? with
  | none => exact modifyEntry_of_none _ he
  | some e =>
    obtain ⟨before, rest, hentries, hmodify⟩ :=
      entries_modifyEntry (fun e => { e with live := none }) he
    have hnone : e.live = none := by simpa [live?, he] using hlive
    have hsame : ({ e with live := none } : Entry) = e := by rw [← hnone]
    have hkept : (r.setLive i none).entries = r.entries := by
      rw [hentries, ← hsame]
      exact hmodify
    calc r.setLive i none = { r with entries := (r.setLive i none).entries } := rfl
      _ = r := by rw [hkept]

/-- The paths of the entries. -/
def paths (r : Registry D) : List Path :=
  r.entries.map Entry.path

/-- No path is registered twice. -/
def Distinct (r : Registry D) : Prop :=
  r.paths.Pairwise fun p q => ¬ p.Same q

theorem paths_modifyEntry (r : Registry D) (i : Nat) {f : Entry → Entry}
    (hf : ∀ e, (f e).path = e.path) : (r.modifyEntry i f).paths = r.paths :=
  View.map_modify_same r.entries i hf

theorem Distinct.modifyEntry {r : Registry D} (h : r.Distinct) (i : Nat) {f : Entry → Entry}
    (hf : ∀ e, (f e).path = e.path) : (r.modifyEntry i f).Distinct := by
  rw [Distinct, r.paths_modifyEntry i hf]
  exact h

theorem Distinct.setLive {r : Registry D} (h : r.Distinct) (i : Nat) (live : Option Nat) :
    (r.setLive i live).Distinct :=
  h.modifyEntry i fun _ => rfl

/-- A path is unknown that is the same as none of the registered ones. -/
theorem not_same_of_contains {r : Registry D} {path : Path} (h : r.contains path = false) {p : Path}
    (hp : p ∈ r.paths) : ¬ path.Same p := by
  obtain ⟨e, he, rfl⟩ := List.mem_map.mp hp
  have hnone : r.position? path = none := by simpa [contains] using h
  simpa using List.findIdx?_eq_none_iff.mp hnone e he

/-- A path that is unknown can be registered. -/
theorem Distinct.append {r : Registry D} (h : r.Distinct) {path : Path}
    (hunknown : r.contains path = false) (enabled : Bool) (live : Option Nat) :
    ({ r with entries := r.entries ++ [⟨path, enabled, live⟩] } : Registry D).Distinct := by
  simp only [Distinct, paths, List.map_append, List.map_singleton]
  refine List.pairwise_append.mpr ⟨h, List.pairwise_singleton _ _, fun p hp q hq hsame => ?_⟩
  obtain rfl := List.mem_singleton.mp hq
  exact not_same_of_contains hunknown hp hsame.symm

theorem Distinct.eraseIdx {r : Registry D} (h : r.Distinct) (i : Nat) :
    ({ r with entries := r.entries.eraseIdx i } : Registry D).Distinct :=
  List.Pairwise.sublist ((List.eraseIdx_sublist r.entries i).map Entry.path) h

/-- The registry after an id was given to an instance. -/
def countOn (r : Registry D) : Registry D :=
  { r with nextId := r.nextId + 1 }

/-- A registry that runs one script at a time and lets an entry without an instance
start has none. -/
theorem lives_eq_nil {r : Registry D} {i : Nat} (hlive : r.live? i = none)
    (hconcurrent : r.concurrent = false) (hblocker : r.blocker? i = none) : r.lives = [] := by
  have hfree : ∀ (j : Nat) (e : Entry), r.entries[j]? = some e → e.live = none := by
    intro j e he
    by_cases hj : j = i
    · simpa [live?, ← hj, he] using hlive
    · by_contra hsome
      have hpos : j ∈ r.livePositions := by
        refine List.mem_filter.mpr ⟨List.mem_range.mpr (List.getElem?_eq_some_iff.mp he).1, ?_⟩
        simpa [he, Option.isSome_iff_ne_none] using hsome
      obtain ⟨p, hp⟩ : ∃ p, r.livePositions.find? (· ≠ i) = some p :=
        Option.isSome_iff_exists.mp (List.find?_isSome.mpr ⟨j, hpos, by simpa using hj⟩)
      have hlt := List.mem_range.mp (List.mem_filter.mp (List.mem_of_find?_eq_some hp)).1
      have hblocks : r.blocker? i = some r.entries[p].path := by
        rw [blocker?, if_neg (by simp [hconcurrent]), hp]
        simp [hlt]
      rw [hblocks] at hblocker
      cases hblocker
  refine List.filterMap_eq_nil_iff.mpr fun e he => ?_
  obtain ⟨j, hj⟩ := List.getElem?_of_mem he
  exact hfree j e hj

end Registry

/-! ## New instances -/

namespace View

/-- A new instance is one more that has not ended, the youngest. -/
theorem alive_enroll (r : View D) (id : ScriptId) (path : Path) (detached : Bool) :
    (r.after (.enroll id path detached)).alive = r.alive ++ [r.infos.length] := by
  have hlength : (r.after (.enroll id path detached)).infos.length = r.infos.length + 1 := by
    simp [View.after]
  have hold : (List.range r.infos.length).filter (r.after (.enroll id path detached)).isAlive
      = r.alive := by
    refine List.filter_congr fun i hi => ?_
    have hne : i ≠ r.infos.length := Nat.ne_of_lt (List.mem_range.mp hi)
    simp [isAlive_enroll, hne]
  rw [alive, hlength, List.range_succ, List.filter_append, hold]
  simp [isAlive_enroll]

theorem isRegistered_enroll (r : View D) (id : ScriptId) (path : Path) (detached : Bool)
    (i : Nat) :
    (r.after (.enroll id path detached)).isRegistered i
      = if i = r.infos.length then !detached else r.isRegistered i := by
  simp only [isRegistered, tags_enroll]
  rcases Nat.lt_trichotomy i r.tags.length with hlt | heq | hgt
  · rw [List.getElem?_append_left hlt, if_neg (Nat.ne_of_lt (length_tags r ▸ hlt))]
  · rw [heq, List.getElem?_concat_length, if_pos (length_tags r)]
    rfl
  · rw [if_neg (Nat.ne_of_gt (length_tags r ▸ hgt)), List.getElem?_eq_none (Nat.le_of_lt hgt),
      List.getElem?_eq_none]
    rw [List.length_append]
    exact hgt

/-- A new instance belongs to a registry, or it does not. -/
theorem own_enroll (r : View D) (id : ScriptId) (path : Path) (detached : Bool) :
    (r.after (.enroll id path detached)).own
      = if detached then r.own else r.own ++ [r.infos.length] := by
  have hold : r.alive.filter (r.after (.enroll id path detached)).isRegistered = r.own := by
    refine List.filter_congr fun i hi => ?_
    rw [isRegistered_enroll, if_neg (Nat.ne_of_lt (lt_of_isAlive (mem_alive.mp hi)))]
  rw [own, alive_enroll, List.filter_append, hold]
  cases detached <;> simp [isRegistered_enroll]

theorem registeredIds_enroll (r : View D) (id : ScriptId) (path : Path) (detached : Bool) :
    (r.after (.enroll id path detached)).registeredIds
      = if detached then r.registeredIds else r.registeredIds ++ [id] := by
  cases detached <;> simp [registeredIds, tags_enroll]

end View

/-! ## Tidiness -/

/-- Whether an order concerns no instance. -/
def Order.isQuiet : Order D → Bool
  | .code _ | .dropRequests | .setShutdown _ => true
  | .spawn .. | .terminate _ => false

/-- The ids a registry gives to its first instances. -/
def Registry.firstIds (m : Nat) : List ScriptId :=
  (List.range m).map fun j => ⟨UInt32.ofNat (j + 1)⟩

/-- The ids a registry gives ascend until they start over. -/
theorem Registry.firstIds_ascend {m : Nat} (hm : m < UInt32.size) :
    (firstIds m).Pairwise fun a b => a.val < b.val := by
  refine List.pairwise_map.mpr (List.pairwise_lt_range.imp_of_mem fun hi hj hij => ?_)
  have hj := List.mem_range.mp hj
  simp only [UInt32.size] at hm
  simp only [UInt32.lt_iff_toNat_lt, UInt32.toNat_ofNat']
  omega

namespace Host

variable (I : Interpreter D) (concurrent : Bool)

/-- What holds at every moment: a registry that does not allow concurrent scripts has
at most one instance that has not ended. -/
def Single (h : Host D) : Prop :=
  concurrent = false → h.world.view.own.length ≤ 1

/-- What holds of a registry at every moment, with activities under way. -/
structure Lawful (h : Host D) (underWay : List (Frame D)) : Prop where
  single : h.Single concurrent
  /-- The instances got their ids in the order of their birth. -/
  numbered : ∃ m, h.world.view.registeredIds = Registry.firstIds m
  distinct : h.registry.Distinct
  /-- Whom an entry names has not ended, and nobody is about to end it. -/
  lasting : ∀ i ∈ h.registry.lives, i ∈ h.world.view.own ∧ i ∉ underWay.filterMap Frame.ends?

/-- What holds between two orders. -/
structure Tidy (h : Host D) : Prop where
  reachable : (⟨h.world, []⟩ : Config D).Reachable I
  mode : h.registry.concurrent = concurrent
  /-- The entries name the instances that have not ended. -/
  lives : h.registry.lives.Perm h.world.view.own
  running : ∀ i ∈ h.world.view.own, h.world.view.isRunning i = true
  held : ∀ i ∈ h.world.held.map Prod.snd, h.world.view.isRegistered i = false
  single : h.Single concurrent
  numbered : ∃ m, h.world.view.registeredIds = Registry.firstIds m ∧
    h.registry.nextId = UInt32.ofNat (m + 1)
  distinct : h.registry.Distinct

variable {I concurrent}

/-- A change of the registry that names the same instances leaves it tidy. -/
theorem Tidy.withRegistry {h : Host D} (ht : h.Tidy I concurrent) {r : Registry D}
    (hmode : r.concurrent = h.registry.concurrent) (hnext : r.nextId = h.registry.nextId)
    (hlives : r.lives.Perm h.registry.lives) (hdistinct : r.Distinct) :
    ({ h with registry := r } : Host D).Tidy I concurrent := by
  obtain ⟨m, hids, hid⟩ := ht.numbered
  exact ⟨ht.reachable, hmode.trans ht.mode, hlives.trans ht.lives, ht.running, ht.held, ht.single,
    ⟨m, hids, hnext.trans hid⟩, hdistinct⟩

/-- Between two orders, what holds at every moment holds of a registry that names some of
the instances that have not ended. -/
theorem Tidy.lawful_of_subset {h : Host D} (ht : h.Tidy I concurrent) {r : Registry D}
    (hlives : r.lives ⊆ h.registry.lives) (hdistinct : r.Distinct) :
    ({ h with registry := r } : Host D).Lawful concurrent [] := by
  obtain ⟨m, hids, -⟩ := ht.numbered
  exact ⟨ht.single, ⟨m, hids⟩, hdistinct,
    fun i hi => ⟨ht.lives.mem_iff.mp (hlives hi), List.not_mem_nil⟩⟩

theorem Tidy.lawful {h : Host D} (ht : h.Tidy I concurrent) : h.Lawful concurrent [] :=
  ht.lawful_of_subset (List.Subset.refl _) ht.distinct

/-- Whoever belongs to a registry and cannot be ended goes on like that, whatever the
machine does. -/
theorem lasting_of_steps {c c' : Config D} (hc : c.Reachable I) (h : c.Steps I c') {i : Nat}
    (hown : i ∈ c.world.view.own) (hends : i ∉ c.endable) :
    i ∈ c'.world.view.own ∧ i ∉ c'.stack.filterMap Frame.ends? := by
  obtain ⟨halive, hreg⟩ := View.mem_own.mp hown
  have hfollows := h.follows hc
  refine ⟨View.mem_own.mpr ⟨hfollows.spared i hends halive, ?_⟩, fun hmem => hends ?_⟩
  · rw [hfollows.isRegistered]
    exact hreg
  · exact h.endable_subset hc (List.mem_append_right _ hmem)

/-- What the host does beside its registry brings the registry no instance. -/
theorem own_of_aside {w w' : World D} {started : List (Frame D)} (ha : Aside w w' started) :
    w'.view.own = w.view.own ∧ w'.view.registeredIds = w.view.registeredIds ∧
      ∀ i, w.view.isRunning i = true → w'.view.isRunning i = true := by
  rcases ha.initiative.view with hsame | ⟨id, path, detached, hview, -⟩
  · rw [hsame]
    exact ⟨rfl, rfl, fun _ h => h⟩
  · have hdetached : detached = true := by
      by_contra hnot
      have hnew : w'.view.isRegistered w.view.infos.length = true := by
        rw [hview, View.isRegistered_enroll, if_pos rfl]
        simpa using hnot
      have hold := ha.foreign _ hnew
      rw [View.isRegistered, List.getElem?_eq_none (Nat.le_of_eq w.view.length_tags)] at hold
      cases hold
    rw [hview, View.own_enroll, View.registeredIds_enroll, if_pos hdetached, if_pos hdetached]
    exact ⟨rfl, rfl, fun i => View.isRunning_after (by simp)⟩

/-- **What the host does beside its registry leaves it tidy.** -/
theorem Tidy.aside {h : Host D} (ht : h.Tidy I concurrent) {w : World D} {started : List (Frame D)}
    (ha : Aside h.world w started) {c : Config D} (hc : Config.Steps I ⟨w, started⟩ c) :
    ({ h with world := c.world } : Host D).Lawful concurrent c.stack ∧
      (c.stack = [] → ({ h with world := c.world } : Host D).Tidy I concurrent) := by
  obtain ⟨hown, hids, hrunning⟩ := own_of_aside ha
  obtain ⟨m, hm, hid⟩ := ht.numbered
  have hbegun : (⟨w, started⟩ : Config D).Reachable I := ht.reachable.move (.host ha.initiative)
  have hfollows := hc.follows hbegun
  have hsame : c.world.view.own = h.world.view.own := (hfollows.own_same ha.harmless).trans hown
  have hsingle : ({ h with world := c.world } : Host D).Single concurrent := by
    intro hcon
    show c.world.view.own.length ≤ 1
    exact hsame ▸ ht.single hcon
  have hnumbers : c.world.view.registeredIds = Registry.firstIds m :=
    (hfollows.registeredIds.trans hids).trans hm
  refine ⟨⟨hsingle, ⟨m, hnumbers⟩, ht.distinct, fun i hi => ?_⟩, fun hrest =>
    ⟨hc.reachable_of_rest hbegun hrest, ht.mode, hsame ▸ ht.lives, fun i hi => ?_, fun i hi => ?_,
      hsingle, ⟨m, hnumbers, hid⟩, ht.distinct⟩⟩
  · have hbefore : i ∈ w.view.own := hown ▸ ht.lives.mem_iff.mp hi
    refine lasting_of_steps hbegun hc hbefore fun hmem => ?_
    have hreg := (View.mem_own.mp hbefore).2
    rw [ha.harmless i hmem] at hreg
    cases hreg
  · exact hfollows.isRunning_own ha.harmless hi (hrunning i (ht.running i (hsame ▸ hi)))
  · exact hc.isRegistered_of_held hbegun
      (fun j hj => ha.harmless j (Config.givable_subset_endable _ hj)) hi

/-- An order that concerns no instance is none of the registry's business. -/
theorem Tidy.aside_beginOrder {h : Host D} (ht : h.Tidy I concurrent) {o : Order D}
    (ho : o.isQuiet = true) : Aside h.world (h.world.beginOrder o).1 (h.world.beginOrder o).2 := by
  have hview : (h.world.beginOrder o).1.view = h.world.view := by
    cases o with
    | spawn | terminate => cases ho
    | code | dropRequests | setShutdown => rfl
  have hendable : (⟨(h.world.beginOrder o).1, (h.world.beginOrder o).2⟩ : Config D).endable
      = h.world.held.map Prod.snd := by
    cases o with
    | spawn | terminate => cases ho
    | code | dropRequests | setShutdown => exact List.append_nil _
  refine ⟨Scene.initiative_beginOrder _ o, fun i hi => hview ▸ hi, fun i hi => ?_⟩
  rw [hview]
  exact ht.held i (hendable ▸ hi)

/-- **The end of an instance**, once its entry names nobody: at every moment there are no
more instances than before, and in the end one less. -/
theorem Tidy.terminate {h : Host D} (ht : h.Tidy I concurrent) {i k : Nat}
    (hlive : h.registry.live? i = some k) {c : Config D}
    (hc : Config.Steps I ⟨(h.world.beginEnding k).1, (h.world.beginEnding k).2⟩ c) :
    (⟨c.world, h.registry.setLive i none⟩ : Host D).Lawful concurrent c.stack ∧
      (c.stack = [] → (⟨c.world, h.registry.setLive i none⟩ : Host D).Tidy I concurrent) := by
  have hlives := (Registry.lives_setLive_none hlive).trans ht.lives
  obtain ⟨halive, hreg⟩ := View.mem_own.mp (hlives.mem_iff.mp List.mem_cons_self)
  obtain ⟨n, event, listeners, hstarted⟩ := World.exists_beginEnding halive
  have hview : (h.world.beginEnding k).1.view = h.world.view := World.view_beginEnding _ k
  have hbegun : (⟨(h.world.beginEnding k).1, (h.world.beginEnding k).2⟩ : Config D).Reachable I :=
    ht.reachable.move (.host (.terminate k))
  have hfollows := hc.follows hbegun
  rw [hview] at hfollows
  have hends : ∀ j ∈ (⟨(h.world.beginEnding k).1, (h.world.beginEnding k).2⟩ : Config D).endable,
      h.world.view.isRegistered j = true → j = k := by
    intro j hj hjreg
    rw [Config.endable, World.held_beginEnding, hstarted] at hj
    rcases List.mem_append.mp hj with hheld | hj
    · rw [ht.held j hheld] at hjreg
      cases hjreg
    · exact List.mem_singleton.mp hj
  have hgivable : ∀ j ∈ (⟨(h.world.beginEnding k).1, (h.world.beginEnding k).2⟩ :
      Config D).givable, (h.world.beginEnding k).1.view.isRegistered j = false := by
    intro j hj
    rw [Config.givable, World.held_beginEnding, hstarted] at hj
    rw [hview]
    exact ht.held j (by simpa [Frame.gives?, List.filterMap_cons] using hj)
  have hsingle : (⟨c.world, h.registry.setLive i none⟩ : Host D).Single concurrent :=
    fun hcon => Nat.le_trans hfollows.own_sublist.length_le (ht.single hcon)
  obtain ⟨m, hm, hid⟩ := ht.numbered
  have hnumbers : c.world.view.registeredIds = Registry.firstIds m :=
    hfollows.registeredIds.trans hm
  have hdistinct : (h.registry.setLive i none).Distinct := ht.distinct.setLive i none
  have hnodup : (k :: (h.registry.setLive i none).lives).Nodup :=
    hlives.nodup_iff.mpr h.world.view.nodup_own
  refine ⟨⟨hsingle, ⟨m, hnumbers⟩, hdistinct, fun j hj => ?_⟩, fun hrest => ?_⟩
  · have hbefore : j ∈ h.world.view.own := hlives.mem_iff.mp (List.mem_cons_of_mem k hj)
    refine lasting_of_steps hbegun hc (hview ▸ hbefore) fun hmem => ?_
    obtain rfl := hends j hmem (View.mem_own.mp hbefore).2
    exact (List.nodup_cons.mp hnodup).1 hj
  have hgone : c.world.view.isAlive k = false :=
    hc.isAlive_of_ending [.emission n event listeners] hstarted hrest
  have hown : c.world.view.own = h.world.view.own.erase k := by
    rw [h.world.view.nodup_own.erase_eq_filter]
    refine hfollows.own_eq (· == k) (fun j hj => ?_) fun j hj hjreg => ?_
    · rw [eq_of_beq hj]
      exact hgone
    · exact beq_iff_eq.mpr (hends j hj hjreg)
  refine ⟨hc.reachable_of_rest hbegun hrest, ht.mode, ?_, fun j hj => ?_,
    fun j hj => hc.isRegistered_of_held hbegun hgivable hj, hsingle, ⟨m, hnumbers, hid⟩, hdistinct⟩
  · rw [hown]
    exact (List.cons_perm_iff_perm_erase.mp hlives).2
  · rw [hown, h.world.view.nodup_own.mem_erase_iff] at hj
    refine hfollows.running j (fun hmem => hj.1 ?_) (ht.running j hj.2)
    exact hends j hmem (View.mem_own.mp hj.2).2

/-- Whoever is held when an instance comes into being is none of the registry's. -/
theorem Tidy.isRegistered_beginLife {h : Host D} (ht : h.Tidy I concurrent) (id : ScriptId)
    (path : Path) (detached : Bool) {j : Nat} (hj : j ∈ h.world.held.map Prod.snd) :
    (h.world.beginLife id path detached).view.isRegistered j = false := by
  have hlt : j < h.world.view.infos.length := by
    rw [h.world.length_infos]
    exact ht.reachable.sound.endable j (List.mem_append_left _ hj)
  rw [World.view_beginLife, View.isRegistered_enroll, if_neg (Nat.ne_of_lt hlt)]
  exact ht.held j hj

/-- **The birth of an instance** where no other may keep its entry from having one: the
registry has one instance more, and in the end the entry names it. -/
theorem Tidy.spawn {h : Host D} (ht : h.Tidy I concurrent) {i : Nat} {e : Entry}
    (he : h.registry.entries[i]? = some e) (hlive : e.live = none)
    (hblocker : h.registry.blocker? i = none) {path : Path} {code : EntryCode D} {c : Config D}
    (hc : Config.Steps I ⟨h.world.beginLife ⟨h.registry.nextId⟩ path false,
      [.entry h.world.instances.length code, .settle h.world.instances.length]⟩ c) :
    (⟨c.world, h.registry.countOn⟩ : Host D).Lawful concurrent c.stack ∧
      (c.stack = [] →
        (⟨c.world, h.registry.countOn.setLive i (some h.world.instances.length)⟩ :
          Host D).Tidy I concurrent) := by
  have hlength := h.world.length_infos
  have hview := h.world.view_beginLife ⟨h.registry.nextId⟩ path false
  have hbegun : (⟨h.world.beginLife ⟨h.registry.nextId⟩ path false,
      [.entry h.world.instances.length code, .settle h.world.instances.length]⟩ :
        Config D).Reachable I :=
    ht.reachable.move (.host (.spawn _ path false code))
  -- Who can be ended is held.
  have hendable : (⟨h.world.beginLife ⟨h.registry.nextId⟩ path false,
      [.entry h.world.instances.length code, .settle h.world.instances.length]⟩ :
        Config D).endable = h.world.held.map Prod.snd := by
    rw [Config.endable, World.held_beginLife]
    exact List.append_nil _
  have hheld := fun j hj => ht.isRegistered_beginLife ⟨h.registry.nextId⟩ path false (j := j) hj
  have hfollows := hc.follows hbegun
  rw [hendable] at hfollows
  have hown : c.world.view.own = h.world.view.own ++ [h.world.instances.length] := by
    rw [hfollows.own_same hheld]
    simp [hview, View.own_enroll, hlength]
  have hsingle : concurrent = false → c.world.view.own.length ≤ 1 := by
    intro hcon
    have hnone := Registry.lives_eq_nil (by simpa [Registry.live?, he] using hlive)
      (ht.mode.trans hcon) hblocker
    have hempty : h.world.view.own = [] := List.nil_perm.mp (hnone ▸ ht.lives)
    simp [hown, hempty]
  have hlives : (h.registry.countOn.setLive i (some h.world.instances.length)).lives.Perm
      c.world.view.own := by
    calc (h.registry.countOn.setLive i (some h.world.instances.length)).lives
      _ |>.Perm (h.world.instances.length :: h.registry.lives) :=
        Registry.lives_setLive_some (r := h.registry.countOn) he hlive _
      _ |>.Perm (h.world.instances.length :: h.world.view.own) := ht.lives.cons _
      _ |>.Perm c.world.view.own := hown ▸ (List.perm_append_singleton _ _).symm
  obtain ⟨m, hm, hnext⟩ := ht.numbered
  have hnumbers : c.world.view.registeredIds = Registry.firstIds (m + 1) := by
    rw [hfollows.registeredIds, hview, View.registeredIds_enroll, hm, hnext]
    simp [Registry.firstIds, List.range_succ]
  have hid : h.registry.nextId + 1 = UInt32.ofNat (m + 1 + 1) := by
    rw [hnext]
    exact (UInt32.ofNat_add (m + 1) 1).symm
  refine ⟨⟨hsingle, ⟨m + 1, hnumbers⟩, ht.distinct, fun j hj => ?_⟩, fun hrest =>
    ⟨hc.reachable_of_rest hbegun hrest, ht.mode, hlives, fun j hj => ?_, fun j hj => ?_, hsingle,
      ⟨m + 1, hnumbers, hid⟩, Registry.Distinct.setLive (r := h.registry.countOn) ht.distinct _ _⟩⟩
  · have hbefore : j ∈ h.world.view.own := ht.lives.mem_iff.mp hj
    have hborn : j ∈ (h.world.beginLife ⟨h.registry.nextId⟩ path false).view.own := by
      rw [hview, View.own_enroll]
      exact List.mem_append_left _ hbefore
    refine lasting_of_steps hbegun hc hborn fun hmem => ?_
    have hreg := (View.mem_own.mp hborn).2
    rw [hheld j (hendable ▸ hmem)] at hreg
    cases hreg
  · rcases List.mem_append.mp (hown ▸ hj) with hold | hnew
    · refine hfollows.isRunning_own hheld hj ?_
      rw [hview]
      exact View.isRunning_after (by simp) (ht.running j hold)
    · obtain rfl := List.mem_singleton.mp hnew
      exact hc.isRunning_of_settle [.entry _ code] rfl hrest (View.mem_own.mp hj).1
  · exact hc.isRegistered_of_held hbegun
      (fun j hj => hheld j (hendable ▸ Config.givable_subset_endable _ hj)) hj

end Host

end ScriptHost
