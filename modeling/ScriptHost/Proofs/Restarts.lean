import ScriptHost.Proofs.Calm
import ScriptHost.Proofs.Chronicle
import ScriptHost.Proofs.Refusals

/-!
# Restarting loses no script

A restart ends an instance before it asks for another one, and it could be refused that
one, or not ask at all.  It does neither where it is the restart of a script that runs:
such a script is wanted, and if only one may run it is the one.

* `Registry.renewAll` — the registry where entries got new instances, one after another;
* `Host.trace_restartAt_live`, `Host.trace_attemptAll_restart` — what a restart of
  scripts that run leaves, down to the ids;
* `Scene.Reachable.restart_loses_nobody` — restarting one script, and restarting all.
-/

namespace ScriptHost

variable {D : Dialect} {σ α : Type} {I : Interpreter D} {concurrent : Bool}

open HasWorld

/-- What was appended to a list stands at the places from its length on. -/
theorem filterMap_range'_append {β : Type} (first second : List α) (f : α → β) :
    ((List.range' first.length second.length).filterMap fun k => (first ++ second)[k]?.map f)
      = second.map f := by
  induction second generalizing first with
  | nil => rfl
  | cons a rest ih =>
    have hrest := ih (first ++ [a])
    rw [List.append_assoc, List.singleton_append, List.length_append] at hrest
    have hhere : (first ++ a :: rest)[first.length]? = some a := by simp
    rw [List.length_cons, List.range'_succ, List.filterMap_cons, hhere]
    exact congrArg (f a :: ·) hrest

/-! ## Who comes into being -/

/-- Whoever an order brings into being. -/
def Order.newcomers : Order D → List Tag
  | .spawn id path _ => [⟨id, path, false⟩]
  | .code _ | .terminate _ | .dropRequests | .setShutdown _ => []

/-- Nobody comes into being by the steps of the machine. -/
theorem Config.Steps.tags_eq {c c' : Config D} (h : c.Steps I c') :
    c'.world.view.tags = c.world.view.tags := by
  induction h with
  | refl => rfl
  | tail _ hstep ih => exact (Config.follows_of_step? hstep).tags.trans ih

/-- An order brings into being whom it spawns, and nobody else. -/
theorem World.tags_beginOrder (w : World D) (o : Order D) :
    (w.beginOrder o).1.view.tags = w.view.tags ++ o.newcomers := by
  cases o with
  | spawn id path code =>
    have hview : (w.beginOrder (.spawn id path code)).1.view = _ := w.view_beginLife id path false
    rw [hview, View.tags_enroll]
    rfl
  | terminate i =>
    have hview : (w.beginOrder (.terminate i)).1.view = w.view := w.view_beginEnding i
    rw [hview]
    exact (List.append_nil _).symm
  | code | dropRequests | setShutdown => exact (List.append_nil _).symm

/-- The id of an instance is in the view. -/
theorem World.id_eq (w : World D) (k : Nat) :
    (w.instance? k).map Instance.id = w.view.tags[k]?.map Tag.id := by
  rw [View.tags, List.getElem?_map, World.infos_view]
  cases w.instance? k <;> rfl

/-- An order brings into being whom it is for. -/
theorem Chore.Trace.tags_order [HasWorld D σ] {o : Order D} {a b : α} {s s' : σ}
    {cs : List (Config D)} (h : Chore.Trace I (.order o (.done a)) s cs b s') :
    (world s').view.tags = (world s).view.tags ++ o.newcomers := by
  cases h with
  | order hobeyed h =>
    cases h with
    | done =>
      rw [world_setWorld, ← World.tags_beginOrder]
      exact hobeyed.steps.tags_eq

/-! ## New instances, one after another -/

namespace Registry

/-- The registry where the entries at some positions got new instances, one after another,
which have the places from `n` on. -/
def renewAll : Registry D → List Nat → Nat → Registry D
  | r, [], _ => r
  | r, i :: rest, n => (r.countOn.setLive i (some n)).renewAll rest (n + 1)

/-- The next ids, from one on. -/
def idsFrom (id : UInt32) : Nat → List ScriptId
  | 0 => []
  | k + 1 => ⟨id⟩ :: idsFrom (id + 1) k

/-- As many ids as are asked for. -/
@[simp] theorem length_idsFrom (id : UInt32) (k : Nat) : (idsFrom id k).length = k := by
  induction k generalizing id with
  | zero => rfl
  | succ k ih => simp [idsFrom, ih]

/-- After the first ids come the next ones. -/
theorem firstIds_append (m k : Nat) :
    firstIds m ++ idsFrom (UInt32.ofNat (m + 1)) k = firstIds (m + k) := by
  induction k generalizing m with
  | zero => simp [idsFrom]
  | succ k ih =>
    have hnext : UInt32.ofNat (m + 1) + 1 = UInt32.ofNat (m + 1 + 1) := (UInt32.ofNat_add _ _).symm
    have hsnoc : firstIds m ++ [⟨UInt32.ofNat (m + 1)⟩] = firstIds (m + 1) := by
      simp [firstIds, List.range_succ]
    calc firstIds m ++ idsFrom (UInt32.ofNat (m + 1)) (k + 1)
        = (firstIds m ++ [⟨UInt32.ofNat (m + 1)⟩]) ++ idsFrom (UInt32.ofNat (m + 1 + 1)) k := by
          rw [idsFrom, hnext, List.append_assoc, List.singleton_append]
      _ = firstIds (m + 1 + k) := by rw [hsnoc, ih]
      _ = firstIds (m + (k + 1)) := by rw [Nat.add_assoc, Nat.add_comm 1 k]

variable (r : Registry D) {i n : Nat} {l : List Nat}

/-- New instances change nothing but the instances. -/
theorem resembles_renewAll (l : List Nat) (n : Nat) : r.Resembles (r.renewAll l n) := by
  induction l generalizing r n with
  | nil => exact .refl r
  | cons i rest ih =>
    have hset := resembles_setLive r.countOn i (some n)
    have hfirst : r.Resembles (r.countOn.setLive i (some n)) :=
      ⟨hset.flags, hset.started, hset.concurrent⟩
    exact hfirst.trans (ih _ _)

/-- An entry that got no new instance is as it was. -/
theorem getElem?_renewAll_of_not_mem (hi : i ∉ l) (n : Nat) :
    (r.renewAll l n).entries[i]? = r.entries[i]? := by
  induction l generalizing r n with
  | nil => rfl
  | cons j rest ih =>
    obtain ⟨hij, hrest⟩ := List.ne_and_not_mem_of_not_mem_cons hi
    exact (ih _ hrest _).trans (getElem?_modifyEntry_of_ne r.countOn (Ne.symm hij) _)

/-- An entry has the instance it got. -/
theorem live?_setLive {e : Entry} (he : r.entries[i]? = some e) (k : Nat) :
    (r.countOn.setLive i (some k)).live? i = some k := by
  have he : r.countOn.entries[i]? = some e := he
  rw [live?, setLive, getElem?_modifyEntry, he]
  rfl

/-- The others have got the instances from `n` on, in turn. -/
theorem map_live?_renewAll (hnodup : l.Nodup) (hl : ∀ i ∈ l, (r.live? i).isSome = true) (n : Nat) :
    l.map (r.renewAll l n).live? = (List.range' n l.length).map some := by
  induction l generalizing r n with
  | nil => rfl
  | cons i rest ih =>
    obtain ⟨hi, hrest⟩ := List.nodup_cons.mp hnodup
    obtain ⟨hfirst, hlater⟩ := List.forall_mem_cons.mp hl
    have hsame : ∀ j ∈ rest, (r.countOn.setLive i (some n)).live? j = r.live? j := by
      intro j hj
      have hij : i ≠ j := fun heq => hi (heq ▸ hj)
      exact congrArg (·.bind Entry.live) (getElem?_modifyEntry_of_ne r.countOn hij _)
    have hnew : (r.renewAll (i :: rest) n).live? i = some n := by
      have hkept := (r.countOn.setLive i (some n)).getElem?_renewAll_of_not_mem hi (n + 1)
      obtain ⟨k, hk⟩ := Option.isSome_iff_exists.mp hfirst
      obtain ⟨e, he, -⟩ := Option.bind_eq_some_iff.mp hk
      rw [live?, renewAll, hkept]
      exact r.live?_setLive he n
    have hothers := ih (r.countOn.setLive i (some n)) hrest
      (fun j hj => hsame j hj ▸ hlater j hj) (n + 1)
    rw [List.map_cons, hnew, List.length_cons, List.range'_succ, List.map_cons]
    exact congrArg (some n :: ·) hothers

/-- The positions of the entries that pass a test. -/
theorem mem_positions {r : Registry D} {p : Entry → Bool} :
    i ∈ r.positions p ↔ ∃ e, r.entries[i]? = some e ∧ p e = true := by
  rw [positions, List.mem_filter, List.mem_range]
  constructor
  · rintro ⟨hi, hp⟩
    exact ⟨r.entries[i], List.getElem?_eq_getElem hi, by simpa [hi] using hp⟩
  · rintro ⟨e, he, hp⟩
    exact ⟨(List.getElem?_eq_some_iff.mp he).1, by simpa [he] using hp⟩

/-- No position is listed twice. -/
theorem nodup_positions (p : Entry → Bool) : (r.positions p).Nodup :=
  List.nodup_range.filter _

/-- The positions with an instance, by what there is to be found at each. -/
theorem livePositions_eq :
    r.livePositions = (List.range r.entries.length).filter fun i => (r.live? i).isSome := by
  refine List.filter_congr fun i _ => ?_
  cases he : r.entries[i]? <;> simp [live?, he]

/-- The positions of the entries that have an instance. -/
theorem mem_livePositions : i ∈ r.livePositions ↔ (r.live? i).isSome = true := by
  rw [livePositions, mem_positions, live?]
  cases r.entries[i]? <;> simp

/-- No such position is listed twice. -/
theorem nodup_livePositions : r.livePositions.Nodup :=
  r.nodup_positions _

/-- The entries name their instances in their order. -/
theorem lives_eq_range : r.lives = (List.range r.entries.length).filterMap r.live? := by
  have hentries : (List.range r.entries.length).map (r.entries[·]?) = r.entries.map some := by
    apply List.ext_getElem?
    intro i
    by_cases hi : i < r.entries.length <;> simp [hi]
  calc r.lives = (r.entries.map some).filterMap fun e? => e?.bind Entry.live := by
        simp [lives, List.filterMap_map]
    _ = (List.range r.entries.length).filterMap r.live? := by
        rw [← hentries, List.filterMap_map]
        rfl

/-- The instances of a registry, in the order of its entries. -/
theorem lives_eq_livePositions : r.lives = r.livePositions.filterMap r.live? := by
  rw [lives_eq_range, livePositions_eq, List.filterMap_filter]
  refine List.filterMap_congr fun i _ => ?_
  cases r.live? i <;> rfl

/-- Where entries that had an instance got new ones, the same entries have one. -/
theorem livePositions_renewAll (hnodup : l.Nodup) (hl : ∀ i ∈ l, (r.live? i).isSome = true)
    (n : Nat) :
    (r.renewAll l n).livePositions = r.livePositions := by
  have hlength : (r.renewAll l n).entries.length = r.entries.length := by
    simpa [flags] using congrArg List.length (r.resembles_renewAll l n).flags
  rw [livePositions_eq, livePositions_eq, hlength]
  refine List.filter_congr fun i _ => ?_
  by_cases hi : i ∈ l
  · have hsome : (r.renewAll l n).live? i ∈ (List.range' n l.length).map some := by
      rw [← r.map_live?_renewAll hnodup hl n]
      exact List.mem_map_of_mem hi
    obtain ⟨k, -, hk⟩ := List.mem_map.mp hsome
    rw [← hk, hl i hi]
    rfl
  · rw [live?, live?, r.getElem?_renewAll_of_not_mem hi n]

/-- Where all of them got new ones, these are the instances from `n` on. -/
theorem lives_renewAll (n : Nat) :
    (r.renewAll r.livePositions n).lives = List.range' n r.liveCount := by
  have hl : ∀ i ∈ r.livePositions, (r.live? i).isSome = true :=
    fun i hi => r.mem_livePositions.mp hi
  have hmap := r.map_live?_renewAll r.nodup_livePositions hl n
  rw [lives_eq_livePositions, r.livePositions_renewAll r.nodup_livePositions hl n]
  calc r.livePositions.filterMap (r.renewAll r.livePositions n).live?
      = (r.livePositions.map (r.renewAll r.livePositions n).live?).filterMap id := by
        simp [List.filterMap_map]
    _ = List.range' n r.liveCount := by
        rw [hmap, List.filterMap_map]
        simp [liveCount]

end Registry

namespace Host

variable {h h' h'' : Host D} {i : Nat} {l : List Nat} {cs : List (Config D)}
  {result : Except RegistryError Unit}

/-- The entries at some positions have got new instances, in that order, and nobody else
has come into being. -/
structure Renewed (h : Host D) (l : List Nat) (h' : Host D) : Prop where
  registry : h'.registry = h.registry.renewAll l h.world.instances.length
  newcomers : ∃ news, h'.world.view.tags = h.world.view.tags ++ news ∧
    news.map Tag.id = Registry.idsFrom h.registry.nextId l.length

/-- Whoever has come into being has a tag. -/
theorem length_instances_of_tags {news : List Tag}
    (htags : h'.world.view.tags = h.world.view.tags ++ news) :
    h'.world.instances.length = h.world.instances.length + news.length := by
  have hlength := congrArg List.length htags
  rwa [List.length_append, View.length_tags, View.length_tags, World.length_infos,
    World.length_infos] at hlength

/-- **New instances, one entry after another.** -/
theorem Renewed.cons (hfirst : h.Renewed [i] h') (hrest : h'.Renewed l h'') :
    h.Renewed (i :: l) h'' := by
  obtain ⟨news, htags, hids⟩ := hfirst.newcomers
  obtain ⟨later, htags', hids'⟩ := hrest.newcomers
  have hone : news.length = 1 := by simpa using congrArg List.length hids
  have hcount := length_instances_of_tags htags
  have hnext : h'.registry.nextId = h.registry.nextId + 1 := by
    rw [hfirst.registry]
    rfl
  constructor
  · rw [hrest.registry, hcount, hone, hfirst.registry]
    rfl
  · refine ⟨news ++ later, by rw [htags', htags, List.append_assoc], ?_⟩
    rw [List.map_append, hids, hids', hnext]
    rfl

/-- To destroy an instance brings nobody into being. -/
theorem tags_destroy {u : Unit} (hc : (destroy i).Trace I h cs u h') :
    h'.world.view.tags = h.world.view.tags := by
  have hc := hc.state
  split at hc
  · obtain ⟨-, rfl⟩ := hc.pure
    rfl
  · obtain ⟨_, _, h₁, _, -, hset, hend⟩ := hc.bind
    obtain rfl := trace_modifyRegistry hset
    have htags : h'.world.view.tags = h.world.view.tags ++ [] :=
      Chore.Trace.tags_order (o := .terminate _) hend
    rwa [List.append_nil] at htags

/-- **Where nobody is in the way**, an entry is instantiated. -/
theorem trace_instantiate_born {e : Entry} (he : h.registry.entries[i]? = some e)
    (hblocker : h.registry.blocker? i = none) (hc : (instantiate i).Trace I h cs result h') :
    result = .ok () ∧
      h'.registry = h.registry.countOn.setLive i (some h.world.instances.length) ∧
      h'.world.view.tags = h.world.view.tags ++ [⟨⟨h.registry.nextId⟩, e.path, false⟩] := by
  have hc := hc.state
  simp only [he, hblocker] at hc
  obtain ⟨_, _, h₁, _, -, hcount, hc⟩ := hc.bind
  obtain rfl := trace_modifyRegistry hcount
  obtain ⟨_, k, h₂, _, -, hspawn, hc⟩ := hc.bind
  have htags := Chore.Trace.tags_order hspawn.state
  obtain ⟨rfl, w, rfl⟩ := Chore.Trace.order_done hspawn.state
  obtain ⟨_, _, h₃, _, -, hset, hdone⟩ := hc.bind
  obtain ⟨rfl, rfl⟩ := hdone.pure
  obtain rfl := trace_modifyRegistry hset
  exact ⟨rfl, rfl, htags⟩

/-- **Restarting a script that runs** gives it a new instance. -/
theorem trace_restartAt_live (hh : h.WellKept I concurrent)
    (hlive : (h.registry.live? i).isSome = true) (hc : (restartAt i).Trace I h cs result h') :
    result = .ok () ∧ h.Renewed [i] h' := by
  obtain ⟨k, hk⟩ := Option.isSome_iff_exists.mp hlive
  obtain ⟨e, he, hek⟩ := Option.bind_eq_some_iff.mp hk
  obtain ⟨henabled, hstarted⟩ := (hh.inStep i e he List.not_mem_nil).wanted (by simp [hek])
  have hc := hc.state
  simp only [he, henabled, if_true] at hc
  obtain ⟨_, _, h₁, _, -, hdestroyed, hc⟩ := hc.bind
  have hregistry := trace_destroy hdestroyed
  have htags := tags_destroy hdestroyed
  have hnone : h₁.world.view.tags = h.world.view.tags ++ [] := by rw [htags, List.append_nil]
  have hcount : h₁.world.instances.length = h.world.instances.length :=
    length_instances_of_tags hnone
  have hc := hc.state
  have hstill : h₁.registry.started = true := by rw [hregistry]; exact hstarted
  rw [if_pos hstill] at hc
  have hentry : h₁.registry.entries[i]? = some { e with live := none } := by
    rw [hregistry, Registry.setLive, Registry.getElem?_modifyEntry, he]
    rfl
  have hblocker : h₁.registry.blocker? i = none := hregistry ▸ hh.blocker?_setLive hk
  obtain ⟨hok, hborn, hnew⟩ := trace_instantiate_born hentry hblocker hc
  refine ⟨hok, ?_, ⟨_, htags ▸ hnew, ?_⟩⟩
  · rw [hborn, hcount, hregistry]
    exact Registry.setLive_setLive h.registry.countOn i none _
  · rw [hregistry]
    rfl

/-- **Restarting scripts that run** gives each of them a new instance. -/
theorem trace_attemptAll_restart (hh : h.WellKept I concurrent) (hnodup : l.Nodup)
    (hlive : ∀ i ∈ l, (h.registry.live? i).isSome = true)
    (hc : (attemptAll restartAt l).Trace I h cs result h') :
    result = .ok () ∧ h.Renewed l h' := by
  induction l generalizing h cs with
  | nil =>
    obtain ⟨rfl, rfl⟩ := hc.pure
    exact ⟨rfl, rfl, [], (List.append_nil _).symm, rfl⟩
  | cons i rest ih =>
    obtain ⟨hi, hnodup⟩ := List.nodup_cons.mp hnodup
    obtain ⟨hfirst, hlater⟩ := List.forall_mem_cons.mp hlive
    obtain ⟨_, first, h₁, _, -, hrestarted, hc⟩ := hc.bind
    obtain ⟨rfl, hrenewed⟩ := trace_restartAt_live hh hfirst hrestarted
    -- the others have what they had
    have hothers : ∀ j ∈ rest, (h₁.registry.live? j).isSome = true := by
      intro j hj
      have hij : j ∉ [i] := fun hmem => hi (List.mem_singleton.mp hmem ▸ hj)
      rw [hrenewed.registry, Registry.live?, Registry.getElem?_renewAll_of_not_mem _ hij]
      exact hlater j hj
    obtain ⟨hok, hrest⟩ := ih (hh.of_trace (upholds_restartAt i) hrestarted) hnodup hothers hc
    exact ⟨hok, hrenewed.cons hrest⟩

/-- On every trace, restarting everybody succeeds and renews the entries that had an
instance. -/
theorem trace_restartAll_live (hh : h.WellKept I concurrent)
    (hc : restartAll.Trace I h cs result h') :
    result = .ok () ∧ h.Renewed h.registry.livePositions h' := by
  have hc := hc.state
  obtain ⟨_, _, h₁, _, -, hreport, hc⟩ := hc.bind
  have hh₁ := hh.of_trace (upholds_report _) hreport
  obtain ⟨rfl, -⟩ := trace_report_log hreport
  obtain ⟨hok, hrenewed⟩ := trace_attemptAll_restart hh₁ h.registry.nodup_livePositions
    (fun i hi => h.registry.mem_livePositions.mp hi) hc
  exact ⟨hok, hrenewed.registry, hrenewed.newcomers⟩

/-! ## Under new ids -/

/-- The ids of the live instances, in the order of the entries. -/
def liveIds (h : Host D) : List ScriptId :=
  h.statuses.filterMap Status.script

/-- The ids in the list of scripts are those of the instances. -/
theorem liveIds_eq (h : Host D) :
    h.liveIds = h.registry.lives.filterMap fun k => h.world.view.tags[k]?.map Tag.id := by
  have hscript : ∀ i, (h.status? i).bind Status.script
      = (h.registry.live? i).bind fun k => h.world.view.tags[k]?.map Tag.id := by
    intro i
    simp only [status?, Registry.live?, ← World.id_eq]
    cases h.registry.entries[i]? <;> rfl
  rw [liveIds, statuses, List.filterMap_filterMap, Registry.lives_eq_range,
    List.filterMap_filterMap]
  exact List.filterMap_congr fun i _ => hscript i

/-- Where all scripts that ran have got new instances, their ids are the next ones. -/
theorem Renewed.liveIds (hrenewed : h.Renewed h.registry.livePositions h') :
    h'.liveIds = Registry.idsFrom h.registry.nextId h.registry.liveCount := by
  obtain ⟨news, htags, hids⟩ := hrenewed.newcomers
  have hold : h.world.instances.length = h.world.view.tags.length := by
    rw [View.length_tags, World.length_infos]
  have hnew : h.registry.liveCount = news.length := by
    simpa [Registry.liveCount] using (congrArg List.length hids).symm
  rw [liveIds_eq, hrenewed.registry, Registry.lives_renewAll, htags, hold, hnew,
    filterMap_range'_append, hids, ← hnew]
  rfl

/-- A script that has been restarted runs under the next id. -/
theorem Renewed.status? (hlive : (h.registry.live? i).isSome = true) (hrenewed : h.Renewed [i] h') :
    h'.status? i = (h.status? i).map fun s => { s with script := some ⟨h.registry.nextId⟩ } := by
  obtain ⟨k, hk⟩ := Option.isSome_iff_exists.mp hlive
  obtain ⟨e, he, -⟩ := Option.bind_eq_some_iff.mp hk
  obtain ⟨news, htags, hids⟩ := hrenewed.newcomers
  have hold : h.world.instances.length = h.world.view.tags.length := by
    rw [View.length_tags, World.length_infos]
  have hentry : h'.registry.entries[i]?
      = some { e with live := some h.world.instances.length } := by
    have he : h.registry.countOn.entries[i]? = some e := he
    rw [hrenewed.registry, Registry.renewAll, Registry.renewAll, Registry.setLive,
      Registry.getElem?_modifyEntry, he]
    rfl
  have hid : (h'.world.instance? h.world.instances.length).map Instance.id
      = some ⟨h.registry.nextId⟩ := by
    have hnews : news.map Tag.id = [⟨h.registry.nextId⟩] := hids
    rw [World.id_eq, htags, hold, List.getElem?_append_right (Nat.le_refl _), Nat.sub_self,
      ← List.getElem?_map, hnews]
    rfl
  simp only [Host.status?, he, hentry, Option.map_some, Option.bind_some, hid]

/-- The others run under the ids they had. -/
theorem Renewed.status?_of_not_mem (hh : h.WellKept I concurrent) (hrenewed : h.Renewed l h')
    (hi : i ∉ l) : h'.status? i = h.status? i := by
  obtain ⟨news, htags, -⟩ := hrenewed.newcomers
  have hentry : h'.registry.entries[i]? = h.registry.entries[i]? := by
    rw [hrenewed.registry, Registry.getElem?_renewAll_of_not_mem _ hi]
  simp only [Host.status?, hentry]
  cases he : h.registry.entries[i]? with
  | none => rfl
  | some e =>
    cases hk : e.live with
    | none => simp [hk]
    | some k =>
      have hlt : k < h.world.view.tags.length := by
        rw [View.length_tags, World.length_infos]
        exact hh.lt_of_live (List.mem_of_getElem? he) hk
      have hid : (h'.world.instance? k).map Instance.id
          = (h.world.instance? k).map Instance.id := by
        rw [World.id_eq, World.id_eq, htags, List.getElem?_append_left hlt]
      simp [hk, hid]

/-- The ids that are given next continue the list of those given before. -/
theorem WellKept.ids_continue (hh : h.WellKept I concurrent) (k : Nat) :
    h.world.view.registeredIds ++ Registry.idsFrom h.registry.nextId k
      = Registry.firstIds (h.world.view.registeredIds.length + k) := by
  obtain ⟨m, hids, hnext⟩ := hh.tidy.numbered
  have hlength : h.world.view.registeredIds.length = m := by simp [hids, Registry.firstIds]
  rw [hlength, hids, hnext, Registry.firstIds_append]

/-- Whoever an entry names is running. -/
theorem WellKept.isRunning_of_mem (hh : h.WellKept I concurrent) {k : Nat}
    (hk : k ∈ h.registry.lives) : h.world.view.isRunning k = true :=
  hh.tidy.running k (hh.tidy.lives.mem_iff.mp hk)

/-- What ids have to be that are given to new instances: they continue the list of all ids
given before, and each is greater than those before it until the ids start over. -/
structure Fresh (h : Host D) (ids : List ScriptId) : Prop where
  continued : h.world.view.registeredIds ++ ids
    = Registry.firstIds (h.world.view.registeredIds.length + ids.length)
  ascending : h.world.view.registeredIds.length + ids.length < UInt32.size →
    (h.world.view.registeredIds ++ ids).Pairwise fun a b => a.val < b.val

/-- The ids a registry goes on with are borne by nobody. -/
theorem WellKept.fresh_idsFrom (hh : h.WellKept I concurrent) (k : Nat) :
    h.Fresh (Registry.idsFrom h.registry.nextId k) := by
  have hcontinued := hh.ids_continue k
  constructor
  · rw [hcontinued, Registry.length_idsFrom]
  · rw [hcontinued, Registry.length_idsFrom]
    exact Registry.firstIds_ascend

/-- One script has been restarted: it runs under a new id, and the other entries are
untouched. -/
structure RestartsOne (h : Host D) (i : Nat) (h' : Host D) : Prop where
  restarted : ∃ id, h.Fresh [id] ∧
    h'.status? i = (h.status? i).map fun s => { s with script := some id }
  others : ∀ j, j ≠ i → h'.registry.entries[j]? = h.registry.entries[j]? ∧
    h'.status? j = h.status? j
  resembles : h.registry.Resembles h'.registry
  running : ∀ k ∈ h'.registry.lives, h'.world.view.isRunning k = true

/-- All scripts that ran have been restarted: they are the ones that run, each under a new
id, in the order of the entries. -/
structure RestartsAll (h h' : Host D) : Prop where
  positions : h'.registry.livePositions = h.registry.livePositions
  count : h'.liveIds.length = h.registry.liveCount
  fresh : h.Fresh h'.liveIds
  resembles : h.registry.Resembles h'.registry
  running : ∀ k ∈ h'.registry.lives, h'.world.view.isRunning k = true

/-- Where one entry was renewed, one script was restarted and nobody else noticed. -/
theorem Renewed.restartsOne (hh : h.WellKept I concurrent) (hh' : h'.WellKept I concurrent)
    (hlive : (h.registry.live? i).isSome = true) (hrenewed : h.Renewed [i] h') :
    h.RestartsOne i h' where
  restarted := ⟨⟨h.registry.nextId⟩, hh.fresh_idsFrom 1, hrenewed.status? hlive⟩
  others j hj := by
    have hmem : j ∉ [i] := fun hmem => hj (List.mem_singleton.mp hmem)
    refine ⟨?_, hrenewed.status?_of_not_mem hh hmem⟩
    rw [hrenewed.registry, Registry.getElem?_renewAll_of_not_mem _ hmem]
  resembles := hrenewed.registry ▸ h.registry.resembles_renewAll _ _
  running _ hk := hh'.isRunning_of_mem hk

/-- Where all entries with an instance were renewed, all of them were restarted. -/
theorem Renewed.restartsAll (hh : h.WellKept I concurrent) (hh' : h'.WellKept I concurrent)
    (hrenewed : h.Renewed h.registry.livePositions h') : h.RestartsAll h' where
  positions := by
    have hl : ∀ i ∈ h.registry.livePositions, (h.registry.live? i).isSome = true :=
      fun i hi => h.registry.mem_livePositions.mp hi
    rw [hrenewed.registry, Registry.livePositions_renewAll _ h.registry.nodup_livePositions hl]
  count := by rw [hrenewed.liveIds, Registry.length_idsFrom]
  fresh := by
    rw [hrenewed.liveIds]
    exact hh.fresh_idsFrom _
  resembles := hrenewed.registry ▸ h.registry.resembles_renewAll _ _
  running _ hk := hh'.isRunning_of_mem hk

end Host

namespace Scene

/-- **Restarting loses no script.**  Whatever a session has come to, whoever is restarted
that runs is not refused, runs again under a new id, and leaves the others alone; to
restart all never fails, and leaves just those running that ran, under new ids that ascend
with the entries.  Where scripts give control back, both come to their end. -/
theorem Reachable.restart_loses_nobody {x : Scene D} (h : x.Reachable I concurrent)
    (hrest : x.AtRest) :
    (∀ s i, x.session.host.registry.resolve s = .ok i →
      (x.session.host.registry.live? i).isSome = true →
      (∀ cs result h', (Host.restart s).Trace I x.session.host cs result h' →
        result = .ok () ∧ x.session.host.RestartsOne i h') ∧
      (I.Calm → ∃ cs h', (Host.restart s).Trace I x.session.host cs (.ok ()) h')) ∧
    (∀ cs result h', Host.restartAll.Trace I x.session.host cs result h' →
      result = .ok () ∧ x.session.host.RestartsAll h') ∧
    (I.Calm → ∃ cs h', Host.restartAll.Trace I x.session.host cs (.ok ()) h') := by
  have hh := h.upheld.rest hrest
  have hreachable := hh.tidy.reachable
  have hall : ∀ cs result h', Host.restartAll.Trace I x.session.host cs result h' →
      result = .ok () ∧ x.session.host.RestartsAll h' := by
    intro cs result h' hc
    obtain ⟨hok, hrenewed⟩ := Host.trace_restartAll_live hh hc
    exact ⟨hok, hrenewed.restartsAll hh (hh.of_trace Host.upholds_restartAll hc)⟩
  refine ⟨fun s i hi hlive => ?_, hall, fun hcalm => ?_⟩
  · have hone : ∀ cs result h', (Host.restart s).Trace I x.session.host cs result h' →
        result = .ok () ∧ x.session.host.RestartsOne i h' := by
      intro cs result h' hc
      have hh' := hh.of_trace (Host.upholds_restart s) hc
      have hc := hc.state
      simp only [hi] at hc
      obtain ⟨hok, hrenewed⟩ := Host.trace_restartAt_live hh hlive hc
      exact ⟨hok, hrenewed.restartsOne hh hh' hlive⟩
    refine ⟨hone, fun hcalm => ?_⟩
    obtain ⟨cs, result, h', hc⟩ := Chore.exists_trace hcalm (Host.restart s) hreachable
    obtain ⟨rfl, -⟩ := hone cs result h' hc
    exact ⟨cs, h', hc⟩
  · obtain ⟨cs, result, h', hc⟩ := Chore.exists_trace hcalm Host.restartAll hreachable
    obtain ⟨rfl, -⟩ := hall cs result h' hc
    exact ⟨cs, h', hc⟩

end Scene

/-- Three scripts are registered, of which two are wanted, and the emulation begins. -/
def Specimen.threeScripts (concurrent : Bool) : Session Specimen.dialect :=
  Specimen.calmSession concurrent [.registry (.add ⟨"a.py"⟩ true), .registry (.add ⟨"b.py"⟩ false),
    .registry (.add ⟨"c/a.py"⟩ true), .beginEmulation]

/-- The session can come about. -/
theorem Specimen.reachable_threeScripts (concurrent : Bool) :
    Scene.Reachable calmly concurrent ⟨threeScripts concurrent, [], .done ()⟩ :=
  reachable_calmSession concurrent _

/-- The two that run get the ids 3 and 4; the last one alone gets the id 3. -/
theorem Scene.Reachable.restart_loses_nobody_two_running :
    (∃ cs h', Host.restartAll.Trace Specimen.calmly (Specimen.threeScripts true).host cs
        (.ok ()) h' ∧ h'.registry.livePositions = [0, 2] ∧ h'.liveIds = [⟨3⟩, ⟨4⟩]) ∧
      ∃ cs h', (Host.restart (.index 2)).Trace Specimen.calmly (Specimen.threeScripts true).host cs
        (.ok ()) h' ∧ h'.status? 2 = some ⟨2, ⟨"c/a.py"⟩, true, some ⟨3⟩⟩ := by
  obtain ⟨hone, hall, hends⟩ := Scene.Reachable.restart_loses_nobody
    (Specimen.reachable_threeScripts true) ⟨rfl, rfl⟩
  have hgiven : (Specimen.threeScripts true).host.world.view.registeredIds = [⟨1⟩, ⟨2⟩] := by
    decide +kernel
  constructor
  · obtain ⟨cs, h', hc⟩ := hends Specimen.calm_calmly
    obtain ⟨-, hrestarted⟩ := hall cs _ h' hc
    have hlive : (Specimen.threeScripts true).host.registry.livePositions = [0, 2] := by
      decide +kernel
    have hcount : h'.liveIds.length = 2 := hrestarted.count.trans (congrArg List.length hlive)
    have hids : (Specimen.threeScripts true).host.Fresh h'.liveIds := hrestarted.fresh
    have hcontinued := hids.continued
    rw [hgiven, hcount] at hcontinued
    exact ⟨cs, h', hc, hrestarted.positions.trans hlive, List.append_cancel_left hcontinued⟩
  · obtain ⟨hlast, hlastEnds⟩ := hone (.index 2) 2 (by decide +kernel) (by decide +kernel)
    obtain ⟨cs, h', hc⟩ := hlastEnds Specimen.calm_calmly
    obtain ⟨-, hrestarted⟩ := hlast cs _ h' hc
    obtain ⟨id, hid, hstatus⟩ := hrestarted.restarted
    have hid : (Specimen.threeScripts true).host.Fresh [id] := hid
    have hcontinued := hid.continued
    rw [hgiven] at hcontinued
    obtain rfl : id = ⟨3⟩ := List.singleton_inj.mp (List.append_cancel_left hcontinued)
    have hbefore : (Specimen.threeScripts true).host.status? 2
        = some ⟨2, ⟨"c/a.py"⟩, true, some ⟨2⟩⟩ := by decide +kernel
    refine ⟨cs, h', hc, hstatus.trans ?_⟩
    exact congrArg _ hbefore

end ScriptHost
