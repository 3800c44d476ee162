import ScriptHost.Proofs.Traces
import ScriptHost.Proofs.Requests
import ScriptHost.Proofs.Directory

/-!
# New instances for old

Restarting a script leaves its entry where it stands and gives it a new instance: one
that comes after all there were before.  What a restart can come to is put down once
(`Registry.Restarted`), for every way a script can behave while it is being ended or
begun; what several restarts come to follows by induction (`Registry.Renews`).

* `Registry.Distinct.split` — an entry and the others, which have other paths;
* `Host.trace_restartAt` — what comes of restarting an entry;
* `Host.trace_restartAll` — what comes of restarting every script that has an instance;
* `Host.trace_remove_path`, `Host.trace_add` — what comes of removing an entry, and of
  adding one.
-/

namespace ScriptHost

variable {D : Dialect} {α β : Type} {I : Interpreter D} {concurrent : Bool}

/-- What passes a test is counted apart by another one. -/
theorem countP_apart (l : List α) (p q : α → Bool) :
    l.countP p = (l.countP fun a => q a && p a) + l.countP fun a => !q a && p a := by
  rw [List.countP_eq_length_filter, List.length_eq_countP_add_countP q, List.countP_filter,
    List.countP_filter]
  simp

/-- Whether nothing is left to be done for an entry: it names an instance, or none is
wanted. -/
def Entry.settled (started : Bool) (e : Entry) : Bool :=
  e.live.isSome || !(e.enabled && started)

namespace Registry

variable {r r' r'' : Registry D} {i n : Nat}

/-- A registered path is the same as that of an entry. -/
theorem contains_iff {p : Path} : r.contains p = true ↔ ∃ e ∈ r.entries, p.Same e.path := by
  simp [contains, position?, List.findIdx?_isSome]

/-- Whether a script is registered depends on what its path names only. -/
theorem contains_congr {p q : Path} (h : p.Same q) : r.contains p = r.contains q := by
  rw [Bool.eq_iff_iff, contains_iff, contains_iff]
  exact exists_congr fun e => and_congr_right fun _ => ⟨h.symm.trans, h.trans⟩

/-- The instance of the script at a path. -/
def instanceOf (r : Registry D) (p : Path) : Option Nat :=
  (r.position? p).bind r.live?

/-- Where an entry stands whose path is looked for, the others have other paths. -/
theorem Distinct.split (h : r.Distinct) {e : Entry} (he : r.entries[i]? = some e) :
    ∃ before rest, r.entries = before ++ e :: rest ∧ before.length = i ∧
      ∀ p : Path, p.Same e.path → ∀ e' ∈ before ++ rest, ¬ p.Same e'.path := by
  obtain ⟨hi, rfl⟩ := List.getElem?_eq_some_iff.mp he
  refine ⟨r.entries.take i, r.entries.drop (i + 1), ?_,
    by simp [Nat.min_eq_left (Nat.le_of_lt hi)], ?_⟩
  · rw [List.getElem_cons_drop, List.take_append_drop]
  · intro p hp e' he' hsame
    have hentries : r.entries = r.entries.take i ++ r.entries[i] :: r.entries.drop (i + 1) := by
      rw [List.getElem_cons_drop, List.take_append_drop]
    rw [Distinct, paths, hentries, List.map_append, List.map_cons, List.pairwise_append,
      List.pairwise_cons] at h
    obtain ⟨-, ⟨hafter, -⟩, hbefore⟩ := h
    rcases List.mem_append.mp he' with he' | he'
    · exact hbefore _ (List.mem_map_of_mem he') _ List.mem_cons_self (hsame.symm.trans hp)
    · exact hafter _ (List.mem_map_of_mem he') (hp.symm.trans hsame)

/-- In a registry without duplicates a script stands where its entry is. -/
theorem position?_eq (h : r.Distinct) {e : Entry} (he : r.entries[i]? = some e) {p : Path}
    (hp : p.Same e.path) : r.position? p = some i := by
  obtain ⟨before, rest, hentries, hlength, hothers⟩ := h.split he
  have hbefore : before.findIdx? (fun e => decide (p.Same e.path)) = none := by
    refine List.findIdx?_eq_none_iff.mpr fun e' he' => ?_
    simpa using hothers p hp e' (List.mem_append_left _ he')
  rw [position?, hentries, List.findIdx?_append, hbefore, List.findIdx?_cons,
    if_pos (by simpa using hp)]
  simp [hlength]

/-- The instance of a registered script is the one its entry names. -/
theorem instanceOf_eq (h : r.Distinct) {e : Entry} (he : e ∈ r.entries) {p : Path}
    (hp : p.Same e.path) : r.instanceOf p = e.live := by
  obtain ⟨i, he⟩ := List.getElem?_of_mem he
  simp [instanceOf, position?_eq h he hp, live?, he]

/-- A script that is not registered has no instance. -/
theorem instanceOf_eq_none {p : Path} (h : r.contains p = false) : r.instanceOf p = none := by
  have hnone : r.position? p = none := by simpa [contains] using h
  simp [instanceOf, hnone]

/-- What is registered under one path is counted once. -/
theorem Distinct.countP_same (h : r.Distinct) {e : Entry} (he : r.entries[i]? = some e) {p : Path}
    (hp : p.Same e.path) (q : Entry → Bool) :
    (r.entries.countP fun e => decide (p.Same e.path) && q e) = if q e then 1 else 0 := by
  obtain ⟨before, rest, hentries, -, hothers⟩ := h.split he
  have hnone : ∀ l ⊆ before ++ rest, (l.countP fun e => decide (p.Same e.path) && q e) = 0 := by
    intro l hl
    refine List.countP_eq_zero.mpr fun e' he' => ?_
    simp [hothers p hp e' (hl he')]
  rw [hentries, List.countP_append, List.countP_cons, hnone before (List.subset_append_left _ _),
    hnone rest (List.subset_append_right _ _)]
  simp [hp]

/-- What can come of instantiating the entry at a position, when the next instance has
the place `k`. -/
inductive Instantiated (r : Registry D) (i k : Nat) : Except RegistryError Unit → Registry D → Prop
  | missing (hnone : r.entries[i]? = none) : Instantiated r i k (.ok ()) r
  | refused (e : Entry) (live : Path) (he : r.entries[i]? = some e)
      (hblocker : r.blocker? i = some live) :
      Instantiated r i k (.error (.concurrentRejected e.path live)) r
  | born (hblocker : r.blocker? i = none) :
      Instantiated r i k (.ok ()) (r.countOn.setLive i (some k))

/-- What can come of restarting the entry at a position: it is left alone if no instance
is wanted, and otherwise it has an instance of at least the place `n` afterwards, or was
refused one. -/
inductive Restarted (r : Registry D) (i n : Nat) : Except RegistryError Unit → Registry D → Prop
  | spared (hunwanted : ∀ e, r.entries[i]? = some e →
      e.live = none ∧ (e.enabled = true → r.started = false)) : Restarted r i n (.ok ()) r
  | refused (e : Entry) (error : RegistryError) (he : r.entries[i]? = some e)
      (hlive : e.live = none) (hwanted : e.enabled = true ∧ r.started = true) :
      Restarted r i n (.error error) r
  | renewed (k : Nat) (hk : n ≤ k) : Restarted r i n (.ok ()) (r.countOn.setLive i (some k))

/-- Entries that are restarted have a new instance, if they had one; the others are as
they were.  New are the instances from the place `n` on. -/
structure Renews (n : Nat) (touched : Nat → Prop) (r r' : Registry D) : Prop where
  started : r'.started = r.started
  concurrent : r'.concurrent = r.concurrent
  flags : r'.flags = r.flags
  untouched : ∀ i, ¬ touched i → r'.entries[i]? = r.entries[i]?
  renewed : ∀ i k, touched i → r.live? i = some k → ∃ k', n ≤ k' ∧ r'.live? i = some k'

/-- Where nothing is touched nothing is renewed. -/
theorem Renews.refl (n : Nat) (touched : Nat → Prop) (r : Registry D) (hnone : ∀ i, ¬ touched i) :
    r.Renews n touched r :=
  ⟨rfl, rfl, rfl, fun _ _ => rfl, fun i _ hi => absurd hi (hnone i)⟩

/-- What is renewed first and what is renewed then is renewed. -/
theorem Renews.trans {touched touched' : Nat → Prop} (h : r.Renews n touched r')
    (h' : r'.Renews n touched' r'') : r.Renews n (fun i => touched i ∨ touched' i) r'' := by
  refine ⟨h'.started.trans h.started, h'.concurrent.trans h.concurrent, h'.flags.trans h.flags,
    fun i hi => ?_, fun i k hi hk => ?_⟩
  · obtain ⟨hfirst, hsecond⟩ := not_or.mp hi
    exact (h'.untouched i hsecond).trans (h.untouched i hfirst)
  · by_cases hfirst : touched i
    · obtain ⟨k₁, hk₁, hlive⟩ := h.renewed i k hfirst hk
      by_cases hsecond : touched' i
      · exact h'.renewed i k₁ hsecond hlive
      · exact ⟨k₁, hk₁, by rw [live?, h'.untouched i hsecond]; exact hlive⟩
    · have hsecond : touched' i := hi.resolve_left hfirst
      refine h'.renewed i k hsecond ?_
      rw [live?, h.untouched i hfirst]
      exact hk

/-- It only matters which positions are touched. -/
theorem Renews.mono {touched touched' : Nat → Prop} (h : r.Renews n touched r')
    (hiff : ∀ i, touched i ↔ touched' i) : r.Renews n touched' r' := by
  obtain rfl : touched = touched' := funext fun i => propext (hiff i)
  exact h

/-- Whoever is restarted is renewed. -/
theorem Restarted.renews {result : Except RegistryError Unit} (h : r.Restarted i n result r') :
    r.Renews n (· = i) r' := by
  cases h with
  | spared hunwanted =>
    refine ⟨rfl, rfl, rfl, fun _ _ => rfl, ?_⟩
    rintro j k rfl hk
    obtain ⟨e, he, hlive⟩ := Option.bind_eq_some_iff.mp hk
    rw [(hunwanted e he).1] at hlive
    cases hlive
  | refused e _ he hlive _ =>
    refine ⟨rfl, rfl, rfl, fun _ _ => rfl, ?_⟩
    rintro j k rfl hk
    simp [live?, he, hlive] at hk
  | renewed k hk =>
    refine ⟨rfl, rfl, (resembles_setLive r.countOn i (some k)).flags, fun j hj => ?_, ?_⟩
    · exact getElem?_modifyEntry_of_ne r.countOn (Ne.symm hj) _
    · rintro j k₀ rfl hk₀
      obtain ⟨e, he, -⟩ := Option.bind_eq_some_iff.mp hk₀
      refine ⟨k, hk, ?_⟩
      have he : r.countOn.entries[j]? = some e := he
      simp [live?, setLive, getElem?_modifyEntry, he]

/-- A restart succeeds where nothing is left to be done. -/
theorem Restarted.settled {result : Except RegistryError Unit} (h : r.Restarted i n result r')
    {e' : Entry} (he' : r'.entries[i]? = some e') :
    e'.settled r'.started = true ↔ result = .ok () := by
  cases h with
  | spared hunwanted =>
    obtain ⟨-, hstopped⟩ := hunwanted e' he'
    cases henabled : e'.enabled with
    | false => simp [Entry.settled, henabled]
    | true => simp [Entry.settled, hstopped henabled]
  | refused e _ he hlive hwanted =>
    obtain rfl := Option.some.inj (he.symm.trans he')
    simp [Entry.settled, hlive, hwanted.1, hwanted.2]
  | renewed k hk =>
    rw [setLive, getElem?_modifyEntry] at he'
    obtain ⟨e, -, rfl⟩ := Option.map_eq_some_iff.mp he'
    simp [Entry.settled]

end Registry

namespace Host

/-! ## The parts -/

/-- A report leaves the registry as it was. -/
theorem trace_report {h h' : Host D} {n : RegistryNotice} {cs : List (Config D)} {u : Unit}
    (hc : (report n).Trace I h cs u h') : h'.registry = h.registry := by
  obtain ⟨-, w, rfl⟩ := Chore.Trace.order_done hc
  rfl

/-- A change of the registry is all that happens. -/
theorem trace_modifyRegistry {h h' : Host D} {f : Registry D → Registry D} {cs : List (Config D)}
    {u : Unit} (hc : (modifyRegistry f).Trace I h cs u h') :
    h' = { h with registry := f h.registry } :=
  hc.change

/-- Ending the instance of an entry takes it off the entry. -/
theorem trace_destroy {h h' : Host D} {i : Nat} {cs : List (Config D)} {u : Unit}
    (hc : (destroy i).Trace I h cs u h') : h'.registry = h.registry.setLive i none := by
  have hc := hc.state
  split at hc
  · next hlive =>
    obtain ⟨-, rfl⟩ := hc.pure
    exact (Registry.setLive_of_none hlive).symm
  · obtain ⟨_, _, h₁, _, -, hset, hend⟩ := hc.bind
    obtain ⟨-, w, rfl⟩ := Chore.Trace.order_done hend
    rw [trace_modifyRegistry hset]
    rfl

/-- What becomes of an entry that is to get an instance. -/
theorem trace_instantiate {h h' : Host D} {i : Nat} {cs : List (Config D)}
    {result : Except RegistryError Unit} (hc : (instantiate i).Trace I h cs result h') :
    h.registry.Instantiated i h.world.instances.length result h'.registry := by
  have hc := hc.state
  dsimp only at hc
  split at hc
  · next hnone =>
    obtain ⟨rfl, rfl⟩ := hc.pure
    exact .missing hnone
  · next e he =>
    split at hc
    · next live hblocker =>
      obtain ⟨_, _, h₁, _, -, hreport, hdone⟩ := hc.bind
      obtain ⟨rfl, rfl⟩ := hdone.pure
      rw [trace_report hreport]
      exact .refused e live he hblocker
    · next hblocker =>
      obtain ⟨_, _, h₁, _, -, hcount, hc⟩ := hc.bind
      obtain rfl := trace_modifyRegistry hcount
      obtain ⟨_, k, h₂, _, -, hspawn, hc⟩ := hc.bind
      obtain ⟨rfl, w, rfl⟩ := Chore.Trace.order_done hspawn.state
      obtain ⟨_, _, h₃, _, -, hset, hdone⟩ := hc.bind
      obtain ⟨rfl, rfl⟩ := hdone.pure
      rw [trace_modifyRegistry hset]
      exact .born hblocker

end Host

namespace Registry

variable {r r' : Registry D} {i k n : Nat}

/-- Only the last instance given to an entry counts. -/
theorem setLive_setLive (r : Registry D) (i : Nat) (live live' : Option Nat) :
    (r.setLive i live).setLive i live' = r.setLive i live' := by
  simp only [setLive, modifyEntry, List.modify_modify_eq]
  rfl

/-- What comes of ending the instance of an entry and instantiating the entry again, where
an instance is wanted. -/
theorem Instantiated.restarted {result : Except RegistryError Unit}
    (h : (r.setLive i none).Instantiated i k result r') (hk : n ≤ k) {e : Entry}
    (he : r.entries[i]? = some e) (hwanted : e.enabled = true ∧ r.started = true)
    (hblocker : e.live ≠ none → (r.setLive i none).blocker? i = none) :
    r.Restarted i n result r' := by
  cases h with
  | missing hnone =>
    rw [setLive, getElem?_modifyEntry, he] at hnone
    cases hnone
  | born =>
    have hsame : (r.setLive i none).countOn.setLive i (some k) = r.countOn.setLive i (some k) :=
      setLive_setLive r.countOn i none (some k)
    rw [hsame]
    exact .renewed k hk
  | refused e' live _ hrefused =>
    have hlive : e.live = none := by
      by_contra hsome
      rw [hblocker hsome] at hrefused
      cases hrefused
    rw [setLive_of_none (by simp [live?, he, hlive])]
    exact .refused e _ he hlive hwanted

end Registry

/-- Nobody keeps an entry from starting where no instance is named. -/
theorem Registry.blocker?_eq_none {r : Registry D} (h : r.lives = []) (i : Nat) :
    r.blocker? i = none := by
  have hnone : r.livePositions = [] := by
    refine List.filter_eq_nil_iff.mpr fun j _ => ?_
    cases he : r.entries[j]? with
    | none => simp
    | some e =>
      have hlive := List.filterMap_eq_nil_iff.mp h e (List.mem_of_getElem? he)
      simp [hlive]
  simp [blocker?, hnone]

namespace Host

/-- An entry that has an instance may have another one in its place. -/
theorem WellKept.blocker?_setLive {h : Host D} (hh : h.WellKept I concurrent) {i k : Nat}
    (hlive : h.registry.live? i = some k) : (h.registry.setLive i none).blocker? i = none := by
  cases hconcurrent : concurrent with
  | true =>
    have hmode : (h.registry.setLive i none).concurrent = true := hh.tidy.mode.trans hconcurrent
    simp [Registry.blocker?, hmode]
  | false =>
    have hlives := Registry.lives_setLive_none hlive
    have hlength : h.registry.lives.length ≤ 1 :=
      hh.tidy.lives.length_eq ▸ hh.tidy.single hconcurrent
    rw [← hlives.length_eq, List.length_cons] at hlength
    exact Registry.blocker?_eq_none (List.eq_nil_of_length_eq_zero (by omega)) i

/-- **Every trace of a restart** restarts that entry. -/
theorem trace_restartAt {h h' : Host D} (hh : h.WellKept I concurrent) {i n : Nat}
    (hn : n ≤ h.world.instances.length) {cs : List (Config D)} {result : Except RegistryError Unit}
    (hc : (restartAt i).Trace I h cs result h') :
    h.registry.Restarted i n result h'.registry := by
  have hc := hc.state
  split at hc
  · next hnone =>
    obtain ⟨rfl, rfl⟩ := hc.pure
    exact .spared fun e he => by simp [hnone] at he
  · next e he =>
    have hfits := hh.inStep i e he List.not_mem_nil
    have hunwanted : (e.enabled = true → h.registry.started = false) → e.live = none := by
      intro hnot
      by_contra hlive
      obtain ⟨henabled, hstarted⟩ := hfits.wanted (Option.isSome_iff_ne_none.mpr hlive)
      simp [hnot henabled] at hstarted
    split at hc
    · next henabled =>
      obtain ⟨_, _, h₁, _, -, hdestroyed, hc⟩ := hc.bind
      have hgrown : n ≤ h₁.world.instances.length := hn.trans hdestroyed.length_instances
      have hregistry := trace_destroy hdestroyed
      have hc := hc.state
      split at hc
      · next hstarted =>
        have hstarted : h.registry.started = true := by rwa [hregistry] at hstarted
        have hmade := trace_instantiate hc
        rw [hregistry] at hmade
        refine hmade.restarted hgrown he ⟨henabled, hstarted⟩ fun hlive => ?_
        obtain ⟨k, hk⟩ := Option.ne_none_iff_exists'.mp hlive
        exact hh.blocker?_setLive (k := k) (by simp [Registry.live?, he, hk])
      · next hstopped =>
        obtain ⟨rfl, rfl⟩ := hc.pure
        have hnot : h.registry.started = false := by
          rw [hregistry] at hstopped
          exact Bool.eq_false_iff.mpr hstopped
        have hnone := hunwanted fun _ => hnot
        rw [hregistry, Registry.setLive_of_none (by simp [Registry.live?, he, hnone])]
        refine .spared fun e' he' => ?_
        obtain rfl := Option.some.inj (he.symm.trans he')
        exact ⟨hnone, fun _ => hnot⟩
    · next hdisabled =>
      obtain ⟨_, _, h₁, _, -, hreport, hdone⟩ := hc.bind
      obtain ⟨rfl, rfl⟩ := hdone.pure
      rw [trace_report hreport]
      refine .spared fun e' he' => ?_
      obtain rfl := Option.some.inj (he.symm.trans he')
      have hnot : e.enabled = true → h.registry.started = false := fun h => absurd h hdisabled
      exact ⟨hunwanted hnot, hnot⟩

/-- What a chore keeps, it keeps on every trace. -/
theorem WellKept.of_trace {c : Chore D (Host D) α} {h h' : Host D} {cs : List (Config D)} {a : α}
    (hh : h.WellKept I concurrent) (hkeeps : Upholds I concurrent c) (hc : c.Trace I h cs a h') :
    h'.WellKept I concurrent :=
  hc.of_ensures (hkeeps h hh)

/-- **Restarting all** renews every instance there is. -/
theorem trace_attemptAll_restartAt {h h' : Host D} (hh : h.WellKept I concurrent) {n : Nat}
    (hn : n ≤ h.world.instances.length) {l : List Nat} {cs : List (Config D)}
    {result : Except RegistryError Unit} (hc : (attemptAll restartAt l).Trace I h cs result h') :
    h.registry.Renews n (· ∈ l) h'.registry := by
  induction l generalizing h cs result with
  | nil =>
    obtain ⟨-, rfl⟩ := hc.pure
    exact .refl n _ _ fun _ => List.not_mem_nil
  | cons i rest ih =>
    obtain ⟨_, first, h₁, _, -, hfirst, hc⟩ := hc.bind
    have hh₁ := hh.of_trace (upholds_restartAt i) hfirst
    have hn₁ := hn.trans hfirst.length_instances
    have hrenewed := (trace_restartAt hh hn hfirst).renews
    have hlater : h₁.registry.Renews n (· ∈ rest) h'.registry := by
      cases first with
      | ok => exact ih hh₁ hn₁ hc
      | error e =>
        obtain ⟨_, _, h₂, _, -, hreport, hc⟩ := hc.bind
        obtain ⟨_, _, h₃, _, -, hall, hdone⟩ := hc.bind
        obtain ⟨-, rfl⟩ := hdone.pure
        rw [← trace_report hreport]
        exact ih (hh₁.of_trace (upholds_report _) hreport)
          (hn₁.trans hreport.length_instances) hall
    exact (hrenewed.trans hlater).mono fun j => List.mem_cons.symm

/-- **Every trace of restarting everybody** renews the entries with an instance. -/
theorem trace_restartAll {h h' : Host D} (hh : h.WellKept I concurrent) {cs : List (Config D)}
    {result : Except RegistryError Unit} (hc : restartAll.Trace I h cs result h') :
    h.registry.Renews h.world.instances.length (· ∈ h.registry.livePositions) h'.registry := by
  have hc := hc.state
  obtain ⟨_, _, h₁, _, -, hreport, hc⟩ := hc.bind
  have hall := trace_attemptAll_restartAt (hh.of_trace (upholds_report _) hreport)
    hreport.length_instances hc
  rwa [trace_report hreport] at hall

/-- Restarting a registered script restarts its entry. -/
theorem trace_restart_path {h h' : Host D} (hh : h.WellKept I concurrent) {n : Nat}
    (hn : n ≤ h.world.instances.length) {p : Path} {cs : List (Config D)}
    {result : Except RegistryError Unit} (hc : (restart (.path p)).Trace I h cs result h')
    {i : Nat} (hi : h.registry.position? p = some i) :
    h.registry.Restarted i n result h'.registry := by
  have hc := hc.state
  simp only [Registry.resolve, hi] at hc
  exact trace_restartAt hh hn hc

/-- **Removing** a registered script takes its entry out, and leaves the others as they
are. -/
theorem trace_remove_path {h h' : Host D} {p : Path} {cs : List (Config D)}
    {result : Except RegistryError Path} (hc : (remove (.path p)).Trace I h cs result h')
    {i : Nat} (hi : h.registry.position? p = some i) :
    h'.registry = { h.registry with entries := h.registry.entries.eraseIdx i } ∧
      ∃ q, result = .ok q := by
  have hc := hc.state
  simp only [Registry.resolve, hi] at hc
  obtain ⟨_, _, h₁, _, -, hdestroyed, hc⟩ := hc.bind
  have hregistry := trace_destroy hdestroyed
  have hc := hc.state
  obtain ⟨hlt, -, -⟩ := List.findIdx?_eq_some_iff_getElem.mp hi
  split at hc
  · next hnone =>
    rw [hregistry, Registry.setLive, Registry.getElem?_modifyEntry,
      List.getElem?_eq_getElem hlt] at hnone
    cases hnone
  · next e he =>
    obtain ⟨_, _, h₂, _, -, herased, hc⟩ := hc.bind
    obtain rfl := trace_modifyRegistry herased
    obtain ⟨_, _, h₃, _, -, hreport, hdone⟩ := hc.bind
    obtain ⟨rfl, rfl⟩ := hdone.pure
    refine ⟨?_, _, rfl⟩
    rw [trace_report hreport, hregistry, Registry.setLive, Registry.modifyEntry]
    simp only [List.eraseIdx_modify_of_eq]

/-- **Adding** an unknown script appends its entry; it succeeds where nothing is left to be
done for it. -/
theorem trace_add {h h' : Host D} {p : Path} {enabled : Bool} {cs : List (Config D)}
    {result : Except RegistryError Nat} (hc : (add p enabled).Trace I h cs result h')
    (hunknown : h.registry.contains p = false) :
    ∃ live, h'.registry.entries = h.registry.entries ++ [⟨p, enabled, live⟩] ∧
      h'.registry.started = h.registry.started ∧
      h'.registry.concurrent = h.registry.concurrent ∧
      ((⟨p, enabled, live⟩ : Entry).settled h.registry.started = true ↔ ∃ i, result = .ok i) := by
  have hc := hc.state
  rw [if_neg (by simp [hunknown])] at hc
  obtain ⟨_, _, h₁, _, -, hreport, hc⟩ := hc.bind
  have hregistry := trace_report hreport
  obtain ⟨_, _, h₂, _, -, hadded, hc⟩ := hc.bind
  obtain rfl := trace_modifyRegistry hadded
  split at hc
  · next hwanted =>
    obtain ⟨henabled, hstarted⟩ := Bool.and_eq_true_iff.mp hwanted
    obtain ⟨_, made, h₃, _, -, hmade, hdone⟩ := hc.bind
    obtain ⟨rfl, rfl⟩ := hdone.pure
    have hmade := trace_instantiate hmade
    have hentry : (h.registry.entries ++ [(⟨p, enabled, none⟩ : Entry)])[h.registry.entries.length]?
        = some ⟨p, enabled, none⟩ := List.getElem?_concat_length
    rw [hregistry] at hmade
    generalize h'.registry = r' at hmade
    cases hmade with
    | missing hnone =>
      rw [hentry] at hnone
      cases hnone
    | refused e live he hblocker =>
      refine ⟨none, rfl, rfl, rfl, ?_⟩
      simp [Entry.settled, henabled, hstarted, Except.map]
    | born hblocker =>
      refine ⟨some h₁.world.instances.length, ?_, rfl, rfl, ?_⟩
      · simp [Registry.setLive, Registry.modifyEntry, Registry.countOn, List.modify_eq_take_drop]
      · simp [Entry.settled, Except.map]
  · next hunwanted =>
    obtain ⟨rfl, rfl⟩ := hc.pure
    refine ⟨none, by simp [hregistry], by simp [hregistry], by simp [hregistry], ?_⟩
    simpa [Entry.settled, imp_iff_not_or] using hunwanted

end Host

end ScriptHost
