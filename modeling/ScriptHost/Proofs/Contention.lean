import ScriptHost.Proofs.Restarts

/-!
# One script may run

Where only one script may run, starting the registry tries every wanted script and lets in
one: whoever runs already, or else the first (`Registry.winner?`).  The others are turned
away one by one, each with a report and nothing else, and the first of these refusals is
the result.

* `Host.onlyReports_attemptAll` — those who are all turned away;
* `Host.trace_startAll_single` — what starting the registry comes to;
* `Scene.Reachable.start_picks_one` — the same, said of the entries.
-/

namespace ScriptHost

variable {D : Dialect} {I : Interpreter D}

/-! ## Nothing but notices -/

theorem World.Heard.refl (w : World D) : w.Heard w :=
  ⟨[], rfl⟩

/-- Notices may be followed by notices. -/
theorem World.Heard.trans {w w' w'' : World D} (h : w.Heard w') (h' : w'.Heard w'') :
    w.Heard w'' := by
  obtain ⟨notices, rfl⟩ := h
  obtain ⟨later, rfl⟩ := h'
  exact ⟨later ++ notices, by simp⟩

/-- The refusal of the entry at a position, where there is one, because of the script at a
path. -/
def Registry.refusal (r : Registry D) (live : Path) (i? : Option Nat) : Except RegistryError Unit :=
  match i?.bind (r.paths[·]?) with
  | some requested => .error (.concurrentRejected requested live)
  | none => .ok ()

namespace Host

variable {α β : Type} {h h' : Host D} {r r' : Registry D} {i : Nat} {live : Path} {l : List Nat}

/-- A chore comes to a result and leaves a registry, and nothing but reports is made. -/
def OnlyReports (I : Interpreter D) (c : Chore D (Host D) α) (h : Host D) (a : α)
    (r : Registry D) : Prop :=
  ∃ cs w, c.Trace I h cs a ⟨w, r⟩ ∧ h.world.Heard w ∧ ∀ c ∈ cs, c.Reports

/-- A chore that can be done so can be done in no other way. -/
theorem OnlyReports.of_trace {c : Chore D (Host D) α} {a b : α} {cs : List (Config D)}
    (hquiet : OnlyReports I c h a r) (hc : c.Trace I h cs b h') :
    b = a ∧ h'.registry = r ∧ h.world.Heard h'.world ∧ ∀ c ∈ cs, c.Reports := by
  obtain ⟨_, w, htrace, hheard, hreports⟩ := hquiet
  obtain ⟨rfl, rfl, rfl⟩ := hc.unique htrace
  exact ⟨rfl, rfl, hheard, hreports⟩

/-- A chore that does nothing reports nothing. -/
theorem onlyReports_pure (a : α) (h : Host D) : OnlyReports I (pure a) h a h.registry :=
  ⟨[], h.world, .done a h, .refl _, by simp⟩

/-- A chore that looks at the state first only reports if it does so from there. -/
theorem onlyReports_state {f : Host D → Chore D (Host D) β} {b : β}
    (hf : OnlyReports I (f h) h b r) : OnlyReports I (.state >>= f) h b r := by
  obtain ⟨cs, w, hc, hquiet⟩ := hf
  exact ⟨cs, w, Chore.Trace.looking hc, hquiet⟩

/-- Two chores in turn only report if each does. -/
theorem onlyReports_bind {c : Chore D (Host D) α} {f : α → Chore D (Host D) β} {a : α} {b : β}
    (hc : OnlyReports I c h a r) (hf : ∀ w, OnlyReports I (f a) ⟨w, r⟩ b r') :
    OnlyReports I (c >>= f) h b r' := by
  obtain ⟨cs₁, w₁, hfirst, hheard₁, hreports₁⟩ := hc
  obtain ⟨cs₂, w₂, hrest, hheard₂, hreports₂⟩ := hf w₁
  refine ⟨cs₁ ++ cs₂, w₂, hfirst.followed hrest, hheard₁.trans hheard₂, fun c hc => ?_⟩
  rcases List.mem_append.mp hc with hc | hc
  · exact hreports₁ c hc
  · exact hreports₂ c hc

/-- A change of the registry brings nobody into being and ends nobody. -/
theorem onlyReports_modifyRegistry (f : Registry D → Registry D) (h : Host D) :
    OnlyReports I (modifyRegistry f) h () (f h.registry) :=
  ⟨[], h.world, .keep (.done () _), .refl _, by simp⟩

theorem onlyReports_notice (n : Notice) (h : Host D) :
    OnlyReports I (.report n) h () h.registry := by
  have hobeyed : Config.Trace I ⟨h.world, [.handler (.report n)]⟩
      [⟨h.world, [.handler (.report n)]⟩, ⟨h.world.log n, [.handler (.ret ())]⟩]
      ⟨h.world.log n, []⟩ :=
    .cons rfl (.cons rfl (.nil _))
  refine ⟨_, _, .order hobeyed (.done () _), h.world.heard_log _, ?_⟩
  rw [List.append_nil]
  exact hobeyed.of_report.2

/-- A notice is a report. -/
theorem onlyReports_report (n : RegistryNotice) (h : Host D) :
    OnlyReports I (report n) h () h.registry :=
  onlyReports_notice (.registry n) h

/-- A script is turned away, whatever scripts do. -/
theorem onlyReports_instantiate {e : Entry} (he : h.registry.entries[i]? = some e)
    (hblocker : h.registry.blocker? i = some live) :
    OnlyReports I (instantiate i) h (.error (.concurrentRejected e.path live)) h.registry := by
  refine onlyReports_state ?_
  simp only [he, hblocker]
  exact onlyReports_bind (onlyReports_report _ h) fun w => onlyReports_pure _ ⟨w, h.registry⟩

/-- **Whoever is tried is turned away**, where another script runs: the first of them is
the result, and nothing but reports is left. -/
theorem onlyReports_attemptAll
    (hl : ∀ i ∈ l, (∃ e, h.registry.entries[i]? = some e) ∧ h.registry.blocker? i = some live) :
    OnlyReports I (attemptAll instantiate l) h (h.registry.refusal live l.head?) h.registry := by
  induction l generalizing h with
  | nil => exact onlyReports_pure _ h
  | cons i rest ih =>
    obtain ⟨⟨⟨e, he⟩, hblocker⟩, hrest⟩ := List.forall_mem_cons.mp hl
    have hfirst : h.registry.refusal live (i :: rest).head?
        = .error (.concurrentRejected e.path live) := by
      simp [Registry.refusal, Registry.paths, he]
    rw [hfirst]
    -- he is turned away, the failure is reported, and the others are tried
    refine onlyReports_bind (onlyReports_instantiate he hblocker) fun w₁ => ?_
    refine onlyReports_bind (onlyReports_report _ ⟨w₁, h.registry⟩) fun w₂ => ?_
    refine onlyReports_bind (ih (h := ⟨w₂, h.registry⟩) hrest) fun w₃ => ?_
    exact onlyReports_pure _ ⟨w₃, h.registry⟩

end Host

/-! ## Who is let in -/

namespace Registry

/-- The positions of the wanted entries that have no instance. -/
def pending (r : Registry D) : List Nat :=
  r.positions fun e => e.enabled && e.live.isNone

/-- Who is to run where only one script may: whoever runs already, or else the first that
is wanted. -/
def winner? (r : Registry D) : Option Nat :=
  (r.livePositions ++ r.positions Entry.enabled).head?

/-- The first other one that is wanted. -/
def runnerUp? (r : Registry D) : Option Nat :=
  (r.positions Entry.enabled).find? fun i => r.winner? ≠ some i

/-- What starting such a registry comes to: the first other one is turned away. -/
def verdict (r : Registry D) : Except RegistryError Unit :=
  match r.winner?.bind (r.paths[·]?) with
  | some live => r.refusal live r.runnerUp?
  | none => .ok ()

variable {r : Registry D} {i w : Nat} {e : Entry}

/-- Whoever is pending is wanted, and does not run. -/
theorem pending_eq (r : Registry D) :
    r.pending = (r.positions Entry.enabled).filter (· ∉ r.livePositions) := by
  rw [pending, positions, positions, List.filter_filter]
  refine List.filter_congr fun i _ => ?_
  have hlive : (i ∉ r.livePositions) ↔ (r.live? i).isNone = true := by
    rw [mem_livePositions, Option.isNone_iff_eq_none, Option.not_isSome_iff_eq_none]
  cases he : r.entries[i]? with
  | none => simp
  | some e =>
    have hnone : (r.live? i).isNone = e.live.isNone := by simp [live?, he]
    rw [hnone] at hlive
    simp only [hlive, Option.any_some, Bool.decide_eq_true]
    exact Bool.and_comm ..

/-- The first other one is the first of those who are left without the winner. -/
theorem runnerUp?_eq (r : Registry D) :
    r.runnerUp? = ((r.positions Entry.enabled).filter fun i => r.winner? ≠ some i).head? :=
  (List.head?_filter ..).symm

/-- Whoever runs is in the way of all others. -/
theorem blocker?_of_live (hmode : r.concurrent = false) (hlive : r.livePositions = [w])
    (he : r.entries[w]? = some e) (hi : i ≠ w) : r.blocker? i = some e.path := by
  have hfound : r.livePositions.find? (· ≠ i) = some w := by
    rw [hlive]
    simp [Ne.symm hi]
  rw [blocker?, hmode, hfound]
  simp [he]

/-- Whoever runs already is the one that will. -/
theorem winner?_of_live (hlive : r.livePositions = [w]) : r.winner? = some w := by
  simp [winner?, hlive]

/-- Where nobody runs the first one wanted wins. -/
theorem winner?_of_first {rest : List Nat} (hlive : r.livePositions = [])
    (hwanted : r.positions Entry.enabled = w :: rest) : r.winner? = some w := by
  simp [winner?, hlive, hwanted]

/-- Where somebody runs, the first of those who are pending is turned away. -/
theorem verdict_of_live (hlive : r.livePositions = [w]) (he : r.entries[w]? = some e) :
    r.verdict = r.refusal e.path r.pending.head? := by
  have hrunnerUp : r.runnerUp? = r.pending.head? := by
    rw [runnerUp?_eq, pending_eq, winner?_of_live hlive, hlive]
    simp [eq_comm]
  simp [verdict, winner?_of_live hlive, paths, he, hrunnerUp]

/-- Where nobody runs, the second who is wanted is turned away. -/
theorem verdict_of_first {rest : List Nat} (hlive : r.livePositions = [])
    (hwanted : r.positions Entry.enabled = w :: rest) (he : r.entries[w]? = some e) :
    r.verdict = r.refusal e.path rest.head? := by
  have hwinner := winner?_of_first hlive hwanted
  have hnodup := r.nodup_positions Entry.enabled
  rw [hwanted, List.nodup_cons] at hnodup
  have hleft : (w :: rest).filter (fun i => r.winner? ≠ some i) = rest := by
    rw [List.filter_cons_of_neg (by simp [hwinner]), List.filter_eq_self]
    intro i hi
    have hne : w ≠ i := fun heq => hnodup.1 (heq ▸ hi)
    simp [hwinner, hne]
  have hrunnerUp : r.runnerUp? = rest.head? := by rw [runnerUp?_eq, hwanted, hleft]
  simp [verdict, hwinner, paths, he, hrunnerUp]

/-- The winner is one of the wanted ones, if whoever runs is wanted. -/
theorem mem_of_winner? (hwanted : ∀ i ∈ r.livePositions, i ∈ r.positions Entry.enabled)
    (hw : r.winner? = some w) : w ∈ r.positions Entry.enabled := by
  rcases List.mem_append.mp (List.mem_of_mem_head? hw) with hmem | hmem
  · exact hwanted w hmem
  · exact hmem

/-- Nobody wins if nobody is wanted. -/
theorem winner?_eq_none_iff (hwanted : ∀ i ∈ r.livePositions, i ∈ r.positions Entry.enabled) :
    r.winner? = none ↔ ∀ e ∈ r.entries, e.enabled = false := by
  rw [winner?, List.head?_eq_none_iff, List.append_eq_nil_iff]
  constructor
  · rintro ⟨-, hnone⟩ e he
    obtain ⟨i, hi⟩ := List.getElem?_of_mem he
    by_contra henabled
    have hmem : i ∈ r.positions Entry.enabled := mem_positions.mpr ⟨e, hi, by simpa using henabled⟩
    simp [hnone] at hmem
  · intro hall
    have hnone : r.positions Entry.enabled = [] := by
      refine List.eq_nil_iff_forall_not_mem.mpr fun i hi => ?_
      obtain ⟨e, he, henabled⟩ := mem_positions.mp hi
      simp [hall e (List.mem_of_getElem? he)] at henabled
    refine ⟨List.eq_nil_iff_forall_not_mem.mpr fun i hi => ?_, hnone⟩
    have hmem := hwanted i hi
    simp [hnone] at hmem

/-- Whoever wins is registered. -/
theorem exists_entry_of_winner? (hw : r.winner? = some w) : ∃ e, r.entries[w]? = some e := by
  have hmem := List.mem_append.mp (List.mem_of_mem_head? hw)
  rcases hmem with hmem | hmem
  all_goals
    obtain ⟨e, he, -⟩ := mem_positions.mp hmem
    exact ⟨e, he⟩

/-- Where two scripts are wanted, one of them is turned away. -/
theorem exists_of_verdict (hmany : 2 ≤ (r.positions Entry.enabled).length) :
    ∃ w p winner loser, r.winner? = some w ∧ r.runnerUp? = some p ∧
      r.entries[w]? = some winner ∧ r.entries[p]? = some loser ∧
      r.verdict = .error (.concurrentRejected loser.path winner.path) := by
  obtain ⟨a, b, rest, hwanted⟩ : ∃ a b rest, r.positions Entry.enabled = a :: b :: rest :=
    match hlist : r.positions Entry.enabled with
    | [] | [_] => by simp [hlist] at hmany
    | a :: b :: rest => ⟨a, b, rest, rfl⟩
  obtain ⟨w, hw⟩ : ∃ w, r.winner? = some w := by
    rw [← Option.isSome_iff_exists, winner?, hwanted, List.isSome_head?]
    simp
  have hab : a ≠ b := by
    have hnodup := r.nodup_positions Entry.enabled
    rw [hwanted] at hnodup
    exact fun heq => (List.nodup_cons.mp hnodup).1 (by simp [heq])
  -- of two who are wanted, one is not the winner
  obtain ⟨p, hp⟩ : ∃ p, r.runnerUp? = some p := by
    rw [← Option.isSome_iff_exists, runnerUp?, List.find?_isSome, hwanted, hw]
    by_cases ha : a = w
    · exact ⟨b, by simp, by simpa [← ha] using hab⟩
    · exact ⟨a, by simp, by simpa using Ne.symm ha⟩
  obtain ⟨winner, hwinner⟩ := exists_entry_of_winner? hw
  obtain ⟨loser, hloser, -⟩ := mem_positions.mp (List.mem_of_find?_eq_some hp)
  exact ⟨w, p, winner, loser, hw, hp, hwinner, hloser, by
    simp [verdict, hw, hp, paths, hwinner, hloser, refusal]⟩

/-- Where no more than one is wanted, nobody is turned away. -/
theorem verdict_eq_ok (hwanted : ∀ i ∈ r.livePositions, i ∈ r.positions Entry.enabled)
    (hfew : (r.positions Entry.enabled).length ≤ 1) : r.verdict = .ok () := by
  cases hw : r.winner? with
  | none => simp [verdict, hw]
  | some w =>
    obtain ⟨e, he⟩ := exists_entry_of_winner? hw
    -- the only one who is wanted is the winner
    have hnone : r.runnerUp? = none := by
      refine List.find?_eq_none.mpr fun i hi => ?_
      have honly : i = w := by
        match hlist : r.positions Entry.enabled with
        | [] => simp [hlist] at hi
        | [a] =>
          have hmem := mem_of_winner? hwanted hw
          rw [hlist, List.mem_singleton] at hi hmem
          rw [hi, hmem]
        | _ :: _ :: _ => simp [hlist] at hfew
      simp [hw, honly]
    simp [verdict, hw, paths, he, hnone, refusal]

/-- Where nobody runs, an entry that gets an instance is the only one that has one. -/
theorem livePositions_setLive (hlive : r.livePositions = []) (he : r.entries[w]? = some e)
    (k : Nat) :
    (r.countOn.setLive w (some k)).livePositions = [w] := by
  have hmem : ∀ i, i ∈ (r.countOn.setLive w (some k)).livePositions ↔ i ∈ [w] := by
    intro i
    rw [mem_livePositions, List.mem_singleton]
    by_cases hi : i = w
    · simp [hi, r.live?_setLive he k]
    · have hnone : ¬ (r.live? i).isSome = true := by
        rw [← mem_livePositions, hlive]
        exact List.not_mem_nil
      have hsame : (r.countOn.setLive w (some k)).live? i = r.live? i :=
        congrArg (·.bind Entry.live) (getElem?_modifyEntry_of_ne r.countOn (Ne.symm hi) _)
      simp [hi, hsame, hnone]
  exact List.perm_singleton.mp
    ((List.perm_ext_iff_of_nodup (nodup_livePositions _) (List.nodup_singleton w)).mpr hmem)

/-- An instance changes no refusal. -/
theorem refusal_setLive (k : Nat) (live : Path) (i? : Option Nat) :
    (r.countOn.setLive w (some k)).refusal live i? = r.refusal live i? := by
  have hpaths : (r.countOn.setLive w (some k)).paths = r.paths :=
    paths_modifyEntry r.countOn w fun _ => rfl
  simp only [refusal, hpaths]

end Registry

namespace Host

variable {h h' : Host D} {live : Path} {cs : List (Config D)} {result : Except RegistryError Unit}

/-- Starting tries whoever is pending. -/
theorem trace_startAll (hc : startAll.Trace I h cs result h') :
    ∃ h₁ cs', h₁.registry = { h.registry with started := true } ∧
      (attemptAll instantiate h.registry.pending).Trace I h₁ cs' result h' := by
  obtain ⟨_, _, h₁, _, -, hset, hc⟩ := hc.bind
  obtain rfl := trace_modifyRegistry hset
  obtain ⟨_, _, h₂, cs', -, hreport, hc⟩ := hc.state.bind
  exact ⟨h₂, cs', trace_report hreport, hc⟩

/-- **Starting turns everybody away** where another script is in the way of whoever is
pending. -/
theorem onlyReports_startAll
    (hl : ∀ i ∈ h.registry.pending, h.registry.blocker? i = some live) :
    OnlyReports I startAll h (h.registry.refusal live h.registry.pending.head?)
      { h.registry with started := true } := by
  refine onlyReports_bind (onlyReports_modifyRegistry _ h) fun w => onlyReports_state ?_
  refine onlyReports_bind (onlyReports_report _ ⟨w, { h.registry with started := true }⟩)
    fun w' => ?_
  refine onlyReports_attemptAll (h := ⟨w', { h.registry with started := true }⟩) fun i hi => ?_
  obtain ⟨e, he, -⟩ := Registry.mem_positions.mp hi
  exact ⟨⟨e, he⟩, hl i hi⟩

/-- Where somebody runs, those who are pending are the others who are wanted, and all of
them are turned away. -/
theorem onlyReports_startAll_live (hmode : h.registry.concurrent = false) {w : Nat}
    (hlive : h.registry.livePositions = [w]) :
    OnlyReports I startAll h h.registry.verdict { h.registry with started := true } := by
  have hmem : w ∈ h.registry.livePositions := by simp [hlive]
  obtain ⟨e, he, -⟩ := Registry.mem_positions.mp hmem
  rw [Registry.verdict_of_live hlive he]
  refine onlyReports_startAll fun i hi => ?_
  have hi : i ≠ w := by
    rw [Registry.pending_eq, hlive] at hi
    simpa using (List.mem_filter.mp hi).2
  exact Registry.blocker?_of_live hmode hlive he hi

/-- Where nobody is wanted, nobody is tried. -/
theorem onlyReports_startAll_idle (hwinner : h.registry.winner? = none) :
    OnlyReports I startAll h h.registry.verdict { h.registry with started := true } := by
  have hnone : h.registry.positions Entry.enabled = [] := by
    have happend := List.head?_eq_none_iff.mp hwinner
    exact (List.append_eq_nil_iff.mp happend).2
  have hpending : h.registry.pending = [] := by simp [Registry.pending_eq, hnone]
  have hverdict : h.registry.verdict = h.registry.refusal ⟨""⟩ h.registry.pending.head? := by
    simp [Registry.verdict, hwinner, hpending, Registry.refusal]
  rw [hverdict]
  exact onlyReports_startAll fun i hi => by simp [hpending] at hi

/-- Where nobody runs, the first who is wanted gets an instance, and the others are turned
away. -/
theorem trace_startAll_first (hh : h.WellKept I false) (hlive : h.registry.livePositions = [])
    {w : Nat} {rest : List Nat} (hwanted : h.registry.positions Entry.enabled = w :: rest)
    (hc : startAll.Trace I h cs result h') :
    result = h.registry.verdict ∧ h'.registry.livePositions = [w] := by
  have hw : w ∈ h.registry.positions Entry.enabled := by simp [hwanted]
  obtain ⟨e, he, -⟩ := Registry.mem_positions.mp hw
  have hnodup := h.registry.nodup_positions Entry.enabled
  rw [hwanted, List.nodup_cons] at hnodup
  have hothers : ∀ i ∈ rest, i ≠ w := fun i hi heq => hnodup.1 (heq ▸ hi)
  have hpending : h.registry.pending = w :: rest := by simp [Registry.pending_eq, hlive, hwanted]
  have hfree : h.registry.lives = [] := by simp [Registry.lives_eq_livePositions, hlive]
  -- the first one gets its instance
  obtain ⟨h₂, _, hstarted, hc⟩ := trace_startAll hc
  rw [hpending] at hc
  obtain ⟨_, first, h₃, _, -, hborn, hc⟩ := hc.bind
  have hfree : h₂.registry.lives = [] := by
    rw [hstarted]
    exact hfree
  have hentry : h₂.registry.entries[w]? = some e := by rw [hstarted]; exact he
  obtain ⟨rfl, hregistry, -⟩ :=
    trace_instantiate_born hentry (Registry.blocker?_eq_none hfree w) hborn
  rw [hstarted] at hregistry
  -- the others are turned away
  have hnew : h₃.registry.livePositions = [w] := by
    rw [hregistry]
    exact Registry.livePositions_setLive (r := { h.registry with started := true }) hlive he _
  have hentry : ∃ e', h₃.registry.entries[w]? = some e' ∧ e'.path = e.path := by
    rw [hregistry, Registry.setLive, Registry.getElem?_modifyEntry]
    simp [Registry.countOn, he]
  have hkept : ∀ i ∈ rest, h₃.registry.entries[i]? = h.registry.entries[i]? := by
    intro i hi
    rw [hregistry]
    exact Registry.getElem?_modifyEntry_of_ne _ (Ne.symm (hothers i hi)) _
  have hmode : h₃.registry.concurrent = false := by
    rw [hregistry]
    exact hh.tidy.mode
  have hrefused : ∀ i ∈ rest, (∃ e, h₃.registry.entries[i]? = some e) ∧
      h₃.registry.blocker? i = some e.path := by
    intro i hi
    have hmem : i ∈ h.registry.positions Entry.enabled := by simp [hwanted, hi]
    obtain ⟨eᵢ, heᵢ, -⟩ := Registry.mem_positions.mp hmem
    obtain ⟨e', he', hpath⟩ := hentry
    exact ⟨⟨eᵢ, (hkept i hi).trans heᵢ⟩,
      hpath ▸ Registry.blocker?_of_live hmode hnew he' (hothers i hi)⟩
  obtain ⟨rfl, hlast, -, -⟩ := (onlyReports_attemptAll (I := I) hrefused).of_trace hc
  refine ⟨?_, hlast ▸ hnew⟩
  rw [Registry.verdict_of_first hlive hwanted he, hregistry]
  exact Registry.refusal_setLive (r := { h.registry with started := true }) _ _ _

/-- **What starting comes to where one script may run.** -/
theorem trace_startAll_single (hh : h.WellKept I false) (hc : startAll.Trace I h cs result h') :
    result = h.registry.verdict ∧ h'.registry.livePositions = h.registry.winner?.toList ∧
      ∀ i k, h.registry.live? i = some k → h'.registry.live? i = some k := by
  have hmode : h.registry.concurrent = false := hh.tidy.mode
  have hsingle : h.registry.livePositions.length ≤ 1 := by
    have hcount : h.registry.livePositions.length = h.registry.lives.length :=
      h.registry.liveCount_eq
    rw [hcount, hh.tidy.lives.length_eq]
    exact hh.tidy.single rfl
  cases hlive : h.registry.livePositions with
  | cons w others =>
    obtain rfl : others = [] := by
      rw [hlive, List.length_cons] at hsingle
      exact List.eq_nil_of_length_eq_zero (by omega)
    obtain ⟨rfl, hlast, -, -⟩ := (onlyReports_startAll_live (I := I) hmode hlive).of_trace hc
    rw [hlast, Registry.winner?_of_live hlive]
    exact ⟨rfl, hlive, fun i k hk => hk⟩
  | nil =>
    cases hwanted : h.registry.positions Entry.enabled with
    | nil =>
      have hwinner : h.registry.winner? = none := by simp [Registry.winner?, hlive, hwanted]
      obtain ⟨rfl, hlast, -, -⟩ := (onlyReports_startAll_idle (I := I) hwinner).of_trace hc
      rw [hlast, hwinner]
      exact ⟨rfl, hlive, fun i k hk => hk⟩
    | cons w rest =>
      obtain ⟨hverdict, hnew⟩ := trace_startAll_first hh hlive hwanted hc
      have hwinner := Registry.winner?_of_first hlive hwanted
      refine ⟨hverdict, by rw [hwinner]; exact hnew, fun i k hk => ?_⟩
      have hmem : i ∈ h.registry.livePositions := by simp [Registry.mem_livePositions, hk]
      simp [hlive] at hmem

/-- A registry has been started where one script may run: one of the wanted ones runs, and
the first other one is the result. -/
structure PicksOne (h : Host D) (result : Except RegistryError Unit) (h' : Host D) : Prop where
  winner : h'.registry.livePositions = h.registry.winner?.toList
  kept : ∀ i k, h.registry.live? i = some k → h'.registry.live? i = some k
  settled : result = .ok () ↔ (h.registry.positions Entry.enabled).length ≤ 1
  refused : 2 ≤ (h.registry.positions Entry.enabled).length →
    ∃ w p winner loser, h.registry.winner? = some w ∧ h.registry.runnerUp? = some p ∧
      h.registry.entries[w]? = some winner ∧ h.registry.entries[p]? = some loser ∧
      result = .error (.concurrentRejected loser.path winner.path)
  resembles : ({ h.registry with started := true } : Registry D).Resembles h'.registry
  running : ∀ k ∈ h'.registry.lives, h'.world.view.isRunning k = true

/-- Whoever runs is wanted. -/
theorem WellKept.wanted_of_live {concurrent : Bool} (hh : h.WellKept I concurrent) :
    ∀ i ∈ h.registry.livePositions, i ∈ h.registry.positions Entry.enabled := by
  intro i hi
  obtain ⟨e, he, hlive⟩ := Registry.mem_positions.mp hi
  exact Registry.mem_positions.mpr ⟨e, he, ((hh.inStep i e he List.not_mem_nil).wanted hlive).1⟩

/-- **Every trace of a start** picks the one. -/
theorem picksOne_of_trace (hh : h.WellKept I false) (hc : startAll.Trace I h cs result h') :
    h.PicksOne result h' := by
  obtain ⟨hverdict, hwinner, hkept⟩ := trace_startAll_single hh hc
  obtain ⟨hresembles, -⟩ := hc.of_ensures (yields_startAll h.registry h rfl)
  have hrefused : 2 ≤ (h.registry.positions Entry.enabled).length →
      ∃ w p winner loser, h.registry.winner? = some w ∧ h.registry.runnerUp? = some p ∧
        h.registry.entries[w]? = some winner ∧ h.registry.entries[p]? = some loser ∧
        result = .error (.concurrentRejected loser.path winner.path) :=
    fun hmany => hverdict ▸ Registry.exists_of_verdict hmany
  refine ⟨hwinner, hkept, ⟨fun hok => ?_, fun hfew => ?_⟩, hrefused, hresembles, fun k hk => ?_⟩
  · by_contra hmany
    obtain ⟨_, _, _, _, -, -, -, -, herror⟩ := hrefused (by omega)
    simp [hok] at herror
  · exact hverdict.trans (Registry.verdict_eq_ok hh.wanted_of_live hfew)
  · exact (hh.of_trace upholds_startAll hc).isRunning_of_mem hk

end Host

/-- **One script runs where one may.**  Whatever a session has come to in which one script
may run, starting its registry leaves nobody running if nobody is wanted, and otherwise
whoever ran, or the first who is wanted; it succeeds just if no other is wanted, and else
its result names the first other one and the one that runs.  Where scripts give control
back, it comes to its end. -/
theorem Scene.Reachable.start_picks_one {x : Scene D} (h : x.Reachable I false)
    (hrest : x.AtRest) :
    (x.session.host.registry.winner? = none ↔
      ∀ e ∈ x.session.host.registry.entries, e.enabled = false) ∧
    (∀ cs result h', Host.startAll.Trace I x.session.host cs result h' →
      x.session.host.PicksOne result h') ∧
    (I.Calm → ∃ cs result h', Host.startAll.Trace I x.session.host cs result h') := by
  have hh := h.upheld.rest hrest
  exact ⟨Registry.winner?_eq_none_iff hh.wanted_of_live,
    fun _ _ _ hc => Host.picksOne_of_trace hh hc,
    fun hcalm => Chore.exists_trace hcalm Host.startAll hh.tidy.reachable⟩

/-- Three scripts are registered, of which the last two are wanted. -/
def Specimen.twoWanted : Session Specimen.dialect :=
  Specimen.calmSession false [.registry (.add ⟨"b.py"⟩ false), .registry (.add ⟨"a.py"⟩ true),
    .registry (.add ⟨"c/a.py"⟩ true)]

/-- The first of the two runs, and the other one is turned away. -/
theorem Scene.Reachable.start_picks_one_of_two :
    ∃ cs h', Host.startAll.Trace Specimen.calmly Specimen.twoWanted.host cs
        (.error (.concurrentRejected ⟨"c/a.py"⟩ ⟨"a.py"⟩)) h' ∧
      h'.registry.livePositions = [1] := by
  obtain ⟨-, hall, hends⟩ := Scene.Reachable.start_picks_one
    (Specimen.reachable_calmSession false _) ⟨rfl, rfl⟩
  obtain ⟨cs, result, h', hc⟩ := hends Specimen.calm_calmly
  have hc : Host.startAll.Trace Specimen.calmly Specimen.twoWanted.host cs result h' := hc
  have hpicks : Specimen.twoWanted.host.PicksOne result h' := hall cs result h' hc
  have hwinner : Specimen.twoWanted.host.registry.winner? = some 1 := by decide +kernel
  have hrunnerUp : Specimen.twoWanted.host.registry.runnerUp? = some 2 := by decide +kernel
  have hentries : Specimen.twoWanted.host.registry.entries
      = [⟨⟨"b.py"⟩, false, none⟩, ⟨⟨"a.py"⟩, true, none⟩, ⟨⟨"c/a.py"⟩, true, none⟩] := by
    decide +kernel
  obtain ⟨w, p, winner, loser, hw, hp, hwin, hlose, rfl⟩ := hpicks.refused (by decide +kernel)
  obtain rfl : 1 = w := Option.some.inj (hwinner.symm.trans hw)
  obtain rfl : 2 = p := Option.some.inj (hrunnerUp.symm.trans hp)
  rw [hentries] at hwin hlose
  obtain rfl := Option.some.inj hwin
  obtain rfl := Option.some.inj hlose
  exact ⟨cs, h', hc, by rw [hpicks.winner, hwinner]; rfl⟩

end ScriptHost
