import ScriptHost.Proofs.Renewals
import ScriptHost.Proofs.Sessions

/-!
# A refusal leaves nothing half done

Adding a script, enabling, restarting or removing one can be refused.  Restarting ends
an instance before it asks for a new one, enabling sets the flag and adding appends the
entry before they ask; so what a refusal leaves depends on who can be running then.  In
a well-kept registry the instance that was ended was the only one, and nobody is in
the way of a new one: a restart that is refused has ended nobody.

* `Host.trace_instantiate_error` — an instance is refused by reporting it, and by
  nothing else;
* `Registry.runs_of_blocker?` — who is in the way is the one script that runs;
* `Scene.Reachable.refusals_spare` — what any refused operation leaves.
-/

namespace ScriptHost

variable {D : Dialect} {I : Interpreter D} {concurrent : Bool}

/-! ## Reporting -/

/-- The host reports something, and nothing else is under way. -/
def Config.Reports (c : Config D) : Prop :=
  (∃ n, c.stack = [.handler (.report n)]) ∨ c.stack = [.handler (.ret ())]

/-- Notices were reported in a world, and nothing else has happened in it. -/
def World.Heard (w w' : World D) : Prop :=
  ∃ notices : List Notice, w' = { w with journal := notices.map .notice ++ w.journal }

theorem World.Heard.log {w w' : World D} (h : w.Heard w') (n : Notice) : w.Heard (w'.log n) := by
  obtain ⟨notices, rfl⟩ := h
  exact ⟨n :: notices, rfl⟩

theorem World.heard_log (w : World D) (n : Notice) : w.Heard (w.log n) :=
  ⟨[n], rfl⟩

/-- To carry out a report takes two steps, and leaves the notice. -/
theorem Config.Trace.of_report {w w' : World D} {n : Notice} {cs : List (Config D)}
    (h : Trace I ⟨w, [.handler (.report n)]⟩ cs ⟨w', []⟩) :
    w' = w.log n ∧ ∀ c ∈ cs, c.Reports := by
  cases h with
  | cons hstep hrest =>
    obtain rfl := Option.some.inj hstep
    cases hrest with
    | cons hstep hrest =>
      obtain rfl := Option.some.inj hstep
      cases hrest with
      | nil =>
        refine ⟨rfl, fun c hc => ?_⟩
        rcases List.mem_cons.mp hc with rfl | hc
        · exact Or.inl ⟨n, rfl⟩
        · obtain rfl := List.mem_singleton.mp hc
          exact Or.inr rfl
      | cons hstep => cases hstep

namespace Host

variable {h h' : Host D} {cs : List (Config D)}

theorem trace_report_log {n : RegistryNotice} {u : Unit} (hc : (report n).Trace I h cs u h') :
    h' = { h with world := h.world.log (.registry n) } ∧ ∀ c ∈ cs, c.Reports := by
  have hc : Chore.Trace I (.order (.code (.report (.registry n))) (.done ())) h cs u h' := hc
  cases hc with
  | order hobeyed hdone =>
    cases hdone with
    | done =>
      obtain ⟨rfl, hreports⟩ := hobeyed.of_report
      exact ⟨rfl, by simpa using hreports⟩

/-- Changing the registry takes no step of the machine. -/
theorem trace_modifyRegistry_nil {f : Registry D → Registry D} {u : Unit}
    (hc : (modifyRegistry f).Trace I h cs u h') :
    cs = [] ∧ h' = { h with registry := f h.registry } :=
  hc.of_change

/-- Where an entry names no instance, there is nothing to destroy. -/
theorem trace_destroy_of_none {i : Nat} (hlive : h.registry.live? i = none) {u : Unit}
    (hc : (destroy i).Trace I h cs u h') : cs = [] ∧ h' = h := by
  have hc := hc.state
  rw [hlive] at hc
  exact hc.of_pure.2

/-- **An instance is refused** by reporting so, while another script runs. -/
theorem trace_instantiate_error {i : Nat} {error : RegistryError}
    (hc : (instantiate i).Trace I h cs (.error error) h') :
    ∃ e live, h.registry.entries[i]? = some e ∧ h.registry.blocker? i = some live ∧
      error = .concurrentRejected e.path live ∧
      h' = { h with world := h.world.log (.registry (.rejected e.path live)) } ∧
      ∀ c ∈ cs, c.Reports := by
  have hc := hc.state
  dsimp only at hc
  split at hc
  · cases hc.pure.1
  · next e he =>
    split at hc
    · next live hblocker =>
      obtain ⟨cs₁, _, h₁, cs₂, rfl, hreport, hdone⟩ := hc.bind
      obtain ⟨herror, rfl⟩ := hdone.pure
      cases hdone
      obtain ⟨hlogged, hreports⟩ := trace_report_log hreport
      exact ⟨e, live, he, hblocker, Except.error.inj herror, hlogged, by simpa using hreports⟩
    · obtain ⟨_, _, _, _, -, -, hc⟩ := hc.bind
      obtain ⟨_, _, _, _, -, -, hc⟩ := hc.bind
      obtain ⟨_, _, _, _, -, -, hdone⟩ := hc.bind
      cases hdone.pure.1

end Host

/-! ## Who is in the way -/

namespace Registry

/-- Where one script runs at most, whoever is in the way of an entry is the one that
runs. -/
theorem runs_of_blocker? {r : Registry D} (hsingle : r.lives.length ≤ 1) {i : Nat} {live : Path}
    (h : r.blocker? i = some live) :
    ∃ j e k, j ≠ i ∧ r.entries[j]? = some e ∧ e.path = live ∧ e.live = some k ∧ r.lives = [k] := by
  unfold blocker? at h
  split at h
  · cases h
  · obtain ⟨j, hfound, hpath⟩ := Option.bind_eq_some_iff.mp h
    obtain ⟨e, he, rfl⟩ := Option.map_eq_some_iff.mp hpath
    have hne : j ≠ i := by simpa using List.find?_some hfound
    have hlive : e.live.isSome = true := by
      have hmem := List.mem_of_find?_eq_some hfound
      simpa [livePositions, positions, he] using (List.mem_filter.mp hmem).2
    obtain ⟨k, hk⟩ := Option.isSome_iff_exists.mp hlive
    have hmem : k ∈ r.lives := List.mem_filterMap.mpr ⟨e, List.mem_of_getElem? he, hk⟩
    refine ⟨j, e, k, hne, he, rfl, hk, ?_⟩
    match hlives : r.lives, hmem, hsingle with
    | [k'], hmem, _ => rw [List.mem_singleton.mp hmem]

/-- A selector that is resolved names an entry. -/
theorem lt_of_resolve {r : Registry D} {s : Selector} {i : Nat} (h : r.resolve s = .ok i) :
    i < r.entries.length := by
  cases s with
  | path p =>
    cases hfound : r.position? p with
    | none => simp [resolve, hfound] at h
    | some j =>
      obtain rfl : j = i := by simpa [resolve, hfound] using h
      exact (List.findIdx?_eq_some_iff_getElem.mp hfound).1
  | index k =>
    by_cases hlt : k < r.entries.length
    · obtain rfl : k = i := by simpa [resolve, hlt] using h
      exact hlt
    · simp [resolve, hlt] at h

theorem concurrent_of_blocker? {r : Registry D} {i : Nat} {live : Path}
    (h : r.blocker? i = some live) : r.concurrent = false := by
  by_contra hallowed
  simp [blocker?, hallowed] at h

end Registry

/-- In a well-kept registry that refuses an entry its instance, one script runs, and that
one is wanted. -/
theorem Host.WellKept.runs_of_blocker? {h : Host D} (hh : h.WellKept I concurrent)
    {r : Registry D} {i : Nat} {live : Path} (hblocker : r.blocker? i = some live)
    (hconcurrent : r.concurrent = h.registry.concurrent) (hlives : r.lives = h.registry.lives) :
    ∃ j e k, j ≠ i ∧ r.entries[j]? = some e ∧ e.path = live ∧ e.live = some k ∧ r.lives = [k] := by
  apply Registry.runs_of_blocker? _ hblocker
  have hmode : concurrent = false := by
    rw [← hh.tidy.mode, ← hconcurrent]
    exact Registry.concurrent_of_blocker? hblocker
  rw [hlives, hh.tidy.lives.length_eq]
  exact hh.tidy.single hmode

/-! ## The operations -/

/-- An operation on one entry. -/
inductive EntryOperation where
  | add (path : Path) (enabled : Bool)
  | setEnabled (s : Selector) (value : Bool)
  | restart (s : Selector)
  | remove (s : Selector)

namespace EntryOperation

/-- The operation, and whether it is refused. -/
def chore : EntryOperation → Chore D (Host D) (Except RegistryError Unit)
  | .add path enabled => do return (← Host.add path enabled).map fun _ => ()
  | .setEnabled s value => Host.setEnabled s value
  | .restart s => Host.restart s
  | .remove s => do return (← Host.remove s).map fun _ => ()

/-- How the entry is named that is to be there already. -/
def selector? : EntryOperation → Option Selector
  | .add _ _ => none
  | .setEnabled s _ => some s
  | .restart s => some s
  | .remove s => some s

/-- The registry as it is left where an entry with a path was refused its instance: with
the entry that was added, with the flag that was set, or as it was. -/
inductive Leaves (r : Registry D) : EntryOperation → Path → Registry D → Prop
  | add (path : Path) :
      Leaves r (.add path true) path { r with entries := r.entries ++ [⟨path, true, none⟩] }
  | setEnabled {s : Selector} {i : Nat} {e : Entry} (hi : r.resolve s = .ok i)
      (he : r.entries[i]? = some e) :
      Leaves r (.setEnabled s true) e.path (r.modifyEntry i fun e => { e with enabled := true })
  | restart {s : Selector} {i : Nat} {e : Entry} (hi : r.resolve s = .ok i)
      (he : r.entries[i]? = some e) : Leaves r (.restart s) e.path r

/-- What an operation leaves that was refused because another script runs.  The host has
reported something, and no other code ran; the requested script is enabled and has no
instance; the other one is the only script that has one, then as before. -/
structure Spares (op : EntryOperation) (requested live : Path) (h : Host D) (cs : List (Config D))
    (h' : Host D) : Prop where
  reports : ∀ c ∈ cs, c.Reports
  world : h.world.Heard h'.world
  registry : op.Leaves h.registry requested h'.registry
  requested : ∃ i : Nat, h'.registry.entries[i]? = some ⟨requested, true, none⟩
  live : ∃ k, (⟨live, true, some k⟩ : Entry) ∈ h.registry.entries ∧ h.registry.lives = [k] ∧
    h'.registry.lives = [k]

/-- What there is to be said of a refusal, for each reason it can have.  Whoever names
no entry, or one that is there already, finds everything as it was. -/
def Answers (op : EntryOperation) (h : Host D) (cs : List (Config D)) (h' : Host D) :
    RegistryError → Prop
  | .unknownScript s => op.selector? = some s ∧ (∀ i, h.registry.resolve s ≠ .ok i) ∧
      cs = [] ∧ h' = h
  | .duplicateScript path => (∃ enabled, op = .add path enabled) ∧
      h.registry.contains path = true ∧ cs = [] ∧ h' = h
  | .concurrentRejected requested live => op.Spares requested live h cs h'

variable {h h' : Host D} {cs : List (Config D)} {error : RegistryError}

/-- A selector that names no entry is reported as unknown. -/
theorem answers_of_resolve {op : EntryOperation} {s : Selector} (hop : op.selector? = some s)
    (h : Host D) (hs : h.registry.resolve s = .error error) : op.Answers h [] h error := by
  have hnone : ∀ i, h.registry.resolve s ≠ .ok i := by
    intro i hi
    rw [hs] at hi
    cases hi
  have herror : error = .unknownScript s := by
    unfold Registry.resolve at hs
    dsimp only at hs
    split at hs
    · cases hs
    · exact (Except.error.inj hs).symm
  rw [herror]
  exact ⟨hop, hnone, rfl, rfl⟩

/-- Where an entry is refused its instance, and nothing was done to the others, the one
that runs was there before. -/
theorem spares_of_blocker? (hh : h.WellKept I concurrent) {op : EntryOperation} {r : Registry D}
    {i : Nat} {e : Entry} {live : Path} {w : World D} (he : r.entries[i]? = some e)
    (hwanted : e = ⟨e.path, true, none⟩) (hblocker : r.blocker? i = some live)
    (hconcurrent : r.concurrent = h.registry.concurrent) (hlives : r.lives = h.registry.lives)
    (hothers : ∀ j, j ≠ i → r.entries[j]? = h.registry.entries[j]?)
    (hleaves : op.Leaves h.registry e.path r) (hworld : h.world.Heard w)
    (hreports : ∀ c ∈ cs, c.Reports) : op.Spares e.path live h cs ⟨w, r⟩ := by
  obtain ⟨j, e', k, hne, he', rfl, hk, hall⟩ := hh.runs_of_blocker? hblocker hconcurrent hlives
  rw [hothers j hne] at he'
  have henabled : e'.enabled = true :=
    ((hh.inStep j e' he' List.not_mem_nil).wanted (by simp [hk])).1
  have hentry : (⟨e'.path, true, some k⟩ : Entry) = e' := by
    rw [← henabled, ← hk]
  refine ⟨hreports, hworld, hleaves, ⟨i, hwanted ▸ he⟩, k, ?_, hlives ▸ hall, hall⟩
  rw [hentry]
  exact List.mem_of_getElem? he'

/-- **Adding** a script is refused if it is there already, or else while another one
runs. -/
theorem trace_add (hh : h.WellKept I concurrent) {path : Path} {enabled : Bool}
    (hc : (Host.add path enabled).Trace I h cs (.error error) h') :
    (add path enabled).Answers h cs h' error := by
  have hc := hc.state
  split at hc
  · next hcontained =>
    obtain ⟨hresult, rfl, rfl⟩ := hc.of_pure
    obtain rfl := Except.error.inj hresult
    exact ⟨⟨enabled, rfl⟩, hcontained, rfl, rfl⟩
  · obtain ⟨cs₁, _, h₁, cs₂, rfl, hreport, hc⟩ := hc.bind
    obtain ⟨rfl, hreports₁⟩ := Host.trace_report_log hreport
    obtain ⟨cs₃, _, h₂, cs₄, rfl, happend, hc⟩ := hc.bind
    obtain ⟨rfl, rfl⟩ := Host.trace_modifyRegistry_nil happend
    split at hc
    · next hwanted =>
      obtain ⟨rfl, -⟩ := Bool.and_eq_true_iff.mp hwanted
      obtain ⟨cs₅, result, h₃, cs₆, rfl, hmade, hdone⟩ := hc.bind
      obtain ⟨hresult, rfl, rfl⟩ := hdone.of_pure
      obtain rfl := eq_error_of_map hresult.symm
      obtain ⟨e, live, he, hblocker, rfl, rfl, hreports₂⟩ := Host.trace_instantiate_error hmade
      obtain rfl : ⟨path, true, none⟩ = e := by simpa using he
      have hothers : ∀ j, j ≠ h.registry.entries.length →
          (h.registry.entries ++ [⟨path, true, none⟩])[j]? = h.registry.entries[j]? := by
        intro j hj
        grind
      refine spares_of_blocker? hh he rfl hblocker rfl (by simp [Registry.lives]) hothers
        (.add path) ((h.world.heard_log _).log _) fun c hc => ?_
      have hc : c ∈ cs₁ ∨ c ∈ cs₅ := by simpa using hc
      exact hc.elim (hreports₁ c) (hreports₂ c)
    · cases hc.of_pure.1

/-- **Setting a flag** is refused while another script runs. -/
theorem trace_setEnabled (hh : h.WellKept I concurrent) {s : Selector} {value : Bool}
    (hc : (Host.setEnabled s value).Trace I h cs (.error error) h') :
    (setEnabled s value).Answers h cs h' error := by
  have hc := hc.state
  split at hc
  · next i hi =>
    obtain ⟨cs₁, _, h₁, cs₂, rfl, hset, hc⟩ := hc.bind
    obtain ⟨rfl, rfl⟩ := Host.trace_modifyRegistry_nil hset
    split at hc
    · next hvalue =>
      obtain rfl : value = true := hvalue
      have hc := hc.state
      split at hc
      · next hstopped =>
        obtain ⟨e, live, he, hblocker, rfl, rfl, hreports⟩ := Host.trace_instantiate_error hc
        obtain ⟨-, hlive⟩ := Bool.and_eq_true_iff.mp hstopped
        have hwanted : e = ⟨e.path, true, none⟩ := by
          have hnone : e.live = none := by simpa [Registry.live?, he] using hlive
          rw [Registry.getElem?_modifyEntry] at he
          obtain ⟨e₀, -, rfl⟩ := Option.map_eq_some_iff.mp he
          simpa using hnone
        have hpath : ∃ e₀, h.registry.entries[i]? = some e₀ ∧ e.path = e₀.path := by
          rw [Registry.getElem?_modifyEntry] at he
          obtain ⟨e₀, he₀, rfl⟩ := Option.map_eq_some_iff.mp he
          exact ⟨e₀, he₀, rfl⟩
        obtain ⟨e₀, he₀, hpath⟩ := hpath
        refine spares_of_blocker? hh he hwanted hblocker rfl
          (h.registry.lives_modifyEntry_same i fun _ => rfl)
          (fun j hj => Registry.getElem?_modifyEntry_of_ne _ (Ne.symm hj) _)
          (hpath ▸ .setEnabled hi he₀) (h.world.heard_log _) (by simpa using hreports)
      · cases hc.of_pure.1
    · obtain ⟨_, _, _, _, -, -, hdone⟩ := hc.bind
      cases hdone.of_pure.1
  · next e hs =>
    obtain ⟨hresult, rfl, rfl⟩ := hc.of_pure
    obtain rfl := Except.error.inj hresult
    exact answers_of_resolve rfl _ hs

/-- **Restarting** a script is refused while another one runs.  Then the entry had no
instance: where it had one, that was the only one, and it has ended. -/
theorem trace_restart (hh : h.WellKept I concurrent) {s : Selector}
    (hc : (Host.restart s).Trace I h cs (.error error) h') :
    (restart s).Answers h cs h' error := by
  have hc := hc.state
  split at hc
  · next i hi =>
    have hc := hc.state
    split at hc
    · cases hc.of_pure.1
    · next e he =>
      split at hc
      · next henabled =>
        obtain ⟨cs₁, _, h₁, cs₂, rfl, hdestroyed, hc⟩ := hc.bind
        have hregistry := Host.trace_destroy hdestroyed
        have hc := hc.state
        split at hc
        · obtain ⟨e', live, he', hblocker, rfl, rfl, hreports⟩ := Host.trace_instantiate_error hc
          rw [hregistry] at hblocker
          have hnone : h.registry.live? i = none := by
            cases hlive : h.registry.live? i with
            | none => rfl
            | some k =>
              rw [hh.blocker?_setLive hlive] at hblocker
              cases hblocker
          obtain ⟨rfl, rfl⟩ := Host.trace_destroy_of_none hnone hdestroyed
          rw [Registry.setLive_of_none hnone] at hblocker
          obtain rfl : e = e' := Option.some.inj (he.symm.trans he')
          have hwanted : e = ⟨e.path, true, none⟩ := by
            have hlive : e.live = none := by simpa [Registry.live?, he] using hnone
            rw [← henabled, ← hlive]
          exact spares_of_blocker? hh he hwanted hblocker rfl rfl (fun _ _ => rfl)
            (.restart hi he) (World.heard_log _ _) (by simpa using hreports)
        · cases hc.of_pure.1
      · obtain ⟨_, _, _, _, -, -, hdone⟩ := hc.bind
        cases hdone.of_pure.1
  · next e hs =>
    obtain ⟨hresult, rfl, rfl⟩ := hc.of_pure
    obtain rfl := Except.error.inj hresult
    exact answers_of_resolve rfl _ hs

/-- **Removing** a script is refused only if it is unknown. -/
theorem trace_remove {s : Selector} {result : Except RegistryError Path}
    (hc : (Host.remove s).Trace I h cs result h') (hresult : result = .error error) :
    (remove s).Answers h cs h' error := by
  have hc := hc.state
  split at hc
  · next e hs =>
    obtain ⟨hrefused, rfl, rfl⟩ := hc.of_pure
    obtain rfl := Except.error.inj (hrefused.symm.trans hresult)
    exact answers_of_resolve rfl _ hs
  · next i hi =>
    obtain ⟨_, _, h₁, _, -, hdestroyed, hc⟩ := hc.bind
    have hregistry := Host.trace_destroy hdestroyed
    have hc := hc.state
    split at hc
    · next hnone =>
      -- The entry was there, and ending its instance has not taken it out.
      have hlt := Registry.lt_of_resolve hi
      rw [hregistry, Registry.setLive, Registry.getElem?_modifyEntry,
        List.getElem?_eq_getElem hlt] at hnone
      cases hnone
    · obtain ⟨_, _, _, _, -, -, hc⟩ := hc.bind
      obtain ⟨_, _, _, _, -, -, hdone⟩ := hc.bind
      rw [hresult] at hdone
      cases hdone.of_pure.1

/-- A refused operation leaves what its answer says. -/
theorem answers_of_trace (hh : h.WellKept I concurrent) (op : EntryOperation)
    (hc : op.chore.Trace I h cs (.error error) h') : op.Answers h cs h' error := by
  cases op with
  | setEnabled s value => exact trace_setEnabled hh hc
  | restart s => exact trace_restart hh hc
  | add path enabled =>
    obtain ⟨cs₁, result, h₁, cs₂, rfl, hadded, hdone⟩ := Chore.Trace.bind hc
    obtain ⟨hresult, rfl, rfl⟩ := hdone.of_pure
    obtain rfl := eq_error_of_map hresult.symm
    rw [List.append_nil]
    exact trace_add hh hadded
  | remove s =>
    obtain ⟨cs₁, result, h₁, cs₂, rfl, hremoved, hdone⟩ := Chore.Trace.bind hc
    obtain ⟨hresult, rfl, rfl⟩ := hdone.of_pure
    rw [List.append_nil]
    exact trace_remove hremoved (eq_error_of_map hresult.symm)

end EntryOperation

namespace Scene

/-- **A refusal leaves nothing half done.**  Whatever a session has been through, take
an operation on one entry of its registry that is refused, on whichever trace.  If the
entry is unknown, or the script there already, nothing has happened and everything is as
it was.  If another script runs, then the host reported that, and no script has had
control: the world is the same but for the notices in the journal, so nobody was called,
no listener came or went, no event was emitted and no instance ended; no id was used up;
and the registry differs in the one entry that was added, or in the flag that was set,
or not at all.  The script that was refused is enabled and has no instance; the one in
its way is the only one that has. -/
theorem Reachable.refusals_spare {x : Scene D} (h : x.Reachable I concurrent) (hrest : x.AtRest)
    (op : EntryOperation) {cs : List (Config D)} {error : RegistryError} {h' : Host D}
    (hc : op.chore.Trace I x.session.host cs (.error error) h') :
    (∀ s, error = .unknownScript s → op.selector? = some s ∧
        (∀ i, x.session.host.registry.resolve s ≠ .ok i) ∧ cs = [] ∧ h' = x.session.host) ∧
      (∀ path, error = .duplicateScript path → (∃ enabled, op = .add path enabled) ∧
        x.session.host.registry.contains path = true ∧ cs = [] ∧ h' = x.session.host) ∧
      ∀ requested live, error = .concurrentRejected requested live →
        op.Spares requested live x.session.host cs h' := by
  have hanswers := EntryOperation.answers_of_trace (h.upheld.rest hrest) op hc
  refine ⟨?_, ?_, ?_⟩
  · rintro s rfl
    exact hanswers
  · rintro path rfl
    exact hanswers
  · rintro requested live rfl
    exact hanswers

/-- While a script runs that is to be the only one, another one is added: it is kept as
wanted, the first one runs on, and nobody has noticed. -/
theorem Reachable.refusals_spare_rejected :
    ∃ cs h', (EntryOperation.add ⟨"b.py"⟩ true).chore.Trace Specimen.interpreter
        (Specimen.restartRun false 41).1.session.host cs
        (.error (.concurrentRejected ⟨"b.py"⟩ ⟨"a.py"⟩)) h' ∧
      (EntryOperation.add ⟨"b.py"⟩ true).Spares ⟨"b.py"⟩ ⟨"a.py"⟩
        (Specimen.restartRun false 41).1.session.host cs h' := by
  have hrefused : (((EntryOperation.add ⟨"b.py"⟩ true).chore.run Specimen.interpreter
        (Specimen.restartRun false 41).1.session.host).bind fun done =>
      match done.1 with
      | .error error => some error
      | .ok () => none) = some (.concurrentRejected ⟨"b.py"⟩ ⟨"a.py"⟩) := by decide +kernel
  obtain ⟨⟨result, h'⟩, hrun, hresult⟩ := Option.bind_eq_some_iff.mp hrefused
  cases result with
  | ok => cases hresult
  | error error =>
    obtain rfl := Option.some.inj hresult
    obtain ⟨cs, htrace⟩ := Chore.trace_of_run hrun
    obtain ⟨-, -, hspares⟩ := Reachable.refusals_spare
      (Specimen.reachable_restartRun false (Nat.le_refl 41)) ⟨rfl, rfl⟩ _ htrace
    exact ⟨cs, h', htrace, hspares _ _ rfl⟩

end Scene

end ScriptHost
