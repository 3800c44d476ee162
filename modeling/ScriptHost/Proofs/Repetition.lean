import ScriptHost.Proofs.Contention
import ScriptHost.Proofs.Emulation
import ScriptHost.Proofs.Host

/-!
# Doing it once more

To set a flag, to start the registry, to stop it: done once more right away, each of these
comes to the result it came to, with reports and nothing else.  The second time takes other
ways than the first: who got an instance has one, who was turned away is turned away by
whoever is in the way now, and who was ended is gone.  An instance that has ended is not
ended again.

* `Host.Directive.onlyReports_again` — an operation that is done once more;
* `World.beginEnding_again` — an end that is asked for once more;
* `Scene.Reachable.repeats` — both, of everything a session comes to.
-/

namespace ScriptHost

variable {D : Dialect} {I : Interpreter D} {concurrent : Bool}

/-! ## What the flags decide -/

namespace Registry

variable {r r' : Registry D} {i : Nat}

/-- A change that leaves an entry as it is leaves the registry as it is. -/
theorem modifyEntry_eq_self {f : Entry → Entry} (h : ∀ e, r.entries[i]? = some e → f e = e) :
    r.modifyEntry i f = r := by
  have hentries : r.entries.modify i f = r.entries := by
    apply List.ext_getElem?
    intro j
    rw [List.getElem?_modify]
    by_cases hij : i = j
    · subst hij
      cases he : r.entries[i]? with
      | none => rfl
      | some e => simp [h e he]
    · simp [hij]
  calc r.modifyEntry i f = { r with entries := r.entries.modify i f } := rfl
    _ = r := by rw [hentries]

/-- Entries are found by their paths and positions. -/
theorem resolve_congr (h : r'.paths = r.paths) (s : Selector) : r'.resolve s = r.resolve s := by
  have hlength : ∀ r : Registry D, r.entries.length = r.paths.length := fun r => by simp [paths]
  cases s with
  | path p => simp only [resolve, position?_paths, h]
  | index k => simp only [resolve, hlength, h]

/-- Who is wanted is said by the flags. -/
theorem positions_enabled_congr (h : r'.flags = r.flags) :
    r'.positions Entry.enabled = r.positions Entry.enabled := by
  have hflags : ∀ r : Registry D, r.positions Entry.enabled
      = (List.range r.flags.length).filter fun i => r.flags[i]?.any Prod.snd := by
    intro r
    have hlength : r.flags.length = r.entries.length := by simp [flags]
    rw [positions, hlength]
    refine List.filter_congr fun i _ => ?_
    cases he : r.entries[i]? <;> simp [flags, he]
  rw [hflags, hflags, h]

/-- Where the winner runs, or nobody is wanted, the same one wins. -/
theorem winner?_again (hflags : r'.flags = r.flags)
    (hlive : r'.livePositions = r.winner?.toList) : r'.winner? = r.winner? := by
  rw [winner?, hlive, positions_enabled_congr hflags]
  cases hwinner : r.winner? with
  | some w => rfl
  | none =>
    have happend := List.head?_eq_none_iff.mp hwinner
    simp [(List.append_eq_nil_iff.mp happend).2]

/-- Where the same one wins, the same other one is turned away. -/
theorem verdict_congr (hflags : r'.flags = r.flags) (hwinner : r'.winner? = r.winner?) :
    r'.verdict = r.verdict := by
  have hpaths : r'.paths = r.paths := by rw [paths_eq, hflags, ← paths_eq]
  have hrunnerUp : r'.runnerUp? = r.runnerUp? := by
    rw [runnerUp?, runnerUp?, positions_enabled_congr hflags, hwinner]
  simp only [verdict, refusal, hwinner, hrunnerUp, hpaths]

end Registry

namespace Host

variable {h h' : Host D} {i : Nat} {l : List Nat} {value : Bool} {cs : List (Config D)}
  {result : Except RegistryError Unit}

/-! ## Ending instances that are gone -/

theorem onlyReports_destroy (hlive : h.registry.live? i = none) :
    OnlyReports I (destroy i) h () h.registry := by
  refine onlyReports_state ?_
  rw [hlive]
  exact onlyReports_pure () h

theorem onlyReports_destroyAll (hl : ∀ i ∈ l, h.registry.live? i = none) :
    OnlyReports I (destroyAll l) h () h.registry := by
  induction l generalizing h with
  | nil => exact onlyReports_pure () h
  | cons i rest ih =>
    obtain ⟨hfirst, hrest⟩ := List.forall_mem_cons.mp hl
    exact onlyReports_bind (onlyReports_destroy hfirst) fun w => ih (h := ⟨w, h.registry⟩) hrest

/-- To change the registry into what it is changes nothing. -/
theorem onlyReports_modifyRegistry_same {f : Registry D → Registry D}
    (hf : f h.registry = h.registry) : OnlyReports I (modifyRegistry f) h () h.registry := by
  have hset := onlyReports_modifyRegistry (I := I) f h
  rwa [hf] at hset

/-- **Stopping** a registry that has been stopped. -/
theorem onlyReports_stopAll (hstopped : h.registry.started = false)
    (hnone : h.registry.liveCount = 0) : OnlyReports I stopAll h () h.registry := by
  have hsame : ({ h.registry with started := false } : Registry D) = h.registry := by
    rw [← hstopped]
  refine onlyReports_bind (onlyReports_modifyRegistry_same hsame) fun w => onlyReports_state ?_
  rw [if_neg (by simp [hnone])]
  refine onlyReports_destroyAll (h := ⟨w, h.registry⟩) fun i _ => ?_
  have hnobody : i ∉ h.registry.livePositions := by
    rw [List.eq_nil_of_length_eq_zero hnone]
    exact List.not_mem_nil
  simpa [Registry.mem_livePositions] using hnobody

/-! ## Instantiating whoever was turned away -/

/-- Whoever was tried has an instance, or is turned away again in the same way. -/
theorem trace_instantiate_again (hi : i < h.registry.entries.length)
    (hc : (instantiate i).Trace I h cs result h') :
    (result = .ok () ∧ (h'.registry.live? i).isSome = true) ∨
      (h'.registry = h.registry ∧
        ∀ w, OnlyReports I (instantiate i) ⟨w, h.registry⟩ result h.registry) := by
  have he : h.registry.entries[i]? = some h.registry.entries[i] := List.getElem?_eq_getElem hi
  cases hblocker : h.registry.blocker? i with
  | none =>
    obtain ⟨hok, hregistry, -⟩ := trace_instantiate_born he hblocker hc
    refine Or.inl ⟨hok, ?_⟩
    rw [hregistry, Registry.live?_setLive _ he]
    rfl
  | some live =>
    have hrefused := onlyReports_instantiate (I := I) he hblocker
    obtain ⟨rfl, hregistry, -⟩ := hrefused.of_trace hc
    exact Or.inr ⟨hregistry, fun w => onlyReports_instantiate (h := ⟨w, h.registry⟩) he hblocker⟩

/-! ## Setting a flag that is set -/

/-- The entry at a position, if there is one, has its flag set to a value. -/
def FlagIs (h : Host D) (i : Nat) (value : Bool) : Prop :=
  ∀ e, h.registry.entries[i]? = some e → e.enabled = value

theorem FlagIs.modifyEntry_eq (hflag : h.FlagIs i value) :
    (h.registry.modifyEntry i fun e => { e with enabled := value }) = h.registry :=
  Registry.modifyEntry_eq_self fun e he => by simp [← hflag e he]

theorem onlyReports_disable (hflag : h.FlagIs i false) (hlive : h.registry.live? i = none) :
    OnlyReports I (setEnabledAt i false) h (.ok ()) h.registry := by
  refine onlyReports_bind (onlyReports_modifyRegistry_same hflag.modifyEntry_eq) fun w => ?_
  refine onlyReports_bind (onlyReports_destroy (h := ⟨w, h.registry⟩) hlive) fun w' => ?_
  exact onlyReports_pure _ ⟨w', h.registry⟩

/-- Whoever is served or has to wait is left alone. -/
theorem onlyReports_enable_of_settled (hflag : h.FlagIs i true)
    (hsettled : ¬ (h.registry.started && (h.registry.live? i).isNone) = true) :
    OnlyReports I (setEnabledAt i true) h (.ok ()) h.registry := by
  refine onlyReports_bind (onlyReports_modifyRegistry_same hflag.modifyEntry_eq) fun w => ?_
  refine onlyReports_state ?_
  rw [if_neg hsettled]
  exact onlyReports_pure _ ⟨w, h.registry⟩

/-- Whoever has no instance is tried. -/
theorem onlyReports_enable_of_tried (hflag : h.FlagIs i true)
    (hwaiting : (h.registry.started && (h.registry.live? i).isNone) = true)
    (htried : ∀ w, OnlyReports I (instantiate i) ⟨w, h.registry⟩ result h.registry) :
    OnlyReports I (setEnabledAt i true) h result h.registry := by
  refine onlyReports_bind (onlyReports_modifyRegistry_same hflag.modifyEntry_eq) fun w => ?_
  refine onlyReports_state ?_
  rw [if_pos hwaiting]
  exact htried w

/-- Once a flag was set, it is. -/
theorem flagIs_of_trace (hc : (setEnabledAt i value).Trace I h cs result h') :
    h'.FlagIs i value := by
  obtain ⟨hflags, -⟩ := hc.of_ensures (yields_setEnabledAt i value h.registry h rfl)
  intro e he
  have hrow : h'.registry.flags[i]? = some (e.path, e.enabled) := by simp [Registry.flags, he]
  rw [hflags, Registry.flags, List.getElem?_map, Registry.getElem?_modifyEntry, Option.map_map]
    at hrow
  obtain ⟨e₀, -, hvalue⟩ := Option.map_eq_some_iff.mp hrow
  exact (congrArg Prod.snd hvalue).symm

/-- **Setting a flag** once more. -/
theorem onlyReports_setEnabledAt_again (hi : i < h.registry.entries.length)
    (hh' : h'.WellKept I concurrent) (hc : (setEnabledAt i value).Trace I h cs result h') :
    OnlyReports I (setEnabledAt i value) h' result h'.registry := by
  have hflag := flagIs_of_trace hc
  obtain ⟨_, _, h₁, _, -, hset, hc⟩ := hc.bind
  obtain rfl := trace_modifyRegistry hset
  cases value with
  | false =>
    obtain ⟨_, _, _, _, -, -, hdone⟩ := hc.bind
    obtain ⟨rfl, rfl⟩ := hdone.pure
    refine onlyReports_disable hflag ?_
    -- an instance would be wanted
    cases he : h'.registry.entries[i]? with
    | none => simp [Registry.live?, he]
    | some e =>
      have hunwanted : ¬ e.live.isSome = true := by
        intro hlive
        have hwanted := ((hh'.inStep i e he List.not_mem_nil).wanted hlive).1
        rw [hflag e he] at hwanted
        cases hwanted
      simpa [Registry.live?, he] using hunwanted
  | true =>
    have hc := hc.state
    dsimp only at hc
    split at hc
    · next hwaiting =>
      have hlt : i <
          (h.registry.modifyEntry i fun e => { e with enabled := true }).entries.length := by
        simpa [Registry.modifyEntry] using hi
      rcases trace_instantiate_again hlt hc with ⟨rfl, hlive⟩ | ⟨hsame, htried⟩
      · have hserved := Option.isNone_eq_false_iff.mpr hlive
        exact onlyReports_enable_of_settled hflag (by simp [hserved])
      · dsimp only at hsame htried
        rw [← hsame] at htried hwaiting
        exact onlyReports_enable_of_tried hflag hwaiting htried
    · next hsettled =>
      obtain ⟨rfl, rfl⟩ := hc.pure
      exact onlyReports_enable_of_settled hflag hsettled

/-- **Setting the flag** of an entry once more. -/
theorem onlyReports_setEnabled_again (hh' : h'.WellKept I concurrent) {s : Selector}
    (hc : (setEnabled s value).Trace I h cs result h') :
    OnlyReports I (setEnabled s value) h' result h'.registry := by
  have hc := hc.state
  refine onlyReports_state ?_
  split at hc
  · next i hi =>
    -- the selector names the same entry
    obtain ⟨hflags, -⟩ := hc.of_ensures (yields_setEnabledAt i value h.registry h rfl)
    have hpaths : h'.registry.paths = h.registry.paths := by
      rw [Registry.paths_eq, hflags, ← Registry.paths_eq]
      exact h.registry.paths_modifyEntry i fun _ => rfl
    rw [Registry.resolve_congr hpaths, hi]
    exact onlyReports_setEnabledAt_again (Registry.lt_of_resolve hi) hh' hc
  · next e he =>
    obtain ⟨rfl, rfl⟩ := hc.pure
    rw [he]
    exact onlyReports_pure _ h'

/-! ## Starting a registry that has been started -/

/-- Where scripts may run side by side, nobody is pending in a registry that has been
started. -/
theorem WellKept.pending_eq_nil (hh : h.WellKept I true) (hstarted : h.registry.started = true) :
    h.registry.pending = [] := by
  refine List.eq_nil_iff_forall_not_mem.mpr fun i hi => ?_
  obtain ⟨e, he, hpending⟩ := Registry.mem_positions.mp hi
  obtain ⟨henabled, hnone⟩ := Bool.and_eq_true_iff.mp hpending
  have hserved := (hh.inStep i e he List.not_mem_nil).served hh.tidy.mode henabled hstarted
  simp [Option.isNone_iff_eq_none.mp hnone] at hserved

/-- **Starting** once more. -/
theorem onlyReports_startAll_again (hh : h.WellKept I concurrent) (hh' : h'.WellKept I concurrent)
    (hc : startAll.Trace I h cs result h') : OnlyReports I startAll h' result h'.registry := by
  obtain ⟨hresembles, hrefused⟩ := hc.of_ensures (yields_startAll h.registry h rfl)
  have hstarted : h'.registry.started = true := hresembles.started
  have hsame : ({ h'.registry with started := true } : Registry D) = h'.registry := by
    rw [← hstarted]
  cases concurrent with
  | true =>
    have hpending := hh'.pending_eq_nil hstarted
    have hnobody : ∀ i ∈ h'.registry.pending, h'.registry.blocker? i = some ⟨""⟩ :=
      fun i hi => by simp [hpending] at hi
    have hall := onlyReports_startAll (I := I) hnobody
    rw [hpending, hsame] at hall
    have hok : result = .ok () := by
      cases result with
      | ok => rfl
      | error e =>
        have hmode := (hrefused e rfl).1
        rw [hh.tidy.mode] at hmode
        cases hmode
    rw [hok]
    exact hall
  | false =>
    obtain ⟨hverdict, hwinner, -⟩ := trace_startAll_single hh hc
    have hagain := Registry.winner?_again hresembles.flags hwinner
    have hall : OnlyReports I startAll h' h'.registry.verdict
        { h'.registry with started := true } := by
      cases hw : h.registry.winner? with
      | some w =>
        rw [hw] at hwinner
        exact onlyReports_startAll_live hh'.tidy.mode hwinner
      | none => exact onlyReports_startAll_idle (hagain.trans hw)
    have hlater : h'.registry.verdict = h.registry.verdict :=
      Registry.verdict_congr hresembles.flags hagain
    rwa [hsame, hlater, ← hverdict] at hall

/-! ## The operations -/

/-- An operation that says how things are to be. -/
inductive Directive where
  | setEnabled (s : Selector) (value : Bool)
  | startAll
  | stopAll

namespace Directive

/-- Carry out a directive. -/
def chore : Directive → Chore D (Host D) (Except RegistryError Unit)
  | .setEnabled s value => Host.setEnabled s value
  | .startAll => Host.startAll
  | .stopAll => do
    Host.stopAll
    return .ok ()

theorem upholds_chore (d : Directive) : Upholds I concurrent d.chore := by
  cases d with
  | setEnabled s value => exact upholds_setEnabled s value
  | startAll => exact upholds_startAll
  | stopAll => exact upholds_stopAll.bind fun _ => .pure _

/-- **A directive that is carried out once more** comes to what it came to, with reports
and nothing else. -/
theorem onlyReports_again (d : Directive) (hh : h.WellKept I concurrent)
    (hc : d.chore.Trace I h cs result h') : OnlyReports I d.chore h' result h'.registry := by
  have hh' := hh.of_trace d.upholds_chore hc
  cases d with
  | setEnabled s value => exact onlyReports_setEnabled_again hh' hc
  | startAll => exact onlyReports_startAll_again hh hh' hc
  | stopAll =>
    obtain ⟨_, _, h₁, _, -, hstop, hdone⟩ := hc.bind
    obtain ⟨rfl, rfl⟩ := hdone.pure
    obtain ⟨hstopped, hnone, -⟩ := trace_stopAll hstop
    exact onlyReports_bind (onlyReports_stopAll hstopped hnone) fun w =>
      onlyReports_pure _ ⟨w, h'.registry⟩

end Directive

/-- An operation has come to the result it came to before, and nothing has happened but
that reports were made: no script ran, nothing was emitted, no id was given, and whoever
listened to what still does. -/
structure Repeats (h : Host D) (result : Except RegistryError Unit) (cs : List (Config D))
    (again : Except RegistryError Unit) (h' : Host D) : Prop where
  result : again = result
  registry : h'.registry = h.registry
  world : h.world.Heard h'.world
  reports : ∀ c ∈ cs, c.Reports

end Host

namespace World

/-- There is nobody to be announced the end of who has ended. -/
theorem farewell?_eq_none_iff {w : World D} {i : Nat} (hi : i < w.instances.length)
    (stack : List (Frame D)) :
    w.farewell? i = none ↔ (⟨w, stack⟩ : Config D).HasEnded i := by
  have hx : w.instance? i = some w.instances[i] := List.getElem?_eq_getElem hi
  simp [farewell?, hx, Option.filter, Instance.isAlive, Config.HasEnded, Account.HasEnded,
    Config.account, standing]

/-- What the host does to end an instance is a run. -/
theorem runs_of_terminate {w w' : World D} {i : Nat} (h : w.terminate I i = some w') :
    Config.Runs I ⟨(w.beginEnding i).1, (w.beginEnding i).2 ++ []⟩ ⟨w', []⟩ :=
  Config.runs_of_run h []

/-- **Who has ended is not ended again.**  Once a call that ends an instance has returned,
another one does nothing. -/
theorem beginEnding_again {w w' : World D} {i : Nat} {rest : List (Frame D)}
    (hi : i < w.instances.length)
    (hbegun : (⟨(w.beginEnding i).1, (w.beginEnding i).2 ++ rest⟩ : Config D).Reachable I)
    (hruns : Config.Runs I ⟨(w.beginEnding i).1, (w.beginEnding i).2 ++ rest⟩ ⟨w', rest⟩) :
    w'.beginEnding i = (w', []) := by
  have hended : (⟨w', rest⟩ : Config D).HasEnded i := by
    cases hfarewell : w.farewell? i with
    | some event =>
      have hstack : (w.beginEnding i).2 ++ rest
          = [.emission w.emissions event (w.hub.listeners event.kind)] ++ .ending i :: rest := by
        rw [(beginEnding_of_farewell? hfarewell).2]
        rfl
      exact Config.Runs.hasEnded_of_returned hbegun hruns hstack (Nat.le_refl _)
    | none =>
      rw [beginEnding_of_ended hfarewell] at hbegun hruns
      exact Config.Runs.hasEnded hbegun hruns ((farewell?_eq_none_iff hi rest).mp hfarewell)
  have hstate : (w'.instance? i).map Instance.state = some .terminated := hended
  obtain ⟨x, hx, -⟩ := Option.map_eq_some_iff.mp hstate
  have hi' : i < w'.instances.length := (List.getElem?_eq_some_iff.mp hx).1
  exact beginEnding_of_ended ((farewell?_eq_none_iff hi' rest).mpr hended)

end World

/-- **Doing it once more changes nothing.**  Whatever a session has come to, to set a flag,
to start the registry or to stop it once more comes to the result it came to, with reports
and nothing else; and an instance that has been ended is not ended once more.  Where scripts
give control back, the first time comes to its end, and the second time does anyhow. -/
theorem Scene.Reachable.repeats {x : Scene D} (h : x.Reachable I concurrent) (hrest : x.AtRest) :
    (∀ (d : Host.Directive) cs result h₁, d.chore.Trace I x.session.host cs result h₁ →
      (∃ cs' again h₂, d.chore.Trace I h₁ cs' again h₂) ∧
      ∀ cs' again h₂, d.chore.Trace I h₁ cs' again h₂ → h₁.Repeats result cs' again h₂) ∧
    (I.Calm → ∀ d : Host.Directive, ∃ cs result h₁, d.chore.Trace I x.session.host cs result h₁) ∧
    ∀ (w w' : World D) (i : Nat) (rest : List (Frame D)), i < w.instances.length →
      (⟨(w.beginEnding i).1, (w.beginEnding i).2 ++ rest⟩ : Config D).Reachable I →
      Config.Runs I ⟨(w.beginEnding i).1, (w.beginEnding i).2 ++ rest⟩ ⟨w', rest⟩ →
      w'.beginEnding i = (w', []) := by
  have hh := h.upheld.rest hrest
  refine ⟨fun d cs result h₁ hc => ?_, fun hcalm d => ?_, fun w w' i rest hi hbegun hruns => ?_⟩
  · have hagain := d.onlyReports_again hh hc
    refine ⟨?_, fun cs' again h₂ hc' => ?_⟩
    · obtain ⟨cs', w, hc', -⟩ := hagain
      exact ⟨cs', result, _, hc'⟩
    · obtain ⟨hresult, hregistry, hheard, hreports⟩ := hagain.of_trace hc'
      exact ⟨hresult, hregistry, hheard, hreports⟩
  · exact Chore.exists_trace hcalm d.chore hh.tidy.reachable
  · exact World.beginEnding_again hi hbegun hruns

/-- The last one is turned away a second time; and an instance ends once. -/
theorem Scene.Reachable.repeats_turned_away :
    (∃ cs h₁ cs' h₂, Host.startAll.Trace Specimen.calmly Specimen.twoWanted.host cs
        (.error (.concurrentRejected ⟨"c/a.py"⟩ ⟨"a.py"⟩)) h₁ ∧
      Host.startAll.Trace Specimen.calmly h₁ cs'
        (.error (.concurrentRejected ⟨"c/a.py"⟩ ⟨"a.py"⟩)) h₂ ∧
      h₂.registry = h₁.registry ∧ h₁.world.Heard h₂.world) ∧
    ∃ w', (Specimen.threeScripts false).host.world.terminate Specimen.calmly 0 = some w' ∧
      w'.beginEnding 0 = (w', []) := by
  obtain ⟨hagain, -, hended⟩ := Scene.Reachable.repeats
    (Specimen.reachable_calmSession false _) ⟨rfl, rfl⟩
  constructor
  · have hresult : (Host.startAll.run Specimen.calmly Specimen.twoWanted.host).map Prod.fst
        = some (.error (.concurrentRejected ⟨"c/a.py"⟩ ⟨"a.py"⟩)) := by decide +kernel
    obtain ⟨⟨_, h₁⟩, hrun, rfl⟩ := Option.map_eq_some_iff.mp hresult
    obtain ⟨cs, hc⟩ := Chore.trace_of_run hrun
    obtain ⟨⟨cs', again, h₂, hc'⟩, hall⟩ := hagain .startAll cs _ h₁ hc
    obtain ⟨rfl, hregistry, hheard, -⟩ := hall cs' again h₂ hc'
    exact ⟨cs, h₁, cs', h₂, hc, hc', hregistry, hheard⟩
  · have hends : ((Specimen.threeScripts false).host.world.terminate Specimen.calmly 0).isSome
        = true := by
      decide +kernel
    obtain ⟨w', hw'⟩ := Option.isSome_iff_exists.mp hends
    have hupheld := (Specimen.reachable_threeScripts false).upheld
    have hreachable := (hupheld.rest ⟨rfl, rfl⟩).tidy.reachable
    have hbegun := hreachable.move (.host (.terminate 0))
    rw [← List.append_nil (World.beginEnding _ 0).2] at hbegun
    have hlt : 0 < (Specimen.threeScripts false).host.world.instances.length := by decide +kernel
    exact ⟨w', hw', hended _ w' 0 [] hlt hbegun (World.runs_of_terminate hw')⟩

end ScriptHost
