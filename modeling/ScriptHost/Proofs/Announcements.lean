import ScriptHost.Proofs.Ledger
import ScriptHost.Proofs.Outcomes
import ScriptHost.Proofs.Sessions

/-!
# Every instance is announced to end once

The end of an instance is announced by an emission, and completed right below it on the
stack.  So a run of the host has a **tale** to tell of each instance: it is alive, and
was not announced to end; or its end is under way, and was announced once; or it has
ended, and was announced once (`Config.Tale`).  Whom nobody holds cannot be ended by
script code, so a registry's instance has that tale whatever runs.

* `Config.Move.announces_iff` — what an announcement is;
* `Config.Move.tale` — a move goes on with the tale, and adds an announcement to it at most;
* `Scene.Reachable.unheld` — nobody but its registry can end an instance of a registry;
* `Scene.IsRun.announced_once` — ids and announcements in every run of a session.
-/

namespace ScriptHost

variable {D : Dialect} {I : Interpreter D}

namespace World

theorem exists_of_farewell? {w : World D} {i : Nat} {event : Event}
    (h : w.farewell? i = some event) :
    ∃ x, w.instance? i = some x ∧ x.isAlive = true ∧ event = .scriptEnd x.id := by
  obtain ⟨x, hx, rfl⟩ := Option.map_eq_some_iff.mp h
  obtain ⟨hx, halive⟩ := Option.filter_eq_some_iff.mp hx
  exact ⟨x, hx, halive, rfl⟩

theorem isAlive_view {w : World D} {i : Nat} {x : Instance D} (hx : w.instance? i = some x) :
    w.view.isAlive i = x.isAlive := by
  rw [View.isAlive, infos_view, hx]
  rfl

end World

namespace Config

/-- Whether a move announces the end of an instance: an emission begins, and what
completes the end stands right below it. -/
def announces (i : Nat) (c c' : Config D) : Bool :=
  c.world.emissions < c'.world.emissions &&
    match c'.stack with
    | _ :: .ending j :: _ => j = i
    | _ => false

/-- What completes an end that is announced is under way. -/
theorem mem_of_announces {c c' : Config D} {i : Nat} (h : announces i c c' = true) :
    .ending i ∈ c'.stack := by
  obtain ⟨-, hbelow⟩ := Bool.and_eq_true_iff.mp h
  split at hbelow
  · next hstack =>
    obtain rfl := of_decide_eq_true hbelow
    simp [hstack]
  · cases hbelow

/-- **An announcement** is an emission of the end of somebody who has not ended, with the
id of the instance, on the listeners of the moment. -/
theorem Move.announces_iff {c c' : Config D} (h : c.Move I c') {i : Nat} :
    announces i c c' = true ↔ ∃ x rest, c.world.instance? i = some x ∧ x.isAlive = true ∧
      c'.world.emissions = c.world.emissions + 1 ∧
      c'.stack = .emission c.world.emissions (.scriptEnd x.id)
        (c.world.hub.listeners .scriptEnd) :: .ending i :: rest := by
  constructor
  · intro hannounces
    obtain ⟨hmore, hbelow⟩ := Bool.and_eq_true_iff.mp hannounces
    have hmore : c.world.emissions < c'.world.emissions := of_decide_eq_true hmore
    rcases h.emits with hsame | ⟨hcount, event, next, started, hstack, hwhy⟩
    · omega
    · rw [hstack] at hbelow
      rcases hwhy with ⟨-, hends⟩ | ⟨j, rfl, hfarewell⟩
      · cases next with
        | ending j => cases hends
        | emission | pass | callback | coroutine | call | handler | entry | settle | putBack =>
          cases hbelow
      · obtain rfl : j = i := of_decide_eq_true hbelow
        obtain ⟨x, hx, halive, rfl⟩ := World.exists_of_farewell? hfarewell
        exact ⟨x, started, hx, halive, hcount, hstack⟩
  · rintro ⟨x, rest, -, -, hcount, hstack⟩
    simp [announces, hcount, hstack]

/-- In how many ways an instance is about to end. -/
def ends (c : Config D) (i : Nat) : Nat :=
  (c.stack.filterMap Frame.ends?).count i

/-- What a run has to tell of an instance whose end it has announced so many times. -/
inductive Tale (c : Config D) (i : Nat) : Nat → Prop
  | unborn (h : c.world.view.infos.length ≤ i) (hends : c.ends i = 0) : Tale c i 0
  | alive (h : c.world.view.isAlive i = true) (hends : c.ends i = 0) : Tale c i 0
  | ending (h : c.world.view.isAlive i = true) (hends : c.ends i = 1) : Tale c i 1
  | ended (h : c.world.view.isAlive i = false) (hborn : i < c.world.view.infos.length)
      (hends : c.ends i = 0) : Tale c i 1

/-- A tale is the same where the instance is in the same state. -/
theorem Tale.congr {c c' : Config D} {i n : Nat} (h : c.Tale i n)
    (hlength : c'.world.view.infos.length = c.world.view.infos.length)
    (halive : c'.world.view.isAlive i = c.world.view.isAlive i) (hends : c'.ends i = c.ends i) :
    c'.Tale i n := by
  cases h with
  | unborn h h' => exact .unborn (hlength ▸ h) (hends.trans h')
  | alive h h' => exact .alive (halive.trans h) (hends.trans h')
  | ending h h' => exact .ending (halive.trans h) (hends.trans h')
  | ended h hborn h' => exact .ended (halive.trans h) (hlength ▸ hborn) (hends.trans h')

/-- A step ends nobody but by the frame of that end. -/
theorem isAlive_advance (w : World D) {f : Frame D} {i : Nat} (hf : f ≠ .ending i) :
    (f.advance I w).1.view.isAlive i = w.view.isAlive i := by
  have hends : f.effect ≠ .dismiss i := fun heffect => hf (Frame.eq_ending_of_effect heffect)
  rw [f.view_advance I w]
  refine Bool.eq_iff_iff.mpr ⟨View.isAlive_of_after f.effect_ne_enroll, View.isAlive_after hends⟩

theorem length_infos_advance (w : World D) (f : Frame D) :
    (f.advance I w).1.view.infos.length = w.view.infos.length := by
  rw [f.view_advance I w, ← View.length_tags, ← View.length_tags,
    View.tags_after _ f.effect_ne_enroll]

/-- A step starts no end but of somebody who is held. -/
theorem ends?_advance {w : World D} {f : Frame D} (hf : f.Sound w) {i : Nat}
    (hheld : i ∉ w.held.map Prod.snd) : i ∉ (f.advance I w).2.filterMap Frame.ends? := by
  intro hmem
  obtain ⟨g, hg, hends⟩ := List.mem_filterMap.mp hmem
  refine hheld ?_
  cases Frame.heir_advance I hf hg with
  | ending h | putBack h => exact Option.some.inj hends ▸ h
  | emission | pass | callback | coroutine | call | handler | entry => cases hends

/-- A step of the machine announces no end of somebody whom nobody holds. -/
theorem announces_of_step? {c c' : Config D} (hc : c.Sound) {i : Nat} (hfree : i ∉ c.givable)
    (h : c.step? I = some c') : announces i c c' = false := by
  rw [Bool.eq_false_iff]
  intro hannounces
  obtain ⟨x, below, hx, -, hcount, hstack⟩ := (Move.announces_iff (.step h)).mp hannounces
  obtain ⟨w, stack⟩ := c
  obtain ⟨f, rest, rfl, rfl⟩ := eq_advance_of_step? h
  have hledger := congrArg Ledger.emissions (f.ledger_advance I w)
  cases hbegins : f.begins? w with
  | none =>
    rw [hbegins] at hledger
    exact absurd (hledger.symm.trans hcount) (Nat.ne_of_lt (Nat.lt_succ_self _))
  | some event =>
    -- The step itself has started that end.
    obtain ⟨next, started, hstarted, -⟩ := f.advance_of_begins? I hbegins
    have hstack : (f.advance I w).2 ++ rest = _ := hstack
    rw [hstarted] at hstack
    obtain ⟨rfl, -⟩ := List.cons.inj (List.cons.inj hstack).2
    have hheld : i ∉ w.held.map Prod.snd := fun hheld => hfree (List.mem_append_left _ hheld)
    refine ends?_advance (I := I) (hc.frames f List.mem_cons_self) hheld ?_
    refine List.mem_filterMap.mpr ⟨.ending i, ?_, rfl⟩
    exact hstarted ▸ List.mem_cons_of_mem _ List.mem_cons_self

/-- **A step of the machine goes on with the tale** of an instance that nobody holds. -/
theorem Tale.step {c c' : Config D} (hc : c.Sound) {i n : Nat} (htale : c.Tale i n)
    (hfree : i ∉ c.givable) (h : c.step? I = some c') : c'.Tale i n := by
  obtain ⟨w, stack⟩ := c
  obtain ⟨f, rest, rfl, rfl⟩ := eq_advance_of_step? h
  have hnew : i ∉ (f.advance I w).2.filterMap Frame.ends? :=
    ends?_advance (hc.frames f List.mem_cons_self) fun hheld =>
      hfree (List.mem_append_left _ hheld)
  have hafter : (⟨(f.advance I w).1, (f.advance I w).2 ++ rest⟩ : Config D).ends i
      = (rest.filterMap Frame.ends?).count i := by
    rw [ends, List.filterMap_append, List.count_append, List.count_eq_zero.mpr hnew, Nat.zero_add]
  have hlength := length_infos_advance (I := I) w f
  by_cases hf : f = .ending i
  · subst hf
    have hdead : ((Frame.ending i).advance I w).1.view.isAlive i = false := by
      rw [Frame.view_advance]
      simp [Frame.effect, View.isAlive_dismiss]
    have hbefore : (⟨w, .ending i :: rest⟩ : Config D).ends i
        = (rest.filterMap Frame.ends?).count i + 1 := by
      simp [ends, Frame.ends?]
    cases htale with
    | unborn _ hends | alive _ hends | ended _ _ hends => omega
    | ending halive hends =>
      exact .ended hdead (hlength ▸ View.lt_of_isAlive halive) (hafter.trans (by omega))
  · have hother : f.ends? ≠ some i := by
      intro hends
      cases f with
      | ending j => exact hf (by rw [Option.some.inj hends])
      | putBack name j =>
        refine hfree (List.mem_append_right _ (List.mem_filterMap.mpr
          ⟨_, List.mem_cons_self, hends⟩))
      | emission | pass | callback | coroutine | call | handler | entry | settle => cases hends
    have hbefore : (⟨w, f :: rest⟩ : Config D).ends i
        = (rest.filterMap Frame.ends?).count i := by
      rw [ends, List.filterMap_cons]
      split
      · rfl
      · next j hj =>
        have hne : j ≠ i := fun heq => hother (heq ▸ hj)
        exact List.count_cons_of_ne hne
    exact htale.congr hlength (isAlive_advance w hf) (hafter.trans hbefore.symm)

/-- Where no emission begins, no end is announced. -/
theorem announces_of_emissions {c c' : Config D} (h : c'.world.emissions = c.world.emissions)
    (i : Nat) : announces i c c' = false := by
  simp [announces, h]

/-- An initiative that neither starts an end nor changes what instances look like goes on with every
tale. -/
theorem Tale.quiet {w w' : World D} {started : List (Frame D)} {i n : Nat}
    (htale : (⟨w, []⟩ : Config D).Tale i n) (hcount : w'.emissions = w.emissions)
    (hview : w'.view = w.view) (hends : started.filterMap Frame.ends? = []) :
    (⟨w', started⟩ : Config D).Tale i (n + (announces i ⟨w, []⟩ ⟨w', started⟩).toNat) := by
  rw [announces_of_emissions hcount]
  refine htale.congr ?_ ?_ ?_
  · exact congrArg (fun r : View D => r.infos.length) hview
  · exact congrArg (fun r : View D => r.isAlive i) hview
  · simp [ends, hends]

/-- The end of an instance is announced as it begins, if it had not ended. -/
theorem Tale.beginEnding {w : World D} (j : Nat) {i n : Nat}
    (htale : (⟨w, []⟩ : Config D).Tale i n) :
    (⟨(w.beginEnding j).1, (w.beginEnding j).2⟩ : Config D).Tale i
      (n + (announces i ⟨w, []⟩ ⟨(w.beginEnding j).1, (w.beginEnding j).2⟩).toNat) := by
  cases hfarewell : w.farewell? j with
  | none =>
    have hnothing := World.beginEnding_of_ended hfarewell
    exact htale.quiet (by rw [hnothing]) (by rw [hnothing]) (by rw [hnothing]; rfl)
  | some event =>
    obtain ⟨hledger, hstarted⟩ := World.beginEnding_of_farewell? hfarewell
    have hcount : (w.beginEnding j).1.emissions = w.emissions + 1 :=
      congrArg Ledger.emissions hledger
    have hview := World.view_beginEnding w j
    obtain ⟨x, hx, halive, rfl⟩ := World.exists_of_farewell? hfarewell
    by_cases hj : j = i
    · subst hj
      have hlives : w.view.isAlive j = true := (World.isAlive_view hx).trans halive
      have hyes : announces j ⟨w, []⟩ ⟨(w.beginEnding j).1, (w.beginEnding j).2⟩ = true := by
        simp [announces, hcount, hstarted]
      have hone : (⟨(w.beginEnding j).1, (w.beginEnding j).2⟩ : Config D).ends j = 1 := by
        rw [ends, hstarted]
        exact List.count_singleton_self
      rw [hyes]
      cases htale with
      | unborn hborn _ => exact absurd hborn (Nat.not_le.mpr (View.lt_of_isAlive hlives))
      | alive _ _ => exact .ending (hview ▸ hlives) hone
      | ending _ hends => cases hends
      | ended hdead _ _ =>
        rw [hlives] at hdead
        cases hdead
    · have hno : announces i ⟨w, []⟩ ⟨(w.beginEnding j).1, (w.beginEnding j).2⟩ = false := by
        simp [announces, hstarted, hj]
      rw [hno]
      refine htale.congr (by rw [hview]) (by rw [hview]) ?_
      rw [ends, hstarted]
      exact List.count_eq_zero.mpr fun hmem => hj (List.mem_singleton.mp hmem).symm

/-- Whoever comes into being is alive; the others go on as they were. -/
theorem Tale.beginLife {w : World D} (id : ScriptId) (path : Path) (detached : Bool)
    (code : EntryCode D) {i n : Nat} (htale : (⟨w, []⟩ : Config D).Tale i n) :
    (⟨w.beginLife id path detached, [.entry w.instances.length code, .settle w.instances.length]⟩ :
      Config D).Tale i n := by
  have hview := w.view_beginLife id path detached
  have hlength : (w.beginLife id path detached).view.infos.length = w.view.infos.length + 1 := by
    rw [hview]
    simp [View.after]
  have hlives : (w.beginLife id path detached).view.isAlive i
      = (i == w.view.infos.length || w.view.isAlive i) := by
    rw [hview, View.isAlive_enroll]
  cases htale with
  | unborn hborn _ =>
    have hborn : w.view.infos.length ≤ i := hborn
    rcases Nat.eq_or_lt_of_le hborn with heq | hlt
    · exact .alive (hlives.trans (by simp [heq])) rfl
    · exact .unborn (Nat.le_trans (Nat.le_of_eq hlength) hlt) rfl
  | alive h _ =>
    have halive : w.view.isAlive i = true := h
    exact .alive (hlives.trans (by simp [halive])) rfl
  | ending _ hends => cases hends
  | ended hdead hborn _ =>
    have hdead : w.view.isAlive i = false := hdead
    have hborn : i < w.view.infos.length := hborn
    refine .ended (hlives.trans (by simp [hdead, Nat.ne_of_lt hborn])) ?_ rfl
    exact Nat.lt_of_lt_of_eq (Nat.lt_succ_of_lt hborn) hlength.symm

/-- **An initiative of the host goes on with the tale**, and announces an end only of
somebody who has not ended. -/
theorem Tale.host {w w' : World D} {started : List (Frame D)} (h : Initiative w w' started)
    {i n : Nat} (htale : (⟨w, []⟩ : Config D).Tale i n) :
    (⟨w', started⟩ : Config D).Tale i
      (n + (announces i ⟨w, []⟩ ⟨w', started⟩).toNat) := by
  cases h with
  | terminate j => exact htale.beginEnding j
  | spawn id path detached code =>
    have hcount : (w.beginLife id path detached).emissions = w.emissions :=
      congrArg Ledger.emissions (w.ledger_beginLife id path detached)
    have hno : announces i ⟨w, []⟩ ⟨w.beginLife id path detached,
        [.entry w.instances.length code, .settle w.instances.length]⟩ = false := by
      simp [announces, hcount]
    rw [hno]
    exact htale.beginLife id path detached code
  | notify k kind args pulse =>
    exact htale.quiet rfl (World.view_modifySubscriptions w (.bench k) (·.drain kind)) rfl
  | code | addBench | hold | takeHeld | setRequests | setShutdown => exact htale.quiet rfl rfl rfl

/-- **A move goes on with the tale** of an instance that nobody holds. -/
theorem Move.tale {c c' : Config D} (h : c.Move I c') (hc : c.Sound) {i n : Nat}
    (hfree : i ∉ c.givable) (htale : c.Tale i n) : c'.Tale i (n + (announces i c c').toNat) := by
  cases h with
  | step h =>
    rw [announces_of_step? hc hfree h]
    exact htale.step hc hfree h
  | host h => exact htale.host h

end Config

/-! ## Sessions -/

namespace Scene

variable {concurrent : Bool}

/-- An order lets nobody be held who is not. -/
theorem givable_beginOrder (w : World D) (o : Order D) :
    (⟨(w.beginOrder o).1, (w.beginOrder o).2⟩ : Config D).givable = w.held.map Prod.snd := by
  cases o with
  | code | dropRequests | setShutdown => exact List.append_nil _
  | spawn id path code =>
    show (w.beginLife id path false).held.map Prod.snd ++ [] = _
    rw [List.append_nil, World.held_beginLife]
  | terminate j =>
    show (w.beginEnding j).1.held.map Prod.snd ++ (w.beginEnding j).2.filterMap Frame.gives? = _
    rw [World.held_beginEnding]
    cases hfarewell : w.farewell? j with
    | none =>
      rw [World.beginEnding_of_ended hfarewell]
      exact List.append_nil _
    | some event =>
      rw [(World.beginEnding_of_farewell? hfarewell).2]
      exact List.append_nil _

/-- **Nobody but its registry can end an instance of a registry**: none is held, nor
will be when what is under way is over. -/
theorem Reachable.unheld {x : Scene D} (h : x.Reachable I concurrent) :
    ∀ i ∈ x.config.givable, x.world.view.isRegistered i = false := by
  refine h.induction
    (P := fun x => ∀ i ∈ x.config.givable, x.world.view.isRegistered i = false)
    (fun x hx i _ => hx.unregistered i) fun x x' hx ih hmove => ?_
  cases hmove with
  | operation => exact ih
  | aside ha => exact fun i hi => ha.harmless i (Config.givable_subset_endable _ hi)
  | step hstep =>
    rcases step?_cases hstep with ⟨c, hmachine, rfl⟩ | ⟨hrest, hagenda⟩
    · intro i hi
      have hbefore := ih i (Config.givable_subset_of_step? hx.config.sound hmachine hi)
      exact (Config.follows_of_step? hmachine).isRegistered ▸ hbefore
    · have hsound := hx.config.sound
      obtain ⟨s, stack, agenda⟩ := x
      obtain rfl : stack = [] := hrest
      rcases hagenda with ⟨k, -, rfl⟩ | ⟨f, k, -, rfl⟩ | ⟨o, k, -, rfl⟩
      · exact ih
      · exact ih
      · intro i hi
        have hheld : i ∈ s.host.world.held.map Prod.snd := givable_beginOrder _ o ▸ hi
        have hborn : i < s.host.world.view.infos.length := by
          rw [World.length_infos]
          exact hsound.endable i (List.mem_append_left _ hheld)
        have hmoved : Config.Move I ⟨s.host.world, []⟩
            ⟨(s.host.world.beginOrder o).1, (s.host.world.beginOrder o).2⟩ :=
          .host (initiative_beginOrder _ o)
        exact (View.isRegistered_of_prefix hmoved.tags hborn).trans
          (ih i (List.mem_append_left _ hheld))

/-- In how many of its first moves a run announces the end of an instance. -/
def announced (run : Nat → Scene D) (n i : Nat) : Nat :=
  (List.range n).countP fun k => Config.announces i (run k).config (run (k + 1)).config

theorem announced_succ (run : Nat → Scene D) (n i : Nat) :
    announced run (n + 1) i
      = announced run n i + (Config.announces i (run n).config (run (n + 1)).config).toNat := by
  rw [announced, List.range_succ, List.countP_append, List.countP_singleton]
  cases Config.announces i (run n).config (run (n + 1)).config <;> rfl

variable {run : Nat → Scene D} {n : Nat}

theorem IsRun.tags (hrun : IsRun I run n) {j k : Nat} (hjk : j ≤ k) (hk : k ≤ n) :
    (run j).world.view.tags <+: (run k).world.view.tags := by
  induction k, hjk using Nat.le_induction with
  | base => exact List.prefix_refl _
  | succ k _ ih =>
    refine (ih (by omega)).trans ?_
    rcases (hrun k (by omega)).config with ⟨-, hsame⟩ | hmove
    · exact (congrArg (fun c : Config D => c.world.view.tags) hsame) ▸ List.prefix_refl _
    · exact hmove.tags

/-- Whom the registry has brought into being in a run was not there when it began. -/
theorem IsRun.unborn (hrun : IsRun I run n) (hbegins : (run 0).Begins I concurrent) {i : Nat}
    (hi : (run n).world.view.isRegistered i = true) : (run 0).world.view.infos.length ≤ i := by
  by_contra hborn
  have hsame := View.isRegistered_of_prefix (hrun.tags (Nat.zero_le n) (Nat.le_refl n))
    (Nat.lt_of_not_le hborn)
  rw [hi, hbegins.unregistered i] at hsame
  cases hsame

/-- Nobody ever holds an instance of the registry. -/
theorem IsRun.free (hrun : IsRun I run n) (hbegins : (run 0).Begins I concurrent) {i : Nat}
    (hi : (run n).world.view.isRegistered i = true) {k : Nat} (hk : k ≤ n) :
    i ∉ (run k).config.givable := by
  intro hgivable
  have hreachable : (run k).Reachable I concurrent := hrun.reachable ⟨_, hbegins, .refl⟩ hk
  have hborn : i < (run k).world.view.infos.length := by
    rw [World.length_infos]
    exact hreachable.config.sound.endable i (Config.givable_subset_endable _ hgivable)
  have hsame := View.isRegistered_of_prefix (hrun.tags hk (Nat.le_refl n)) hborn
  rw [hi, hreachable.unheld i hgivable] at hsame
  cases hsame

/-- **The tale of an instance of the registry**, at every moment of a run. -/
theorem IsRun.tale (hrun : IsRun I run n) (hbegins : (run 0).Begins I concurrent) {i : Nat}
    (hi : (run n).world.view.isRegistered i = true) {k : Nat} (hk : k ≤ n) :
    (run k).config.Tale i (announced run k i) := by
  induction k with
  | zero =>
    refine .unborn (hrun.unborn hbegins hi) ?_
    rw [Config.ends, show (run 0).config.stack = [] from hbegins.rest.stack]
    rfl
  | succ k ih =>
    have hbefore := ih (by omega)
    rw [announced_succ]
    rcases (hrun k (by omega)).config with ⟨-, hsame⟩ | hmove
    · have hnone := Config.announces_of_emissions (congrArg (·.world.emissions) hsame) i
      rw [hnone, hsame]
      exact hbefore
    · have hsound := (hrun.reachable ⟨_, hbegins, .refl⟩ (Nat.le_of_succ_le hk)).config.sound
      exact hmove.tale hsound (hrun.free hbegins hi (Nat.le_of_succ_le hk)) hbefore

/-- An instance of the registry stays on every list until it ends, if nobody takes a
listener of its own off. -/
theorem IsRun.attached (hrun : IsRun I run n) (hbegins : (run 0).Begins I concurrent) {i : Nat}
    (hi : (run n).world.view.isRegistered i = true) {k : Nat} (hk : k ≤ n)
    (hspared : ∀ j < k, (run j).config.spares i = true) : (run k).world.view.Attached i := by
  induction k with
  | zero =>
    intro halive
    exact absurd (View.lt_of_isAlive halive) (Nat.not_lt.mpr (hrun.unborn hbegins hi))
  | succ k ih =>
    have hbefore := ih (by omega) fun j hj => hspared j (by omega)
    rcases (hrun k (by omega)).config with ⟨-, hsame⟩ | hmove
    · exact (congrArg (fun c : Config D => c.world.view.Attached i) hsame) ▸ hbefore
    · have horderly := (hrun.reachable ⟨_, hbegins, .refl⟩ (Nat.le_of_succ_le hk)).config.orderly
      exact hmove.attached horderly (hspared k (Nat.lt_succ_self k)) hbefore

/-! ## Who announces, and when -/

/-- While something is under way or left to do, there is nothing but steps. -/
theorem Move.step_of_busy {x x' : Scene D} (h : x.Move I x') (hbusy : ¬ x.AtRest) :
    x.step? I = some x' := by
  cases h with
  | step h => exact h
  | operation | aside => exact absurd ⟨rfl, rfl⟩ hbusy

/-- No order starts an end but the one to end that instance. -/
theorem eq_terminate_of_ending {w : World D} {o : Order D} {f : Frame D} {i : Nat}
    {below : List (Frame D)} (h : (w.beginOrder o).2 = f :: .ending i :: below) :
    o = .terminate i ∧ below = [] := by
  cases o with
  | code | spawn | dropRequests | setShutdown => cases h
  | terminate j =>
    have h : (w.beginEnding j).2 = f :: .ending i :: below := h
    cases hfarewell : w.farewell? j with
    | none =>
      rw [World.beginEnding_of_ended hfarewell] at h
      cases h
    | some event =>
      rw [(World.beginEnding_of_farewell? hfarewell).2] at h
      cases h
      exact ⟨rfl, rfl⟩

/-- **The end of an instance of the registry is announced by an order of the registry**,
to the listeners of the moment; nothing else is under way then. -/
theorem Move.announces {x x' : Scene D} (hx : x.Reachable I concurrent) (h : x.Move I x') {i : Nat}
    (hfree : i ∉ x.config.givable) (hi : x'.world.view.isRegistered i = true)
    (hannounces : Config.announces i x.config x'.config = true) :
    ∃ a rest, x.stack = [] ∧ x.agenda = .order (.terminate i) rest ∧
      x.world.instance? i = some a ∧ a.state ≠ .terminated ∧
      x'.stack = [.emission x.world.emissions (.scriptEnd a.id)
        (x.world.hub.listeners .scriptEnd), .ending i] := by
  rcases h.config with ⟨-, hsame⟩ | hmove
  · rw [Config.announces_of_emissions (congrArg (·.world.emissions) hsame)] at hannounces
    cases hannounces
  obtain ⟨a, below, ha, halive, -, hstack⟩ := hmove.announces_iff.mp hannounces
  have halive : a.state ≠ .terminated := of_decide_eq_true halive
  have hends : i ∈ x'.config.endable :=
    List.mem_append_right _ (List.mem_filterMap.mpr ⟨.ending i, by simp [hstack], rfl⟩)
  cases h with
  | operation => cases hstack
  | aside haside =>
    have hforeign : _ = false := haside.harmless i hends
    exact absurd (hi.symm.trans hforeign) (by simp)
  | step hstep =>
    rcases step?_cases hstep with ⟨c, hmachine, rfl⟩ | ⟨hrest, hagenda⟩
    · have hno : Config.announces i x.config c = false :=
        Config.announces_of_step? hx.config.sound hfree hmachine
      exact absurd (hannounces.symm.trans hno) (by simp)
    · obtain ⟨s, stack, agenda⟩ := x
      obtain rfl : stack = [] := hrest
      rcases hagenda with ⟨k, -, rfl⟩ | ⟨f, k, -, rfl⟩ | ⟨o, k, rfl, rfl⟩
      · cases hstack
      · cases hstack
      · obtain ⟨rfl, rfl⟩ := eq_terminate_of_ending hstack
        exact ⟨a, k, rfl, rfl, ha, halive, hstack⟩

/-- **A registry that has been stopped is not started.** -/
theorem IsRun.stopped (hrun : IsRun I run n) {j : Nat} (hj : j ≤ n)
    (hstop : run j = (run j).doing (.registry .stopAll))
    (hbusy : ∀ k < n, j ≤ k → ¬ (run k).AtRest) (hrest : (run n).AtRest) :
    (run n).session.host.registry.started = false := by
  have hsafe : ∀ k, j ≤ k → k ≤ n →
      (run k).Safe I (fun _ _ => True) fun s => s.host.registry.started = false := by
    intro k hjk
    induction k, hjk using Nat.le_induction with
    | base =>
      intro _
      rw [hstop]
      exact safe_of_ensures trivial (Session.ensures_withHost (Host.yields_stopAll _ _ rfl))
    | succ k hjk ih =>
      intro hk
      exact (ih (by omega)).step ((hrun k (by omega)).step_of_busy (hbusy k (by omega) hjk))
  exact (hsafe n hj (Nat.le_refl n)).rest hrest

/-! ## Ids and announcements in a run -/

/-- The instances of a registry are numbered from one, until the numbers start over. -/
theorem IsRun.numbered (hrun : IsRun I run n) (hbegins : (run 0).Begins I concurrent)
    (hfew : (run n).world.view.registeredIds.length + 1 < UInt32.size) :
    (∀ k id, (run n).world.view.registeredIds[k]? = some id → id.val.toNat = k + 1) ∧
      (run n).world.view.registeredIds.Pairwise fun a b => a.val < b.val := by
  have hreachable : (run n).Reachable I concurrent :=
    hrun.reachable ⟨_, hbegins, .refl⟩ (Nat.le_refl n)
  obtain ⟨m, hm⟩ := hreachable.ruled.always.numbered
  have hm : (run n).world.view.registeredIds = Registry.firstIds m := hm
  have hlength : m + 1 < UInt32.size := by
    rw [hm] at hfew
    simpa [Registry.firstIds] using hfew
  rw [hm]
  refine ⟨fun k id hk => ?_, Registry.firstIds_ascend (Nat.lt_of_succ_lt hlength)⟩
  rw [Registry.firstIds, List.getElem?_map] at hk
  obtain ⟨j, hj, rfl⟩ := Option.map_eq_some_iff.mp hk
  obtain ⟨hlt, hrange⟩ := List.getElem?_eq_some_iff.mp hj
  rw [List.length_range] at hlt
  obtain rfl : k = j := (List.getElem_range _).symm.trans hrange
  exact UInt32.toNat_ofNat'.trans
    (Nat.mod_eq_of_lt (Nat.lt_trans (Nat.succ_lt_succ hlt) hlength))

/-- How often the end of an instance of the registry has been announced: never while an
entry names it, once at most, and once when no entry names it any more. -/
theorem IsRun.announced_cases (hrun : IsRun I run n) (hbegins : (run 0).Begins I concurrent)
    {i : Nat} (hi : (run n).world.view.isRegistered i = true) :
    announced run n i ≤ 1 ∧
      (i ∈ (run n).session.host.registry.lives → announced run n i = 0) ∧
      ((run n).AtRest → i ∉ (run n).session.host.registry.lives → announced run n i = 1) := by
  have hreachable : (run n).Reachable I concurrent :=
    hrun.reachable ⟨_, hbegins, .refl⟩ (Nat.le_refl n)
  have htale := hrun.tale hbegins hi (Nat.le_refl n)
  have hborn : i < (run n).world.view.infos.length := by
    by_contra hunborn
    rw [View.isRegistered, List.getElem?_eq_none (by rw [View.length_tags]; omega)] at hi
    cases hi
  refine ⟨?_, fun hlive => ?_, fun hrest hlive => ?_⟩
  · generalize announced run n i = count at htale
    cases htale <;> omega
  · obtain ⟨hown, hends⟩ := hreachable.ruled.always.lasting i hlive
    have halive : (run n).config.world.view.isAlive i = true := (View.mem_own.mp hown).1
    have hends : (run n).config.ends i = 0 := List.count_eq_zero.mpr hends
    generalize announced run n i = count at htale
    cases htale with
    | unborn | alive => rfl
    | ending _ hone => omega
    | ended hdead =>
      rw [halive] at hdead
      cases hdead
  · have htidy := (hreachable.upheld.rest hrest).tidy
    have hdead : ¬ (run n).config.world.view.isAlive i = true := fun halive =>
      hlive (htidy.lives.mem_iff.mpr (View.mem_own.mpr ⟨halive, hi⟩))
    generalize announced run n i = count at htale
    cases htale with
    | unborn hunborn => exact absurd hborn (Nat.not_lt.mpr hunborn)
    | alive halive => exact absurd halive hdead
    | ending halive => exact absurd halive hdead
    | ended => rfl

/-- While the end of an instance of the registry is under way, it is on every list. -/
theorem IsRun.attached_of_ending (hrun : IsRun I run n) (hbegins : (run 0).Begins I concurrent)
    {i : Nat} (hi : (run n).world.view.isRegistered i = true) {k : Nat} (hk : k ≤ n)
    (hending : .ending i ∈ (run k).stack) (hspared : ∀ j < k, (run j).config.spares i = true)
    (kind : EventKind) : i ∈ (run k).world.hub.places kind := by
  refine hrun.attached hbegins hi hk hspared ?_ kind
  have hends : 0 < (run k).config.ends i :=
    List.count_pos_iff.mpr (List.mem_filterMap.mpr ⟨.ending i, hending, rfl⟩)
  have htale := hrun.tale hbegins hi hk
  generalize announced run k i = count at htale
  cases htale with
  | unborn _ hnone | alive _ hnone | ended _ _ hnone => omega
  | ending halive => exact halive

/-- An emission of an event of that sort is code's own, or announces the end of somebody
with that id. -/
theorem Move.scriptEnd {x x' : Scene D} (h : x.Move I x') {id : ScriptId}
    (hcount : x.world.emissions < x'.world.emissions)
    (htop : x'.stack.head? = some (.emission x.world.emissions (.scriptEnd id)
      (x.world.hub.listeners .scriptEnd))) :
    x.config.nextAct? = some (.emit (.scriptEnd id)) ∨
      ∃ i a, Config.announces i x.config x'.config = true ∧ x.world.instance? i = some a ∧
        a.id = id := by
  rcases h.config with ⟨-, hsame⟩ | hmove
  · have hsame : x'.world.emissions = x.world.emissions := congrArg (·.world.emissions) hsame
    omega
  · rcases hmove.emits with hnone | ⟨hone, event, next, started, hstack, hwhy⟩
    · have hsame : x'.world.emissions = x.world.emissions := hnone
      omega
    · have hstack : x'.stack = _ := hstack
      rw [hstack] at htop
      have hevent : event = .scriptEnd id := by
        injection Option.some.inj htop
      subst hevent
      rcases hwhy with ⟨hemit, -⟩ | ⟨i, rfl, hfarewell⟩
      · exact Or.inl hemit
      · obtain ⟨a, ha, halive, hid⟩ := World.exists_of_farewell? hfarewell
        obtain rfl : id = a.id := Event.scriptEnd.inj hid
        exact Or.inr ⟨i, a, hmove.announces_iff.mpr ⟨a, started, ha, halive, hone, hstack⟩, ha, rfl⟩

/-- **Ids and ends of the instances of a registry**, in whatever run of a session.

The instances got the ids from 1 on, in the order of their birth, as long as there are
fewer than 2³² - 1 of them; so ids ascend and none comes back.  And the end of each
instance is announced

* once at most, and never while its entry names it;
* once, when its entry names it no more and nothing is under way, and so for every
  instance when the registry has been stopped, as it is when it goes away;
* by an order of the registry, before the instance ends, with its id, to the listeners
  of the moment;
* while it is still on every list, if nobody took a listener of its own off the hub.

Wherever else an emission of that kind begins, code has emitted the event of its own
accord, or the instance is none of the registry's. -/
theorem IsRun.announced_once (hrun : IsRun I run n) (hbegins : (run 0).Begins I concurrent) :
    ((run n).world.view.registeredIds.length + 1 < UInt32.size →
        (∀ k id, (run n).world.view.registeredIds[k]? = some id → id.val.toNat = k + 1) ∧
          (run n).world.view.registeredIds.Pairwise fun a b => a.val < b.val) ∧
      (∀ i, (run n).world.view.isRegistered i = true →
        announced run n i ≤ 1 ∧
          (i ∈ (run n).session.host.registry.lives → announced run n i = 0) ∧
          ((run n).AtRest → i ∉ (run n).session.host.registry.lives → announced run n i = 1) ∧
          ((run n).AtRest → (∃ j ≤ n, run j = (run j).doing (.registry .stopAll) ∧
              ∀ k < n, j ≤ k → ¬ (run k).AtRest) → announced run n i = 1) ∧
          (∀ k < n, Config.announces i (run k).config (run (k + 1)).config = true →
            (∃ a rest, (run k).stack = [] ∧ (run k).agenda = .order (.terminate i) rest ∧
                (run k).world.instance? i = some a ∧ a.state ≠ .terminated ∧
                (run (k + 1)).stack = [.emission (run k).world.emissions (.scriptEnd a.id)
                  ((run k).world.hub.listeners .scriptEnd), .ending i]) ∧
              ((∀ j < k, (run j).config.spares i = true) →
                ∀ kind, i ∈ (run k).world.hub.places kind)) ∧
          ∀ k ≤ n, .ending i ∈ (run k).stack → (∀ j < k, (run j).config.spares i = true) →
            ∀ kind, i ∈ (run k).world.hub.places kind) ∧
      ∀ k < n, ∀ id, (run k).world.emissions < (run (k + 1)).world.emissions →
        (run (k + 1)).stack.head? = some (.emission (run k).world.emissions (.scriptEnd id)
            ((run k).world.hub.listeners .scriptEnd)) →
          (run k).config.nextAct? = some (.emit (.scriptEnd id)) ∨
            ∃ i a, Config.announces i (run k).config (run (k + 1)).config = true ∧
              (run k).world.instance? i = some a ∧ a.id = id := by
  have hreachable : ∀ k ≤ n, (run k).Reachable I concurrent := fun k hk =>
    hrun.reachable ⟨_, hbegins, .refl⟩ hk
  refine ⟨hrun.numbered hbegins, ?_, fun k hk id hcount htop => (hrun k hk).scriptEnd hcount htop⟩
  intro i hi
  obtain ⟨honce, hlive, hended⟩ := hrun.announced_cases hbegins hi
  refine ⟨honce, hlive, hended, ?_, ?_, fun k hk hending hspared kind =>
    hrun.attached_of_ending hbegins hi hk hending hspared kind⟩
  · rintro hrest ⟨j, hj, hstop, hbusy⟩
    apply hended hrest
    intro hnamed
    obtain ⟨e, he, hnames⟩ := List.mem_filterMap.mp hnamed
    obtain ⟨l, hl⟩ := List.getElem?_of_mem he
    have hfits := ((hreachable n (Nat.le_refl n)).upheld.rest hrest).inStep l e hl List.not_mem_nil
    have hstarted := (hfits.wanted (by simp [hnames])).2
    rw [hrun.stopped hj hstop hbusy hrest] at hstarted
    cases hstarted
  · intro k hk hannounces
    have hfree := hrun.free hbegins hi (Nat.le_of_lt hk)
    have hborn : i < (run (k + 1)).world.view.infos.length := by
      rw [World.length_infos]
      refine (hreachable (k + 1) hk).config.sound.endable i (List.mem_append_right _ ?_)
      exact List.mem_filterMap.mpr ⟨.ending i, Config.mem_of_announces hannounces, rfl⟩
    have hregistered : (run (k + 1)).world.view.isRegistered i = true :=
      (View.isRegistered_of_prefix (hrun.tags hk (Nat.le_refl n)) hborn).symm.trans hi
    obtain ⟨a, rest, hstack, hagenda, ha, halive, hstarted⟩ :=
      (hrun k hk).announces (hreachable k (Nat.le_of_lt hk)) hfree hregistered hannounces
    refine ⟨⟨a, rest, hstack, hagenda, ha, halive, hstarted⟩, fun hspared kind => ?_⟩
    refine hrun.attached hbegins hi (Nat.le_of_lt hk) hspared ?_ kind
    exact (World.isAlive_view ha).trans (decide_eq_true halive)

/-- When the script has been restarted, the end of its old instance has been announced
once, and that of its new one, which has the id 2, has not. -/
theorem IsRun.announced_once_restart :
    announced (fun k => (Specimen.restartRun true k).1) 41 0 = 1 ∧
      announced (fun k => (Specimen.restartRun true k).1) 41 1 = 0 ∧
      ∃ id, (Specimen.restartRun true 41).1.world.view.registeredIds[1]? = some id ∧
        id.val.toNat = 2 := by
  obtain ⟨hids, htells, -⟩ :=
    announced_once (Specimen.isRun_restartRun true) (Specimen.begins_opening true)
  obtain ⟨-, -, hended, -⟩ := htells 0 (by decide +kernel)
  obtain ⟨-, hlive, -⟩ := htells 1 (by decide +kernel)
  have hsecond : (Specimen.restartRun true 41).1.world.view.registeredIds[1]? = some ⟨2⟩ := by
    decide +kernel
  exact ⟨hended ⟨rfl, rfl⟩ (by decide +kernel), hlive (by decide +kernel), ⟨2⟩, hsecond,
    (hids (by decide +kernel)).1 1 _ hsecond⟩

end Scene

end ScriptHost
