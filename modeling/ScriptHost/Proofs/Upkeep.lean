import ScriptHost.Proofs.Tidiness

/-!
# The operations of a registry keep it in step

An entry **fits** if it names an instance only while it is enabled and the registry is
started, and, where concurrent scripts are allowed, then it does.  Every operation
takes a tidy registry whose entries fit to one of that sort.  In between there are
entries that do not fit yet; an operation keeps count of their positions
(`Registry.InStepBut`), and strikes them off one by one.

* `Host.leaves_destroy`, `Host.leaves_instantiate` — the two parts every operation is
  made of;
* `RegistryOperation.upholds` — the operations themselves.
-/

namespace ScriptHost

variable {D : Dialect} {α β : Type}

/-! ## Entries in step with their flags -/

/-- An entry names an instance only if one is wanted, and, where nothing forbids it,
if one is wanted. -/
structure Entry.Fits (started concurrent : Bool) (e : Entry) : Prop where
  wanted : e.live.isSome = true → e.enabled = true ∧ started = true
  served : concurrent = true → e.enabled = true → started = true → e.live.isSome = true

/-- An entry fits that names no instance, where none is wanted. -/
theorem Entry.fits_of_unwanted {started concurrent : Bool} {e : Entry} (hlive : e.live = none)
    (hwanted : e.enabled = true → started = false) : e.Fits started concurrent := by
  refine ⟨fun hsome => ?_, fun _ henabled hstarted => ?_⟩
  · simp [hlive] at hsome
  · simp [hwanted henabled] at hstarted

namespace Registry

/-- Every entry fits, but for those at some positions. -/
def InStepBut (r : Registry D) (but : List Nat) : Prop :=
  ∀ j e, r.entries[j]? = some e → j ∉ but → e.Fits r.started r.concurrent

/-- Every entry fits. -/
abbrev InStep (r : Registry D) : Prop :=
  r.InStepBut []

variable {r r' : Registry D} {i j : Nat} {but : List Nat}

/-- A position is struck off where the entry fits. -/
theorem InStepBut.strike (h : r.InStepBut (i :: but))
    (hi : ∀ e, r.entries[i]? = some e → e.Fits r.started r.concurrent) : r.InStepBut but := by
  intro j e he hj
  by_cases hji : j = i
  · exact hi e (hji ▸ he)
  · exact h j e he (by simp [hji, hj])

/-- The entry that is changed. -/
theorem getElem?_modifyEntry (r : Registry D) (i : Nat) (f : Entry → Entry) :
    (r.modifyEntry i f).entries[i]? = r.entries[i]?.map f := by
  simp [modifyEntry]

/-- The other entries stay. -/
theorem getElem?_modifyEntry_of_ne (r : Registry D) (hij : i ≠ j) (f : Entry → Entry) :
    (r.modifyEntry i f).entries[j]? = r.entries[j]? := by
  simp [modifyEntry, hij]

/-- A change of an entry leaves the others as they were. -/
theorem InStepBut.modifyEntry (h : r.InStepBut but) (i : Nat) (f : Entry → Entry) :
    (r.modifyEntry i f).InStepBut (i :: but) := by
  intro j e he hj
  obtain ⟨hji, hnot⟩ : j ≠ i ∧ j ∉ but := by simpa using hj
  rw [getElem?_modifyEntry_of_ne r (Ne.symm hji)] at he
  exact h j e he hnot

/-- A new entry leaves the others as they were. -/
theorem InStepBut.append (h : r.InStepBut but) (e : Entry) :
    ({ r with entries := r.entries ++ [e] } : Registry D).InStepBut (r.entries.length :: but) := by
  intro j e' he hj
  obtain ⟨hne, hnot⟩ : j ≠ r.entries.length ∧ j ∉ but := by simpa using hj
  obtain ⟨hlt, -⟩ := List.getElem?_eq_some_iff.mp he
  have hlt : j < r.entries.length := by
    simp only [List.length_append, List.length_singleton] at hlt
    omega
  have he : (r.entries ++ [e])[j]? = some e' := he
  rw [List.getElem?_append_left hlt] at he
  exact h j e' he hnot

/-- Where the only entry is taken out that does not fit, every entry fits. -/
theorem InStepBut.eraseIdx (h : r.InStepBut [i]) :
    ({ r with entries := r.entries.eraseIdx i } : Registry D).InStep := by
  intro j e he _
  have he : (r.entries.eraseIdx i)[j]? = some e := he
  rw [List.getElem?_eraseIdx] at he
  split at he
  · next hlt => exact h j e he (by simp [Nat.ne_of_lt hlt])
  · exact h (j + 1) e he (by simp; omega)

/-- The instances the entries name stay, where an entry is taken out that names none. -/
theorem lives_eraseIdx {e : Entry} (he : r.entries[i]? = some e) (hlive : e.live = none) :
    (({ r with entries := r.entries.eraseIdx i } : Registry D).lives).Perm r.lives := by
  obtain ⟨hi, rfl⟩ := List.getElem?_eq_some_iff.mp he
  have hperm := (List.getElem_cons_eraseIdx_perm hi).filterMap Entry.live
  rwa [List.filterMap_cons_none hlive] at hperm

/-- An entry without an instance has none. -/
theorem live?_setLive_none (r : Registry D) (i : Nat) : (r.setLive i none).live? i = none := by
  rw [live?, setLive, getElem?_modifyEntry]
  cases r.entries[i]? <;> rfl

/-- The entry at a position was to have an instance: it has one, or there is no such
entry, or another script runs. -/
inductive Attempted (r : Registry D) (i : Nat) : Registry D → Prop
  | named (k : Nat) : Attempted r i (r.countOn.setLive i (some k))
  | spared (h : r.entries[i]? = none ∨ r.concurrent = false) : Attempted r i r

/-- An attempt to restart does not start or stop the emulation. -/
theorem Attempted.started (h : r.Attempted i r') : r'.started = r.started := by
  cases h <;> rfl

/-- An attempt to restart one entry leaves the others alone. -/
theorem Attempted.getElem?_of_ne (h : r.Attempted i r') (hij : i ≠ j) :
    r'.entries[j]? = r.entries[j]? := by
  cases h with
  | named k => exact getElem?_modifyEntry_of_ne r.countOn hij _
  | spared => rfl

/-- Where an instance is wanted and was to come into being, the entry fits. -/
theorem Attempted.inStepBut (h : r.Attempted i r') (hstep : r.InStepBut (i :: but))
    (hlive : r.live? i = none) (hstarted : r.started = true)
    (henabled : ∀ e, r.entries[i]? = some e → e.enabled = true) : r'.InStepBut but := by
  cases h with
  | named k =>
    have hnew : (r.countOn.setLive i (some k)).InStepBut (i :: i :: but) :=
      hstep.modifyEntry (r := r.countOn) i _
    have hfits : ∀ e, (r.countOn.setLive i (some k)).entries[i]? = some e →
        e.Fits r.started r.concurrent := by
      intro e he
      rw [setLive, getElem?_modifyEntry] at he
      obtain ⟨e, he₀, rfl⟩ := Option.map_eq_some_iff.mp he
      exact ⟨fun _ => ⟨henabled e he₀, hstarted⟩, fun _ _ _ => rfl⟩
    exact (hnew.strike hfits).strike hfits
  | spared hspared =>
    refine hstep.strike fun e he => ?_
    have hnone : e.live = none := by simpa [live?, he] using hlive
    refine ⟨fun hsome => by simp [hnone] at hsome, fun hconcurrent => ?_⟩
    rcases hspared with hmissing | hrefused
    · rw [hmissing] at he
      cases he
    · rw [hrefused] at hconcurrent
      cases hconcurrent

end Registry

namespace Host

variable {I : Interpreter D} {concurrent : Bool}

/-! ## What the parts of an operation leave -/

/-- A chore done from a tidy state leaves it tidy, and the registry as described. -/
def Leaves (I : Interpreter D) (concurrent : Bool) (c : Chore D (Host D) α) (h : Host D)
    (Q : α → Registry D → Prop) : Prop :=
  c.Ensures I (Lawful concurrent) (fun a h' => h'.Tidy I concurrent ∧ Q a h'.registry) h

/-- A chore that does nothing leaves what there is. -/
theorem leaves_pure {h : Host D} (ht : h.Tidy I concurrent) {a : α} {Q : α → Registry D → Prop}
    (hQ : Q a h.registry) : Leaves I concurrent (pure a) h Q :=
  ⟨ht, hQ⟩

/-- A chore that looks at the state first leaves what it leaves from there. -/
theorem leaves_state {f : Host D → Chore D (Host D) β} {h : Host D} {Q : β → Registry D → Prop}
    (hf : Leaves I concurrent (f h) h Q) : Leaves I concurrent (.state >>= f) h Q :=
  hf

/-- **One chore after another.** -/
theorem leaves_bind {c : Chore D (Host D) α} {f : α → Chore D (Host D) β} {h : Host D}
    {P : α → Registry D → Prop} {Q : β → Registry D → Prop} (hc : Leaves I concurrent c h P)
    (hf : ∀ a h', h'.Tidy I concurrent → P a h'.registry → Leaves I concurrent (f a) h' Q) :
    Leaves I concurrent (c >>= f) h Q :=
  Chore.ensures_bind (hc.mono fun a h' hh' => hf a h' hh'.1 hh'.2)

/-- What is left may be said more weakly. -/
theorem leaves_mono {c : Chore D (Host D) α} {h : Host D} {P Q : α → Registry D → Prop}
    (hc : Leaves I concurrent c h P) (hPQ : ∀ a r, P a r → Q a r) : Leaves I concurrent c h Q :=
  Chore.Ensures.mono hc fun a _ hh' => ⟨hh'.1, hPQ a _ hh'.2⟩

/-- An order that concerns no instance leaves the registry as it is. -/
theorem leaves_order {h : Host D} (ht : h.Tidy I concurrent) {o : Order D}
    (ho : o.isQuiet = true) (a : α) :
    Leaves I concurrent (.order o (.done a)) h fun _ r => r = h.registry := by
  intro c hc
  obtain ⟨hlawful, htidy⟩ := ht.aside (ht.aside_beginOrder ho) hc
  exact ⟨hlawful, fun hrest => ⟨htidy hrest, rfl⟩⟩

/-- A notice leaves the registry as it was. -/
theorem leaves_report {h : Host D} (ht : h.Tidy I concurrent) (n : RegistryNotice) :
    Leaves I concurrent (report n) h fun _ r => r = h.registry :=
  leaves_order ht (o := .code (.report (.registry n))) rfl ()

/-- A change of the registry that concerns neither the policy, the ids, the instances nor
the paths leaves the host tidy. -/
theorem leaves_modifyRegistry {h : Host D} (ht : h.Tidy I concurrent)
    {f : Registry D → Registry D} (hmode : (f h.registry).concurrent = h.registry.concurrent)
    (hnext : (f h.registry).nextId = h.registry.nextId)
    (hlives : (f h.registry).lives.Perm h.registry.lives) (hdistinct : (f h.registry).Distinct) :
    Leaves I concurrent (modifyRegistry f) h fun _ r => r = f h.registry := by
  have htidy := ht.withRegistry hmode hnext hlives hdistinct
  exact ⟨htidy.lawful, htidy, rfl⟩

/-- **Destroying** leaves the entry without an instance. -/
theorem leaves_destroy {h : Host D} (ht : h.Tidy I concurrent) (i : Nat) :
    Leaves I concurrent (destroy i) h fun _ r => r = h.registry.setLive i none := by
  unfold destroy
  refine leaves_state ?_
  split
  · next hlive => exact leaves_pure ht (Registry.setLive_of_none hlive).symm
  · next k hlive =>
    have hnames : (h.registry.setLive i none).lives ⊆ h.registry.lives := fun j hj =>
      (Registry.lives_setLive_none hlive).mem_iff.mp (List.mem_cons_of_mem k hj)
    refine ⟨ht.lawful_of_subset hnames (ht.distinct.setLive i none), fun c hc => ?_⟩
    obtain ⟨hlawful, htidy⟩ := ht.terminate hlive hc
    exact ⟨hlawful, fun hrest => ⟨htidy hrest, rfl⟩⟩

/-- **Instantiating** an entry without an instance gives it one, unless another script
runs and may not. -/
theorem leaves_instantiate {h : Host D} (ht : h.Tidy I concurrent) {i : Nat}
    (hlive : h.registry.live? i = none) :
    Leaves I concurrent (instantiate i) h fun _ r => h.registry.Attempted i r := by
  unfold instantiate
  refine leaves_state ?_
  split
  · next he => exact leaves_pure ht (.spared (Or.inl he))
  · next e he =>
    split
    · next live hblocker =>
      have hrefused : h.registry.concurrent = false := by
        by_contra hallowed
        simp [Registry.blocker?, hallowed] at hblocker
      refine leaves_bind (leaves_report ht _) fun _ h' ht' hsame => leaves_pure ht' ?_
      rw [hsame]
      exact .spared (Or.inr hrefused)
    · next hblocker =>
      have hnone : e.live = none := by simpa [Registry.live?, he] using hlive
      refine ⟨ht.lawful_of_subset (r := h.registry.countOn) (List.Subset.refl _) ht.distinct,
        fun c hc => ?_⟩
      obtain ⟨hlawful, htidy⟩ := ht.spawn he hnone hblocker hc
      exact ⟨hlawful, fun hrest => ⟨(htidy hrest).lawful, htidy hrest, .named _⟩⟩

/-! ## The operations -/

variable (I concurrent) in
/-- What holds of a registry between two operations. -/
structure WellKept (h : Host D) : Prop where
  tidy : h.Tidy I concurrent
  inStep : h.registry.InStep

/-- An operation takes a well-kept registry to a well-kept one. -/
abbrev Upholds (I : Interpreter D) (concurrent : Bool) (c : Chore D (Host D) α) : Prop :=
  c.Keeps I (Lawful concurrent) (WellKept I concurrent)

/-- To keep a registry well it is enough to leave it in step. -/
theorem upholds_of_leaves {c : Chore D (Host D) α}
    (hc : ∀ h, WellKept I concurrent h → Leaves I concurrent c h fun _ r => r.InStep) :
    Upholds I concurrent c :=
  fun h hh => (hc h hh).mono fun _ _ hh' => ⟨hh'.1, hh'.2⟩

/-- What keeps a registry well leaves it in step. -/
theorem Upholds.leaves {c : Chore D (Host D) α} (hc : Upholds I concurrent c) {h : Host D}
    (ht : h.Tidy I concurrent) (hstep : h.registry.InStep) :
    Leaves I concurrent c h fun _ r => r.InStep :=
  (hc h ⟨ht, hstep⟩).mono fun _ _ hh' => ⟨hh'.tidy, hh'.inStep⟩

/-- An order that touches nobody keeps a registry well. -/
theorem upholds_order {o : Order D} (ho : o.isQuiet = true) (a : α) :
    Upholds I concurrent (.order o (.done a)) :=
  upholds_of_leaves fun _ hh => leaves_mono (leaves_order hh.tidy ho a) fun _ _ hr => hr ▸ hh.inStep

theorem upholds_report (n : RegistryNotice) : Upholds I concurrent (report n) :=
  upholds_order (o := .code (.report (.registry n))) rfl ()

theorem upholds_reportWalk (ns : List ScanNotice) : Upholds I concurrent (reportWalk ns) := by
  induction ns with
  | nil => exact .pure ()
  | cons n rest ih => exact (upholds_order (o := .code (.report (.scan n))) rfl ()).bind fun _ => ih

/-- Where an instance is wanted of an entry that has none, instantiating it strikes its
position off. -/
theorem leaves_instantiate_inStep {h : Host D} (ht : h.Tidy I concurrent) {i : Nat}
    {but : List Nat} (hstep : h.registry.InStepBut (i :: but)) (hlive : h.registry.live? i = none)
    (hstarted : h.registry.started = true)
    (henabled : ∀ e, h.registry.entries[i]? = some e → e.enabled = true) :
    Leaves I concurrent (instantiate i) h fun _ r => r.InStepBut but :=
  leaves_mono (leaves_instantiate ht hlive) fun _ _ hr =>
    hr.inStepBut hstep hlive hstarted henabled

/-- Destroying strikes a position off from which no instance is wanted. -/
theorem leaves_destroy_inStep {h : Host D} (ht : h.Tidy I concurrent) {i : Nat} {but : List Nat}
    (hstep : h.registry.InStepBut (i :: but))
    (hwanted : ∀ e, h.registry.entries[i]? = some e → e.enabled = true →
      h.registry.started = false) :
    Leaves I concurrent (destroy i) h fun _ r =>
      r.InStepBut but ∧ r.started = h.registry.started := by
  refine leaves_mono (leaves_destroy ht i) fun _ r hr => ?_
  subst hr
  have hnew : (h.registry.setLive i none).InStepBut (i :: i :: but) := hstep.modifyEntry i _
  have hfits : ∀ e, (h.registry.setLive i none).entries[i]? = some e →
      e.Fits h.registry.started h.registry.concurrent := by
    intro e he
    rw [Registry.setLive, Registry.getElem?_modifyEntry] at he
    obtain ⟨e, he₀, rfl⟩ := Option.map_eq_some_iff.mp he
    exact Entry.fits_of_unwanted rfl (hwanted e he₀)
  exact ⟨(hnew.strike hfits).strike hfits, rfl⟩

/-- Registering a script keeps a registry well, refused or not. -/
theorem upholds_add (path : Path) (enabled : Bool) : Upholds I concurrent (add path enabled) := by
  refine upholds_of_leaves fun h hh => ?_
  unfold add
  refine leaves_state ?_
  split
  · exact leaves_pure hh.tidy hh.inStep
  · next hunknown =>
    refine leaves_bind (leaves_report hh.tidy _) fun _ h₁ ht₁ hsame => ?_
    refine leaves_bind (leaves_modifyRegistry ht₁ rfl rfl (by simp [Registry.lives])
      (hsame ▸ hh.tidy.distinct.append (by simpa using hunknown) enabled none))
      fun _ h₂ ht₂ hadded => ?_
    rw [hsame] at hadded
    have hentry : h₂.registry.entries[h.registry.entries.length]? = some ⟨path, enabled, none⟩ := by
      simp [hadded]
    have hstep : h₂.registry.InStepBut [h.registry.entries.length] :=
      hadded ▸ hh.inStep.append _
    have hstarted : h₂.registry.started = h.registry.started := by simp [hadded]
    split
    · next hwanted =>
      obtain ⟨henabled, hstart⟩ := Bool.and_eq_true_iff.mp hwanted
      have hlive : h₂.registry.live? h.registry.entries.length = none := by
        simp [Registry.live?, hentry]
      refine leaves_bind (leaves_instantiate_inStep ht₂ hstep hlive (hstarted.trans hstart) ?_)
        fun _ h₃ ht₃ hdone => leaves_pure ht₃ hdone
      intro e he
      obtain rfl := Option.some.inj (hentry.symm.trans he)
      exact henabled
    · next hunwanted =>
      refine leaves_pure ht₂ (hstep.strike fun e he => ?_)
      obtain rfl := Option.some.inj (hentry.symm.trans he)
      refine Entry.fits_of_unwanted rfl fun henabled => ?_
      have henabled : enabled = true := henabled
      simpa [henabled, hstarted] using hunwanted

/-- Switching an entry on or off keeps a registry well. -/
theorem upholds_setEnabledAt (i : Nat) (value : Bool) :
    Upholds I concurrent (setEnabledAt i value) := by
  refine upholds_of_leaves fun h hh => ?_
  unfold setEnabledAt
  have hlives := h.registry.lives_modifyEntry_same i (f := fun e => { e with enabled := value })
    fun _ => rfl
  refine leaves_bind (leaves_modifyRegistry hh.tidy rfl rfl (.of_eq hlives)
    (hh.tidy.distinct.modifyEntry i fun _ => rfl)) fun _ h₁ ht₁ hset => ?_
  have hstep : h₁.registry.InStepBut [i] := hset ▸ hh.inStep.modifyEntry i _
  have hentry : ∀ e, h₁.registry.entries[i]? = some e →
      ∃ e₀, h.registry.entries[i]? = some e₀ ∧ e = { e₀ with enabled := value } := by
    intro e he
    rw [hset, Registry.getElem?_modifyEntry] at he
    obtain ⟨e₀, he₀, rfl⟩ := Option.map_eq_some_iff.mp he
    exact ⟨e₀, he₀, rfl⟩
  split
  · next hvalue =>
    refine leaves_state ?_
    split
    · next hpending =>
      obtain ⟨hstarted, hlive⟩ := Bool.and_eq_true_iff.mp hpending
      refine leaves_instantiate_inStep ht₁ hstep (Option.isNone_iff_eq_none.mp hlive) hstarted ?_
      intro e he
      obtain ⟨e₀, -, rfl⟩ := hentry e he
      exact hvalue
    · next hpending =>
      refine leaves_pure ht₁ (hstep.strike fun e he => ?_)
      obtain ⟨e₀, he₀, rfl⟩ := hentry e he
      have hfits := hh.inStep i e₀ he₀ List.not_mem_nil
      have hstarted : h₁.registry.started = h.registry.started := by rw [hset]; rfl
      refine ⟨fun hlive => ⟨hvalue, hstarted.trans (hfits.wanted hlive).2⟩, fun _ _ hstart => ?_⟩
      simpa [hstart, Registry.live?, he, Option.isSome_iff_ne_none] using hpending
  · next hvalue =>
    refine leaves_bind (leaves_destroy_inStep ht₁ hstep fun e he henabled => ?_)
      fun _ h₂ ht₂ hdone => leaves_pure ht₂ hdone.1
    obtain ⟨e₀, -, rfl⟩ := hentry e he
    exact absurd henabled hvalue

/-- Switching the entry a selector names on or off keeps a registry well. -/
theorem upholds_setEnabled (s : Selector) (value : Bool) :
    Upholds I concurrent (setEnabled s value) := by
  refine .state fun h => ?_
  split
  · exact upholds_setEnabledAt _ value
  · exact .pure _

/-- Restarting an entry keeps a registry well. -/
theorem upholds_restartAt (i : Nat) : Upholds I concurrent (restartAt i) := by
  refine upholds_of_leaves fun h hh => ?_
  unfold restartAt
  refine leaves_state ?_
  split
  · exact leaves_pure hh.tidy hh.inStep
  · next e he =>
    split
    · next henabled =>
      refine leaves_bind (leaves_destroy hh.tidy i) fun _ h₁ ht₁ hdestroyed => leaves_state ?_
      have hstep : h₁.registry.InStepBut [i] := hdestroyed ▸ hh.inStep.modifyEntry i _
      have hentry : h₁.registry.entries[i]? = some { e with live := none } := by
        rw [hdestroyed, Registry.setLive, Registry.getElem?_modifyEntry, he]
        rfl
      split
      · next hstarted =>
        have hlive : h₁.registry.live? i = none := by simp [Registry.live?, hentry]
        refine leaves_instantiate_inStep ht₁ hstep hlive hstarted fun e' he' => ?_
        obtain rfl := Option.some.inj (hentry.symm.trans he')
        exact henabled
      · next hstopped =>
        refine leaves_pure ht₁ (hstep.strike fun e' he' => ?_)
        obtain rfl := Option.some.inj (hentry.symm.trans he')
        exact Entry.fits_of_unwanted rfl fun _ => by simpa using hstopped
    · exact leaves_bind (leaves_report hh.tidy _) fun _ h₁ ht₁ hsame =>
        leaves_pure ht₁ (hsame ▸ hh.inStep)

/-- Restarting the entry a selector names keeps a registry well. -/
theorem upholds_restart (s : Selector) : Upholds I concurrent (restart s) := by
  refine .state fun h => ?_
  split
  · exact upholds_restartAt _
  · exact .pure _

/-- Removing a script keeps a registry well. -/
theorem upholds_remove (s : Selector) : Upholds I concurrent (remove s) := by
  refine upholds_of_leaves fun h hh => ?_
  unfold remove
  refine leaves_state ?_
  split
  · exact leaves_pure hh.tidy hh.inStep
  · next i _ =>
    refine leaves_bind (leaves_destroy hh.tidy i) fun _ h₁ ht₁ hdestroyed => leaves_state ?_
    have hstep : h₁.registry.InStepBut [i] := hdestroyed ▸ hh.inStep.modifyEntry i _
    split
    · next hmissing =>
      refine leaves_pure ht₁ (hstep.strike fun e he => ?_)
      rw [hmissing] at he
      cases he
    · next e he =>
      have hlive : e.live = none := by
        have hlive := h.registry.live?_setLive_none i
        simpa [← hdestroyed, Registry.live?, he] using hlive
      refine leaves_bind (leaves_modifyRegistry ht₁ rfl rfl (Registry.lives_eraseIdx he hlive)
        (ht₁.distinct.eraseIdx i)) fun _ h₂ ht₂ herased => ?_
      exact leaves_bind (leaves_report ht₂ _) fun _ h₃ ht₃ hsame =>
        leaves_pure ht₃ (hsame ▸ herased ▸ hstep.eraseIdx)

/-! ## Operations on all entries -/

/-- An operation that strikes a position off a list, attempted on the whole list. -/
theorem leaves_attemptAll {op : Nat → Chore D (Host D) (Except RegistryError Unit)}
    {Q : List Nat → Registry D → Prop}
    (hop : ∀ i rest h, h.Tidy I concurrent → Q (i :: rest) h.registry →
      Leaves I concurrent (op i) h fun _ r => Q rest r)
    (l : List Nat) {h : Host D} (ht : h.Tidy I concurrent) (hQ : Q l h.registry) :
    Leaves I concurrent (attemptAll op l) h fun _ r => Q [] r := by
  induction l generalizing h with
  | nil => exact leaves_pure ht hQ
  | cons i rest ih =>
    unfold attemptAll
    refine leaves_bind (hop i rest h ht hQ) fun result h₁ ht₁ hdone => ?_
    cases result with
    | ok => exact ih ht₁ hdone
    | error e =>
      refine leaves_bind (leaves_report ht₁ _) fun _ h₂ ht₂ hsame => ?_
      exact leaves_bind (ih ht₂ (hsame ▸ hdone)) fun _ h₃ ht₃ hall => leaves_pure ht₃ hall

/-- Restarting everybody keeps a registry well. -/
theorem upholds_restartAll : Upholds I concurrent restartAll := by
  refine upholds_of_leaves fun h hh => ?_
  unfold restartAll
  refine leaves_state (leaves_bind (leaves_report hh.tidy _) fun _ h₁ ht₁ hsame => ?_)
  exact leaves_attemptAll (Q := fun _ r => r.InStep)
    (fun i _ h ht hstep => (upholds_restartAt i).leaves ht hstep) _ ht₁ (hsame ▸ hh.inStep)

end Host

/-- A started registry wants an instance of each of the entries at some positions, and
none of them names one. -/
structure Registry.Awaits (l : List Nat) (r : Registry D) : Prop where
  started : r.started = true
  inStep : r.InStepBut l
  nodup : l.Nodup
  wanted : ∀ j ∈ l, ∀ e, r.entries[j]? = some e → e.enabled = true ∧ e.live = none

/-- A registry that has just been started wants the instances it has not got. -/
theorem Registry.InStep.awaits {r : Registry D} (h : r.InStep) :
    ({ r with started := true } : Registry D).Awaits
      (r.positions fun e => e.enabled && e.live.isNone) := by
  refine ⟨rfl, fun j e he hj => ?_, List.nodup_range.filter _, fun j hj e he => ?_⟩
  · have hfits := h j e he List.not_mem_nil
    refine ⟨fun hlive => ⟨(hfits.wanted hlive).1, rfl⟩, fun _ henabled _ => ?_⟩
    by_contra hnone
    refine hj (List.mem_filter.mpr ⟨List.mem_range.mpr (List.getElem?_eq_some_iff.mp he).1, ?_⟩)
    have he : r.entries[j]? = some e := he
    simpa [he, henabled] using hnone
  · have he : r.entries[j]? = some e := he
    simpa [he] using (List.mem_filter.mp hj).2

/-- Once an entry has been attempted, the others on the list are still to come. -/
theorem Registry.Awaits.attempted {r r' : Registry D} {i : Nat} {l : List Nat}
    (h : r.Awaits (i :: l)) (hattempted : r.Attempted i r') : r'.Awaits l := by
  obtain ⟨hi, hnodup⟩ := List.nodup_cons.mp h.nodup
  have hentry := h.wanted i List.mem_cons_self
  have hlive : r.live? i = none := by
    cases he : r.entries[i]? with
    | none => simp [live?, he]
    | some e => simp [live?, he, (hentry e he).2]
  refine ⟨hattempted.started.trans h.started,
    hattempted.inStepBut h.inStep hlive h.started fun e he => (hentry e he).1, hnodup, ?_⟩
  intro j hj e he
  have hne : i ≠ j := fun heq => hi (heq ▸ hj)
  rw [hattempted.getElem?_of_ne hne] at he
  exact h.wanted j (List.mem_cons_of_mem i hj) e he

namespace Host

variable {I : Interpreter D} {concurrent : Bool}

/-- Starting the emulation keeps a registry well. -/
theorem upholds_startAll : Upholds I concurrent startAll := by
  refine upholds_of_leaves fun h hh => ?_
  unfold startAll
  refine leaves_bind (leaves_modifyRegistry hh.tidy rfl rfl (.refl _) hh.tidy.distinct)
    fun _ h₁ ht₁ hset => ?_
  refine leaves_state (leaves_bind (leaves_report ht₁ _) fun _ h₂ ht₂ hsame => ?_)
  refine leaves_mono
    (leaves_attemptAll (Q := Registry.Awaits) (fun i rest h ht hawaits => ?_) _ ht₂ ?_)
    fun _ r hdone => hdone.inStep
  · have hlive : h.registry.live? i = none := by
      cases he : h.registry.entries[i]? with
      | none => simp [Registry.live?, he]
      | some e => simp [Registry.live?, he, (hawaits.wanted i List.mem_cons_self e he).2]
    exact leaves_mono (leaves_instantiate ht hlive) fun _ _ hr => hawaits.attempted hr
  · rw [hsame, hset]
    exact hh.inStep.awaits

/-- Where the registry is stopped, destroying strikes off every position. -/
theorem leaves_destroyAll (l : List Nat) {h : Host D} (ht : h.Tidy I concurrent)
    (hstep : h.registry.InStepBut l) (hstopped : h.registry.started = false) :
    Leaves I concurrent (destroyAll l) h fun _ r => r.InStep := by
  induction l generalizing h with
  | nil => exact leaves_pure ht hstep
  | cons i rest ih =>
    refine leaves_bind (leaves_destroy_inStep ht hstep fun _ _ _ => hstopped)
      fun _ h₁ ht₁ hdone => ih ht₁ hdone.1 (hdone.2.trans hstopped)

/-- Stopping the emulation keeps a registry well. -/
theorem upholds_stopAll : Upholds I concurrent stopAll := by
  refine upholds_of_leaves fun h hh => ?_
  unfold stopAll
  refine leaves_bind (leaves_modifyRegistry hh.tidy rfl rfl (.refl _) hh.tidy.distinct)
    fun _ h₁ ht₁ hset => ?_
  refine leaves_state ?_
  have hstep : h₁.registry.InStepBut (List.range h₁.registry.entries.length) := by
    intro j e he hj
    exact absurd (List.mem_range.mpr (List.getElem?_eq_some_iff.mp he).1) hj
  have hstopped : h₁.registry.started = false := by rw [hset]
  dsimp only
  split
  · refine leaves_bind (leaves_report ht₁ _) fun _ h₂ ht₂ hsame => ?_
    exact leaves_destroyAll _ ht₂ (hsame ▸ hstep) (hsame ▸ hstopped)
  · exact leaves_destroyAll _ ht₁ hstep hstopped

/-! ## Operations made of operations -/

/-- A deferred request keeps a registry well. -/
theorem upholds_applyRequest (r : Request) : Upholds I concurrent (applyRequest r) := by
  refine .state fun h => ?_
  split
  · exact upholds_setEnabledAt _ true
  · exact (upholds_add r.path true).bind fun _ => .pure _
  · exact upholds_setEnabledAt _ false
  · exact (upholds_report _).bind fun _ => .pure _

/-- A queue of deferred requests keeps a registry well. -/
theorem upholds_applyRequests (rs : List Request) : Upholds I concurrent (applyRequests rs) := by
  induction rs with
  | nil => exact .pure []
  | cons r rest ih =>
    refine (upholds_applyRequest r).bind fun result => ?_
    cases result with
    | ok => exact ih
    | error e => exact (upholds_report _).bind fun _ => ih.bind fun _ => .pure _

/-- Taking the queue of requests and applying it keeps a registry well. -/
theorem upholds_processRequests : Upholds I concurrent processRequests := by
  refine Chore.Keeps.bind (fun h hh => ?_) upholds_applyRequests
  exact upholds_order (o := .dropRequests) rfl h.world.requests h hh

/-- Registering scripts one after another keeps a registry well. -/
theorem upholds_enlist (settings : ScriptSettings) (paths : List Path) :
    Upholds I concurrent (enlist settings paths) := by
  induction paths with
  | nil => exact .pure _
  | cons p rest ih =>
    refine .state fun h => ?_
    split
    · exact ih
    · refine (upholds_add p _).bind fun result => ?_
      cases result with
      | ok => exact ih.bind fun _ => .pure _
      | error e => exact (upholds_report _).bind fun _ => ih.bind fun _ => .pure _

/-- Registering what is found in a directory keeps a registry well. -/
theorem upholds_discover (files : Files) (dir : Path) (settings : ScriptSettings) :
    Upholds I concurrent (discover files dir settings) := by
  refine (upholds_reportWalk _).bind fun _ => (upholds_enlist settings _).bind fun result => ?_
  refine (upholds_report _).bind fun _ => ?_
  cases result.2 with
  | some e => exact .pure _
  | none => exact .pure _

/-- Registering scripts by their names keeps a registry well. -/
theorem upholds_addNamed (dir : Path) (names : List String) :
    Upholds I concurrent (addNamed dir names) := by
  induction names with
  | nil => exact .pure _
  | cons name rest ih =>
    refine .state fun h => ?_
    dsimp only
    split
    · exact (upholds_order (o := .code (.report (.session (.alreadyLoaded name)))) rfl ()).bind
        fun _ => ih
    · refine (upholds_add _ true).bind fun result => ?_
      cases result with
      | error e => exact .pure _
      | ok => exact ih.bind fun _ => .pure _

end Host

/-- **Every operation on a registry** leaves it well kept. -/
theorem RegistryOperation.upholds {I : Interpreter D} {concurrent : Bool}
    (op : RegistryOperation) : Host.Upholds I concurrent (op.chore : Chore D (Host D) Unit) := by
  cases op with
  | add path enabled => exact (Host.upholds_add path enabled).void
  | setEnabled s value => exact (Host.upholds_setEnabled s value).void
  | restart s => exact (Host.upholds_restart s).void
  | restartAll => exact Host.upholds_restartAll.void
  | remove s => exact (Host.upholds_remove s).void
  | startAll => exact Host.upholds_startAll.void
  | stopAll => exact Host.upholds_stopAll
  | discover files dir settings => exact (Host.upholds_discover files dir settings).void
  | processRequests => exact Host.upholds_processRequests.void
  | addNamed dir names => exact (Host.upholds_addNamed dir names).void

end ScriptHost
