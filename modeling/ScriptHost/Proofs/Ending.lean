import ScriptHost.Proofs.Custody

/-!
# After the end

An instance **has ended** once its end is complete.  From then on its state does
not change any more (`Account.Step.hasEnded`), and what the machine still does to
it is little: the passes that were under way drop what they had yet to resume, and
the frames that run its code come to their results.

* `Config.Runs.hasEnded_of_returned` — a call that ends an instance returns with
  the instance ended;
* `Config.Reachable.silenced` — nobody who waited when the instance ended is ever
  resumed, and no callback is ever called;
* `Config.IsRun.starts_iff` — somebody new is resumed exactly when a callback that
  was running returns a coroutine to be started;
* `Config.IsRun.holds_iff` — the table is empty at the end and has no callback ever
  after; it stays empty exactly until a coroutine of the instance suspends again.
-/

namespace ScriptHost

variable {D : Dialect}

namespace Subscriptions

/-- Subscribed to nothing, for any kind. -/
def IsEmpty (t : Subscriptions D) : Prop :=
  ∀ kind, t.callback kind = none ∧ t.waiting kind = []

/-- Nothing is left in a table that was cleared. -/
theorem isEmpty_clear (t : Subscriptions D) : t.clear.IsEmpty := by
  intro kind
  simp

end Subscriptions

namespace Account

/-- The end is complete. -/
def HasEnded (a : Account D) : Prop :=
  a.state = some .terminated

instance (a : Account D) : Decidable a.HasEnded :=
  inferInstanceAs (Decidable (a.state = some .terminated))

/-- Whoever has ended is not alive. -/
theorem HasEnded.not_isAlive {a : Account D} (h : a.HasEnded) : ¬ a.isAlive := by
  simp [Standing.isAlive, show a.state = some .terminated from h]

/-- An instance ends for good. -/
theorem Step.hasEnded {i : Nat} {a b : Account D} {δ : Deed D} (h : Step i a δ b)
    (ha : a.HasEnded) : b.HasEnded := by
  have hstate : a.state = some .terminated := ha
  cases h with
  | birth h => rw [hstate] at h; cases h
  | settle h => rw [hstate] at h; cases h
  | ending => rfl
  | nothing | hand | start | drain | wake | cut | exhaust | finished | parked | misdirected
  | failed | call | setCallback | clearCallbacks | reset => exact ha

/-- Only a completed end ends an instance. -/
theorem Step.eq_ending {i : Nat} {a b : Account D} {δ : Deed D} (h : Step i a δ b)
    (ha : ¬ a.HasEnded) (hb : b.HasEnded) : δ = .ending := by
  cases h with
  | ending => rfl
  | birth => cases hb
  | settle => cases hb
  | nothing | hand | start | drain | wake | cut | exhaust | finished | parked | misdirected
  | failed | call | setCallback | clearCallbacks | reset => exact absurd hb ha

/-- **What can still be resumed after the end** is a newcomer that a callback or
the top-level code returned; nothing is called. -/
theorem Step.after_end {i : Nat} {a b : Account D} {δ : Deed D} (h : Step i a δ b)
    (ha : a.HasEnded) :
    Gains (fun x =>
      (∀ s args, x = .resumed (.script i) s args → s = a.table.handed ∧ args = [] ∧
        ∃ door routine, δ = .start door routine ∧ door ≠ .context) ∧
      ∀ kind callback args, x ≠ .called i kind callback args) a b := by
  refine h.writes.mono fun x hx => ⟨?_, ?_⟩
  · rintro s args rfl
    cases hx with
    | woken halive => exact absurd halive ha.not_isAlive
    | started door routine =>
      refine ⟨rfl, rfl, door, routine, rfl, ?_⟩
      rintro rfl
      cases h with
      | start _ hdoor => exact ha.not_isAlive (hdoor rfl)
  · rintro kind callback args rfl
    cases hx with
    | called halive => exact ha.not_isAlive halive

/-- A deed after the end leaves an empty table empty, unless a coroutine that runs
suspends again. -/
theorem Step.isEmpty {i : Nat} {a b : Account D} {δ : Deed D} (h : Step i a δ b)
    (ha : a.HasEnded) (hempty : a.table.IsEmpty)
    (hδ : ∀ s request routine kind, request.resolve = .ok kind →
      δ ≠ .yield s (.ok (.await request routine))) : b.table.IsEmpty := by
  cases h with
  | birth => exact fun kind => ⟨Subscriptions.callback_empty kind, Subscriptions.waiting_empty kind⟩
  | hand h => exact absurd h ha.not_isAlive
  | drain h => exact absurd h ha.not_isAlive
  | setCallback h => exact absurd h ha.not_isAlive
  | parked _ hkind => exact absurd rfl (hδ _ _ _ _ hkind)
  | clearCallbacks =>
    exact fun kind => ⟨Subscriptions.callback_clearCallbacks _ kind,
      (Subscriptions.waiting_clearCallbacks _ kind).trans (hempty kind).2⟩
  | ending | reset => exact a.table.isEmpty_clear
  | nothing | settle | start | wake | cut | exhaust | finished | misdirected | failed | call =>
    exact hempty

/-- No deed after the end registers a callback. -/
theorem Step.callback {i : Nat} {a b : Account D} {δ : Deed D} (h : Step i a δ b)
    (ha : a.HasEnded) {kind : EventKind} (hnone : a.table.callback kind = none) :
    b.table.callback kind = none := by
  cases h with
  | birth => exact Subscriptions.callback_empty kind
  | hand h => exact absurd h ha.not_isAlive
  | drain h => exact absurd h ha.not_isAlive
  | setCallback h => exact absurd h ha.not_isAlive
  | parked => exact (Subscriptions.callback_park _ _ kind _).trans hnone
  | clearCallbacks => exact Subscriptions.callback_clearCallbacks _ kind
  | ending | reset => exact Subscriptions.callback_clear _ kind
  | nothing | settle | start | wake | cut | exhaust | finished | misdirected | failed | call =>
    exact hnone

/-- What runs when an end is complete runs on. -/
theorem Step.running_of_ending {i : Nat} {a b : Account D} (h : Step i a .ending b) :
    b.running = a.running := by
  cases h with
  | ending => rfl

/-- With the deed of ending an instance has ended. -/
theorem Step.hasEnded_of_ending {i : Nat} {a b : Account D} (h : Step i a .ending b) :
    b.HasEnded := by
  cases h with
  | ending => rfl

/-- With the deed of ending its table is empty. -/
theorem Step.isEmpty_of_ending {i : Nat} {a b : Account D} (h : Step i a .ending b) :
    b.table.IsEmpty := by
  cases h with
  | ending => exact a.table.isEmpty_clear

/-- Whoever suspends waits in the table. -/
theorem Step.not_isEmpty {i s : Nat} {a b : Account D} {request : AwaitRequest}
    {routine : D.Coroutine} {kind : EventKind}
    (h : Step i a (.yield s (.ok (.await request routine))) b)
    (hkind : request.resolve = .ok kind) : ¬ b.table.IsEmpty := by
  cases h with
  | parked _ hkind' =>
    intro hempty
    have hnil := (hempty kind).2
    obtain rfl := Except.ok.inj (hkind.symm.trans hkind')
    simp [Subscriptions.waiting_park] at hnil
  | misdirected _ he =>
    rw [hkind] at he
    cases he

/-- After the end nobody runs who did not run before, but for newcomers. -/
theorem Step.running_subset {i : Nat} {a b : Account D} {δ : Deed D} (h : Step i a δ b)
    (ha : a.HasEnded) : b.running ⊆ a.table.handed :: a.running := by
  cases h with
  | wake h => exact absurd h ha.not_isAlive
  | start => exact List.Subset.refl _
  | finished hrun | parked hrun | misdirected hrun | failed hrun =>
    rw [hrun]
    exact fun s hs => List.mem_cons_of_mem _ (List.mem_cons_of_mem _ hs)
  | nothing | birth | settle | ending | hand | drain | cut | exhaust | call | setCallback
  | clearCallbacks | reset => exact List.subset_cons_self _ _

/-- Whoever was handed over before was so after. -/
theorem Gains.handed_subset {P : Happening D → Prop} {a b : Account D} (h : Gains P a b) :
    a.handed ⊆ b.handed := by
  intro s hs
  obtain ⟨x, hx, hgone⟩ := List.mem_filterMap.mp hs
  exact List.mem_filterMap.mpr ⟨x, h.mem hx, hgone⟩

/-- What is gained between two accounts is gained in any stretch between them. -/
theorem Gains.between {P Q R S : Happening D → Prop} {a b c d : Account D} (h : Gains P a d)
    (hab : Gains Q a b) (hbc : Gains R b c) (hcd : Gains S c d) : Gains P b c := by
  obtain ⟨news, hnews, hP⟩ := h
  obtain ⟨first, hb, -⟩ := hab
  obtain ⟨second, hc, -⟩ := hbc
  obtain ⟨third, hd, -⟩ := hcd
  have hsplit : news = third ++ (second ++ first) := by
    have hsame : news ++ a.story = (third ++ (second ++ first)) ++ a.story := by
      rw [← hnews, hd, hc, hb, List.append_assoc, List.append_assoc]
    exact List.append_cancel_right hsame
  refine ⟨second, hc, fun x hx => hP x ?_⟩
  rw [hsplit]
  exact List.mem_append_right _ (List.mem_append_left _ hx)

end Account

namespace Config

variable {I : Interpreter D}

/-- The end of an instance is complete. -/
def HasEnded (c : Config D) (i : Nat) : Prop :=
  (c.account i).HasEnded

instance (c : Config D) (i : Nat) : Decidable (c.HasEnded i) :=
  inferInstanceAs (Decidable (c.account i).HasEnded)

/-- A callback of an instance comes to its result: a coroutine to be started. -/
def Spawns (c : Config D) (i : Nat) : Prop :=
  ∃ kind routine rest, c.stack = .call i kind (.ret (.ok (.spawn routine))) :: rest

/-- A coroutine of an instance suspends until the next event of a kind. -/
def Suspends (c : Config D) (i : Nat) : Prop :=
  ∃ s request routine kind rest, request.resolve = .ok kind ∧
    c.stack = .coroutine (.script i) s (.ret (.ok (.await request routine))) :: rest

/-- **Whoever has ended stays ended**, in every run. -/
theorem Runs.hasEnded {c c' : Config D} (hc : c.Reachable I) (h : c.Runs I c') {i : Nat}
    (hended : c.HasEnded i) : c'.HasEnded i := by
  induction h with
  | refl => exact hended
  | tail hfirst hmove ih =>
    obtain ⟨δ, -, hstep⟩ := (hc.runs hfirst).deed hmove i
    exact hstep.hasEnded ih

/-- What is known of an instance is only added to. -/
theorem Runs.grows {c c' : Config D} (hc : c.Reachable I) (h : c.Runs I c') (i : Nat) :
    c.Gains i (fun _ => True) c' := by
  refine (h.gains (J := Reachable I) (fun c₁ c₂ hc₁ hmove => ⟨hc₁.move hmove, ?_⟩) hc).2
  obtain ⟨δ, -, hstep⟩ := hc₁.deed hmove i
  exact hstep.writes.mono fun _ _ => trivial

/-- **A call that ends an instance returns with the instance ended.**  While the end
of an instance is under way, it stands on the stack above the code that called for
it; a run gets back to that code only through it. -/
theorem Runs.hasEnded_of_returned {c c' : Config D} (hc : c.Reachable I) (h : c.Runs I c')
    {i : Nat} {started rest : List (Frame D)} (hstack : c.stack = started ++ .ending i :: rest)
    (hreturned : c'.stack.length ≤ rest.length) : c'.HasEnded i := by
  suffices hkept : c'.HasEnded i ∨ ∃ started, c'.stack = started ++ .ending i :: rest by
    rcases hkept with hended | ⟨started, hunder⟩
    · exact hended
    · rw [hunder, List.length_append, List.length_cons] at hreturned
      omega
  clear hreturned
  induction h with
  | refl => exact Or.inr ⟨started, hstack⟩
  | @tail c₁ c₂ hfirst hmove ih =>
    have hc₁ : c₁.Reachable I := hc.runs hfirst
    rcases ih with hended | ⟨above, habove⟩
    · exact Or.inl (Runs.hasEnded hc₁ (.single hmove) hended)
    · cases above with
      | nil =>
        have hi : i < c₁.world.instances.length := by
          refine hc₁.sound.endable i (List.mem_append_right _ (List.mem_filterMap.mpr
            ⟨.ending i, ?_, rfl⟩))
          rw [habove]
          exact List.mem_cons_self
        exact Or.inl (hmove.step_of_advance habove (Frame.ending_step I hi)).hasEnded_of_ending
      | cons f above =>
        refine Or.inr ⟨(f.advance I c₁.world).2 ++ above, ?_⟩
        rw [hmove.eq_advance habove, List.append_assoc]
        rfl

/-- A start after the end has a callback for its cause: top-level code that is
still under way belongs to an instance that is alive. -/
theorem Reachable.spawns {c : Config D} (hc : c.Reachable I) {i : Nat} (hended : c.HasEnded i)
    {f : Frame D} {rest : List (Frame D)} (hstack : c.stack = f :: rest) {door : Door}
    {routine : D.Coroutine} (hbrings : f.Brings i (.start door routine))
    (hdoor : door ≠ .context) : c.Spawns i := by
  cases hbrings with
  | act _ ha =>
    cases ha
    exact absurd rfl hdoor
  | spawned kind => exact ⟨kind, routine, rest, hstack⟩
  | main =>
    have halive := (hc.sound.entries i _ (hstack ▸ List.mem_cons_self)).1
    rw [← isAlive_account] at halive
    exact absurd halive hended.not_isAlive

/-- What a move can still resume after the end, and why. -/
theorem Move.after_end {c c' : Config D} (hc : c.Reachable I) (h : c.Move I c') {i : Nat}
    (hended : c.HasEnded i) :
    c.Gains i (fun x =>
      (∀ s args, x = .resumed (.script i) s args →
        s = (c.account i).table.handed ∧ args = [] ∧ c.Spawns i) ∧
      ∀ kind callback args, x ≠ .called i kind callback args) c' := by
  obtain ⟨δ, hδ, hstep⟩ := hc.deed h i
  refine (hstep.after_end hended).mono fun x hx => ⟨fun s args hresumed => ?_, hx.2⟩
  obtain ⟨hs, hargs, door, routine, rfl, hdoor⟩ := hx.1 s args hresumed
  refine ⟨hs, hargs, ?_⟩
  rcases hδ with hδ | hδ | ⟨f, rest, hstack, hbrings⟩
  · cases hδ
  · cases hδ
  · exact hc.spawns hended hstack hbrings hdoor

/-- What a run can still resume after the end: nobody who was ever handed over
before. -/
theorem Runs.after_end {c c' : Config D} (hc : c.Reachable I) (h : c.Runs I c') {i : Nat}
    (hended : c.HasEnded i) :
    c.Gains i (fun x =>
      (∀ s args, x = .resumed (.script i) s args → s ∉ (c.account i).handed ∧ args = []) ∧
      ∀ kind callback args, x ≠ .called i kind callback args) c' := by
  refine (h.gains (J := fun d => d.Reachable I ∧ d.HasEnded i ∧
      (c.account i).handed ⊆ (d.account i).handed) ?_ ⟨hc, hended, List.Subset.refl _⟩).2
  rintro c₁ c₂ ⟨hc₁, hended₁, hsubset⟩ hmove
  obtain ⟨δ, -, hstep⟩ := hc₁.deed hmove i
  refine ⟨⟨hc₁.move hmove, hstep.hasEnded hended₁,
    List.Subset.trans hsubset hstep.writes.handed_subset⟩, ?_⟩
  refine (hmove.after_end hc₁ hended₁).mono fun x hx => ⟨fun s args hresumed => ?_, hx.2⟩
  obtain ⟨rfl, hargs, -⟩ := hx.1 s args hresumed
  exact ⟨fun hs => (hc₁.balanced i).newcomer (hsubset hs), hargs⟩

/-- Whoever does not run after the end does not come to run, but for newcomers. -/
theorem Runs.not_mem_running {c c' : Config D} (hc : c.Reachable I) (h : c.Runs I c') {i s : Nat}
    (hended : c.HasEnded i) (hs : s ∈ (c.account i).handed) (hnot : s ∉ (c.account i).running) :
    s ∉ (c'.account i).running := by
  induction h with
  | refl => exact hnot
  | @tail c₁ c₂ hfirst hmove ih =>
    have hc₁ : c₁.Reachable I := hc.runs hfirst
    obtain ⟨δ, -, hstep⟩ := hc₁.deed hmove i
    intro hrunning
    rcases List.mem_cons.mp (hstep.running_subset (Runs.hasEnded hc hfirst hended) hrunning) with
      rfl | hold
    · exact (hc₁.balanced i).newcomer ((Runs.grows hc hfirst i).handed_subset hs)
    · exact ih hold

/-- Whoever waits right before or right after the move that ends an instance was
handed over, and does not run after it. -/
theorem Move.waiting_of_hasEnded {c c₁ : Config D} (hc : c.Reachable I) (h : c.Move I c₁)
    {i s : Nat} (hended : c₁.HasEnded i)
    (hs : s ∈ (c.account i).waiting ++ (c₁.account i).waiting) :
    s ∈ (c₁.account i).handed ∧ s ∉ (c₁.account i).running := by
  have stays : ∀ {d : Config D}, d.Reachable I → s ∈ (d.account i).waiting →
      s ∈ (d.account i).handed ∧ s ∉ (d.account i).running := by
    intro d hd hs
    have hbalanced := hd.balanced i
    have hplaces := (List.nodup_append.mp hbalanced.nodup).1
    refine ⟨hbalanced.perm.mem_iff.mp (List.mem_append_left _ (List.mem_append_left _ hs)), ?_⟩
    exact fun hrunning => (List.nodup_append.mp hplaces).2.2 s hs s hrunning rfl
  rcases List.mem_append.mp hs with hs | hs
  · obtain ⟨hhanded, hnot⟩ := stays hc hs
    obtain ⟨δ, -, hstep⟩ := hc.deed h i
    refine ⟨hstep.writes.handed_subset hhanded, fun hrunning => ?_⟩
    by_cases halready : c.HasEnded i
    · rcases List.mem_cons.mp (hstep.running_subset halready hrunning) with rfl | hold
      · exact (hc.balanced i).newcomer hhanded
      · exact hnot hold
    · obtain rfl := hstep.eq_ending halready hended
      exact hnot (hstep.running_of_ending ▸ hrunning)
  · exact stays (hc.move h) hs

/-- **Pending work dies with the script.**  Whoever waits when the end of an
instance is completed — in its table, or in the queue of a pass that is under
way, right before or right after — never runs and is never resumed again, and no
callback of the instance is ever called again, whatever the run goes on with.  The
call for the end returns after that move (`Runs.hasEnded_of_returned`). -/
theorem Reachable.silenced {c c₁ c₂ : Config D} (hc : c.Reachable I) (hend : c.Move I c₁)
    {i : Nat} (hended : c₁.HasEnded i) (hruns : c₁.Runs I c₂) :
    (∀ s ∈ (c.account i).waiting ++ (c₁.account i).waiting, s ∉ (c₂.account i).running) ∧
      c₁.Gains i (fun x =>
        (∀ s ∈ (c.account i).waiting ++ (c₁.account i).waiting, ∀ args,
          x ≠ .resumed (.script i) s args) ∧
        ∀ kind callback args, x ≠ .called i kind callback args) c₂ := by
  have hc₁ : c₁.Reachable I := hc.move hend
  refine ⟨fun s hs => ?_, (hruns.after_end hc₁ hended).mono fun x hx =>
    ⟨fun s hs args hresumed => ?_, hx.2⟩⟩
  · obtain ⟨hhanded, hnot⟩ := hend.waiting_of_hasEnded hc hended hs
    exact hruns.not_mem_running hc₁ hended hhanded hnot
  · exact (hx.1 s args hresumed).1 (hend.waiting_of_hasEnded hc hended hs).1

/-- The coroutine that waits when the script of `Specimen` ends itself. -/
theorem Reachable.silenced_self_ended :
    0 ∈ ((Specimen.endingRun 9).account 0).waiting ∧
      0 ∉ ((Specimen.endingRun 15).account 0).running ∧
      (Specimen.endingRun 10).Gains 0 (fun x =>
        (∀ args, x ≠ .resumed (.script 0) 0 args) ∧
        ∀ kind callback args, x ≠ .called 0 kind callback args) (Specimen.endingRun 15) := by
  have hwaits : 0 ∈ ((Specimen.endingRun 9).account 0).waiting := by decide +kernel
  have hend : (Specimen.endingRun 9).Move Specimen.interpreter (Specimen.endingRun 10) :=
    Specimen.isRun_endingRun 9 (by decide)
  have hended : (Specimen.endingRun 10).HasEnded 0 := by decide +kernel
  have hruns : (Specimen.endingRun 10).Runs Specimen.interpreter (Specimen.endingRun 15) :=
    Specimen.isRun_endingRun.runs (by decide) (Nat.le_refl 15)
  obtain ⟨hrunning, hgains⟩ :=
    Reachable.silenced (Specimen.reachable_endingRun 9) hend hended hruns
  exact ⟨hwaits, hrunning 0 (List.mem_append_left _ hwaits),
    hgains.mono fun x hx => ⟨hx.1 0 (List.mem_append_left _ hwaits), hx.2⟩⟩

/-- A coroutine that a callback returns is resumed by the next move. -/
theorem Move.resumes_of_spawns {c c' : Config D} (hc : c.Reachable I) (h : c.Move I c') {i : Nat}
    (hspawns : c.Spawns i) :
    ¬ c.Gains i (fun x => ∀ s args, x ≠ .resumed (.script i) s args) c' := by
  obtain ⟨kind, routine, rest, hstack⟩ := hspawns
  have hframe : (Frame.call i kind (.ret (.ok (.spawn routine)))).Sound c.world :=
    hc.sound.frames _ (hstack ▸ List.mem_cons_self)
  have hi : i < c.world.instances.length := hframe
  have hstep : Account.Step i (c.account i) (.start .callback routine) (c'.account i) :=
    h.step_of_advance hstack (Frame.spawned_step I hi kind routine)
  rintro ⟨news, hstory, hnews⟩
  generalize hb : c'.account i = b at hstep hstory
  cases hstep with
  | start =>
    have hsplit : news ++ (c.account i).story
        = [.resumed (.script i) (c.account i).table.handed [],
            .handed (.script i) (c.account i).table.handed] ++ (c.account i).story :=
      hstory.symm
    exact hnews _ (List.append_cancel_right hsplit ▸ List.mem_cons_self) _ _ rfl

/-- **Who is started after the end.**  In a run that goes on after the end of an
instance, a coroutine of it is resumed if and only if a callback of it comes to its
result and returns one to be started.  Whoever is resumed was not handed over
before the end, and runs without arguments. -/
theorem IsRun.starts_iff {run : Nat → Config D} {n i : Nat} (hrun : IsRun I run n)
    (hc : (run 0).Reachable I) (hended : (run 0).HasEnded i) :
    ((run 0).Gains i (fun x => ∀ s args, x ≠ .resumed (.script i) s args) (run n) ↔
        ∀ k < n, ¬ (run k).Spawns i) ∧
      (run 0).Gains i (fun x => ∀ s args, x = .resumed (.script i) s args →
        s ∉ ((run 0).account i).handed ∧ args = []) (run n) := by
  have reach : ∀ k ≤ n, (run k).Reachable I := fun k hk => hc.runs (hrun.runs (Nat.zero_le k) hk)
  refine ⟨⟨fun hsilent k hk hspawns => ?_, fun hnone => ?_⟩, ?_⟩
  · have hmove : (run k).Move I (run (k + 1)) := hrun k hk
    refine hmove.resumes_of_spawns (reach k (by omega)) hspawns ?_
    exact hsilent.between (Runs.grows hc (hrun.runs (Nat.zero_le k) (by omega)) i)
      (Runs.grows (reach k (by omega)) (.single hmove) i)
      (Runs.grows (reach (k + 1) hk) (hrun.runs hk (Nat.le_refl n)) i)
  · suffices h : ∀ m ≤ n, (run 0).Gains i (fun x => ∀ s args, x ≠ .resumed (.script i) s args)
        (run m) from h n (Nat.le_refl n)
    intro m
    induction m with
    | zero => exact fun _ => .refl _ _
    | succ m ih =>
      intro hm
      have hendedm : (run m).HasEnded i :=
        (hrun.runs (Nat.zero_le m) (by omega)).hasEnded hc hended
      refine (ih (by omega)).trans ((Move.after_end (reach m (by omega)) (hrun m hm) hendedm).mono
        fun x hx s args hresumed => ?_)
      exact hnone m hm (hx.1 s args hresumed).2.2
  · exact ((hrun.runs (Nat.zero_le n) (Nat.le_refl n)).after_end hc hended).mono fun x hx => hx.1

/-- The callback of `Specimen` ends its script and returns a coroutine: it is
started after the end. -/
theorem IsRun.starts_after_end :
    (Specimen.endingRun 10).HasEnded 0 ∧
      ¬ (Specimen.endingRun 10).Gains 0 (fun x => ∀ s args, x ≠ .resumed (.script 0) s args)
        (Specimen.endingRun 15) := by
  have hended : (Specimen.endingRun 10).HasEnded 0 := by decide +kernel
  have hrun : IsRun Specimen.interpreter (fun k => Specimen.endingRun (10 + k)) 5 :=
    Specimen.isRun_endingRun.drop
  have hspawns : (Specimen.endingRun 11).Spawns 0 := ⟨.timerTick, (), _, rfl⟩
  refine ⟨hended, fun hsilent => ?_⟩
  exact (IsRun.starts_iff hrun (Specimen.reachable_endingRun 10) hended).1.mp hsilent 1 (by decide)
    hspawns

/-- An instance whose end begins the table of the next configuration anew. -/
theorem Move.isEmpty_of_hasEnded {c c' : Config D} (hc : c.Reachable I) (h : c.Move I c') {i : Nat}
    (halive : ¬ c.HasEnded i) (hended : c'.HasEnded i) : (c'.account i).table.IsEmpty := by
  obtain ⟨δ, -, hstep⟩ := hc.deed h i
  obtain rfl := hstep.eq_ending halive hended
  exact hstep.isEmpty_of_ending

/-- A coroutine that suspends is in the table after the next move, ended or not. -/
theorem Move.not_isEmpty_of_suspends {c c' : Config D} (hc : c.Reachable I) (h : c.Move I c')
    {i : Nat} (hsuspends : c.Suspends i) : ¬ (c'.account i).table.IsEmpty := by
  obtain ⟨s, request, routine, kind, rest, hkind, hstack⟩ := hsuspends
  have hframe : (Frame.coroutine (.script i) s (.ret (.ok (.await request routine)))).Sound
      c.world :=
    hc.sound.frames _ (hstack ▸ List.mem_cons_self)
  have hi : i < c.world.instances.length := hframe
  have hstep := h.step_of_advance hstack (Frame.yield_step I hi s (.ok (.await request routine)))
  exact hstep.not_isEmpty hkind

/-- After the end, a table that is empty stays empty in a move, unless a coroutine
suspends. -/
theorem Move.isEmpty {c c' : Config D} (hc : c.Reachable I) (h : c.Move I c') {i : Nat}
    (hended : c.HasEnded i) (hempty : (c.account i).table.IsEmpty)
    (hnone : ¬ c.Suspends i) : (c'.account i).table.IsEmpty := by
  obtain ⟨δ, hδ, hstep⟩ := hc.deed h i
  refine hstep.isEmpty hended hempty fun s request routine kind hkind heq => ?_
  subst heq
  rcases hδ with hδ | hδ | ⟨f, rest, hstack, hbrings⟩
  · cases hδ
  · cases hδ
  · cases hbrings with
    | act _ ha => cases ha
    | yield => exact hnone ⟨s, request, routine, kind, rest, hkind, hstack⟩

/-- **What an ended instance holds.**  Right after the move that completes the end of
an instance, its table holds no callback and no coroutine for any kind, and it
never holds a callback again.  It holds no coroutine either, in all of a run that
goes on from there, if and only if no coroutine of the instance suspends in it:
whoever is running when the instance ends and then waits for an event is
taken in, although nothing will ever resume it. -/
theorem IsRun.holds_iff {c : Config D} {run : Nat → Config D} {n i : Nat} (hrun : IsRun I run n)
    (hc : c.Reachable I) (halive : ¬ c.HasEnded i) (hend : c.Move I (run 0))
    (hended : (run 0).HasEnded i) :
    ((run 0).account i).table.IsEmpty ∧
      (∀ m ≤ n, ∀ kind, ((run m).account i).table.callback kind = none) ∧
      ((∀ m ≤ n, ((run m).account i).table.IsEmpty) ↔ ∀ k < n, ¬ (run k).Suspends i) := by
  have hc₀ : (run 0).Reachable I := hc.move hend
  have reach : ∀ m ≤ n, (run m).Reachable I ∧ (run m).HasEnded i := by
    intro m hm
    have hruns : (run 0).Runs I (run m) := hrun.runs (Nat.zero_le m) hm
    exact ⟨hc₀.runs hruns, Runs.hasEnded hc₀ hruns hended⟩
  have hempty : ((run 0).account i).table.IsEmpty := hend.isEmpty_of_hasEnded hc halive hended
  refine ⟨hempty, fun m => ?_, fun hstays k hk hsuspends => ?_, fun hnone m => ?_⟩
  · induction m with
    | zero => exact fun _ kind => (hempty kind).1
    | succ m ih =>
      intro hm kind
      obtain ⟨hcm, hendedm⟩ := reach m (by omega)
      obtain ⟨δ, -, hstep⟩ := hcm.deed (hrun m hm) i
      exact hstep.callback hendedm (ih (by omega) kind)
  · exact (hrun k hk).not_isEmpty_of_suspends (reach k (by omega)).1 hsuspends (hstays (k + 1) hk)
  · induction m with
    | zero => exact fun _ => hempty
    | succ m ih =>
      intro hm
      obtain ⟨hcm, hendedm⟩ := reach m (by omega)
      exact (hrun m hm).isEmpty hcm hendedm (ih (by omega)) (hnone m hm)

/-- The coroutine that the callback of `Specimen` returns waits for an event at once,
and is held although its instance has ended. -/
theorem IsRun.holds_after_end :
    (Specimen.endingRun 10).HasEnded 0 ∧
      ((Specimen.endingRun 10).account 0).table.IsEmpty ∧
      ¬ ∀ m ≤ 5, ((Specimen.endingRun (10 + m)).account 0).table.IsEmpty := by
  have hended : (Specimen.endingRun 10).HasEnded 0 := by decide +kernel
  have hsuspends : (Specimen.endingRun 12).Suspends 0 :=
    ⟨_, .ofKind .timerTick, (), .timerTick, _, AwaitRequest.resolve_ofKind .timerTick, rfl⟩
  have hrun : IsRun Specimen.interpreter (fun k => Specimen.endingRun (10 + k)) 5 :=
    Specimen.isRun_endingRun.drop
  have halive : ¬ (Specimen.endingRun 9).HasEnded 0 := by decide +kernel
  obtain ⟨hempty, -, hholds⟩ := IsRun.holds_iff hrun (Specimen.reachable_endingRun 9) halive
    (Specimen.isRun_endingRun 9 (by decide)) hended
  exact ⟨hended, hempty, fun hstays => hholds.mp hstays 2 (by decide) hsuspends⟩

end Config

end ScriptHost
