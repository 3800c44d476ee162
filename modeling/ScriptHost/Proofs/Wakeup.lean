import ScriptHost.Proofs.Attachment
import ScriptHost.Proofs.Ending

/-!
# No wakeup is lost

When an emission begins, everybody who waits for its kind with a live instance will
be resumed before it returns.  Somebody else may do it first: a handler may emit the
same kind again, and then the nested emission takes the queue.  So what is carried
along is that **somebody on the stack owes** the coroutine its resumption
(`Frame.Owes`): an emission that has yet to reach the instance, while the coroutine
waits in the table; or a pass that has yet to come to it.

* `Config.Move.owed` — a move keeps the debt, pays it, resets the instance or ends it;
* `Config.IsRun.woken` — when the emission has returned, the debt was paid, or the
  instance was reset or has ended.
-/

namespace ScriptHost

variable {D : Dialect}

/-- Whether a frame owes a coroutine of an instance with a table its resumption. -/
def Frame.Owes (i s : Nat) (table : Subscriptions D) : Frame D → Prop
  | .emission _ event rest =>
    (∃ args, event.args = .ok args) ∧ (∃ l ∈ rest, l.hook = .script i) ∧
      s ∈ (table.waiting event.kind).map Task.serial
  | .pass desk _ _ _ queue _ => desk = .script i ∧ s ∈ queue.map Task.serial
  | _ => False

namespace Account

/-- Whoever waits goes on to wait, unless a pass takes the queue, or the table is
cleared. -/
theorem Step.waits {i s : Nat} {a b : Account D} {δ : Deed D} (h : Step i a δ b)
    {kind : EventKind} (hs : s ∈ (a.table.waiting kind).map Task.serial)
    (hborn : a.state ≠ none) (hending : δ ≠ .ending) (hreset : δ ≠ .reset)
    (hdrain : δ ≠ .drain kind) : s ∈ (b.table.waiting kind).map Task.serial := by
  have parked : ∀ (t : Subscriptions D) (k : EventKind) (task : Task D),
      s ∈ (t.waiting kind).map Task.serial →
        s ∈ ((t.park k task).waiting kind).map Task.serial := by
    intro t k task hs
    rw [Subscriptions.waiting_park]
    split
    · exact List.map_append ▸ List.mem_append_left _ hs
    · exact hs
  cases h with
  | birth h => exact absurd h hborn
  | ending => exact absurd rfl hending
  | reset => exact absurd rfl hreset
  | hand => exact parked _ _ _ hs
  | parked => exact parked _ _ _ hs
  | @drain k =>
    have hne : k ≠ kind := fun heq => hdrain (heq ▸ rfl)
    simpa [Subscriptions.waiting_drain, hne] using hs
  | setCallback => simpa using hs
  | clearCallbacks => simpa using hs
  | nothing | settle | start | wake | cut | exhaust | finished | misdirected | failed | call =>
    exact hs

theorem Step.passes_of_drain {i : Nat} {a b : Account D} {kind : EventKind}
    (h : Step i a (.drain kind) b) : b.passes = a.table.waiting kind :: a.passes := by
  cases h with
  | drain => rfl

end Account

/-- A live instance for which somebody waits takes an event of the right shape: a pass
over everybody who waits begins. -/
theorem World.deliver_of_waits {w : World D} {i s : Nat} {event : Event} {args : Args}
    (halive : w.isAlive i = true) (hargs : event.args = .ok args)
    (hs : s ∈ ((w.standing i).table.waiting event.kind).map Task.serial) :
    ∃ w', w.deliver i event = (w', [.pass (.script i) event.kind args (.script i)
      ((w.standing i).table.waiting event.kind) 0, .callback i event.kind args]) := by
  cases hx : w.instance? i with
  | none => simp [isAlive, hx] at halive
  | some x =>
    have hlives : x.isAlive = true := isAlive_of_instance? hx ▸ halive
    have hbusy : x.subscriptions.isIdle event.kind = false := by
      rw [table_of_instance? hx] at hs
      have hne : (x.subscriptions.slots.get event.kind).waiting ≠ [] :=
        fun hnil => by simp [Subscriptions.waiting, hnil] at hs
      simp [Subscriptions.isIdle, Slot.isEmpty, hne]
    simp only [deliver, hx, hbusy, hlives, hargs]
    exact ⟨_, rfl⟩

/-- A frame that comes to an act does it, and goes on below whatever it starts. -/
theorem Frame.advance_of_nextAct? (I : Interpreter D) (w : World D) {f : Frame D} {a : Act D}
    (h : f.nextAct? = some a) :
    ∃ g, g.ends? = none ∧ f.advance I w = ((w.act I a).2.1, (w.act I a).2.2 ++ [g]) := by
  cases f with
  | coroutine desk s code =>
    cases code with
    | act b k =>
      obtain rfl := Option.some.inj h
      exact ⟨.coroutine desk s (k (w.act I b).1), rfl, rfl⟩
    | ret | read | write | remark | log => cases h
  | call i kind code =>
    cases code with
    | act b k =>
      obtain rfl := Option.some.inj h
      exact ⟨.call i kind (k (w.act I b).1), rfl, rfl⟩
    | ret | read | write | remark | log => cases h
  | handler code =>
    cases code with
    | act b k =>
      obtain rfl := Option.some.inj h
      exact ⟨.handler (k (w.act I b).1), rfl, rfl⟩
    | ret | read | write | remark | log => cases h
  | entry i code =>
    cases code with
    | act b k =>
      obtain rfl := Option.some.inj h
      exact ⟨.entry i (k (w.act I b).1), rfl, rfl⟩
    | ret | read | write | remark | log => cases h
  | emission | pass | callback | settle | ending | putBack => cases h

namespace Config

variable {I : Interpreter D}

/-- Somebody on the stack, with at least so many frames below, owes a coroutine of an
instance its resumption. -/
def Owed (c : Config D) (i s depth : Nat) : Prop :=
  ∃ above f rest, c.stack = above ++ f :: rest ∧ depth ≤ rest.length ∧
    f.Owes i s (c.account i).table

/-- A pass on the stack, with at least so many frames below, has yet to come to a
coroutine of an instance. -/
def Queued (c : Config D) (i s depth : Nat) : Prop :=
  ∃ above f rest queue, c.stack = above ++ f :: rest ∧ depth ≤ rest.length ∧
    f.queue? i = some queue ∧ s ∈ queue.map Task.serial

/-- A coroutine of an instance was resumed between two configurations. -/
def Wakes (c : Config D) (i s : Nat) (c' : Config D) : Prop :=
  ∃ news, (c'.account i).story = news ++ (c.account i).story ∧
    ∃ args, .resumed (.script i) s args ∈ news

/-- Whether the next act resets an instance. -/
def resets (c : Config D) (i : Nat) : Bool :=
  match c.nextAct? with
  | some (.reset j) => j = i
  | _ => false

/-- An emission begins: it has called nobody yet, and works on the listeners of this
moment. -/
def Begins (c : Config D) (event : Event) (below : List (Frame D)) : Prop :=
  ∃ n, c.stack = .emission n event (c.world.hub.listeners event.kind) :: below

/-- Who has a queue is a pass. -/
theorem eq_pass_of_queue? {f : Frame D} {i : Nat} {queue : List (Task D)}
    (h : f.queue? i = some queue) :
    ∃ kind args pulse n, f = .pass (.script i) kind args pulse queue n := by
  cases f with
  | pass desk kind args pulse queue' n =>
    simp only [Frame.queue?] at h
    split at h
    · next hdesk =>
      obtain rfl := Option.some.inj h
      exact ⟨kind, args, pulse, n, by rw [hdesk]⟩
    · cases h
  | emission | callback | coroutine | call | handler | entry | settle | ending | putBack => cases h

/-- A pass owes everybody in its queue a resumption. -/
theorem Queued.owed {c : Config D} {i s depth : Nat} (h : c.Queued i s depth) :
    c.Owed i s depth := by
  obtain ⟨above, f, rest, queue, hstack, hdepth, hqueue, hs⟩ := h
  obtain ⟨kind, args, pulse, n, rfl⟩ := eq_pass_of_queue? hqueue
  exact ⟨above, _, rest, hstack, hdepth, rfl, hs⟩

/-- Whoever emits an event begins an emission, and waits until it has returned. -/
theorem Move.begins {c c' : Config D} (h : c.Move I c') {f : Frame D} {rest : List (Frame D)}
    (hstack : c.stack = f :: rest) {event : Event} (hact : f.nextAct? = some (.emit event)) :
    ∃ g, c'.Begins event (g :: rest) := by
  obtain ⟨g, -, hadvance⟩ := f.advance_of_nextAct? I c.world hact
  refine ⟨g, c.world.emissions, ?_⟩
  rw [h.eq_advance hstack, hadvance]
  rfl

/-- Whoever was resumed between two configurations was resumed since any earlier one. -/
theorem Gains.wakes {c c₁ c₂ : Config D} {i s : Nat} (h : c.Gains i (fun _ => True) c₁)
    (hwakes : c₁.Wakes i s c₂) : c.Wakes i s c₂ := by
  obtain ⟨news, hstory, -⟩ := h
  obtain ⟨news', hstory', args, hmem⟩ := hwakes
  refine ⟨news' ++ news, ?_, args, List.mem_append_left _ hmem⟩
  rw [hstory', hstory, List.append_assoc]

/-- Whoever was resumed between two configurations was resumed before any later one. -/
theorem Wakes.gains {c c₁ c₂ : Config D} {i s : Nat} (hwakes : c.Wakes i s c₁)
    (h : c₁.Gains i (fun _ => True) c₂) : c.Wakes i s c₂ := by
  obtain ⟨news, hstory, args, hmem⟩ := hwakes
  obtain ⟨news', hstory', -⟩ := h
  refine ⟨news' ++ news, ?_, args, List.mem_append_right _ hmem⟩
  rw [hstory', hstory, List.append_assoc]

/-- Only the act of that name resets an instance. -/
theorem resets_of_brings {c : Config D} {i : Nat} {f : Frame D} {rest : List (Frame D)}
    (hstack : c.stack = f :: rest) (h : f.Brings i .reset) : c.resets i = true := by
  cases h with
  | act hf ha =>
    cases ha with
    | reset => simp [resets, nextAct?, hstack, hf]

/-- A pass that begins owes everybody it took from the table a resumption. -/
theorem Move.owed_of_drain {c c' : Config D} (h : c.Move I c') {f : Frame D}
    {rest : List (Frame D)} (hstack : c.stack = f :: rest) {i s depth : Nat} {kind : EventKind}
    (hf : f.Brings i (.drain kind))
    (hstep : Account.Step i (c.account i) (.drain kind) (c'.account i))
    (hs : s ∈ ((c.account i).table.waiting kind).map Task.serial) (hdepth : depth ≤ rest.length) :
    c'.Owed i s depth := by
  have hqueue : f.queue? i = none := by
    cases hf with
    | act hf ha => cases ha
    | drain => rfl
  have hstarted : (f.advance I c.world).2.filterMap (Frame.queue? i)
      = [(c.account i).table.waiting kind] := by
    have hpasses := hstep.passes_of_drain
    have hbefore : (c.account i).passes = rest.filterMap (Frame.queue? i) := by
      simp [account, hstack, hqueue]
    have hafter : (c'.account i).passes = (f.advance I c.world).2.filterMap (Frame.queue? i)
        ++ rest.filterMap (Frame.queue? i) := by
      simp [account, h.eq_advance hstack]
    rw [hafter, hbefore, ← List.singleton_append] at hpasses
    exact List.append_cancel_right hpasses
  have hmem : (c.account i).table.waiting kind
      ∈ (f.advance I c.world).2.filterMap (Frame.queue? i) :=
    hstarted ▸ List.mem_singleton_self _
  obtain ⟨p, hp, hpqueue⟩ := List.mem_filterMap.mp hmem
  obtain ⟨above, below, hsplit⟩ := List.append_of_mem hp
  refine Queued.owed ⟨above, p, below ++ rest, _, ?_, ?_, hpqueue, hs⟩
  · rw [h.eq_advance hstack, hsplit, List.append_assoc, List.cons_append]
  · rw [List.length_append]
    omega

/-- **A pass comes to everybody in its queue**, as long as the instance lives: whoever
stands in it is resumed by a move, or goes on to stand in it.  Nothing that script code
does in the meantime changes that. -/
theorem Move.queued {c c' : Config D} (hc : c.Reachable I) (h : c.Move I c') {i s depth : Nat}
    (halive : (c.account i).isAlive = true) (hqueued : c.Queued i s depth) :
    c'.Queued i s depth ∨ c.Wakes i s c' := by
  obtain ⟨above, f, rest, queue, hstack, hdepth, hqueue, hs⟩ := hqueued
  cases above with
  | cons g above =>
    refine Or.inl ⟨(g.advance I c.world).2 ++ above, f, rest, queue, ?_, hdepth, hqueue, hs⟩
    rw [h.eq_advance hstack, List.append_assoc]
    rfl
  | nil =>
    rw [List.nil_append] at hstack
    obtain ⟨kind, args, pulse, n, rfl⟩ := eq_pass_of_queue? hqueue
    have hsound : (Frame.pass (.script i) kind args pulse queue n).Sound c.world :=
      hc.sound.frames _ (hstack ▸ List.mem_cons_self)
    obtain rfl : pulse = .script i := hsound
    cases queue with
    | nil => cases hs
    | cons task queue =>
      have hlives : c.world.isAlive i = true := isAlive_account c i ▸ halive
      have hadvance : (Frame.pass (.script i) kind args (.script i) (task :: queue) n).advance I
          c.world = ((c.world.resume I (.script i) task args).1,
            [(c.world.resume I (.script i) task args).2,
              .pass (.script i) kind args (.script i) queue (n + 1)]) := by
        simp [Frame.advance, Pulse.beats, hlives]
      have hnext := h.eq_advance hstack
      rcases List.mem_cons.mp hs with rfl | hs
      · refine Or.inr ⟨[.resumed (.script i) task.serial args], ?_, args, List.mem_singleton_self _⟩
        rw [hnext, hadvance]
        simp [account, World.resume, World.standing_record, Happening.concerns]
      · refine Or.inl ⟨[(c.world.resume I (.script i) task args).2],
          .pass (.script i) kind args (.script i) queue (n + 1), rest, queue, ?_, hdepth,
          if_pos rfl, hs⟩
        rw [hnext, hadvance]
        rfl

/-- A debtor that waits below the innermost frame goes on to owe, unless the innermost
frame takes the debt over, resets the instance or ends it. -/
theorem Move.owed_below {c c' : Config D} (hc : c.Reachable I) (h : c.Move I c') {g : Frame D}
    {above : List (Frame D)} {f : Frame D} {rest : List (Frame D)} {i s depth : Nat}
    (hstack : c.stack = g :: (above ++ f :: rest)) (hdepth : depth ≤ rest.length)
    (halive : (c.account i).isAlive = true) (hf : f.Owes i s (c.account i).table) :
    c'.Owed i s depth ∨ c.resets i = true ∨ c'.HasEnded i := by
  have hborn : (c.account i).state ≠ none := by
    intro hnone
    simp [Standing.isAlive, hnone] at halive
  have hstack' : c'.stack = ((g.advance I c.world).2 ++ above) ++ f :: rest := by
    rw [h.eq_advance hstack, List.append_assoc]
  obtain ⟨δ, hδ, hstep⟩ := hc.deed h i
  have hbrings : δ = .nothing ∨ δ = .birth ∨ g.Brings i δ := by
    rcases hδ with hδ | hδ | ⟨g', rest', hg, hbrings⟩
    · exact Or.inl hδ
    · exact Or.inr (Or.inl hδ)
    · obtain ⟨rfl, -⟩ := List.cons.inj (hg.symm.trans hstack)
      exact Or.inr (Or.inr hbrings)
  by_cases hending : δ = .ending
  · exact Or.inr (Or.inr (hending ▸ hstep).hasEnded_of_ending)
  by_cases hreset : δ = .reset
  · subst hreset
    rcases hbrings with hδ | hδ | hbrings
    · cases hδ
    · cases hδ
    · exact Or.inr (Or.inl (resets_of_brings hstack hbrings))
  refine Or.inl ?_
  cases f with
  | emission n event listeners =>
    obtain ⟨hargs, hlisteners, hs⟩ := hf
    by_cases hdrain : δ = .drain event.kind
    · -- A nested emission reached the instance first: its pass owes now.
      subst hdrain
      rcases hbrings with hδ | hδ | hbrings
      · cases hδ
      · cases hδ
      · refine h.owed_of_drain hstack hbrings hstep hs ?_
        simp only [List.length_append, List.length_cons]
        omega
    · exact ⟨_, _, rest, hstack', hdepth, hargs, hlisteners,
        hstep.waits hs hborn hending hreset hdrain⟩
  | pass desk kind args pulse queue n => exact ⟨_, _, rest, hstack', hdepth, hf⟩
  | callback | coroutine | call | handler | entry | settle | ending | putBack => exact hf.elim

/-- A debtor on top of the stack passes the debt on to what comes after it, or pays. -/
theorem Move.owed_top {c c' : Config D} (hc : c.Reachable I) (h : c.Move I c') {f : Frame D}
    {rest : List (Frame D)} {i s depth : Nat} (hstack : c.stack = f :: rest)
    (hdepth : depth ≤ rest.length) (halive : (c.account i).isAlive = true)
    (hf : f.Owes i s (c.account i).table) : c'.Owed i s depth ∨ c.Wakes i s c' := by
  have hlives : c.world.isAlive i = true := isAlive_account c i ▸ halive
  have hnext := h.eq_advance hstack
  cases f with
  | emission n event listeners =>
    obtain ⟨⟨args, hargs⟩, ⟨l, hl, hhook⟩, hs⟩ := hf
    cases listeners with
    | nil => cases hl
    | cons first listeners =>
      have hst : (c.world.record (.reached n first.id)).standing i = c.world.standing i :=
        World.standing_record_of_not c.world rfl
      by_cases hfirst : first.hook = .script i
      · -- The emission reaches the instance: the pass that begins owes now.
        have hs' : s ∈ (((c.world.record (.reached n first.id)).standing i).table.waiting
            event.kind).map Task.serial := hst ▸ hs
        obtain ⟨w', hdeliver⟩ := World.deliver_of_waits (w := c.world.record (.reached n first.id))
          hlives hargs hs'
        refine Or.inl ⟨[], .pass (.script i) event.kind args (.script i) _ 0,
          .callback i event.kind args :: .emission n event listeners :: rest, ?_, ?_, rfl, hs'⟩
        · rw [hnext]
          simp [Frame.advance, hfirst, hdeliver]
        · simp only [List.length_cons]
          omega
      · -- The emission reaches somebody else, and still has the instance before it.
        have hmem : l ∈ listeners := by
          rcases List.mem_cons.mp hl with rfl | hl
          · exact absurd hhook hfirst
          · exact hl
        obtain ⟨started, hstarted⟩ : ∃ started,
            ((Frame.emission n event (first :: listeners)).advance I c.world).2
              = started ++ [.emission n event listeners] := by
          simp only [Frame.advance]
          split
          · exact ⟨[_], rfl⟩
          · exact ⟨_, rfl⟩
        have hstill : s ∈ ((c'.account i).table.waiting event.kind).map Task.serial := by
          obtain ⟨δ, hδ, hstep⟩ := hc.deed h i
          generalize c'.account i = b at hstep
          suffices hnothing : δ = .nothing by
            subst hnothing
            cases hstep with
            | nothing => exact hs
          rcases hδ with hδ | rfl | ⟨g, rest', hg, hbrings⟩
          · exact hδ
          · cases hstep with
            | birth hnone => simp [Standing.isAlive, hnone] at halive
          · obtain ⟨rfl, -⟩ := List.cons.inj (hg.symm.trans hstack)
            cases hbrings with
            | act hact => cases hact
            | drain _ _ _ _ hscript => exact absurd hscript hfirst
            | nothing => rfl
        refine Or.inl ⟨started, .emission n event listeners, rest, ?_, hdepth, ⟨args, hargs⟩,
          ⟨l, hmem, hhook⟩, hstill⟩
        rw [hnext, hstarted, List.append_assoc]
        rfl
  | pass desk kind args pulse queue n =>
    obtain ⟨rfl, hs⟩ := hf
    have hqueued : c.Queued i s depth := ⟨[], _, rest, queue, hstack, hdepth, if_pos rfl, hs⟩
    exact (h.queued hc halive hqueued).imp_left Queued.owed
  | callback | coroutine | call | handler | entry | settle | ending | putBack => exact hf.elim

/-- **A move keeps the debt, or pays it**, or it resets the instance or ends it. -/
theorem Move.owed {c c' : Config D} (hc : c.Reachable I) (h : c.Move I c') {i s depth : Nat}
    (halive : (c.account i).isAlive = true) (howed : c.Owed i s depth) :
    c'.Owed i s depth ∨ c.Wakes i s c' ∨ c.resets i = true ∨ c'.HasEnded i := by
  obtain ⟨above, f, rest, hstack, hdepth, hf⟩ := howed
  cases above with
  | nil =>
    rcases h.owed_top hc hstack hdepth halive hf with howed | hwakes
    · exact Or.inl howed
    · exact Or.inr (Or.inl hwakes)
  | cons g above =>
    rcases h.owed_below hc hstack hdepth halive hf with howed | hrest
    · exact Or.inl howed
    · exact Or.inr (Or.inr hrest)

/-- Whoever lives goes on to live or has ended. -/
theorem Move.isAlive_or_hasEnded {c c' : Config D} (hc : c.Reachable I) (h : c.Move I c')
    {i : Nat} (halive : (c.account i).isAlive = true) :
    (c'.account i).isAlive = true ∨ c'.HasEnded i := by
  obtain ⟨δ, -, hstep⟩ := hc.deed h i
  by_cases hending : δ = .ending
  · exact Or.inr (hending ▸ hstep).hasEnded_of_ending
  · exact Or.inl (hstep.isAlive halive hending)

/-- **No wakeup is lost.**  A coroutine waits for a kind with an instance that is
alive, when an emission of that kind begins, of an event that has the shape of its
kind; and nobody has taken a listener of the instance off the hub so far.  Then, when
the emission has returned, the coroutine was resumed since, or the instance was
reset meanwhile, or it has ended. -/
theorem IsRun.woken {run : Nat → Config D} {n : Nat} (hrun : IsRun I run n) {i s : Nat}
    (hc : (run 0).ReachableWithin I (·.spares i)) {event : Event} {args : Args}
    {below : List (Frame D)} (hbegins : (run 0).Begins event below)
    (hargs : event.args = .ok args) (halive : ((run 0).account i).isAlive = true)
    (hwaits : s ∈ (((run 0).account i).table.waiting event.kind).map Task.serial)
    (hreturned : (run n).stack.length ≤ below.length) :
    (run 0).Wakes i s (run n) ∨ (∃ k < n, (run k).resets i = true) ∨ (run n).HasEnded i := by
  have hc₀ : (run 0).Reachable I := hc.reachable
  have reach : ∀ k ≤ n, (run k).Reachable I := fun k hk => hc₀.runs (hrun.runs (Nat.zero_le k) hk)
  have howed₀ : (run 0).Owed i s below.length := by
    obtain ⟨m, hstack⟩ := hbegins
    have hlives : (run 0).world.view.isAlive i = true := by
      have hlives := isAlive_account (run 0) i ▸ halive
      cases hx : (run 0).world.instance? i with
      | none => simp [World.isAlive, hx] at hlives
      | some x =>
        have hx' : x.isAlive = true := World.isAlive_of_instance? hx ▸ hlives
        simpa [View.isAlive, World.infos_view, hx, Instance.info, InstanceInfo.isAlive,
          Instance.isAlive] using hx'
    have hplace := hc.attached hlives event.kind
    exact ⟨[], _, below, hstack, Nat.le_refl _, ⟨args, hargs⟩, Hub.mem_places.mp hplace, hwaits⟩
  suffices h : ∀ k ≤ n,
      ((run k).Owed i s below.length ∧ ((run k).account i).isAlive = true) ∨
        (run 0).Wakes i s (run k) ∨ (∃ j < k, (run j).resets i = true) ∨ (run k).HasEnded i by
    rcases h n (Nat.le_refl n) with ⟨⟨above, f, rest, hstack, hdepth, -⟩, -⟩ | hdone
    · rw [hstack, List.length_append, List.length_cons] at hreturned
      omega
    · exact hdone
  intro k
  induction k with
  | zero => exact fun _ => Or.inl ⟨howed₀, halive⟩
  | succ k ih =>
    intro hk
    have hmove : (run k).Move I (run (k + 1)) := hrun k hk
    have hck : (run k).Reachable I := reach k (by omega)
    rcases ih (by omega) with ⟨howed, halive⟩ | hwoken | ⟨j, hj, hreset⟩ | hended
    · rcases hmove.owed hck halive howed with howed | hwakes | hreset | hended
      · rcases hmove.isAlive_or_hasEnded hck halive with halive | hended
        · exact Or.inl ⟨howed, halive⟩
        · exact Or.inr (Or.inr (Or.inr hended))
      · have hgrows := Runs.grows hc₀ (hrun.runs (Nat.zero_le k) (by omega)) i
        exact Or.inr (Or.inl (hgrows.wakes hwakes))
      · exact Or.inr (Or.inr (Or.inl ⟨k, by omega, hreset⟩))
      · exact Or.inr (Or.inr (Or.inr hended))
    · exact Or.inr (Or.inl (hwoken.gains (Runs.grows hck (.single hmove) i)))
    · exact Or.inr (Or.inr (Or.inl ⟨j, by omega, hreset⟩))
    · exact Or.inr (Or.inr (Or.inr (Runs.hasEnded hck (.single hmove) hended)))

end Config

namespace Specimen

/-- The script is not held, so that nothing ends it, and code of the host emits a
tick. -/
def unheld : Config dialect :=
  ⟨settled.world, [.handler (.act (.emit .timerTick) fun _ => .ret ())]⟩

/-- What has come of that tick after some steps. -/
def unheldRun (n : Nat) : Config dialect :=
  unheld.after interpreter n

theorem reachableWithin_unheldRun :
    (unheldRun 1).ReachableWithin interpreter (·.spares 0) := by
  have hborn : born.ReachableWithin interpreter (·.spares 0) :=
    ⟨(), .single ⟨rfl, .host (.spawn ⟨1⟩ ⟨"me"⟩ false entry)⟩⟩
  have hsettled : settled.ReachableWithin interpreter (·.spares 0) :=
    hborn.after (by decide +kernel)
  have hunheld : unheld.ReachableWithin interpreter (·.spares 0) :=
    hsettled.move (by decide +kernel) (Config.move_host interpreter rfl (.code _))
  exact hunheld.after (n := 1) (by decide +kernel)

theorem isRun_unheldRun : Config.IsRun interpreter (fun k => unheldRun (1 + k)) 9 :=
  Config.isRun_of_busy interpreter (fun _ => rfl) (by decide +kernel)

end Specimen

/-- The coroutine that waits when the tick is emitted has been resumed when the emission
returns: the script is neither reset nor ended. -/
theorem Config.IsRun.woken_waiting : (Specimen.unheldRun 1).Wakes 0 0 (Specimen.unheldRun 10) := by
  have hreset : ∀ k < 9, (Specimen.unheldRun (1 + k)).resets 0 = false := by decide +kernel
  have halive : ¬ (Specimen.unheldRun 10).HasEnded 0 := by decide +kernel
  have hbegins : (Specimen.unheldRun 1).Begins .timerTick [.handler (.ret ())] := ⟨0, rfl⟩
  have hargs : Event.timerTick.args = .ok [] := rfl
  have hwoken := IsRun.woken (s := 0) Specimen.isRun_unheldRun Specimen.reachableWithin_unheldRun
    hbegins hargs (by decide +kernel) (by decide +kernel) (by decide +kernel)
  rcases hwoken with hwoken | ⟨k, hk, hresets⟩ | hended
  · exact hwoken
  · rw [hreset k hk] at hresets
    cases hresets
  · exact absurd hended halive

end ScriptHost
