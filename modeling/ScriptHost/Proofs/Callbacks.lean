import ScriptHost.Proofs.Muteness
import ScriptHost.Proofs.Wakeup

/-!
# The callback that is called

A dispatch resumes those who wait and comes to the callback afterwards.  Until then it
keeps the kind and the arguments, and no callback: what is in the slot at that moment is
called.  So it does not matter when a callback was replaced, and by whom — by a coroutine
that the same pass resumed, by another callback, by an emission inside this one.

* `Config.Move.world_calls` — a callback is called by a dispatch that comes to it, and by nothing
  else;
* `Config.Move.slot` — a slot changes by an act that says so, or it is emptied;
* `Config.IsRun.phase_unique` — a dispatch comes to its callback once;
* `Config.IsRun.current_callback` — all of it, in terms of runs.
-/

namespace ScriptHost

variable {D : Dialect}

/-- The callback in the slot of a kind of an instance. -/
def World.slot (w : World D) (i : Nat) (kind : EventKind) : Option D.Callback :=
  (w.subscriptions (.script i)).callback kind

/-- What an act is to leave in the slot of a kind of an instance, if it is about that
slot. -/
def Act.assigns? (i : Nat) (kind : EventKind) : Act D → Option (Option D.Callback)
  | .setCallback j kind' callback => if j = i ∧ kind' = kind then some callback else none
  | .on j event callback =>
    match resolveKind event with
    | .ok kind' => if j = i ∧ kind' = kind then some callback else none
    | .error _ => none
  | .clearCallbacks j | .reset j => if j = i then some none else none
  | _ => none

/-- What an entry of the journal says of a call of an instance's callbacks. -/
def Happening.call? (i : Nat) : Happening D → Option (EventKind × D.Callback × Args)
  | .called j kind callback args => if j = i then some (kind, callback, args) else none
  | _ => none

/-- The calls of an instance's callbacks, the latest first. -/
def World.calls (w : World D) (i : Nat) : List (EventKind × D.Callback × Args) :=
  w.journal.filterMap (Happening.call? i)

/-- A callback that is set is in its slot. -/
theorem World.slot_setCallback (w : World D) {callable : D.Callback → Bool} {i : Nat}
    {kind : EventKind} {callback : Option D.Callback}
    (hdone : answerOf (fun _ => Answer.done) (w.setCallback callable i kind callback).1 = .done) :
    (w.setCallback callable i kind callback).2.slot i kind = callback := by
  by_cases hcallable : (callback.any fun c => !callable c) = true
  · simp [setCallback, hcallable, answerOf] at hdone
  · cases hx : w.instance? i with
    | none => simp [setCallback, hcallable, hx, answerOf] at hdone
    | some x =>
      by_cases halive : x.isAlive = true
      · have hset : ∀ n, ((w.log n).modifySubscriptions (.script i)
            (·.setCallback kind callback)).instance? i
            = some { x with subscriptions := x.subscriptions.setCallback kind callback } := by
          intro n
          have hx : w.instances[i]? = some x := hx
          simp [modifySubscriptions, modifyInstance, instance?, log, record, hx]
        simp [setCallback, hcallable, hx, halive, slot, subscriptions, hset,
          Subscriptions.callback_setCallback]
      · simp [setCallback, hcallable, hx, halive, answerOf] at hdone

namespace Config

/-- The call of a callback of an instance with which the next move begins: a dispatch comes
to its callback, the instance is alive, and there is one in the slot. -/
def call? (i : Nat) (c : Config D) : Option (EventKind × D.Callback × Args) :=
  match c.stack with
  | .callback j kind args :: _ =>
    if j = i ∧ c.world.isAlive i = true then (c.world.slot i kind).map (kind, ·, args) else none
  | _ => none

/-- A dispatch has begun. -/
def Dispatches (i : Nat) (kind : EventKind) (args : Args) (below : List (Frame D))
    (c : Config D) : Prop :=
  ∃ queue, c.stack
    = .pass (.script i) kind args (.script i) queue 0 :: .callback i kind args :: below

/-- A dispatch has come to its callback. -/
def Phase (i : Nat) (kind : EventKind) (args : Args) (below : List (Frame D))
    (c : Config D) : Prop :=
  c.stack = .callback i kind args :: below

variable {I : Interpreter D}

/-! ## Who is called -/

/-- A dispatch that comes to its callback calls what is in the slot at that moment. -/
theorem Move.phase {c c' : Config D} (h : c.Move I c') {i : Nat} {kind : EventKind}
    {args : Args} {below : List (Frame D)} (hphase : c.Phase i kind args below)
    (halive : c.world.isAlive i = true) :
    c' = match c.world.slot i kind with
      | some callback =>
        ⟨c.world.record (.called i kind callback args),
          .call i kind (I.call callback args) :: below⟩
      | none => ⟨c.world, below⟩ := by
  rw [h.eq_advance hphase]
  simp only [Frame.advance, halive, World.slot]
  cases (c.world.subscriptions (.script i)).callback kind <;> rfl

end Config

/-- The call a deed is. -/
def Deed.call? : Deed D → Option (EventKind × D.Callback × Args)
  | .call kind callback args => some (kind, callback, args)
  | _ => none

/-- Only a call is told as a call. -/
theorem Account.Step.calls {i : Nat} {a b : Account D} {δ : Deed D} (h : Step i a δ b) :
    b.story.filterMap (Happening.call? i)
      = δ.call?.toList ++ a.story.filterMap (Happening.call? i) := by
  cases h with
  | nothing | birth | settle | hand | start | drain | wake | exhaust | finished | parked
  | misdirected | failed | setCallback | clearCallbacks => rfl
  | ending | reset | cut => exact filterMap_farewells (fun _ _ => rfl) _ _ _
  | call => simp [Happening.call?, Deed.call?]

/-- A call is of the callback in the slot, and while the instance is alive. -/
theorem Account.Step.of_call {i : Nat} {a b : Account D} {kind : EventKind}
    {callback : D.Callback} {args : Args} (h : Step i a (.call kind callback args) b) :
    a.isAlive = true ∧ a.table.callback kind = some callback := by
  cases h with
  | call halive hcallback => exact ⟨halive, hcallback⟩

namespace Config

variable {I : Interpreter D}

/-- A call begins where a dispatch comes to its callback. -/
theorem phase_of_call? {c : Config D} {i : Nat} {kind : EventKind} {callback : D.Callback}
    {args : Args} (h : c.call? i = some (kind, callback, args)) :
    ∃ below, c.Phase i kind args below ∧ c.world.isAlive i = true ∧
      c.world.slot i kind = some callback := by
  unfold call? at h
  split at h
  · next j kind' args' below hstack =>
    split at h
    · next hcond =>
      obtain ⟨rfl, halive⟩ := hcond
      obtain ⟨callback', hslot, hsome⟩ := Option.map_eq_some_iff.mp h
      obtain ⟨rfl, rfl, rfl⟩ : kind' = kind ∧ callback' = callback ∧ args' = args := by
        simpa using hsome
      exact ⟨below, hstack, halive, hslot⟩
    · cases h
  · cases h

/-- The story of an instance says which callbacks were called. -/
theorem calls_account (c : Config D) (i : Nat) :
    c.world.calls i = (c.account i).story.filterMap (Happening.call? i) := by
  refine (c.filterMap_story fun x hx => ?_).symm
  cases x with
  | called j kind callback args => simpa [Happening.concerns, Happening.call?] using hx
  | _ => rfl

/-- **A callback is called by a dispatch that comes to it**, if it is in the slot at that
moment, and by nothing else. -/
theorem Move.world_calls {c c' : Config D} (hc : c.Reachable I) (h : c.Move I c') (i : Nat) :
    c'.world.calls i = (c.call? i).toList ++ c.world.calls i := by
  cases hcall : c.call? i with
  | some p =>
    obtain ⟨kind, callback, args⟩ := p
    obtain ⟨below, hphase, halive, hslot⟩ := phase_of_call? hcall
    rw [h.phase hphase halive, hslot]
    simp [World.calls, World.record, Happening.call?]
  | none =>
    obtain ⟨δ, hδ, hstep⟩ := hc.deed h i
    suffices hnot : δ.call? = none by
      rw [calls_account, calls_account, hstep.calls, hnot]
    cases δ with
    | call kind callback args =>
      rcases hδ with hδ | hδ | ⟨f, rest, hstack, hbrings⟩
      · cases hδ
      · cases hδ
      · cases hbrings with
        | act _ ha => cases ha
        | call =>
          obtain ⟨halive, hslot⟩ := hstep.of_call
          rw [isAlive_account] at halive
          have hslot : c.world.slot i kind = some callback := hslot
          simp [call?, hstack, halive, hslot] at hcall
    | _ => rfl

/-! ## A slot -/

/-- What an act that is not refused leaves in a slot it is about. -/
theorem slot_of_assigns {w : World D} {a : Act D} {i : Nat} {kind : EventKind}
    {callback : Option D.Callback} (ha : a.assigns? i kind = some callback)
    (hdone : (w.act I a).1 = .done) : (w.act I a).2.1.slot i kind = callback := by
  cases a with
  | setCallback j kind' callback' =>
    obtain ⟨⟨rfl, rfl⟩, rfl⟩ : (j = i ∧ kind' = kind) ∧ callback' = callback := by
      simpa [Act.assigns?] using ha
    exact w.slot_setCallback hdone
  | on j event callback' =>
    cases hresolve : resolveKind event with
    | error e => simp [Act.assigns?, hresolve] at ha
    | ok kind' =>
      obtain ⟨⟨rfl, rfl⟩, rfl⟩ : (j = i ∧ kind' = kind) ∧ callback' = callback := by
        simpa [Act.assigns?, hresolve] using ha
      simp only [World.act, hresolve] at hdone ⊢
      exact w.slot_setCallback hdone
  | clearCallbacks j =>
    obtain ⟨rfl, rfl⟩ : j = i ∧ none = callback := by simpa [Act.assigns?] using ha
    rcases w.subscriptions_modifySubscriptions (.script j) .clearCallbacks with h | h
    · exact (congrArg (·.callback kind) h).trans (Subscriptions.callback_clearCallbacks _ kind)
    · exact (congrArg (·.callback kind) h).trans (Subscriptions.callback_empty kind)
  | reset j =>
    obtain ⟨rfl, rfl⟩ : j = i ∧ none = callback := by simpa [Act.assigns?] using ha
    rcases World.subscriptions_modifySubscriptions (w.recordLeft (.script j) .dropped _)
      (.script j) .clear with h | h
    · exact (congrArg (·.callback kind) h).trans (Subscriptions.callback_clear _ kind)
    · exact (congrArg (·.callback kind) h).trans (Subscriptions.callback_empty kind)
  | _ => cases ha

/-- The world after a move that does an act. -/
theorem Move.world_of_nextAct? {c c' : Config D} (h : c.Move I c') {a : Act D}
    (hact : c.nextAct? = some a) : c'.world = (c.world.act I a).2.1 := by
  obtain ⟨f, hf, hfa⟩ := Option.bind_eq_some_iff.mp hact
  obtain ⟨rest, hstack⟩ := List.head?_eq_some_iff.mp hf
  obtain ⟨g, -, hadvance⟩ := f.advance_of_nextAct? I c.world hfa
  rw [h.eq_advance hstack, hadvance]

/-- **A slot changes by an act that says so**, or it is emptied. -/
theorem Move.slot {c c' : Config D} (hc : c.Reachable I) (h : c.Move I c') (i : Nat)
    (kind : EventKind) :
    c'.world.slot i kind = c.world.slot i kind ∨ c'.world.slot i kind = none ∨
      ∃ a, c.nextAct? = some a ∧ a.assigns? i kind = some (c'.world.slot i kind) := by
  obtain ⟨δ, hδ, hstep⟩ := hc.deed h i
  have hslot : ∀ c : Config D, c.world.slot i kind = (c.account i).table.callback kind :=
    fun _ => rfl
  rw [hslot, hslot]
  generalize c'.account i = b at hstep
  cases hstep with
  | nothing | settle | start | wake | cut | exhaust | finished | misdirected | failed | call =>
    exact Or.inl rfl
  | hand => exact Or.inl (Subscriptions.callback_park _ _ kind _)
  | drain => exact Or.inl (Subscriptions.callback_drain _ _ kind)
  | parked => exact Or.inl (Subscriptions.callback_park _ _ kind _)
  | birth => exact Or.inr (Or.inl (Subscriptions.callback_empty kind))
  | clearCallbacks => exact Or.inr (Or.inl (Subscriptions.callback_clearCallbacks _ kind))
  | ending | reset => exact Or.inr (Or.inl (Subscriptions.callback_clear _ kind))
  | @setCallback kind' callback halive =>
    by_cases hkind : kind' = kind
    · subst hkind
      have hset : ((c.account i).table.setCallback kind' callback).callback kind' = callback := by
        simp [Subscriptions.callback_setCallback]
      refine Or.inr (Or.inr ?_)
      rcases hδ with hδ | hδ | ⟨f, rest, hstack, hbrings⟩
      · cases hδ
      · cases hδ
      · cases hbrings with
        | @act _ a _ hf ha =>
          refine ⟨a, by simp [nextAct?, hstack, hf], ?_⟩
          rw [hset]
          cases ha with
          | setCallback => simp [Act.assigns?]
          | on _ hresolve => simp [Act.assigns?, hresolve]
    · refine Or.inl ?_
      simp [Subscriptions.callback_setCallback, hkind]

/-! ## The phase of a dispatch -/

/-- A dispatch has yet to come to its callback, or is just there. -/
def Pending (i : Nat) (kind : EventKind) (args : Args) (below : List (Frame D))
    (c : Config D) : Prop :=
  ∃ above, c.stack = above ++ .callback i kind args :: below

/-- A dispatch is past its callback: the callback runs, or the coroutine it returned, or it
is over. -/
def Answered (i : Nat) (kind : EventKind) (below : List (Frame D)) (c : Config D) : Prop :=
  c.stack = below ∨ ∃ above f, c.stack = above ++ f :: below ∧
    ((∃ code, f = .call i kind code) ∨ ∃ s code, f = .coroutine (.script i) s code)

/-- A dispatch that is past its callback does not come to it again. -/
theorem Answered.not_phase {c : Config D} {i : Nat} {kind : EventKind} {args : Args}
    {below : List (Frame D)} (h : c.Answered i kind below) : ¬ c.Phase i kind args below := by
  intro hphase
  unfold Phase at hphase
  rcases h with hover | ⟨above, f, hstack, hf⟩
  · have hlength := congrArg List.length (hphase.symm.trans hover)
    simp at hlength
  · have hsplit : [] ++ Frame.callback i kind args :: below = above ++ f :: below :=
      hphase.symm.trans hstack
    obtain ⟨-, hcons⟩ := List.append_inj' hsplit rfl
    obtain ⟨rfl, -⟩ := List.cons.inj hcons
    rcases hf with ⟨code, hcode⟩ | ⟨s, code, hcode⟩
    · cases hcode
    · cases hcode

/-- A step of a call leaves the call, or the coroutine it returned, or nothing. -/
theorem advance_call (w : World D) (i : Nat) (kind : EventKind)
    (code : Code D (Except ScriptError (Outcome D))) (below : List (Frame D)) :
    Answered i kind below
      ⟨((Frame.call i kind code).advance I w).1,
        ((Frame.call i kind code).advance I w).2 ++ below⟩ := by
  unfold Answered
  simp only [Frame.advance]
  split
  · exact Or.inl rfl
  · exact Or.inr ⟨[], _, rfl, Or.inr ⟨_, _, rfl⟩⟩
  · split <;> exact Or.inl rfl
  · next code' w' started _ =>
    exact Or.inr ⟨started, _, List.append_assoc _ _ _, Or.inl ⟨code', rfl⟩⟩

theorem advance_coroutine (w : World D) (i : Nat) (kind : EventKind) (serial : Nat)
    (code : Code D (Except ScriptError (Yield D))) (below : List (Frame D)) :
    Answered i kind below
      ⟨((Frame.coroutine (.script i) serial code).advance I w).1,
        ((Frame.coroutine (.script i) serial code).advance I w).2 ++ below⟩ := by
  unfold Answered
  simp only [Frame.advance]
  split
  · exact Or.inl rfl
  · next code' w' started _ =>
    exact Or.inr ⟨started, _, List.append_assoc _ _ _, Or.inr ⟨serial, code', rfl⟩⟩

/-- What comes to the callback goes past it. -/
theorem Move.answered_of_phase {c c' : Config D} (h : c.Move I c') {i : Nat} {kind : EventKind}
    {args : Args} {below : List (Frame D)} (hphase : c.Phase i kind args below) :
    c'.Answered i kind below := by
  rw [h.eq_advance hphase]
  simp only [Frame.advance]
  split
  · exact Or.inr ⟨[], _, rfl, Or.inl ⟨_, rfl⟩⟩
  · exact Or.inl rfl

/-- **A move brings a dispatch nearer to its callback, or past it.** -/
theorem Move.pending {c c' : Config D} (h : c.Move I c') {i : Nat} {kind : EventKind}
    {args : Args} {below : List (Frame D)} (hpending : c.Pending i kind args below) :
    c'.Pending i kind args below ∧ ¬ c.Phase i kind args below ∨
      c'.Answered i kind below ∧ c.Phase i kind args below := by
  obtain ⟨above, hstack⟩ := hpending
  cases above with
  | nil => exact Or.inr ⟨h.answered_of_phase hstack, hstack⟩
  | cons g above =>
    refine Or.inl ⟨⟨(g.advance I c.world).2 ++ above, ?_⟩, fun hphase => ?_⟩
    · rw [h.eq_advance hstack, List.append_assoc]
      rfl
    · have hlength := congrArg List.length (hstack.symm.trans hphase)
      simp only [List.cons_append, List.length_cons, List.length_append] at hlength
      omega

theorem Move.answered {c c' : Config D} (h : c.Move I c') {i : Nat} {kind : EventKind}
    {below : List (Frame D)} (hbusy : below.length < c.stack.length)
    (hanswered : c.Answered i kind below) : c'.Answered i kind below := by
  rcases hanswered with hover | ⟨above, f, hstack, hf⟩
  · rw [hover] at hbusy
    exact absurd hbusy (Nat.lt_irrefl _)
  · cases above with
    | cons g above =>
      refine Or.inr ⟨(g.advance I c.world).2 ++ above, f, ?_, hf⟩
      rw [h.eq_advance hstack, List.append_assoc]
      rfl
    | nil =>
      rw [h.eq_advance hstack]
      rcases hf with ⟨code, rfl⟩ | ⟨s, code, rfl⟩
      · exact advance_call c.world i kind code below
      · exact advance_coroutine c.world i kind s code below

/-- **A dispatch comes to its callback once**: until it does it is pending, and then it is
past it. -/
theorem IsRun.phase_unique {run : Nat → Config D} {n : Nat} (hrun : IsRun I run n) {i : Nat}
    {kind : EventKind} {args : Args} {below : List (Frame D)}
    (hpending : (run 0).Pending i kind args below)
    (hbusy : ∀ k < n, below.length < (run k).stack.length) :
    ((run n).Pending i kind args below ∧ ∀ m < n, ¬ (run m).Phase i kind args below) ∨
      (run n).Answered i kind below ∧
        ∃ m < n, (run m).Phase i kind args below ∧
          ∀ m' < n, (run m').Phase i kind args below → m' = m := by
  induction n with
  | zero => exact Or.inl ⟨hpending, fun m hm => absurd hm (Nat.not_lt_zero m)⟩
  | succ n ih =>
    have hmove : (run n).Move I (run (n + 1)) := hrun n (by omega)
    rcases ih (fun k hk => hrun k (by omega)) fun k hk => hbusy k (by omega) with
      ⟨hstill, hnone⟩ | ⟨hpast, m, hm, hphase, honly⟩
    · rcases hmove.pending hstill with ⟨hstill', hnot⟩ | ⟨hpast, hphase⟩
      · refine Or.inl ⟨hstill', fun m hm => ?_⟩
        by_cases hlast : m = n
        · exact hlast ▸ hnot
        · exact hnone m (by omega)
      · refine Or.inr ⟨hpast, n, by omega, hphase, fun m' hm' hphase' => ?_⟩
        by_cases hlast : m' = n
        · exact hlast
        · exact absurd hphase' (hnone m' (by omega))
    · refine Or.inr ⟨hmove.answered (hbusy n (by omega)) hpast, m, by omega, hphase, ?_⟩
      intro m' hm' hphase'
      by_cases hlast : m' = n
      · exact absurd (hlast ▸ hphase') hpast.not_phase
      · exact honly m' (by omega) hphase'

/-- **Whoever is back in a slot was put there**: if a slot does not hold a callback at one
moment and does at a later one, an act in between says so. -/
theorem IsRun.exists_assigns {run : Nat → Config D} {n : Nat} (hrun : IsRun I run n)
    (hc : (run 0).Reachable I) {i : Nat} {kind : EventKind} {callback : D.Callback} {j k : Nat}
    (hjk : j ≤ k) (hk : k ≤ n) (hgone : (run j).world.slot i kind ≠ some callback)
    (hback : (run k).world.slot i kind = some callback) :
    ∃ m, j ≤ m ∧ m < k ∧ ∃ a, (run m).nextAct? = some a ∧
      a.assigns? i kind = some (some callback) := by
  obtain ⟨d, rfl⟩ := Nat.exists_eq_add_of_le hjk
  clear hjk
  induction d with
  | zero => exact absurd hback hgone
  | succ d ih =>
    by_cases hearlier : (run (j + d)).world.slot i kind = some callback
    · obtain ⟨m, hjm, hm, hassigns⟩ := ih (by omega) hearlier
      exact ⟨m, hjm, by omega, hassigns⟩
    · have hreach : (run (j + d)).Reachable I := hc.runs (hrun.runs (Nat.zero_le _) (by omega))
      have hmove : (run (j + d)).Move I (run (j + d + 1)) := hrun (j + d) (by omega)
      have hback : (run (j + d + 1)).world.slot i kind = some callback := hback
      rcases hmove.slot hreach i kind with hsame | hnone | ⟨a, hact, hassigns⟩
      · exact absurd (hsame.symm.trans hback) hearlier
      · rw [hnone] at hback
        cases hback
      · exact ⟨j + d, by omega, by omega, a, hact, hback ▸ hassigns⟩

/-- **The current callback is the one that runs.**

* Whenever a dispatch comes to its callback on an instance that is alive, the callback that
  is in the slot at that moment is called, and if there is none the dispatch is over.
* A dispatch that has returned has come to its callback, and just once.
* A callback is called by a dispatch that comes to it, and by nothing else.
* Once an act — `setCallback`, `on`, `clearCallbacks` or `reset` — has left something else
  in a slot, the callback that was there is not called any more, be it by an emission that
  is under way or by a later one, unless an act puts it there again. -/
theorem IsRun.current_callback {run : Nat → Config D} {n : Nat} (hrun : IsRun I run n)
    (hc : (run 0).Reachable I) (i : Nat) :
    (∀ m < n, ∀ kind args below, (run m).Phase i kind args below →
        (run m).world.isAlive i = true →
        run (m + 1) = match (run m).world.slot i kind with
          | some callback =>
            ⟨(run m).world.record (.called i kind callback args),
              .call i kind (I.call callback args) :: below⟩
          | none => ⟨(run m).world, below⟩) ∧
      (∀ j l, j ≤ l → l ≤ n → ∀ kind args below, (run j).Dispatches i kind args below →
        (∀ k, j ≤ k → k < l → below.length < (run k).stack.length) →
        (run l).stack.length ≤ below.length →
        ∃ m, (j ≤ m ∧ m < l ∧ (run m).Phase i kind args below) ∧
          ∀ m', j ≤ m' → m' < l → (run m').Phase i kind args below → m' = m) ∧
      (∀ k < n, (run (k + 1)).world.calls i
        = ((run k).call? i).toList ++ (run k).world.calls i) ∧
      ∀ j k, j < k → k < n → ∀ a kind callback old args, (run j).nextAct? = some a →
        a.assigns? i kind = some callback → ((run j).world.act I a).1 = .done →
        callback ≠ some old → (run k).call? i = some (kind, old, args) →
        ∃ m, j < m ∧ m < k ∧ ∃ a', (run m).nextAct? = some a' ∧
          a'.assigns? i kind = some (some old) := by
  have hreach : ∀ k ≤ n, (run k).Reachable I := fun k hk =>
    hc.runs (hrun.runs (Nat.zero_le k) hk)
  refine ⟨fun m hm kind args below hphase halive => (hrun m hm).phase hphase halive, ?_,
    fun k hk => (hrun k hk).world_calls (hreach k (by omega)) i, ?_⟩
  · intro j l hjl hl kind args below hdispatch hbusy hreturned
    obtain ⟨d, rfl⟩ := Nat.exists_eq_add_of_le hjl
    obtain ⟨queue, hstack⟩ := hdispatch
    have hlater : IsRun I (fun k => run (j + k)) d := fun k hk => hrun (j + k) (by omega)
    rcases hlater.phase_unique ⟨[_], hstack⟩ fun k hk => hbusy (j + k) (by omega) (by omega) with
      ⟨⟨above, hpending⟩, -⟩ | ⟨-, m, hm, hphase, honly⟩
    · rw [hpending, List.length_append, List.length_cons] at hreturned
      omega
    · refine ⟨j + m, ⟨by omega, by omega, hphase⟩, fun m' hjm' hm' hphase' => ?_⟩
      obtain ⟨e, rfl⟩ := Nat.exists_eq_add_of_le hjm'
      rw [honly e (by omega) hphase']
  · intro j k hjk hk a kind callback old args hact hassigns hdone hother hcall
    obtain ⟨-, -, -, hslot⟩ := phase_of_call? hcall
    have hleft : (run (j + 1)).world.slot i kind = callback := by
      have hmove : (run j).Move I (run (j + 1)) := hrun j (by omega)
      rw [hmove.world_of_nextAct? hact]
      exact slot_of_assigns hassigns hdone
    obtain ⟨m, hjm, hm, hagain⟩ := hrun.exists_assigns hc (j := j + 1) (k := k) (by omega)
      (by omega) (by rwa [hleft]) hslot
    exact ⟨m, by omega, hm, hagain⟩

end Config

namespace Specimen

/-- A language with one coroutine and two callbacks. -/
def twoCallbacks : Dialect :=
  ⟨Unit, Unit, Bool, Empty, Empty⟩

/-- The coroutine sets the second callback in place of the first one. -/
def replacer : Interpreter twoCallbacks where
  resume _ _ := .act (.setCallback 0 .timerTick (some true)) fun _ => .ret (.ok .finished)
  callable _ := true
  call _ _ := .ret (.ok .done)
  handle h := h.elim
  patience := 100

/-- A script sets the first callback, and its coroutine waits for a tick. -/
def replaceable : Config twoCallbacks :=
  ⟨(World.new ()).beginLife ⟨1⟩ ⟨"me"⟩ false, [.entry 0 (
    .act (.setCallback 0 .timerTick (some false)) fun _ =>
    .act (.awaitNext (.script 0) .timerTick ()) fun _ => .ret (.ok none)), .settle 0]⟩

/-- What comes of a tick after some steps.  The dispatch begins at moment 2, the coroutine
changes the callback at moment 3, and the callback is called at moment 6. -/
def replacingRun (n : Nat) : Config twoCallbacks :=
  (⟨(replaceable.after replacer 4).world,
    [.handler (.act (.emit .timerTick) fun _ => .ret ())]⟩ : Config twoCallbacks).after replacer n

theorem reachable_replacingRun : (replacingRun 0).Reachable replacer := by
  have hborn : Config.Move replacer ⟨World.new (), []⟩ replaceable :=
    .host (.spawn ⟨1⟩ ⟨"me"⟩ false _)
  have hsettled := Config.runs_after replacer replaceable 4
  have hidle : (replaceable.after replacer 4).stack = [] := by rfl
  have hticking : (replaceable.after replacer 4).Move replacer (replacingRun 0) :=
    Config.move_host replacer hidle (.code _)
  exact ⟨(), (hsettled.head hborn).tail hticking⟩

theorem isRun_replacingRun : Config.IsRun replacer replacingRun 9 :=
  Config.isRun_of_busy replacer (fun _ => rfl) (by decide +kernel)

end Specimen

/-- The dispatch of `Specimen.replacingRun` calls the callback that its coroutine has set, and
the one that was there is not called any more. -/
theorem Config.IsRun.current_callback_replaced :
    Specimen.replacingRun 7
        = ⟨(Specimen.replacingRun 6).world.record (.called 0 .timerTick true []),
            .call 0 .timerTick (.ret (.ok .done)) :: (Specimen.replacingRun 6).stack.tail⟩ ∧
      ∀ k < 9, 3 < k → ∀ args,
        (Specimen.replacingRun k).call? 0 ≠ some (.timerTick, false, args) := by
  obtain ⟨hphase, -, -, hold⟩ :=
    IsRun.current_callback Specimen.isRun_replacingRun Specimen.reachable_replacingRun 0
  have hsilent : ∀ m < 9, 3 < m → (Specimen.replacingRun m).nextAct?.isNone = true := by
    decide +kernel
  refine ⟨?_, fun k hk hjk args hcall => ?_⟩
  · have hslot : (Specimen.replacingRun 6).world.slot 0 .timerTick = some true := by rfl
    have hcalled := hphase 6 (by decide) .timerTick [] _ rfl (by rfl)
    rw [hslot] at hcalled
    exact hcalled
  · have hother : some true ≠ some false := by decide
    obtain ⟨m, hjm, hm, a, hact, -⟩ := hold 3 k hjk hk (.setCallback 0 .timerTick (some true))
      .timerTick (some true) false args rfl rfl rfl hother hcall
    have hnone := hsilent m (by omega) hjm
    rw [hact] at hnone
    cases hnone

end ScriptHost
