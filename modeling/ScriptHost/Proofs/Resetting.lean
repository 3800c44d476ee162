import ScriptHost.Proofs.Wakeup

/-!
# What a reset drops

A reset drops the callbacks of an instance and whoever waits in its table.  But while a
pass is under way, those it has yet to resume wait in its own queue, and are not in the
table any more; a reset by script code that runs inside the pass does not come to them.

* `Config.Runs.not_wakes_of_resets` — whoever waits in the table at a reset is never
  resumed again;
* `Config.Runs.returned_of_queued` — whoever stands in the queue of a pass has been
  resumed when the pass is over, or the instance has ended;
* `Config.Runs.wakes_iff_of_resets` — both, for everybody who waits when an instance is
  reset.
-/

namespace ScriptHost

variable {D : Dialect}

namespace Config

variable {I : Interpreter D}

/-- Where nothing is written of a resumption, nobody was resumed. -/
theorem Gains.not_wakes {c c' : Config D} {i s : Nat}
    (h : c.Gains i (fun x => ∀ args, x ≠ .resumed (.script i) s args) c') :
    ¬ c.Wakes i s c' := by
  rintro ⟨news, hstory, args, hmem⟩
  obtain ⟨news', hstory', hnews⟩ := h
  have hsame : news' = news := List.append_cancel_right (hstory'.symm.trans hstory)
  exact hnews _ (hsame ▸ hmem) args rfl

/-- Whoever stands in a queue of the account stands in the queue of a pass. -/
theorem queued_of_mem_passes {c : Config D} {i s : Nat}
    (hs : s ∈ (c.account i).passes.flatten.map Task.serial) : c.Queued i s 0 := by
  obtain ⟨task, htask, rfl⟩ := List.mem_map.mp hs
  obtain ⟨queue, hqueue, htask⟩ := List.mem_flatten.mp htask
  obtain ⟨f, hf, hfqueue⟩ := List.mem_filterMap.mp hqueue
  obtain ⟨above, rest, hstack⟩ := List.append_of_mem hf
  exact ⟨above, f, rest, queue, hstack, Nat.zero_le _, hfqueue, List.mem_map_of_mem htask⟩

theorem Queued.mem_passes {c : Config D} {i s depth : Nat} (h : c.Queued i s depth) :
    s ∈ (c.account i).passes.flatten.map Task.serial := by
  obtain ⟨above, f, rest, queue, hstack, -, hqueue, hs⟩ := h
  obtain ⟨task, htask, rfl⟩ := List.mem_map.mp hs
  have hf : f ∈ c.stack := hstack ▸ List.mem_append_right above List.mem_cons_self
  exact List.mem_map_of_mem (List.mem_flatten.mpr
    ⟨queue, List.mem_filterMap.mpr ⟨f, hf, hqueue⟩, htask⟩)

/-- Only an instance that came into being has coroutines anywhere. -/
theorem Reachable.isAlive_or_hasEnded {c : Config D} (hc : c.Reachable I) {i s : Nat}
    (hs : s ∈ (c.account i).places) : (c.account i).isAlive = true ∨ c.HasEnded i := by
  have hbalanced := hc.balanced i
  have hhanded : s ∈ (c.account i).handed := hbalanced.perm.mem_iff.mp (List.mem_append_left _ hs)
  cases hstate : (c.account i).state with
  | none =>
    have hnone : c.world.instance? i = none := Option.map_eq_none_iff.mp hstate
    rw [hbalanced.numbers] at hhanded
    simp [account, World.standing, World.subscriptions, hnone, Subscriptions.empty] at hhanded
  | some state =>
    by_cases hended : state = .terminated
    · exact Or.inr (hstate.trans (congrArg some hended))
    · exact Or.inl (by simp [Standing.isAlive, hstate, hended])

/-- Whoever stands in the queue of a pass goes on to stand in it, or has been resumed,
for as long as the instance lives. -/
theorem Runs.queued {c c' : Config D} (hc : c.Reachable I) (h : c.Runs I c') {i s depth : Nat}
    (hqueued : c.Queued i s depth) :
    (c'.Queued i s depth ∧ (c'.account i).isAlive = true) ∨ c.Wakes i s c' ∨ c'.HasEnded i := by
  induction h with
  | refl =>
    have hplace : s ∈ (c.account i).places :=
      Account.mem_places.mpr (Or.inr (Or.inl hqueued.mem_passes))
    exact (hc.isAlive_or_hasEnded hplace).imp (⟨hqueued, ·⟩) Or.inr
  | @tail c₁ c₂ hfirst hmove ih =>
    have hc₁ : c₁.Reachable I := hc.runs hfirst
    rcases ih with ⟨hqueued, halive⟩ | hwakes | hended
    · rcases hmove.queued hc₁ halive hqueued with hqueued | hwakes
      · exact (hmove.isAlive_or_hasEnded hc₁ halive).imp (⟨hqueued, ·⟩) Or.inr
      · exact Or.inr (Or.inl ((Runs.grows hc hfirst i).wakes hwakes))
    · exact Or.inr (Or.inl (hwakes.gains (Runs.grows hc₁ (.single hmove) i)))
    · exact Or.inr (Or.inr (Runs.hasEnded hc₁ (.single hmove) hended))

/-- **A pass that is over has come to everybody in its queue**, unless the instance has
ended. -/
theorem Runs.returned_of_queued {c c' : Config D} (hc : c.Reachable I) (h : c.Runs I c')
    {i s depth : Nat} (hqueued : c.Queued i s depth) (hreturned : c'.stack.length ≤ depth) :
    c.Wakes i s c' ∨ c'.HasEnded i := by
  rcases h.queued hc hqueued with ⟨⟨above, f, rest, queue, hstack, hdepth, -⟩, -⟩ | hdone
  · rw [hstack, List.length_append, List.length_cons] at hreturned
    omega
  · exact hdone

/-- A reset leaves an empty table and takes leave of everybody who waited in it. -/
theorem Move.standing_of_resets {c c' : Config D} (h : c.Move I c') {i : Nat}
    (hresets : c.resets i = true) (hi : i < c.world.instances.length) :
    c'.world.standing i = (c.world.standing i).cleared i := by
  unfold resets at hresets
  split at hresets
  · next j hact =>
    obtain rfl : j = i := by simpa using hresets
    obtain ⟨f, hf, hact⟩ := Option.bind_eq_some_iff.mp hact
    obtain ⟨rest, hstack⟩ := List.head?_eq_some_iff.mp hf
    obtain ⟨g, -, hadvance⟩ := f.advance_of_nextAct? I c.world hact
    rw [h.eq_advance hstack, hadvance]
    exact World.standing_clear hi
  · cases hresets

/-- **Whoever waits in the table at a reset is never resumed again.** -/
theorem Runs.not_wakes_of_resets {c c₁ c₂ : Config D} (hc : c.Reachable I) (h : c.Move I c₁)
    (hruns : c₁.Runs I c₂) {i s : Nat} (hresets : c.resets i = true)
    (hs : s ∈ (c.account i).table.waitingSerials) : ¬ c.Wakes i s c₂ := by
  have hborn : (c.account i).state ≠ none := by
    have hplace : s ∈ (c.account i).places := Account.mem_places.mpr (Or.inl hs)
    rcases hc.isAlive_or_hasEnded hplace with halive | hended
    · intro hnone
      simp [Standing.isAlive, hnone] at halive
    · intro hnone
      cases hnone.symm.trans hended
  have hstory : (c₁.account i).story
      = ((c.account i).table.waitingSerials.map fun s =>
          Happening.left (.script i) s .dropped).reverse ++ (c.account i).story :=
    congrArg Standing.story (h.standing_of_resets hresets (lt_of_state hborn))
  have hgone : s ∈ (c₁.account i).gone := by
    have hleft : Happening.left (.script i) s .dropped ∈ (c₁.account i).story :=
      hstory ▸ Account.left_mem_farewells i .dropped hs _
    exact List.mem_filterMap.mpr ⟨_, hleft, rfl⟩
  have hreset : c.Gains i (fun x => ∀ args, x ≠ .resumed (.script i) s args) c₁ := by
    refine ⟨_, hstory, fun x hx args hresumed => ?_⟩
    obtain ⟨s', -, rfl⟩ := List.mem_map.mp (List.mem_reverse.mp hx)
    cases hresumed
  exact Gains.not_wakes (Account.Gains.trans hreset (hruns.gone (hc.move h) hgone).2)

/-- **Who survives a reset.**  Of those who wait with an instance when script code resets
it, the ones in its table are never resumed again, however the run goes on.  The ones
in the queue of a pass that is under way are not dropped: when that pass is over, each
of them has been resumed, unless the instance has ended.  So once everything is over,
and the instance lives, the survivors are those who were not in the table. -/
theorem Runs.wakes_iff_of_resets {c c₁ c₂ : Config D} (hc : c.Reachable I) (h : c.Move I c₁)
    (hruns : c₁.Runs I c₂) {i : Nat} (hresets : c.resets i = true) :
    ∀ s ∈ (c.account i).waiting,
      (s ∈ (c.account i).table.waitingSerials → ¬ c.Wakes i s c₂) ∧
      (∀ depth, c.Queued i s depth → c₂.stack.length ≤ depth →
        c.Wakes i s c₂ ∨ c₂.HasEnded i) ∧
      (c₂.stack = [] → ¬ c₂.HasEnded i →
        (c.Wakes i s c₂ ↔ s ∉ (c.account i).table.waitingSerials)) := by
  intro s hs
  have hdropped : s ∈ (c.account i).table.waitingSerials → ¬ c.Wakes i s c₂ :=
    Runs.not_wakes_of_resets hc h hruns hresets
  have hall : c.Runs I c₂ := hruns.head h
  refine ⟨hdropped, fun depth => Runs.returned_of_queued hc hall, fun hrest hlives =>
    ⟨fun hwakes htable => hdropped htable hwakes, fun htable => ?_⟩⟩
  have hpasses := (List.mem_append.mp hs).resolve_left htable
  refine (Runs.returned_of_queued hc hall (queued_of_mem_passes hpasses) ?_).resolve_right hlives
  rw [hrest]
  exact Nat.le_refl 0

end Config

namespace Specimen

/-- A language of two coroutines. -/
def resetDialect : Dialect :=
  ⟨Unit, Bool, Empty, Empty, Empty⟩

/-- Both of them finish when they are resumed; one resets its script before. -/
def resetting : Interpreter resetDialect where
  resume
    | true, _ => .act (.reset 0) fun _ => .ret (.ok .finished)
    | false, _ => .ret (.ok .finished)
  callable callback := callback.elim
  call callback := callback.elim
  handle handler := handler.elim
  patience := 100

/-- The top-level code lets both wait for ticks, and the second one wait for the game to
go on, too. -/
def resetEntry : EntryCode resetDialect :=
  .act (.awaitNext (.script 0) .timerTick true) fun _ =>
  .act (.awaitNext (.script 0) .timerTick false) fun _ =>
  .act (.awaitNext (.script 0) .unpause false) fun _ => .ret (.ok none)

/-- The script has come into being. -/
def resetBorn : Config resetDialect :=
  ⟨(World.new ()).beginLife ⟨1⟩ ⟨"me"⟩ false, [.entry 0 resetEntry, .settle 0]⟩

/-- Its top-level code has run, and code of the host emits a tick. -/
def resetTick : Config resetDialect :=
  ⟨(resetBorn.after resetting 5).world, [.handler (.act (.emit .timerTick) fun _ => .ret ())]⟩

/-- What has come of the tick after some steps.  The first coroutine resets the script
with the step from moment 3, and at moment 11 nothing is under way. -/
def resetRun (n : Nat) : Config resetDialect :=
  resetTick.after resetting n

theorem reachable_resetRun (n : Nat) : (resetRun n).Reachable resetting := by
  have hborn : Config.Move resetting ⟨World.new (), []⟩ resetBorn :=
    .host (.spawn ⟨1⟩ ⟨"me"⟩ false resetEntry)
  have hrest : (resetBorn.after resetting 5).stack = [] := by rfl
  have hrecital : (resetBorn.after resetting 5).Move resetting resetTick :=
    Config.move_host resetting hrest (.code _)
  exact ⟨(), (((Config.runs_after resetting resetBorn 5).head hborn).tail hrecital).trans
    (Config.runs_after resetting resetTick n)⟩

end Specimen

/-- When the first coroutine of `Specimen.resetRun` resets the script, one waits in the
table and is dropped; the other one stands in the queue of the pass, and is resumed. -/
theorem Config.Runs.wakes_iff_of_resets_in_pass :
    (Specimen.resetRun 3).resets 0 = true ∧
      ((Specimen.resetRun 3).account 0).waiting = [2, 1] ∧
      ¬ (Specimen.resetRun 3).Wakes 0 2 (Specimen.resetRun 11) ∧
      (Specimen.resetRun 3).Wakes 0 1 (Specimen.resetRun 11) := by
  have hresets : (Specimen.resetRun 3).resets 0 = true := by decide +kernel
  have hwaiting : ((Specimen.resetRun 3).account 0).waiting = [2, 1] := by decide +kernel
  have hbusy : (Specimen.resetRun 3).stack ≠ [] := fun hnil => by
    have hfull : (Specimen.resetRun 3).stack.isEmpty = false := by decide +kernel
    rw [hnil] at hfull
    cases hfull
  have hmove : (Specimen.resetRun 3).Move Specimen.resetting (Specimen.resetRun 4) :=
    Config.move_next Specimen.resetting hbusy
  have hruns : (Specimen.resetRun 4).Runs Specimen.resetting (Specimen.resetRun 11) :=
    Config.runs_after Specimen.resetting (Specimen.resetRun 4) 7
  have hrest : (Specimen.resetRun 11).stack = [] := by rfl
  have hlives : ¬ (Specimen.resetRun 11).HasEnded 0 := by decide +kernel
  have hwakes := Runs.wakes_iff_of_resets (Specimen.reachable_resetRun 3) hmove hruns hresets
  refine ⟨hresets, hwaiting, ?_, ?_⟩
  · exact (hwakes 2 (by decide +kernel)).1 (by decide +kernel)
  · exact ((hwakes 1 (by decide +kernel)).2.2 hrest hlives).mpr (by decide +kernel)

end ScriptHost
