import ScriptHost.Proofs.Tidiness

/-!
# What a chore leaves of any registry

Whatever state a registry is in, and whatever scripts do meanwhile, a chore on it leaves
paths, flags and policy as the chore says: scripts have no hand in them.  `Host.Yields`
states that of a chore, and of its result; it asks for no invariant.  Two registries
that differ in nothing but in the instances they name, and in the id to come, **resemble**
each other (`Registry.Resembles`).

* `Host.yields_destroy`, `Host.yields_instantiate` — the two parts every operation is
  made of;
* `Host.yields_add`, `Host.yields_setEnabledAt`, `Host.yields_stopAll` — the operations.
-/

namespace ScriptHost

variable {D : Dialect} {α β : Type} {I : Interpreter D}

namespace Registry

/-- The paths of the entries, with their flags. -/
def flags (r : Registry D) : List (Path × Bool) :=
  r.entries.map fun e => (e.path, e.enabled)

/-- A registry that may differ in the instances its entries name, and in the id to come. -/
structure Resembles (r r' : Registry D) : Prop where
  flags : r'.flags = r.flags
  started : r'.started = r.started
  concurrent : r'.concurrent = r.concurrent

theorem Resembles.refl (r : Registry D) : r.Resembles r :=
  ⟨rfl, rfl, rfl⟩

theorem Resembles.trans {r r' r'' : Registry D} (h : r.Resembles r') (h' : r'.Resembles r'') :
    r.Resembles r'' :=
  ⟨h'.flags.trans h.flags, h'.started.trans h.started, h'.concurrent.trans h.concurrent⟩

theorem resembles_setLive (r : Registry D) (i : Nat) (live : Option Nat) :
    r.Resembles (r.setLive i live) :=
  ⟨View.map_modify_same r.entries i fun _ => rfl, rfl, rfl⟩

/-- A registry may refuse to start a script if it runs one at a time, and for no other
reason. -/
def MayRefuse (r : Registry D) (e : RegistryError) : Prop :=
  r.concurrent = false ∧ ∃ requested live, e = .concurrentRejected requested live

theorem Resembles.mayRefuse {r r' : Registry D} (h : r.Resembles r') {e : RegistryError}
    (he : r'.MayRefuse e) : r.MayRefuse e :=
  ⟨h.concurrent.symm.trans he.1, he.2⟩

end Registry

/-- What is made of a result fails only where the result was a failure. -/
theorem eq_error_of_map {ε : Type} {result : Except ε α} {f : α → β} {e : ε}
    (h : result.map f = .error e) : result = .error e := by
  cases result with
  | ok => cases h
  | error e' =>
    obtain rfl := Except.error.inj h
    rfl

namespace Host

/-- What a chore leaves of a registry, together with its result, in whatever world it is
done. -/
def Yields (I : Interpreter D) (c : Chore D (Host D) α) (r : Registry D)
    (Q : α → Registry D → Prop) : Prop :=
  ∀ h : Host D, h.registry = r → c.Ensures I (fun _ _ => True) (fun a h' => Q a h'.registry) h

variable {r : Registry D}

theorem yields_pure {a : α} {Q : α → Registry D → Prop} (hQ : Q a r) : Yields I (pure a) r Q := by
  rintro h rfl
  exact hQ

theorem yields_state {f : Host D → Chore D (Host D) β} {Q : β → Registry D → Prop}
    (hf : ∀ h : Host D, h.registry = r → Yields I (f h) r Q) : Yields I (.state >>= f) r Q :=
  fun h hr => hf h hr h hr

/-- **One chore after another.** -/
theorem yields_bind {c : Chore D (Host D) α} {f : α → Chore D (Host D) β}
    {P : α → Registry D → Prop} {Q : β → Registry D → Prop} (hc : Yields I c r P)
    (hf : ∀ a r', P a r' → Yields I (f a) r' Q) : Yields I (c >>= f) r Q :=
  fun h hr => Chore.ensures_bind ((hc h hr).mono fun a h' hP => hf a _ hP h' rfl)

theorem yields_mono {c : Chore D (Host D) α} {P Q : α → Registry D → Prop} (hc : Yields I c r P)
    (hPQ : ∀ a r', P a r' → Q a r') : Yields I c r Q :=
  fun h hr => (hc h hr).mono fun a _ hP => hPQ a _ hP

/-- An order leaves the registry as it is. -/
theorem yields_order (o : Order D) (a : α) (r : Registry D) :
    Yields I (.order o (.done a)) r fun _ r' => r' = r :=
  fun _ hr _ _ => ⟨trivial, fun _ => hr⟩

theorem yields_report (n : RegistryNotice) (r : Registry D) :
    Yields I (report n) r fun _ r' => r' = r :=
  yields_order (.code (.report (.registry n))) () r

theorem yields_spawn (id : ScriptId) (path : Path) (code : Nat → EntryCode D) (r : Registry D) :
    Yields I (.spawn id path code) r fun _ r' => r' = r :=
  fun _ hr _ _ => ⟨trivial, fun _ => hr⟩

theorem yields_modifyRegistry (f : Registry D → Registry D) (r : Registry D) :
    Yields I (modifyRegistry f) r fun _ r' => r' = f r := by
  rintro h rfl
  exact ⟨trivial, rfl⟩

/-- **Destroying** concerns nothing but the instance. -/
theorem yields_destroy (i : Nat) (r : Registry D) :
    Yields I (destroy i) r fun _ r' => r.Resembles r' := by
  refine yields_state ?_
  rintro h rfl
  split
  · exact yields_pure (.refl _)
  · refine yields_bind (yields_modifyRegistry _ _) ?_
    rintro _ _ rfl
    refine yields_mono (yields_order (.terminate _) () _) ?_
    rintro _ _ rfl
    exact Registry.resembles_setLive _ i none

/-- **Instantiating** concerns nothing but the instance; it is refused only where
scripts run one at a time. -/
theorem yields_instantiate (i : Nat) (r : Registry D) :
    Yields I (instantiate i) r fun a r' =>
      r.Resembles r' ∧ ∀ e, a = .error e → r.MayRefuse e := by
  refine yields_state ?_
  rintro h rfl
  split
  · exact yields_pure ⟨.refl _, by simp⟩
  · next e _ =>
    split
    · next live hblocker =>
      have hconcurrent : h.registry.concurrent = false := by
        by_contra hallowed
        simp [Registry.blocker?, hallowed] at hblocker
      refine yields_bind (yields_report _ _) ?_
      rintro _ _ rfl
      refine yields_pure ⟨.refl _, ?_⟩
      rintro _ ⟨⟩
      exact ⟨hconcurrent, e.path, live, rfl⟩
    · dsimp only
      refine yields_bind (yields_modifyRegistry _ _) ?_
      rintro _ _ rfl
      refine yields_bind (yields_spawn _ _ _ _) ?_
      rintro k _ rfl
      refine yields_bind (yields_modifyRegistry _ _) ?_
      rintro _ _ rfl
      have hcounted : h.registry.Resembles h.registry.countOn := ⟨rfl, rfl, rfl⟩
      exact yields_pure ⟨hcounted.trans (Registry.resembles_setLive _ i (some k)), by simp⟩

/-- Destroying several concerns nothing but the instances. -/
theorem yields_destroyAll (l : List Nat) (r : Registry D) :
    Yields I (destroyAll l) r fun _ r' => r.Resembles r' := by
  induction l generalizing r with
  | nil => exact yields_pure (.refl r)
  | cons i rest ih =>
    exact yields_bind (yields_destroy i r) fun _ r₁ hfirst =>
      yields_mono (ih r₁) fun _ _ hrest => hfirst.trans hrest

/-- **Stopping** leaves the registry not started. -/
theorem yields_stopAll (r : Registry D) :
    Yields I stopAll r fun _ r' => r'.started = false := by
  refine yields_bind (yields_modifyRegistry _ r) ?_
  rintro _ _ rfl
  refine yields_state fun h hr => ?_
  have hall := yields_destroyAll (I := I) (List.range h.registry.entries.length)
    { r with started := false }
  dsimp only
  split
  · refine yields_bind (yields_report _ _) ?_
    rintro _ _ rfl
    exact yields_mono hall fun _ _ hdone => hdone.started
  · exact yields_mono hall fun _ _ hdone => hdone.started

/-- **Adding** an unknown path appends its entry, whether it may start or not. -/
theorem yields_add {path : Path} (hunknown : r.contains path = false) (enabled : Bool) :
    Yields I (add path enabled) r fun a r' =>
      r'.flags = r.flags ++ [(path, enabled)] ∧ r'.concurrent = r.concurrent ∧
        ∀ e, a = .error e → r.MayRefuse e := by
  refine yields_state ?_
  rintro h rfl
  rw [if_neg (by simp [hunknown])]
  refine yields_bind (yields_report _ _) ?_
  rintro _ _ rfl
  refine yields_bind (yields_modifyRegistry _ _) ?_
  rintro _ _ rfl
  have hflags : ({ h.registry with entries := h.registry.entries ++ [⟨path, enabled, none⟩] } :
      Registry D).flags = h.registry.flags ++ [(path, enabled)] := by
    simp [Registry.flags]
  split
  · refine yields_bind (yields_instantiate _ _) ?_
    rintro a r' ⟨hresembles, hrefused⟩
    exact yields_pure ⟨hresembles.flags.trans hflags, hresembles.concurrent,
      fun e he => hrefused e (eq_error_of_map he)⟩
  · exact yields_pure ⟨hflags, rfl, by simp⟩

/-- **Setting a flag** sets it, whether the script may start or not. -/
theorem yields_setEnabledAt (i : Nat) (value : Bool) (r : Registry D) :
    Yields I (setEnabledAt i value) r fun a r' =>
      r'.flags = (r.modifyEntry i fun e => { e with enabled := value }).flags ∧
        r'.concurrent = r.concurrent ∧ ∀ e, a = .error e → r.MayRefuse e := by
  refine yields_bind (yields_modifyRegistry _ r) ?_
  rintro _ _ rfl
  split
  · refine yields_state fun h _ => ?_
    split
    · refine yields_mono (yields_instantiate i _) ?_
      rintro a r' ⟨hresembles, hrefused⟩
      exact ⟨hresembles.flags, hresembles.concurrent, hrefused⟩
    · exact yields_pure ⟨rfl, rfl, by simp⟩
  · refine yields_bind (yields_destroy i _) fun _ r' hresembles => ?_
    exact yields_pure ⟨hresembles.flags, hresembles.concurrent, by simp⟩

end Host

end ScriptHost
