import ScriptHost.Proofs.Attachment
import ScriptHost.Proofs.Soundness

/-!
# What steps leave alone

The steps of the machine bring no instance into being, and end nobody but those who
can be ended: whoever is held, or whose end is under way (`Config.endable`).  So an
instance that is not among them lives through any number of steps
(`Config.Steps.follows`), and it is not among them afterwards either.

Only some of the endable ones can be held later: those that are held, and those that
go back among the held ones (`Config.givable`).  An end that was ordered does not put
the instance there.

* `Config.Steps.follows` — what becomes of the instances;
* `Config.Steps.endable_subset`, `Config.Steps.givable_subset` — who can be ended, or
  held, later;
* `Config.Steps.passes` — a run gets below a frame only by a step of that frame.
-/

namespace ScriptHost

variable {D : Dialect}

/-! ## Tags and states -/

/-- What an instance is from its birth on. -/
structure Tag where
  id : ScriptId
  path : Path
  detached : Bool

/-- The tag of an instance. -/
def InstanceInfo.tag (b : InstanceInfo) : Tag :=
  ⟨b.id, b.path, b.detached⟩

namespace View

/-- What the instances are from their birth on. -/
def tags (r : View D) : List Tag :=
  r.infos.map InstanceInfo.tag

/-- Whether the instance at a place belongs to a registry. -/
def isRegistered (r : View D) (i : Nat) : Bool :=
  r.tags[i]?.any fun t => !t.detached

/-- Whether the instance at a place has run its top-level code and has not ended. -/
def isRunning (r : View D) (i : Nat) : Bool :=
  r.infos[i]?.any fun b => b.state = .running

/-- The instances of a registry that have not ended, oldest first. -/
def own (r : View D) : List Nat :=
  r.alive.filter r.isRegistered

/-- The ids a registry gave, oldest first. -/
def registeredIds (r : View D) : List ScriptId :=
  (r.tags.filter fun t => !t.detached).map Tag.id

/-- The registry's own are those that are alive and registered. -/
theorem mem_own {r : View D} {i : Nat} :
    i ∈ r.own ↔ r.isAlive i = true ∧ r.isRegistered i = true := by
  rw [own, List.mem_filter, mem_alive]

/-- Nobody is listed twice. -/
theorem nodup_own (r : View D) : r.own.Nodup :=
  (List.nodup_range.filter _).filter _

/-- Everybody has a tag. -/
theorem length_tags (r : View D) : r.tags.length = r.infos.length :=
  List.length_map _

/-- Whoever has come into being goes on to belong to a registry, or not to. -/
theorem isRegistered_of_prefix {r r' : View D} (h : r.tags <+: r'.tags) {i : Nat}
    (hi : i < r.infos.length) : r'.isRegistered i = r.isRegistered i := by
  obtain ⟨t, ht⟩ := h
  have hi : i < r.tags.length := r.length_tags.symm ▸ hi
  rw [isRegistered, isRegistered, ← ht, List.getElem?_append_left hi]

/-- Whoever runs is alive. -/
theorem isAlive_of_isRunning {r : View D} {i : Nat} (h : r.isRunning i = true) :
    r.isAlive i = true := by
  simp only [isRunning, isAlive] at h ⊢
  cases hb : r.infos[i]? with
  | none => simp [hb] at h
  | some b =>
    have hstate : b.state = .running := by simpa [hb] using h
    simp [InstanceInfo.isAlive, hstate]

/-- A list keeps its image where only what does not show in it is changed. -/
theorem map_modify_same {α β : Type} (l : List α) (i : Nat) {f : α → α} {g : α → β}
    (h : ∀ a, g (f a) = g a) : (l.modify i f).map g = l.map g := by
  apply List.ext_getElem?
  intro j
  simp only [List.getElem?_map, List.getElem?_modify]
  cases l[j]? with
  | none => rfl
  | some a => by_cases hij : i = j <;> simp [hij, h]

/-- Only a birth changes who there is. -/
theorem tags_after (r : View D) {e : Effect D}
    (he : ∀ id path detached, e ≠ .enroll id path detached) :
    (r.after e).tags = r.tags := by
  cases e with
  | enroll id path detached => exact absurd rfl (he id path detached)
  | settle i =>
    refine map_modify_same r.infos i fun b => ?_
    unfold InstanceInfo.settle
    split <;> rfl
  | dismiss i => exact map_modify_same r.infos i fun b => rfl
  | nothing | listen | unlisten => rfl

/-- A new instance comes last, with its tag. -/
theorem tags_enroll (r : View D) (id : ScriptId) (path : Path) (detached : Bool) :
    (r.after (.enroll id path detached)).tags = r.tags ++ [⟨id, path, detached⟩] := by
  simp [tags, View.after, InstanceInfo.tag]

/-- Nobody comes back to life, but for a newcomer. -/
theorem isAlive_of_after {r : View D} {e : Effect D}
    (he : ∀ id path detached, e ≠ .enroll id path detached) {i : Nat}
    (h : (r.after e).isAlive i = true) : r.isAlive i = true := by
  cases e with
  | enroll id path detached => exact absurd rfl (he id path detached)
  | settle j => exact isAlive_settle r i j ▸ h
  | dismiss j =>
    rw [isAlive_dismiss] at h
    exact (Bool.and_eq_true_iff.mp h).1
  | nothing | listen | unlisten => exact h

/-- Only its own end ends an instance. -/
theorem isAlive_after {r : View D} {e : Effect D} {i : Nat} (he : e ≠ .dismiss i)
    (h : r.isAlive i = true) : (r.after e).isAlive i = true := by
  cases e with
  | enroll id path detached => simp [isAlive_enroll, h]
  | settle j => exact (isAlive_settle r i j).trans h
  | dismiss j =>
    have hne : j ≠ i := fun heq => he (heq ▸ rfl)
    simp [isAlive_dismiss, h, hne]
  | nothing | listen | unlisten => exact h

/-- Whoever runs goes on running until its end is complete. -/
theorem isRunning_after {r : View D} {e : Effect D} {i : Nat} (he : e ≠ .dismiss i)
    (h : r.isRunning i = true) : (r.after e).isRunning i = true := by
  have hlt := lt_of_isAlive (isAlive_of_isRunning h)
  simp only [isRunning] at h ⊢
  obtain ⟨b, hb, hstate⟩ : ∃ b, r.infos[i]? = some b ∧ b.state = .running := by
    cases hb : r.infos[i]? with
    | none => simp [hb] at h
    | some b => exact ⟨b, rfl, by simpa [hb] using h⟩
  cases e with
  | enroll id path detached => simp [getElem?_enroll, Nat.ne_of_lt hlt, hb, hstate]
  | settle j =>
    simp only [View.after, List.getElem?_modify, hb]
    by_cases hj : j = i <;> simp [hj, InstanceInfo.settle, hstate]
  | dismiss j =>
    have hne : j ≠ i := fun heq => he (heq ▸ rfl)
    simp [View.after, hne, hb, hstate]
  | nothing | listen | unlisten => simp [View.after, hb, hstate]

/-- Whoever is alive when its top-level code is over, runs. -/
theorem isRunning_settle {r : View D} {i : Nat} (h : r.isAlive i = true) :
    (r.after (.settle i)).isRunning i = true := by
  simp only [isRunning, isAlive, View.after, List.getElem?_modify] at h ⊢
  cases hb : r.infos[i]? with
  | none => simp [hb] at h
  | some b =>
    have halive : b.state ≠ .terminated := by simpa [hb, InstanceInfo.isAlive] using h
    cases hstate : b.state with
    | initializing => simp [InstanceInfo.settle, hstate]
    | running => simp [InstanceInfo.settle, hstate]
    | terminated => exact absurd hstate halive

/-- One view follows another: nobody came into being, nobody came back to life, and
nobody ended but some. -/
structure Follows (r r' : View D) (some : List Nat) : Prop where
  tags : r'.tags = r.tags
  isAlive : ∀ i, r'.isAlive i = true → r.isAlive i = true
  spared : ∀ i ∉ some, r.isAlive i = true → r'.isAlive i = true
  running : ∀ i ∉ some, r.isRunning i = true → r'.isRunning i = true

theorem Follows.refl (r : View D) (some : List Nat) : r.Follows r some :=
  ⟨rfl, fun _ h => h, fun _ _ h => h, fun _ _ h => h⟩

/-- Following goes on, as long as nobody else ends. -/
theorem Follows.trans {r r' r'' : View D} {some some' : List Nat} (h : r.Follows r' some)
    (h' : r'.Follows r'' some') (hsub : some' ⊆ some) : r.Follows r'' some := by
  refine ⟨h'.tags.trans h.tags, fun i hi => h.isAlive i (h'.isAlive i hi), fun i hi halive => ?_,
    fun i hi hrun => ?_⟩
  · exact h'.spared i (fun hmem => hi (hsub hmem)) (h.spared i hi halive)
  · exact h'.running i (fun hmem => hi (hsub hmem)) (h.running i hi hrun)

/-- Who is registered stays so. -/
theorem Follows.isRegistered {r r' : View D} {some : List Nat} (h : r.Follows r' some) :
    r'.isRegistered = r.isRegistered := by
  funext i
  rw [View.isRegistered, View.isRegistered, h.tags]

/-- Nobody comes into being. -/
theorem Follows.length {r r' : View D} {some : List Nat} (h : r.Follows r' some) :
    r'.infos.length = r.infos.length := by
  rw [← length_tags, ← length_tags, h.tags]

/-- The ids of those registered stay the same. -/
theorem Follows.registeredIds {r r' : View D} {some : List Nat} (h : r.Follows r' some) :
    r'.registeredIds = r.registeredIds := by
  rw [View.registeredIds, View.registeredIds, h.tags]

/-- A registry gains no instance by whatever follows. -/
theorem Follows.own_sublist {r r' : View D} {some : List Nat} (h : r.Follows r' some) :
    r'.own.Sublist r.own := by
  simp only [own, alive, List.filter_filter, h.isRegistered, h.length]
  refine List.monotone_filter_right _ fun i hi => ?_
  obtain ⟨hreg, halive⟩ := Bool.and_eq_true_iff.mp hi
  exact Bool.and_eq_true_iff.mpr ⟨hreg, h.isAlive i halive⟩

/-- A registry loses no instance but those that may end. -/
theorem Follows.own_eq {r r' : View D} {some : List Nat} (h : r.Follows r' some)
    (gone : Nat → Bool) (hgone : ∀ i, gone i = true → r'.isAlive i = false)
    (hsome : ∀ i ∈ some, r.isRegistered i = true → gone i = true) :
    r'.own = r.own.filter fun i => !gone i := by
  simp only [own, alive, List.filter_filter, h.isRegistered, h.length]
  refine List.filter_congr fun i _ => ?_
  cases hreg : r.isRegistered i with
  | false => simp
  | true =>
    by_cases hg : gone i = true
    · simp [hg, hgone i hg]
    · have hnot : i ∉ some := fun hmem => hg (hsome i hmem hreg)
      have hsame : r'.isAlive i = r.isAlive i := by
        cases halive : r.isAlive i with
        | true => exact h.spared i hnot halive
        | false =>
          cases halive' : r'.isAlive i with
          | false => rfl
          | true => exact absurd (h.isAlive i halive') (by simp [halive])
      simp [hg, hsame]

/-- An instance of the registry goes on to run where none may end. -/
theorem Follows.isRunning_own {r r' : View D} {some : List Nat} (h : r.Follows r' some)
    (hsome : ∀ i ∈ some, r.isRegistered i = false) {i : Nat} (hi : i ∈ r'.own)
    (hrunning : r.isRunning i = true) : r'.isRunning i = true := by
  refine h.running i (fun hmem => ?_) hrunning
  have hreg := (mem_own.mp hi).2
  rw [h.isRegistered, hsome i hmem] at hreg
  cases hreg

/-- A registry keeps its instances where none of them may end. -/
theorem Follows.own_same {r r' : View D} {some : List Nat} (h : r.Follows r' some)
    (hsome : ∀ i ∈ some, r.isRegistered i = false) : r'.own = r.own := by
  have heq := h.own_eq (fun _ => false) (fun _ hgone => by cases hgone) fun i hi hreg => by
    rw [hsome i hi] at hreg
    cases hreg
  rw [heq]
  exact List.filter_eq_self.mpr fun _ _ => rfl

end View

/-! ## The steps of the machine -/

/-- Whom a frame gives back among the held ones. -/
def Frame.gives? : Frame D → Option Nat
  | .putBack _ i => some i
  | _ => none

/-- An instance that is given back may still be ended. -/
theorem Frame.ends?_of_gives? {f : Frame D} {i : Nat} (h : f.gives? = some i) :
    f.ends? = some i := by
  cases f with
  | putBack name j => exact h
  | emission | pass | callback | coroutine | call | handler | entry | settle | ending => cases h

/-- No frame is a birth. -/
theorem Frame.effect_ne_enroll (f : Frame D) (id : ScriptId) (path : Path) (detached : Bool) :
    f.effect ≠ .enroll id path detached := by
  intro h
  rcases f.effect_cases with hnone | ⟨kind, handler, hlisten, -⟩ | ⟨id', hunlisten, -⟩ | ⟨i, rfl⟩
    | ⟨i, rfl⟩
  · rw [hnone] at h
    cases h
  · rw [hlisten] at h
    cases h
  · rw [hunlisten] at h
    cases h
  · cases h
  · cases h

/-- Only the frame of its end ends an instance. -/
theorem Frame.eq_ending_of_effect {f : Frame D} {i : Nat} (h : f.effect = .dismiss i) :
    f = .ending i := by
  rcases f.effect_cases with hnone | ⟨kind, handler, hlisten, -⟩ | ⟨id', hunlisten, -⟩ | ⟨j, rfl⟩
    | ⟨j, rfl⟩
  · rw [hnone] at h
    cases h
  · rw [hlisten] at h
    cases h
  · rw [hunlisten] at h
    cases h
  · cases h
  · rw [Effect.dismiss.inj h]

namespace Config

variable (I : Interpreter D)

/-- Any number of steps of the machine. -/
abbrev Steps : Config D → Config D → Prop :=
  Relation.ReflTransGen fun c c' => c.step? I = some c'

/-- Who is held, and who will be held when what is under way is over. -/
def givable (c : Config D) : List Nat :=
  c.world.held.map Prod.snd ++ c.stack.filterMap Frame.gives?

variable {I}

/-- Steps are a run. -/
theorem Steps.runs {c c' : Config D} (h : c.Steps I c') : c.Runs I c' :=
  Relation.ReflTransGen.mono (fun _ _ h => .step h) _ _ h

/-- What a step of the machine is. -/
theorem eq_advance_of_step? {c c' : Config D} (h : c.step? I = some c') :
    ∃ f rest, c.stack = f :: rest ∧
      c' = ⟨(f.advance I c.world).1, (f.advance I c.world).2 ++ rest⟩ := by
  obtain ⟨w, stack⟩ := c
  cases stack with
  | nil => simp [step?] at h
  | cons f rest => exact ⟨f, rest, rfl, (Option.some.inj h).symm⟩

/-- What the machine has come to when everything is over, it comes to by steps. -/
theorem steps_of_run {n : Nat} {c : Config D} {w : World D} (h : c.run I n = some w) :
    c.Steps I ⟨w, []⟩ := by
  induction n generalizing c with
  | zero =>
    obtain ⟨w₀, stack⟩ := c
    cases stack with
    | nil =>
      obtain rfl : w₀ = w := by simpa [run] using h
      exact .refl
    | cons f rest => simp [run] at h
  | succ n ih =>
    cases hstep : c.step? I with
    | none =>
      obtain ⟨w₀, stack⟩ := c
      cases stack with
      | nil =>
        obtain rfl : w₀ = w := by simpa [run, hstep] using h
        exact .refl
      | cons f rest => simp [step?] at hstep
    | some c' =>
      have hrest : c'.run I n = some w := by simpa [run, hstep] using h
      exact (ih hrest).head hstep

/-- Where nothing is under way the machine stays. -/
theorem Steps.eq_of_rest {c c' : Config D} (h : c.Steps I c') (hrest : c.stack = []) : c' = c := by
  induction h with
  | refl => rfl
  | tail _ hstep ih =>
    subst ih
    obtain ⟨f, rest, hstack, -⟩ := eq_advance_of_step? hstep
    rw [hrest] at hstack
    cases hstack

/-- Whoever is held, or is to be given back, may be ended. -/
theorem givable_subset_endable (c : Config D) : c.givable ⊆ c.endable := by
  intro i hi
  rcases List.mem_append.mp hi with hheld | hgiven
  · exact List.mem_append_left _ hheld
  · obtain ⟨f, hf, hi⟩ := List.mem_filterMap.mp hgiven
    exact List.mem_append_right _ (List.mem_filterMap.mpr ⟨f, hf, Frame.ends?_of_gives? hi⟩)

/-- Whoever has come into being keeps id, path and owner. -/
theorem Move.tags {c c' : Config D} (h : c.Move I c') :
    c.world.view.tags <+: c'.world.view.tags := by
  rcases h.view with ⟨f, -, -, hview⟩ | ⟨-, hview | ⟨id, path, detached, hview⟩⟩
  · exact (hview ▸ View.tags_after _ f.effect_ne_enroll).symm ▸ List.prefix_refl _
  · exact hview ▸ List.prefix_refl _
  · rw [hview, View.tags_enroll]
    exact List.prefix_append _ _

/-- What a step does to the instances. -/
theorem follows_of_step? {c c' : Config D} (h : c.step? I = some c') :
    c.world.view.Follows c'.world.view c.endable := by
  obtain ⟨f, rest, hstack, rfl⟩ := eq_advance_of_step? h
  have hview := f.view_advance I c.world
  have hnew : ∀ id path detached, f.effect ≠ .enroll id path detached := f.effect_ne_enroll
  have hends : ∀ i ∉ c.endable, f.effect ≠ .dismiss i := by
    intro i hi heffect
    obtain rfl := Frame.eq_ending_of_effect heffect
    refine hi (List.mem_append_right _ (List.mem_filterMap.mpr ⟨.ending i, ?_, rfl⟩))
    exact hstack ▸ List.mem_cons_self
  simp only [hview]
  exact ⟨View.tags_after _ hnew, fun i => View.isAlive_of_after hnew,
    fun i hi => View.isAlive_after (hends i hi), fun i hi => View.isRunning_after (hends i hi)⟩

/-- A step lets nobody be ended who could not be. -/
theorem endable_subset_of_step? {c c' : Config D} (hc : c.Sound) (h : c.step? I = some c') :
    c'.endable ⊆ c.endable := by
  obtain ⟨w, stack⟩ := c
  obtain ⟨f, rest, rfl, rfl⟩ := eq_advance_of_step? h
  exact fun i hi => endable_step (hc.frames f List.mem_cons_self) hi

/-- A step lets nobody be held who would not be. -/
theorem givable_subset_of_step? {c c' : Config D} (hc : c.Sound) (h : c.step? I = some c') :
    c'.givable ⊆ c.givable := by
  obtain ⟨w, stack⟩ := c
  obtain ⟨f, rest, rfl, rfl⟩ := eq_advance_of_step? h
  have hheld : ∀ i ∈ (f.advance I w).1.held.map Prod.snd,
      i ∈ w.held.map Prod.snd ∨ f.gives? = some i := by
    intro i hi
    rcases f.held_advance I w hi with hold | hends
    · exact Or.inl hold
    · cases f with
      | putBack name j => exact Or.inr hends
      | ending j =>
        have hsame : ((Frame.ending j).advance I w).1.held = w.held := World.held_finishEnding w j
        exact Or.inl (hsame ▸ hi)
      | emission | pass | callback | coroutine | call | handler | entry | settle => cases hends
  intro i hi
  rcases List.mem_append.mp hi with hi | hi
  · rcases hheld i hi with hold | hgives
    · exact List.mem_append_left _ hold
    · exact List.mem_append_right _ (List.mem_filterMap.mpr ⟨f, List.mem_cons_self, hgives⟩)
  · obtain ⟨g, hg, hgives⟩ := List.mem_filterMap.mp hi
    rcases List.mem_append.mp hg with hg | hg
    · cases Frame.heir_advance I (hc.frames f List.mem_cons_self) hg with
      | putBack h =>
        obtain rfl := Option.some.inj hgives
        exact List.mem_append_left _ h
      | emission | pass | callback | coroutine | call | handler | entry | ending => cases hgives
    · exact List.mem_append_right _ (List.mem_filterMap.mpr ⟨g, List.mem_cons_of_mem f hg, hgives⟩)

/-- **Who can be ended later could be ended before.** -/
theorem Steps.endable_subset {c c' : Config D} (hc : c.Reachable I) (h : c.Steps I c') :
    c'.endable ⊆ c.endable := by
  induction h with
  | refl => exact List.Subset.refl _
  | tail hfirst hstep ih =>
    exact List.Subset.trans (endable_subset_of_step? (hc.runs (Steps.runs hfirst)).sound hstep) ih

/-- **Who can be held later could be held before.** -/
theorem Steps.givable_subset {c c' : Config D} (hc : c.Reachable I) (h : c.Steps I c') :
    c'.givable ⊆ c.givable := by
  induction h with
  | refl => exact List.Subset.refl _
  | tail hfirst hstep ih =>
    exact List.Subset.trans (givable_subset_of_step? (hc.runs (Steps.runs hfirst)).sound hstep) ih

/-- **Nobody comes into being by the steps of the machine, and nobody ends who cannot be
ended.** -/
theorem Steps.follows {c c' : Config D} (hc : c.Reachable I) (h : c.Steps I c') :
    c.world.view.Follows c'.world.view c.endable := by
  induction h with
  | refl => exact .refl _ _
  | tail hfirst hstep ih =>
    exact ih.trans (follows_of_step? hstep) (Steps.endable_subset hc hfirst)

/-- **A run gets below a frame only by a step of that frame.** -/
theorem Steps.passes {c c' : Config D} (h : c.Steps I c') (above : List (Frame D)) {f : Frame D}
    {rest : List (Frame D)} (hstack : c.stack = above ++ f :: rest)
    (hreturned : c'.stack.length ≤ rest.length) :
    ∃ w, c.Steps I ⟨w, f :: rest⟩ ∧
      Steps I ⟨(f.advance I w).1, (f.advance I w).2 ++ rest⟩ c' := by
  induction h using Relation.ReflTransGen.head_induction_on generalizing above with
  | refl =>
    rw [hstack, List.length_append, List.length_cons] at hreturned
    omega
  | @head c c₁ hstep hlast ih =>
    obtain ⟨g, below, hg, rfl⟩ := eq_advance_of_step? hstep
    cases above with
    | nil =>
      obtain ⟨rfl, rfl⟩ := List.cons.inj (hg.symm.trans hstack)
      obtain ⟨w, stack⟩ := c
      obtain rfl : stack = _ := hstack
      exact ⟨w, .refl, hlast⟩
    | cons g' above =>
      obtain ⟨rfl, rfl⟩ := List.cons.inj (hg.symm.trans hstack)
      obtain ⟨w, hfirst, hrest⟩ := ih _ (List.append_assoc _ above (f :: rest)).symm
      exact ⟨w, hfirst.head hstep, hrest⟩

/-- Where everything is over, a run has come to what a run can come to. -/
theorem Steps.reachable_of_rest {c c' : Config D} (hc : c.Reachable I) (h : c.Steps I c')
    (hrest : c'.stack = []) : (⟨c'.world, []⟩ : Config D).Reachable I := by
  obtain ⟨w, stack⟩ := c'
  obtain rfl : stack = [] := hrest
  exact hc.runs h.runs

/-- Nobody who belongs to a registry comes to be held. -/
theorem Steps.isRegistered_of_held {c c' : Config D} (hc : c.Reachable I) (h : c.Steps I c')
    (hgivable : ∀ i ∈ c.givable, c.world.view.isRegistered i = false) {i : Nat}
    (hi : i ∈ c'.world.held.map Prod.snd) : c'.world.view.isRegistered i = false := by
  rw [(h.follows hc).isRegistered]
  exact hgivable i (h.givable_subset hc (List.mem_append_left _ hi))

/-- An end that was under way is complete when everything is over. -/
theorem Steps.isAlive_of_ending {c c' : Config D} (h : c.Steps I c') (above : List (Frame D))
    {i : Nat} (hstack : c.stack = above ++ [.ending i]) (hrest : c'.stack = []) :
    c'.world.view.isAlive i = false := by
  obtain ⟨w, -, hlast⟩ := h.passes above hstack (by rw [hrest])
  have hview : c'.world.view = w.view.after (.dismiss i) := by
    rw [hlast.eq_of_rest rfl]
    exact World.view_finishEnding w i
  simp [hview, View.isAlive_dismiss]

/-- Whoever was to settle in runs when everything is over, or has ended. -/
theorem Steps.isRunning_of_settle {c c' : Config D} (h : c.Steps I c') (above : List (Frame D))
    {i : Nat} (hstack : c.stack = above ++ [.settle i]) (hrest : c'.stack = [])
    (halive : c'.world.view.isAlive i = true) : c'.world.view.isRunning i = true := by
  obtain ⟨w, -, hlast⟩ := h.passes above hstack (by rw [hrest])
  have hview : c'.world.view = w.view.after (.settle i) := by
    rw [hlast.eq_of_rest rfl]
    exact World.view_settleIn w i
  rw [hview, View.isAlive_settle] at halive
  rw [hview]
  exact View.isRunning_settle halive

end Config

/-- The end of an instance that has not ended is announced first. -/
theorem World.exists_beginEnding {w : World D} {i : Nat} (h : w.view.isAlive i = true) :
    ∃ n event listeners, (w.beginEnding i).2 = [.emission n event listeners, .ending i] := by
  obtain ⟨x, hx, halive⟩ : ∃ x, w.instance? i = some x ∧ x.isAlive = true := by
    rw [View.isAlive, infos_view] at h
    cases hx : w.instance? i with
    | none => simp [hx] at h
    | some x =>
      exact ⟨x, rfl, by simpa [hx, Instance.info, InstanceInfo.isAlive, Instance.isAlive] using h⟩
  exact ⟨_, _, _, by simp only [beginEnding, hx, halive, if_true]; rfl⟩

end ScriptHost
