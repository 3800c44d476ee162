import ScriptHost.Proofs.Wakeup

/-!
# An emission works on the list it found

Whoever an emission calls may register and remove listeners, itself among them, and
may emit again, to any depth.  All of them change the hub's lists, which are the same
for everybody; but an emission keeps the listeners it has yet to call in its frame, and
nobody else has a hand in that.

* `Config.Move.emission` — a move calls the next listener of an emission, or leaves the
  emission as it is;
* `Config.Move.hub` — a move applies to the hub the operations of the innermost frame;
* `Config.IsRun.emission_calls` — an emission calls the listeners of its beginning, in
  their order, and the hub gets the operations that ran meanwhile, in theirs.
-/

namespace ScriptHost

variable {D : Dialect}

/-! ## Operations on the hub -/

/-- An operation on the hub's lists. -/
inductive HubOperation (D : Dialect) where
  | listen (kind : EventKind) (hook : Hook D)
  | unlisten (id : ListenerId)

namespace Hub

/-- The hub after an operation.  Nothing is done about an unknown id. -/
def apply (h : Hub D) : HubOperation D → Hub D
  | .listen kind hook => h.listen kind hook
  | .unlisten id => h.remove id

/-- The hub after operations, one after another. -/
def applyAll (h : Hub D) (operations : List (HubOperation D)) : Hub D :=
  operations.foldl apply h

theorem applyAll_append (h : Hub D) (first second : List (HubOperation D)) :
    h.applyAll (first ++ second) = (h.applyAll first).applyAll second :=
  List.foldl_append

theorem attach_eq_applyAll (h : Hub D) (i : Nat) (kinds : List EventKind) :
    h.attach i kinds = h.applyAll (kinds.map (.listen · (.script i))) := by
  rw [applyAll, List.foldl_map]
  rfl

theorem without_eq_applyAll (h : Hub D) (ids : List ListenerId) :
    h.without ids = h.applyAll (ids.map .unlisten) := by
  rw [applyAll, List.foldl_map]
  rfl

end Hub

/-- The operations on the hub that make up an effect: a newcomer registers for every
kind, and whoever leaves removes the listeners it owns. -/
def Effect.operations (r : View D) : Effect D → List (HubOperation D)
  | .listen kind handler => [.listen kind (.host handler)]
  | .unlisten id => [.unlisten id]
  | .enroll _ _ _ => EventKind.all.map (.listen · (.script r.infos.length))
  | .dismiss i => ((r.infos[i]?.map InstanceInfo.listeners).getD []).map .unlisten
  | .nothing => []
  | .settle _ => []

theorem View.hub_after (r : View D) (e : Effect D) :
    (r.after e).hub = r.hub.applyAll (e.operations r) := by
  cases e with
  | enroll => exact r.hub.attach_eq_applyAll _ _
  | dismiss i => exact r.hub.without_eq_applyAll _
  | nothing | listen | unlisten | settle => rfl

/-! ## Calls -/

/-- Call a listener: a handler of the host runs, or the event is delivered to an
instance. -/
def World.call (I : Interpreter D) (w : World D) (event : Event) (l : Listener D) :
    World D × List (Frame D) :=
  match l.hook with
  | .host handler => (w, [.handler (I.handle handler event)])
  | .script i => w.deliver i event

/-- A step of an emission calls the first of the listeners it has yet to call, and
leaves the emission with the others. -/
theorem Frame.advance_emission (I : Interpreter D) (w : World D) (n : Nat) (event : Event)
    (l : Listener D) (rest : List (Listener D)) :
    (Frame.emission n event (l :: rest)).advance I w
      = (((w.record (.reached n l.id)).call I event l).1,
          ((w.record (.reached n l.id)).call I event l).2 ++ [.emission n event rest]) := by
  cases hhook : l.hook with
  | host handler => simp [advance, World.call, hhook]
  | script i => simp [advance, World.call, hhook]

namespace Config

/-- The operations on the hub of the innermost activity's next step. -/
def operations (c : Config D) : List (HubOperation D) :=
  match c.stack with
  | f :: _ => f.effect.operations c.world.view
  | [] => []

/-- The call that the next step makes, if the innermost activity is an emission with so
many activities below: its event, and the listener. -/
def calls? (depth : Nat) (c : Config D) : Option (Event × Listener D) :=
  match c.stack with
  | .emission _ event (l :: _) :: below => if below.length = depth then some (event, l) else none
  | _ => none

/-- A move in which a listener is called with an event: its code comes to stand above
what was under way. -/
def Calls (I : Interpreter D) (c : Config D) (event : Event) (l : Listener D)
    (c' : Config D) : Prop :=
  ∃ n started rest, (c.world.record (.reached n l.id)).call I event l = (c'.world, started) ∧
    c'.stack = started ++ rest

variable {I : Interpreter D}

/-- An emission calls its next listener, and waits below it with the others. -/
theorem Move.call {c c' : Config D} (h : c.Move I c') {n : Nat} {event : Event} {l : Listener D}
    {rest : List (Listener D)} {below : List (Frame D)}
    (hstack : c.stack = .emission n event (l :: rest) :: below) :
    ∃ started, (c.world.record (.reached n l.id)).call I event l = (c'.world, started) ∧
      c'.stack = started ++ .emission n event rest :: below := by
  have hnext := h.eq_advance hstack
  rw [Frame.advance_emission] at hnext
  refine ⟨_, Prod.ext (congrArg world hnext).symm rfl, ?_⟩
  rw [congrArg stack hnext, List.append_assoc]
  rfl

theorem Move.calls {c c' : Config D} (h : c.Move I c') {depth : Nat} {event : Event}
    {l : Listener D} (hcalls : c.calls? depth = some (event, l)) : c.Calls I event l c' := by
  unfold calls? at hcalls
  split at hcalls
  · next n event' l' rest below hstack =>
    split at hcalls
    · obtain ⟨rfl, rfl⟩ := Prod.mk.inj (Option.some.inj hcalls)
      obtain ⟨started, hcall, hnext⟩ := h.call hstack
      exact ⟨n, started, _, hcall, hnext⟩
    · cases hcalls
  · cases hcalls

/-- **A move applies to the hub the operations of the innermost activity.** -/
theorem Move.hub {c c' : Config D} (h : c.Move I c') (hbusy : c.stack ≠ []) :
    c'.world.hub = c.world.hub.applyAll c.operations := by
  rcases h.cases with ⟨f, rest, hstack, rfl⟩ | ⟨hidle, -⟩
  · have hview := congrArg View.hub (f.view_advance I c.world)
    rw [View.hub_after] at hview
    simp only [operations, hstack]
    exact hview
  · exact absurd hidle hbusy

/-- While something is under way, the hub gets the operations that run, in their order. -/
theorem IsRun.hub {run : Nat → Config D} {n : Nat} (hrun : IsRun I run n)
    (hbusy : ∀ k < n, (run k).stack ≠ []) :
    (run n).world.hub
      = (run 0).world.hub.applyAll ((List.range n).flatMap fun k => (run k).operations) := by
  induction n with
  | zero => rfl
  | succ n ih =>
    have hearlier := ih (fun k hk => hrun k (by omega)) fun k hk => hbusy k (by omega)
    rw [(hrun n (by omega)).hub (hbusy n (by omega)), hearlier, List.range_succ,
      List.flatMap_append, Hub.applyAll_append]
    simp

/-- An emission is under way, with so many listeners yet to call; or it has called all
of them and is over. -/
def Emitting (event : Event) (below : List (Frame D)) (listeners : List (Listener D))
    (c : Config D) : Prop :=
  (∃ above n, c.stack = above ++ .emission n event listeners :: below) ∨
    (listeners = [] ∧ c.stack = below)

/-- **A move calls the next listener of an emission that is under way, or leaves the
emission as it is.** -/
theorem Move.emission {c c' : Config D} (h : c.Move I c') {event : Event}
    {below : List (Frame D)} {listeners : List (Listener D)}
    (hemitting : c.Emitting event below listeners) (hbusy : below.length < c.stack.length) :
    ∃ called rest, listeners = called ++ rest ∧ c'.Emitting event below rest ∧
      (c.calls? below.length).toList = called.map (event, ·) := by
  rcases hemitting with ⟨above, n, hstack⟩ | ⟨-, hstack⟩
  · cases above with
    | cons g above =>
      refine ⟨[], listeners, rfl, Or.inl ⟨(g.advance I c.world).2 ++ above, n, ?_⟩, ?_⟩
      · rw [h.eq_advance hstack, List.append_assoc]
        rfl
      · -- Whatever is innermost has the emission itself below.
        have hdeep : (above ++ .emission n event listeners :: below).length ≠ below.length := by
          rw [List.length_append, List.length_cons]
          omega
        rw [List.cons_append] at hstack
        cases g with
        | emission m event' listeners' =>
          cases listeners' <;> simp only [calls?, hstack, hdeep, if_false] <;> rfl
        | pass | callback | coroutine | call | handler | entry | settle | ending | putBack =>
          simp only [calls?, hstack]
          rfl
    | nil =>
      rw [List.nil_append] at hstack
      cases listeners with
      | nil =>
        refine ⟨[], [], rfl, Or.inr ⟨rfl, ?_⟩, ?_⟩
        · rw [h.eq_advance hstack]
          rfl
        · simp [calls?, hstack]
      | cons l rest =>
        obtain ⟨started, -, hnext⟩ := h.call hstack
        exact ⟨[l], rest, rfl, Or.inl ⟨started, n, hnext⟩, by simp [calls?, hstack]⟩
  · rw [hstack] at hbusy
    exact absurd hbusy (Nat.lt_irrefl _)

/-- The calls an emission with so many activities below makes in the first moves of a
run. -/
def callsIn (run : Nat → Config D) (depth n : Nat) : List (Event × Listener D) :=
  (List.range n).filterMap fun k => (run k).calls? depth

/-- What an emission has called, and what it has yet to call, make up the list it
began with. -/
theorem IsRun.emitting {run : Nat → Config D} {n : Nat} (hrun : IsRun I run n) {event : Event}
    {below : List (Frame D)} {listeners : List (Listener D)}
    (hemitting : (run 0).Emitting event below listeners)
    (hbusy : ∀ k < n, below.length < (run k).stack.length) :
    ∃ rest, (run n).Emitting event below rest ∧
      callsIn run below.length n ++ rest.map (event, ·) = listeners.map (event, ·) := by
  induction n with
  | zero => exact ⟨listeners, hemitting, rfl⟩
  | succ n ih =>
    obtain ⟨rest, hrest, hcalls⟩ :=
      ih (fun k hk => hrun k (by omega)) fun k hk => hbusy k (by omega)
    obtain ⟨called, rest', rfl, hrest', hcall⟩ :=
      (hrun n (by omega)).emission hrest (hbusy n (by omega))
    refine ⟨rest', hrest', ?_⟩
    have hlast : callsIn run below.length (n + 1)
        = callsIn run below.length n ++ called.map (event, ·) := by
      rw [callsIn, List.range_succ, List.filterMap_append, ← hcall]
      cases hn : (run n).calls? below.length <;> simp [callsIn, hn]
    rw [hlast, List.append_assoc, ← List.map_append, hcalls]

/-- **An emission works on the list it found.**  From the moment it begins until it
returns, an emission — with whatever is under way below it — calls the listeners that
stood on the list of its kind when it began, and nobody else, in the order in which they
had registered, each at most once; and when it has returned it has called all of them.
So it calls who was removed meanwhile and does not call who was added.  The hub is what
it was at the beginning, but for the operations of the handlers and scripts, applied in
the order in which they ran. -/
theorem IsRun.emission_calls {run : Nat → Config D} {n : Nat} (hrun : IsRun I run n)
    (hc : (run 0).Reachable I) {event : Event} {below : List (Frame D)}
    (hbegins : (run 0).Begins event below)
    (hbusy : ∀ k < n, below.length < (run k).stack.length) :
    ((run 0).world.hub.listeners event.kind).Pairwise (fun l l' => l.id.val < l'.id.val) ∧
      (∀ k < n, ∀ e l, (run k).calls? below.length = some (e, l) →
        (run k).Calls I e l (run (k + 1))) ∧
      callsIn run below.length n
        <+: ((run 0).world.hub.listeners event.kind).map (event, ·) ∧
      ((run n).stack.length ≤ below.length →
        callsIn run below.length n
          = ((run 0).world.hub.listeners event.kind).map (event, ·)) ∧
      (run n).world.hub
        = (run 0).world.hub.applyAll ((List.range n).flatMap fun k => (run k).operations) := by
  obtain ⟨m, hstack⟩ := hbegins
  obtain ⟨rest, hrest, hcalls⟩ := hrun.emitting (Or.inl ⟨[], m, hstack⟩) hbusy
  refine ⟨hc.orderly.hub.ascending event.kind, fun k hk e l => (hrun k hk).calls,
    ⟨_, hcalls⟩, fun hreturned => ?_, hrun.hub fun k hk hidle => ?_⟩
  · rcases hrest with ⟨above, m', hunder⟩ | ⟨rfl, -⟩
    · rw [hunder, List.length_append, List.length_cons] at hreturned
      omega
    · rw [← hcalls, List.map_nil, List.append_nil]
  · have hk := hbusy k hk
    rw [hidle] at hk
    exact Nat.not_lt_zero _ hk

end Config

namespace Specimen

/-- A language of two handlers of the host, and nothing else. -/
def hostDialect : Dialect :=
  ⟨Unit, Empty, Empty, Bool, Empty⟩

/-- One handler does nothing.  The other one removes the first listener there ever was,
which is itself, registers its neighbour once more, and emits again. -/
def hostHandlers : Interpreter hostDialect where
  resume routine := routine.elim
  callable callback := callback.elim
  call callback := callback.elim
  handle
    | false, _ => .ret ()
    | true, _ =>
      .act (.unlisten ⟨0⟩) fun _ =>
      .act (.listen .timerTick false) fun _ =>
      .act (.emit .timerTick) fun _ => .ret ()
  patience := 100

/-- Code of the host registers both and emits a tick. -/
def registering : Config hostDialect :=
  ⟨World.new (), [.handler (
    .act (.listen .timerTick true) fun _ =>
    .act (.listen .timerTick false) fun _ =>
    .act (.emit .timerTick) fun _ => .ret ())]⟩

/-- What has come of that after some steps.  The emission begins at moment 3 and returns
at moment 16; the emission inside it begins at moment 7 and returns at moment 12. -/
def nestedRun (n : Nat) : Config hostDialect :=
  registering.after hostHandlers n

theorem reachable_nestedRun (n : Nat) : (nestedRun n).Reachable hostHandlers := by
  have hdialling : Config.Move hostHandlers ⟨World.new (), []⟩ registering := .host (.code _)
  exact ⟨(), (Config.runs_after hostHandlers registering n).head hdialling⟩

theorem isRun_nestedRun : Config.IsRun hostHandlers nestedRun 17 :=
  Config.isRun_of_busy hostHandlers (fun _ => rfl) (by decide +kernel)

end Specimen

/-- The emission of `Specimen.nestedRun` calls both handlers, the first of which removes
itself; the emission inside it calls the two that are left, and the newcomer is one of
them. -/
theorem Config.IsRun.emission_calls_nested :
    (callsIn (fun k => Specimen.nestedRun (3 + k)) 1 13).map (·.2.id) = [⟨0⟩, ⟨1⟩] ∧
      (callsIn (fun k => Specimen.nestedRun (7 + k)) 3 5).map (·.2.id) = [⟨1⟩, ⟨2⟩] := by
  have hrun : ∀ m n, m + n ≤ 17 →
      IsRun Specimen.hostHandlers (fun k => Specimen.nestedRun (m + k)) n :=
    fun m n hmn k hk => Specimen.isRun_nestedRun (m + k) (by omega)
  have houter : (Specimen.nestedRun 3).Begins .timerTick [.handler (.ret ())] := ⟨0, rfl⟩
  have hinner : (Specimen.nestedRun 7).Begins .timerTick (Specimen.nestedRun 12).stack := ⟨1, rfl⟩
  obtain ⟨-, -, -, hcalls, -⟩ := IsRun.emission_calls (hrun 3 13 (by decide))
    (Specimen.reachable_nestedRun 3) houter (by decide +kernel)
  obtain ⟨-, -, -, hcalls', -⟩ := IsRun.emission_calls (hrun 7 5 (by decide))
    (Specimen.reachable_nestedRun 7) hinner (by decide +kernel)
  refine ⟨?_, ?_⟩
  · refine (congrArg (List.map (·.2.id)) (hcalls (by decide +kernel))).trans ?_
    decide +kernel
  · refine (congrArg (List.map (·.2.id)) (hcalls' (by decide +kernel))).trans ?_
    decide +kernel

end ScriptHost
