import ScriptHost.Proofs.Benches

/-!
# What a pass resumes

A pass takes the queue of a kind as it finds it, and resumes those who stood in it, one
after another.  Each of them may park others for the same kind, or wait for it again,
start coroutines, and cause passes at the same desk inside this one — an event that is
emitted does so at an instance, and `Act.notify` at a bench; before each of them the pass
asks whether to go on.  All of that happens in the table, and the queue of the pass is in
its frame.

* `Config.Move.pass` — a move is a turn of the pass, or leaves it as it is;
* `Config.IsRun.passing` — whom a pass has come to, and whom it has yet to come to;
* `Config.IsRun.pass_resumes` — a pass resumes a prefix of the queue it found, up to the
  first one before whom it is told to stop.
-/

namespace ScriptHost

variable {D : Dialect}

/-- What a pass is about: where it is, for which kind, what those it resumes are given,
and whom it asks whether to go on. -/
structure Pass (D : Dialect) where
  desk : Desk
  kind : EventKind
  args : Args
  pulse : Pulse D

/-- A pass that has yet to come to the coroutines of a queue. -/
def Pass.frame (p : Pass D) (queue : List (Task D)) (resumed : Nat) : Frame D :=
  .pass p.desk p.kind p.args p.pulse queue resumed

/-- Farewells go into the journal, and nowhere else. -/
theorem World.recordLeft_eq (w : World D) (d : Desk) (why : Farewell) (serials : List Nat) :
    w.recordLeft d why serials
      = { w with journal := (serials.map (Happening.left d · why)).reverse ++ w.journal } := by
  unfold recordLeft
  induction serials generalizing w with
  | nil => rfl
  | cons s rest ih =>
    rw [List.foldl_cons, ih]
    simp [record]

/-- The end of a pass resumes nobody. -/
@[simp] theorem World.resumptions_endPass (w : World D) (d d' : Desk) (kind : EventKind)
    (resumed : Nat) : (w.endPass d kind resumed).resumptions d' = w.resumptions d' :=
  endPass_congr (f := (·.resumptions d')) (fun _ _ => rfl)
    (fun _ => by simp [resumptions, record, Happening.resumedAt?, List.filterMap_cons]) w

/-- A bench that is there keeps how many were resumed. -/
theorem World.resumedAt_endPass {w : World D} {b : Nat} (kind : EventKind) (resumed : Nat)
    (hb : b < (w.endPass (.bench b) kind resumed).benches.length) :
    (w.endPass (.bench b) kind resumed).resumedAt b = resumed := by
  have hthere : b < w.benches.length := by simpa [endPass, record] using hb
  simp [resumedAt, endPass, record, hthere]

namespace Config

/-- The turn that the next step takes, if the innermost activity is a pass with so many
activities below that has somebody left: who is next, and whether the pass is told to go
on. -/
def turn? (depth : Nat) (c : Config D) : Option (Task D × Bool) :=
  match c.stack with
  | .pass _ _ _ pulse (task :: _) resumed :: below =>
    if below.length = depth then some (task, pulse.beats resumed c.world) else none
  | _ => none

/-- The turns that a pass with so many activities below takes in the first moves of a
run. -/
def turnsIn (run : Nat → Config D) (depth n : Nat) : List (Task D × Bool) :=
  (List.range n).filterMap fun k => (run k).turn? depth

/-- A pass has just begun: it has taken the queue of its kind. -/
def opening (p : Pass D) (w : World D) (below : List (Frame D)) : Config D :=
  ⟨(w.beginPass p.desk p.kind p.args p.pulse).1,
    (w.beginPass p.desk p.kind p.args p.pulse).2 :: below⟩

/-- From one configuration to the other a coroutine is resumed: it runs, on top of what was
under way. -/
def Resumes (I : Interpreter D) (c : Config D) (d : Desk) (task : Task D) (args : Args)
    (c' : Config D) : Prop :=
  ∃ rest, c' = ⟨(c.world.resume I d task args).1, (c.world.resume I d task args).2 :: rest⟩

/-- A pass is under way. -/
def Passing (p : Pass D) (below : List (Frame D)) (queue : List (Task D)) (resumed : Nat)
    (c : Config D) : Prop :=
  ∃ above, c.stack = above ++ p.frame queue resumed :: below

/-- A pass is over.  It says how many it has resumed, and the bench it was at keeps that
number. -/
structure Passed (p : Pass D) (below : List (Frame D)) (resumed : Nat) (c : Config D) : Prop where
  stack : c.stack = below
  last : c.world.lastPass = resumed
  keeps : ∀ b, p.desk = .bench b → b < c.world.benches.length → c.world.resumedAt b = resumed

/-- What a move does to a pass that is under way. -/
inductive PassMove (I : Interpreter D) (p : Pass D) (below : List (Frame D)) (c : Config D) :
    List (Task D) → Nat → Config D → Prop
  /-- Something inside it is under way. -/
  | inside {queue : List (Task D)} {resumed : Nat} {c' : Config D}
      (hturn : c.turn? below.length = none) (h : c'.Passing p below queue resumed) :
      PassMove I p below c queue resumed c'
  | resumes {task : Task D} {queue : List (Task D)} {resumed : Nat} {c' : Config D}
      (hturn : c.turn? below.length = some (task, true))
      (hresumes : c.Resumes I p.desk task p.args c')
      (h : c'.Passing p below queue (resumed + 1)) :
      PassMove I p below c (task :: queue) resumed c'
  /-- It is told to stop. -/
  | stops {task : Task D} {queue : List (Task D)} {resumed : Nat} {c' : Config D}
      (hturn : c.turn? below.length = some (task, false))
      (h : c'.Passed p below resumed)
      (hwork : c.workload p.desk
        = { c'.workload p.desk with
            passes := (task :: queue) :: (c'.workload p.desk).passes }) :
      PassMove I p below c (task :: queue) resumed c'
  /-- It has come to everybody. -/
  | ends {resumed : Nat} {c' : Config D} (hturn : c.turn? below.length = none)
      (h : c'.Passed p below resumed) : PassMove I p below c [] resumed c'

variable {I : Interpreter D}

/-- Dropping what a pass has left changes nothing else at its desk. -/
theorem workload_cut (w : World D) (d : Desk) (kind : EventKind) (args : Args) (pulse : Pulse D)
    (queue : List (Task D)) (resumed : Nat) (x : Notice) (below : List (Frame D)) :
    (⟨w, .pass d kind args pulse queue resumed :: below⟩ : Config D).workload d
      = { (⟨((w.log x).recordLeft d .cutShort (queue.map Task.serial)).endPass d kind resumed,
            below⟩ : Config D).workload d with
          passes := queue :: below.filterMap (Frame.queueAt? d) } := by
  have hworld := World.recordLeft_eq (w.log x) d .cutShort (queue.map Task.serial)
  have htable : ((w.log x).recordLeft d .cutShort (queue.map Task.serial)).subscriptions d
      = w.subscriptions d := by
    rw [hworld]
    cases d <;> rfl
  have hresumed : ((w.log x).recordLeft d .cutShort (queue.map Task.serial)).resumptions d
      = w.resumptions d := by
    rw [hworld]
    simp [World.resumptions, World.log, World.record, List.filterMap_append,
      List.filterMap_reverse, List.filterMap_cons, Function.comp_def, Happening.resumedAt?]
  have hpasses : (Frame.pass d kind args pulse queue resumed :: below).filterMap
      (Frame.queueAt? d) = queue :: below.filterMap (Frame.queueAt? d) := by
    simp [Frame.queueAt?]
  simp only [workload, World.subscriptions_endPass, World.resumptions_endPass, htable, hresumed,
    hpasses]
  rfl

/-- A pass that ends is over. -/
theorem passed_endPass (p : Pass D) (w : World D) (below : List (Frame D)) (resumed : Nat) :
    (⟨w.endPass p.desk p.kind resumed, below⟩ : Config D).Passed p below resumed := by
  refine ⟨rfl, rfl, fun b hdesk hb => ?_⟩
  rw [hdesk] at hb ⊢
  exact World.resumedAt_endPass p.kind resumed hb

/-- **A move is a turn of the pass, or leaves it as it is.** -/
theorem Move.pass {c c' : Config D} (h : c.Move I c') {p : Pass D} {below : List (Frame D)}
    {queue : List (Task D)} {resumed : Nat} (hpassing : c.Passing p below queue resumed) :
    PassMove I p below c queue resumed c' := by
  obtain ⟨above, hstack⟩ := hpassing
  cases above with
  | cons g above =>
    refine .inside ?_ ⟨(g.advance I c.world).2 ++ above, ?_⟩
    · -- Whatever is innermost has the pass itself below.
      have hdeep : (above ++ p.frame queue resumed :: below).length ≠ below.length := by
        rw [List.length_append, List.length_cons]
        omega
      rw [List.cons_append] at hstack
      unfold turn?
      split
      · next hpass =>
        obtain ⟨-, hbelow⟩ := List.cons.inj (hstack.symm.trans hpass)
        rw [← hbelow, if_neg hdeep]
      · rfl
    · rw [h.eq_advance hstack, List.append_assoc]
      rfl
  | nil =>
    rw [List.nil_append] at hstack
    have hnext := h.eq_advance hstack
    cases queue with
    | nil =>
      refine .ends ?_ ?_
      · simp [turn?, hstack, Pass.frame]
      · rw [hnext]
        exact passed_endPass p c.world below resumed
    | cons task queue =>
      have hturn : c.turn? below.length = some (task, p.pulse.beats resumed c.world) := by
        simp [turn?, hstack, Pass.frame]
      cases hbeats : p.pulse.beats resumed c.world with
      | true =>
        have hc' : c' = ⟨(c.world.resume I p.desk task p.args).1,
            (c.world.resume I p.desk task p.args).2 :: p.frame queue (resumed + 1) :: below⟩ := by
          rw [hnext]
          simp [Pass.frame, Frame.advance, hbeats]
        refine .resumes (hbeats ▸ hturn) ⟨_, hc'⟩ ⟨[(c.world.resume I p.desk task p.args).2], ?_⟩
        rw [hc']
        rfl
      | false =>
        have hc' : c' = ⟨((c.world.log (.coroutine (.cutShort (c.world.label p.desk)
            (queue.length + 1) p.kind))).recordLeft p.desk .cutShort
              ((task :: queue).map Task.serial)).endPass p.desk p.kind resumed, below⟩ := by
          rw [hnext]
          simp [Pass.frame, Frame.advance, hbeats]
        obtain ⟨w, stack⟩ := c
        obtain rfl : stack = p.frame (task :: queue) resumed :: below := hstack
        subst hc'
        exact .stops (hbeats ▸ hturn) (passed_endPass p _ below resumed)
          (workload_cut w p.desk p.kind p.args p.pulse (task :: queue) resumed _ below)

/-- Whom a pass has come to, and whom it has yet to come to, make up the queue it had; and
when it is over it has come to everybody, or was told to stop. -/
theorem IsRun.passing {run : Nat → Config D} {n : Nat} (hrun : IsRun I run n) {p : Pass D}
    {below : List (Frame D)} {queue : List (Task D)} {resumed : Nat}
    (hpassing : (run 0).Passing p below queue resumed)
    (hbusy : ∀ k < n, below.length < (run k).stack.length) :
    ∃ came rest, queue = came ++ rest ∧
      ((run n).Passing p below rest (resumed + came.length) ∧
          turnsIn run below.length n = came.map (·, true) ∨
        (run n).Passed p below (resumed + came.length) ∧
          turnsIn run below.length n = came.map (·, true) ++ (rest.take 1).map (·, false)) := by
  induction n with
  | zero => exact ⟨[], queue, rfl, Or.inl ⟨hpassing, rfl⟩⟩
  | succ n ih =>
    obtain ⟨came, rest, rfl, ⟨hunder, hturns⟩ | ⟨⟨hover, -, -⟩, -⟩⟩ :=
      ih (fun k hk => hrun k (by omega)) fun k hk => hbusy k (by omega)
    · have hsucc : turnsIn run below.length (n + 1)
          = turnsIn run below.length n ++ ((run n).turn? below.length).toList := by
        rw [turnsIn, List.range_succ, List.filterMap_append]
        cases hn : (run n).turn? below.length <;> simp [turnsIn, hn]
      rw [hsucc, hturns]
      cases (hrun n (by omega)).pass hunder with
      | inside hturn h =>
        exact ⟨came, rest, rfl, Or.inl ⟨h, by simp [hturn]⟩⟩
      | @resumes task rest _ _ hturn hresumes h =>
        refine ⟨came ++ [task], rest, by simp, Or.inl ⟨?_, by simp [hturn]⟩⟩
        rwa [List.length_append, List.length_singleton, ← Nat.add_assoc]
      | @stops task rest _ _ hturn h hwork =>
        exact ⟨came, task :: rest, rfl, Or.inr ⟨h, by simp [hturn]⟩⟩
      | ends hturn h =>
        exact ⟨came, [], rfl, Or.inr ⟨h, by simp [hturn]⟩⟩
    · have hn := hbusy n (by omega)
      rw [hover] at hn
      exact absurd hn (Nat.lt_irrefl _)

/-- Whoever a pass has yet to come to does not wait in the table of its desk, and does not
run. -/
theorem Reachable.apart_of_passing {c : Config D} (hc : c.Reachable I) {p : Pass D}
    (hd : c.world.HasDesk p.desk) {below : List (Frame D)} {queue : List (Task D)}
    {resumed : Nat} (hpassing : c.Passing p below queue resumed) {s : Nat}
    (hs : s ∈ queue.map Task.serial) :
    s ∉ (c.world.subscriptions p.desk).waitingSerials ∧ s ∉ (c.workload p.desk).running := by
  obtain ⟨above, hstack⟩ := hpassing
  have hnodup := (hc.orderly_workload hd).nodup
  have hpasses : s ∈ (c.workload p.desk).passes.flatten.map Task.serial := by
    obtain ⟨task, htask, rfl⟩ := List.mem_map.mp hs
    refine List.mem_map_of_mem (List.mem_flatten.mpr ⟨queue, ?_, htask⟩)
    simp [workload, hstack, Pass.frame, Frame.queueAt?]
  rw [Workload.present, List.nodup_append, List.nodup_append] at hnodup
  obtain ⟨⟨-, -, htable⟩, -, hrunning⟩ := hnodup
  exact ⟨fun hmem => htable s hmem s hpasses rfl,
    fun hmem => hrunning s (List.mem_append_right _ hpasses) s hmem rfl⟩

/-- Nobody stands twice in the queue of a pass. -/
theorem Reachable.nodup_of_passing {c : Config D} (hc : c.Reachable I) {p : Pass D}
    (hd : c.world.HasDesk p.desk) {below : List (Frame D)} {queue : List (Task D)}
    {resumed : Nat} (hpassing : c.Passing p below queue resumed) :
    (queue.map Task.serial).Nodup := by
  obtain ⟨above, hstack⟩ := hpassing
  have hnodup := (hc.orderly_workload hd).nodup
  have hpasses : queue ∈ (c.workload p.desk).passes := by
    simp [workload, hstack, Pass.frame, Frame.queueAt?]
  rw [Workload.present, List.nodup_append, List.nodup_append] at hnodup
  obtain ⟨⟨-, hflat, -⟩, -, -⟩ := hnodup
  exact hflat.sublist ((List.sublist_flatten_of_mem hpasses).map Task.serial)

/-- Whoever does not run after a move was not resumed by it. -/
theorem Move.count_resumptions {c c' : Config D} (hc : c.Reachable I) (h : c.Move I c') {d : Desk}
    (hd : c.world.HasDesk d) {s : Nat} (hs : s ∉ (c'.workload d).running) :
    (c'.world.resumptions d).count s = (c.world.resumptions d).count s := by
  obtain ⟨woken, hresumed, hwoken⟩ := h.wakes hc hd
  have hzero : woken.count s = 0 := List.count_eq_zero.mpr fun hmem => hs (hwoken s hmem)
  have hresumed : c'.world.resumptions d = woken ++ c.world.resumptions d := hresumed
  rw [hresumed, List.count_append, hzero, Nat.zero_add]

/-- A pass takes turns with those it has yet to come to. -/
theorem PassMove.mem {c c' : Config D} {p : Pass D} {below : List (Frame D)}
    {queue : List (Task D)} {resumed : Nat} (h : PassMove I p below c queue resumed c')
    {task : Task D} {answer : Bool} (hturn : c.turn? below.length = some (task, answer)) :
    task ∈ queue ∧ (answer = true → c.Resumes I p.desk task p.args c') := by
  cases h with
  | inside hnone | ends hnone =>
    rw [hnone] at hturn
    cases hturn
  | resumes hsome hresumes =>
    rw [hsome] at hturn
    obtain ⟨rfl, -⟩ := Prod.mk.inj (Option.some.inj hturn)
    exact ⟨List.mem_cons_self, fun _ => hresumes⟩
  | stops hsome =>
    rw [hsome] at hturn
    obtain ⟨rfl, rfl⟩ := Prod.mk.inj (Option.some.inj hturn)
    exact ⟨List.mem_cons_self, fun h => by cases h⟩

/-- At every moment of a run in which a pass goes on, it has come to some of its queue and
has yet to come to the others. -/
theorem IsRun.passing_at {run : Nat → Config D} {n : Nat} (hrun : IsRun I run n) {p : Pass D}
    {below : List (Frame D)} {queue : List (Task D)} {resumed : Nat}
    (hpassing : (run 0).Passing p below queue resumed)
    (hbusy : ∀ k < n, below.length < (run k).stack.length) {k : Nat} (hk : k < n) :
    ∃ came rest, queue = came ++ rest ∧
      (run k).Passing p below rest (resumed + came.length) := by
  obtain ⟨came, rest, hqueue, ⟨hunder, -⟩ | ⟨⟨hover, -, -⟩, -⟩⟩ :=
    IsRun.passing (fun j hj => hrun j (by omega)) hpassing (n := k)
      (fun j hj => hbusy j (by omega))
  · exact ⟨came, rest, hqueue, hunder⟩
  · have hk := hbusy k hk
    rw [hover] at hk
    exact absurd hk (Nat.lt_irrefl _)

/-- From any moment on, a pass takes turns with those alone whom it had yet to come to. -/
theorem IsRun.turn_mem {run : Nat → Config D} {n : Nat} (hrun : IsRun I run n) {p : Pass D}
    {below : List (Frame D)} {queue : List (Task D)} {resumed : Nat}
    (hpassing : (run 0).Passing p below queue resumed)
    (hbusy : ∀ k < n, below.length < (run k).stack.length) {k : Nat} (hk : k < n)
    {task : Task D} {answer : Bool} (hturn : (run k).turn? below.length = some (task, answer)) :
    task ∈ queue ∧ (answer = true → (run k).Resumes I p.desk task p.args (run (k + 1))) := by
  obtain ⟨came, rest, rfl, hunder⟩ := hrun.passing_at hpassing hbusy hk
  obtain ⟨hmem, hresumes⟩ := ((hrun k hk).pass hunder).mem hturn
  exact ⟨List.mem_append_right _ hmem, hresumes⟩

/-- Whoever waits in the table of the desk at some moment of a pass is not among those it takes
its turns with from then on. -/
theorem IsRun.turn_ne {run : Nat → Config D} {n : Nat} (hrun : IsRun I run n)
    (hc : (run 0).Reachable I) {p : Pass D} (hd : (run 0).world.HasDesk p.desk)
    {below : List (Frame D)} {queue : List (Task D)} {resumed : Nat}
    (hpassing : (run 0).Passing p below queue resumed)
    (hbusy : ∀ k < n, below.length < (run k).stack.length) {j : Nat} (hj : j ≤ n) {s : Nat}
    (hs : s ∈ ((run j).world.subscriptions p.desk).waitingSerials) {k : Nat} (hk : k < n)
    (hjk : j ≤ k) {task : Task D} {answer : Bool}
    (hturn : (run k).turn? below.length = some (task, answer)) : task.serial ≠ s := by
  intro heq
  have hruns : (run 0).Runs I (run j) := hrun.runs (Nat.zero_le j) hj
  obtain ⟨came, rest, -, hunder⟩ := hrun.passing_at hpassing hbusy (Nat.lt_of_le_of_lt hjk hk)
  obtain ⟨d, rfl⟩ := Nat.exists_eq_add_of_le hjk
  have hlater : IsRun I (fun i => run (j + i)) (d + 1) := fun i hi => hrun (j + i) (by omega)
  obtain ⟨hleft, -⟩ := hlater.turn_mem hunder (fun i hi => hbusy (j + i) (by omega))
    (Nat.lt_succ_self d) hturn
  obtain ⟨haway, -⟩ := (hc.runs hruns).apart_of_passing (hruns.hasDesk hc hd) hunder
    (List.mem_map_of_mem hleft)
  exact haway (heq ▸ hs)

/-- A pass that is under way is not over. -/
theorem Passing.not_passed {c : Config D} {p : Pass D} {below : List (Frame D)}
    {queue : List (Task D)} {resumed m : Nat} (h : c.Passing p below queue resumed) :
    ¬ c.Passed p below m := by
  obtain ⟨above, hstack⟩ := h
  rintro ⟨hover, -, -⟩
  have hlength := congrArg List.length (hstack.symm.trans hover)
  rw [List.length_append, List.length_cons] at hlength
  omega

/-- Code that has begun a pass at a bench is answered with the number of those it has come to.
Where there is no bench nobody has waited. -/
theorem Passed.answer {c : Config D} {p : Pass D} {below : List (Frame D)} {came : List (Task D)}
    (h : c.Passed p below came.length) (hthere : ∀ task ∈ came, c.world.HasDesk p.desk) {b : Nat}
    (hb : p.desk = .bench b) :
    c.world.act I (.resumed b) = (.count came.length, c.world, []) := by
  suffices hkeeps : c.world.resumedAt b = came.length by rw [World.act, hkeeps]
  by_cases hbench : b < c.world.benches.length
  · exact h.keeps b hb hbench
  · have hnobody : came = [] := by
      refine List.eq_nil_iff_forall_not_mem.mpr fun task htask => hbench ?_
      have hd := hthere task htask
      rwa [hb] at hd
    simp [World.resumedAt, hnobody, List.getElem?_eq_none (Nat.le_of_not_lt hbench)]

/-- Whoever a pass is told to stop before is nowhere any more. -/
theorem PassMove.retired {c c' : Config D} (hc : c.Reachable I) {p : Pass D}
    (hd : c.world.HasDesk p.desk) {below : List (Frame D)} {queue : List (Task D)}
    {resumed m : Nat} (h : PassMove I p below c queue resumed c') (hover : c'.Passed p below m)
    {s : Nat} (hs : s ∈ queue.map Task.serial) : (c'.workload p.desk).Retired s := by
  cases h with
  | inside _ h | resumes _ _ h => exact absurd hover h.not_passed
  | ends => cases hs
  | @stops task queue _ _ _ _ hwork =>
    have horderly := hc.orderly_workload hd
    rw [hwork] at horderly
    have hplace : s ∈ (List.flatten ((task :: queue) :: (c'.workload p.desk).passes)).map
        Task.serial := by
      rw [List.flatten_cons, List.map_append]
      exact List.mem_append_left _ hs
    refine ⟨horderly.handed s (Workload.mem_present.mpr (Or.inr (Or.inl hplace))), ?_⟩
    have hone := List.nodup_iff_count_le_one.mp horderly.nodup s
    have hqueue := List.count_pos_iff.mpr hs
    intro hstill
    have hmore := List.count_pos_iff.mpr hstill
    simp only [Workload.present, List.flatten_cons, List.map_append, List.count_append]
      at hone hmore
    omega

/-- Whoever a pass has not come to when it is over stood in its queue all the time. -/
theorem IsRun.rest_at {run : Nat → Config D} {n : Nat} (hrun : IsRun I run n) {p : Pass D}
    {below : List (Frame D)} {came rest : List (Task D)} {resumed : Nat}
    (hpassing : (run 0).Passing p below (came ++ rest) resumed)
    (hbusy : ∀ k < n, below.length < (run k).stack.length)
    (hover : (run n).Passed p below (resumed + came.length)) {k : Nat} (hk : k < n) :
    ∃ came' m, (run k).Passing p below (came' ++ rest) m := by
  obtain ⟨first, left, hqueue, hunder⟩ := hrun.passing_at hpassing hbusy hk
  obtain ⟨d, rfl⟩ := Nat.exists_eq_add_of_le (Nat.le_of_lt hk)
  have hlater := IsRun.passing (IsRun.drop hrun) hunder fun j hj => hbusy (k + j) (by omega)
  obtain ⟨second, rest', rfl, ⟨hstill, -⟩ | ⟨⟨-, hcount, -⟩, -⟩⟩ := hlater
  · exact absurd hover hstill.not_passed
  · have hlength : (first ++ second).length = came.length := by
      have hsame := hover.last
      have hcount : (run (k + d)).world.lastPass = resumed + first.length + second.length := hcount
      rw [List.length_append]
      omega
    rw [← List.append_assoc] at hqueue
    obtain ⟨-, rfl⟩ := List.append_inj hqueue.symm hlength
    exact ⟨second, _, hunder⟩

/-- **Whoever a pass has not come to when it is over is never resumed again**, and was not
resumed in the meantime. -/
theorem IsRun.count_resumptions {run : Nat → Config D} {n : Nat} (hrun : IsRun I run n)
    (hc : (run 0).Reachable I) {p : Pass D} (hd : (run 0).world.HasDesk p.desk)
    {below : List (Frame D)} {came rest : List (Task D)} {resumed : Nat}
    (hpassing : (run 0).Passing p below (came ++ rest) resumed)
    (hbusy : ∀ k < n, below.length < (run k).stack.length)
    (hover : (run n).Passed p below (resumed + came.length)) {s : Nat}
    (hs : s ∈ rest.map Task.serial) {c : Config D} (hafter : (run n).Runs I c) :
    (c.world.resumptions p.desk).count s = ((run 0).world.resumptions p.desk).count s := by
  have hearlier : ∀ k ≤ n, (run 0).Runs I (run k) := fun k hk => hrun.runs (Nat.zero_le k) hk
  have hreach : ∀ k ≤ n, (run k).Reachable I := fun k hk => hc.runs (hearlier k hk)
  have hdesk : ∀ k ≤ n, (run k).world.HasDesk p.desk := fun k hk =>
    (hearlier k hk).hasDesk hc hd
  have hstands : ∀ k < n, ∃ queue m, (run k).Passing p below queue m ∧
      s ∈ queue.map Task.serial := by
    intro k hk
    obtain ⟨came', m, hunder⟩ := hrun.rest_at hpassing hbusy hover hk
    refine ⟨came' ++ rest, m, hunder, ?_⟩
    rw [List.map_append]
    exact List.mem_append_right _ hs
  have hretired : ((run n).workload p.desk).Retired s := by
    cases n with
    | zero => exact absurd hover hpassing.not_passed
    | succ n =>
      obtain ⟨queue, m, hunder, hmem⟩ := hstands n (Nat.lt_succ_self n)
      exact ((hrun n (Nat.lt_succ_self n)).pass hunder).retired (hreach n (by omega))
        (hdesk n (by omega)) hover hmem
  have hsame : ∀ k ≤ n, ((run k).world.resumptions p.desk).count s
      = ((run 0).world.resumptions p.desk).count s := by
    intro k
    induction k with
    | zero => exact fun _ => rfl
    | succ k ih =>
      intro hk
      have hidle : s ∉ ((run (k + 1)).workload p.desk).running := by
        by_cases hlast : k + 1 < n
        · obtain ⟨queue, m, hunder, hmem⟩ := hstands (k + 1) hlast
          exact ((hreach (k + 1) hk).apart_of_passing (hdesk (k + 1) hk) hunder hmem).2
        · obtain rfl : n = k + 1 := by omega
          intro hruns
          exact hretired.2 (Workload.mem_present.mpr (Or.inr (Or.inr hruns)))
      exact ((hrun k hk).count_resumptions (hreach k (by omega)) (hdesk k (by omega)) hidle).trans
        (ih (by omega))
  obtain ⟨-, hnever⟩ := hafter.retired (hreach n (Nat.le_refl n)) (hdesk n (Nat.le_refl n)) hretired
  exact hnever.trans (hsame n (Nat.le_refl n))

/-- **One pass resumes exactly the queue it found.**  A pass begins at a desk, wherever it
stands, with whatever is under way below it; and those it resumes do as they please.

* Those who waited when it began are different coroutines.
* Its turns are turns with them, in order: it resumes a prefix of the queue, each of them
  once and with the arguments of the pass, and it is told to go on before each of these.
* When it is over, it has come to everybody, or was told to stop before the next one.  The
  number that is read off then is the length of the prefix, and code that has begun it at a
  bench is answered with that number.
* Whoever is in the table of the desk at some moment of it is not resumed by it from then
  on.
* Whoever it has not resumed when it is over is never resumed again, and has not been
  since it began. -/
theorem IsRun.pass_resumes {run : Nat → Config D} {n : Nat} (hrun : IsRun I run n)
    (hc : (run 0).Reachable I) {p : Pass D} {w : World D} {below : List (Frame D)}
    (hbegins : run 0 = opening p w below)
    (hbusy : ∀ k < n, below.length < (run k).stack.length) {queue : List (Task D)}
    (hqueue : (w.subscriptions p.desk).waiting p.kind = queue) :
    (queue.map Task.serial).Nodup ∧
      (∀ k < n, ∀ task, (run k).turn? below.length = some (task, true) →
        (run k).Resumes I p.desk task p.args (run (k + 1))) ∧
      (∀ j ≤ n, ∀ s ∈ ((run j).world.subscriptions p.desk).waitingSerials, ∀ k < n, j ≤ k →
        ∀ task answer, (run k).turn? below.length = some (task, answer) → task.serial ≠ s) ∧
      ∃ m ≤ queue.length,
        (below.length < (run n).stack.length →
          turnsIn run below.length n = (queue.take m).map (·, true)) ∧
        ((run n).stack.length ≤ below.length →
          turnsIn run below.length n
              = (queue.take m).map (·, true) ++ ((queue.drop m).take 1).map (·, false) ∧
            (run n).stack = below ∧ (run n).world.lastPass = m ∧
            (∀ b, p.desk = .bench b → (run n).world.act I (.resumed b) =
              (.count m, (run n).world, [])) ∧
            ∀ c, (run n).Runs I c → ∀ s ∈ (queue.drop m).map Task.serial,
              (c.world.resumptions p.desk).count s = (w.resumptions p.desk).count s) := by
  have hpassing : (run 0).Passing p below queue 0 := by
    rw [hbegins, ← hqueue]
    exact ⟨[], rfl⟩
  have hdesk : ∀ task ∈ queue, (run 0).world.HasDesk p.desk := by
    intro task htask
    rw [hbegins]
    rw [← hqueue] at htask
    exact (w.hasDesk_modifySubscriptions p.desk p.desk _).mpr (World.hasDesk_of_mem htask)
  have hearlier : ∀ k ≤ n, (run 0).Runs I (run k) := fun k hk => hrun.runs (Nat.zero_le k) hk
  have hturn : ∀ k < n, ∀ task answer, (run k).turn? below.length = some (task, answer) →
      task ∈ queue ∧ (answer = true → (run k).Resumes I p.desk task p.args (run (k + 1))) :=
    fun k hk task answer => hrun.turn_mem hpassing hbusy hk
  refine ⟨?_, fun k hk task hsome => (hturn k hk task true hsome).2 rfl, ?_, ?_⟩
  · cases queue with
    | nil => exact List.nodup_nil
    | cons task queue =>
      exact hc.nodup_of_passing (hdesk task List.mem_cons_self) hpassing
  · intro j hj s hs k hk hjk task answer hsome
    have hstood := hdesk task (hturn k hk task answer hsome).1
    exact hrun.turn_ne hc hstood hpassing hbusy hj hs hk hjk hsome
  · obtain ⟨came, rest, rfl, hend⟩ := hrun.passing hpassing hbusy
    refine ⟨came.length, by simp, ?_, ?_⟩
    · intro hstill
      rcases hend with ⟨-, hturns⟩ | ⟨⟨hover, -, -⟩, -⟩
      · rw [hturns, List.take_left]
      · rw [hover] at hstill
        exact absurd hstill (Nat.lt_irrefl _)
    · intro hreturned
      rcases hend with ⟨⟨above, hstack⟩, -⟩ | ⟨hover, hturns⟩
      · rw [hstack, List.length_append, List.length_cons] at hreturned
        omega
      · rw [List.take_left, List.drop_left]
        refine ⟨hturns, hover.stack, hover.last.trans (Nat.zero_add _), fun b hb => ?_,
          fun c hafter s hs => ?_⟩
        · refine (Nat.zero_add came.length ▸ hover).answer (fun task htask => ?_) hb
          exact (hearlier n (Nat.le_refl n)).hasDesk hc (hdesk task (List.mem_append_left _ htask))
        · obtain ⟨task, htask, -⟩ := List.mem_map.mp hs
          have hthere := hdesk task (List.mem_append_right _ htask)
          have hsame : (run 0).world.resumptions p.desk = w.resumptions p.desk := by
            rw [hbegins]
            exact w.resumptions_modifySubscriptions p.desk p.desk _
          rw [← hsame]
          exact hrun.count_resumptions hc hthere hpassing hbusy hover hs hafter

end Config

namespace Specimen

/-- A language of two coroutines at a bench, the first of which says what it was answered. -/
def passDialect : Dialect :=
  ⟨Unit, Bool, Empty, Empty, Answer⟩

/-- What they do.  The one coroutine waits for the next tick, over and over.  The other one
hands such a coroutine over at the bench it waits at itself, resumes whoever waits there,
says how many that were, and is done. -/
def passing : Interpreter passDialect where
  resume
    | true, _ =>
      .act (.awaitNext (.bench 0) .timerTick false) fun _ =>
        (Code.notify 0 .timerTick [] fun _ _ => true).bind fun answer =>
          .remark answer (.ret (.ok .finished))
    | false, _ => .ret (.ok (.await (.ofKind .timerTick) false))
  callable callback := callback.elim
  call callback := callback.elim
  handle handler := handler.elim
  patience := 100

/-- There is a bench, and code that hands over three coroutines there. -/
def handingOver : Config passDialect :=
  ⟨(World.new ()).addBench "bench", [.handler (
    .act (.awaitNext (.bench 0) .timerTick true) fun _ =>
    .act (.awaitNext (.bench 0) .timerTick false) fun _ =>
    .act (.awaitNext (.bench 0) .timerTick false) fun _ => .ret ())]⟩

/-- A pass over them that is to go on until two have been resumed. -/
def outerPass : Pass passDialect :=
  ⟨.bench 0, .timerTick, [], .test fun resumed _ => resumed < 2⟩

/-- The pass that the first of them begins inside it. -/
def innerPass : Pass passDialect :=
  ⟨.bench 0, .timerTick, [], .glance fun _ _ => true⟩

/-- What has come of the passes after some steps.  The inner one begins at moment 3 and is
over at moment 6, and the outer one is over at moment 12. -/
def nested (n : Nat) : Config passDialect :=
  (Config.opening outerPass (handingOver.after passing 4).world []).after passing n

theorem reachable_nested (n : Nat) : (nested n).Reachable passing := by
  have hbench : Config.Move passing ⟨World.new (), []⟩
      ⟨(World.new ()).addBench "bench", []⟩ := .host (.addBench "bench")
  have hlineUp : Config.Move passing ⟨(World.new ()).addBench "bench", []⟩ handingOver :=
    .host (.code _)
  have hwait := Config.runs_after passing handingOver 4
  have hidle : (handingOver.after passing 4).stack = [] := by rfl
  have hbegun : (handingOver.after passing 4).Move passing (nested 0) :=
    Config.move_host passing hidle (.notify 0 .timerTick [] outerPass.pulse)
  have hreach : (nested 0).Reachable passing :=
    ⟨(), ((hwait.head hlineUp).head hbench).tail hbegun⟩
  exact hreach.runs (Config.runs_after passing (nested 0) n)

theorem isRun_nested : Config.IsRun passing nested 12 :=
  Config.isRun_of_busy passing (fun _ => rfl) (by decide +kernel)

end Specimen

/-- A pass inside a pass at the same bench.  The outer one resumes the first two coroutines
it found and is told to stop before the third one, which is never resumed.  The inner one
resumes whom the first of them has handed over meanwhile, and nobody else; and the coroutine
that began it is told so. -/
theorem Config.IsRun.pass_resumes_nested :
    turnsIn Specimen.nested 0 12
        = [(⟨0, true⟩, true), (⟨1, false⟩, true), (⟨2, false⟩, false)] ∧
      turnsIn (fun k => Specimen.nested (3 + k)) 2 3 = [(⟨3, false⟩, true)] ∧
      ((Specimen.nested 6).world.act Specimen.passing (.resumed 0)).1 = .count 1 ∧
      (Specimen.nested 12).world.lastPass = 2 ∧
      ∀ c, (Specimen.nested 12).Runs Specimen.passing c →
        (c.world.resumptions (.bench 0)).count 2 = 0 := by
  have houter : ((Specimen.handingOver.after Specimen.passing 4).world.subscriptions
      (.bench 0)).waiting .timerTick = [⟨0, true⟩, ⟨1, false⟩, ⟨2, false⟩] := by rfl
  have hinner : ((Specimen.nested 2).world.subscriptions (.bench 0)).waiting .timerTick
      = [⟨3, false⟩] := by rfl
  have hbegins : Specimen.nested 3 = opening Specimen.innerPass (Specimen.nested 2).world
      (Specimen.nested 3).stack.tail := by rfl
  obtain ⟨-, -, -, m, -, -, hend⟩ := IsRun.pass_resumes Specimen.isRun_nested
    (Specimen.reachable_nested 0) (p := Specimen.outerPass) rfl (by decide +kernel) houter
  obtain ⟨hturns, -, hm, -, hnever⟩ := hend (by decide +kernel)
  have hlast : (Specimen.nested 12).world.lastPass = 2 := by decide +kernel
  obtain rfl : m = 2 := hm.symm.trans hlast
  have hrun : IsRun Specimen.passing (fun k => Specimen.nested (3 + k)) 3 :=
    fun k hk => Specimen.isRun_nested (3 + k) (by omega)
  obtain ⟨-, -, -, m, -, -, hend⟩ := IsRun.pass_resumes hrun (Specimen.reachable_nested 3)
    hbegins (by decide +kernel) hinner
  obtain ⟨hturns', -, hm', hanswer, -⟩ := hend (by decide +kernel)
  have hlast' : (Specimen.nested 6).world.lastPass = 1 := by decide +kernel
  obtain rfl : m = 1 := hm'.symm.trans hlast'
  exact ⟨hturns, hturns', congrArg Prod.fst (hanswer 0 rfl), hlast,
    fun c hruns => hnever c hruns 2 (by decide)⟩

end ScriptHost
