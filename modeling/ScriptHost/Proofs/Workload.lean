import ScriptHost.Proofs.Custody

/-!
# Who is where at a desk

Coroutines wait with a script instance or at a bench, and either way each of them is in
one place at its desk — in a queue of the table, in the queue of a pass, or running —
or it is gone.  The `Workload` of a desk says who is where.  At a bench nobody resets or
ends anything, but a pass stops when its own test says so; what can happen at one is a
`Workload.Step`.

* `Workload.Step.census` — a turn moves coroutines about;
* `Workload.Orderly.step` — nobody comes to be in two places;
* `Workload.Retired.step` — whoever is nowhere any more stays so, and is not resumed.
-/

namespace ScriptHost

variable {D : Dialect}

/-- The queue a pass at a desk has yet to resume. -/
def Frame.queueAt? (d : Desk) : Frame D → Option (List (Task D))
  | .pass desk _ _ _ queue _ => if desk = d then some queue else none
  | _ => none

/-- The coroutine of a desk that a frame runs. -/
def Frame.runningAt? (d : Desk) : Frame D → Option Nat
  | .coroutine desk serial _ => if desk = d then some serial else none
  | _ => none

/-- Whom an entry of the journal says to be resumed at a desk. -/
def Happening.resumedAt? (d : Desk) : Happening D → Option Nat
  | .resumed desk s _ => if desk = d then some s else none
  | _ => none

/-- Who was ever resumed at a desk, the latest first, once for each time. -/
def World.resumptions (w : World D) (d : Desk) : List Nat :=
  w.journal.filterMap (Happening.resumedAt? d)

/-- What a configuration holds of one desk. -/
structure Workload (D : Dialect) where
  table : Subscriptions D
  /-- Who was ever resumed there, the latest first. -/
  resumed : List Nat
  /-- What the passes under way have yet to resume, the innermost first. -/
  passes : List (List (Task D))
  /-- The coroutines that run, the innermost first. -/
  running : List Nat

/-- What a configuration holds of a desk. -/
def Config.workload (c : Config D) (d : Desk) : Workload D where
  table := c.world.subscriptions d
  resumed := c.world.resumptions d
  passes := c.stack.filterMap (Frame.queueAt? d)
  running := c.stack.filterMap (Frame.runningAt? d)

namespace Workload

/-- Every place a coroutine of the desk can be in: it waits in the table or in the queue
of a pass, or it runs. -/
def present (a : Workload D) : List Nat :=
  a.table.waitingSerials ++ a.passes.flatten.map Task.serial ++ a.running

theorem mem_present {a : Workload D} {s : Nat} :
    s ∈ a.present ↔
      s ∈ a.table.waitingSerials ∨ s ∈ a.passes.flatten.map Task.serial ∨ s ∈ a.running := by
  rw [present, List.mem_append, List.mem_append, or_assoc]

/-- What a move does at a bench. -/
inductive Step (a : Workload D) : Workload D → Prop
  | nothing : Step a a
  /-- A coroutine is handed over, to wait for a kind. -/
  | hand (kind : EventKind) (routine : D.Coroutine) :
      Step a { a with table := a.table.accept.park kind ⟨a.table.handed, routine⟩ }
  /-- A coroutine is handed over and runs. -/
  | start :
      Step a { a with
        table := a.table.accept
        resumed := a.table.handed :: a.resumed
        running := a.table.handed :: a.running }
  /-- A pass begins. -/
  | drain (kind : EventKind) :
      Step a { a with table := a.table.drain kind, passes := a.table.waiting kind :: a.passes }
  /-- A pass resumes its next coroutine. -/
  | wake {task : Task D} {queue : List (Task D)} {passes : List (List (Task D))}
      (h : a.passes = (task :: queue) :: passes) :
      Step a { a with
        resumed := task.serial :: a.resumed
        passes := queue :: passes
        running := task.serial :: a.running }
  /-- A pass is over, and drops what it has yet to resume. -/
  | cease {queue : List (Task D)} {passes : List (List (Task D))} (h : a.passes = queue :: passes) :
      Step a { a with passes }
  /-- A coroutine gives control back, and is gone. -/
  | leave {s : Nat} {running : List Nat} (h : a.running = s :: running) : Step a { a with running }
  /-- A coroutine gives control back, and waits again. -/
  | park {s : Nat} {running : List Nat} (kind : EventKind) (rest : D.Coroutine)
      (h : a.running = s :: running) :
      Step a { a with table := a.table.park kind ⟨s, rest⟩, running }

/-- **A turn moves coroutines about.**  But for a newcomer under the next serial number
nobody appears, and nobody is resumed who was not there. -/
theorem Step.census {a b : Workload D} (h : a.Step b) :
    ∃ gone fresh woken, (b.present ++ gone).Perm (fresh ++ a.present) ∧
      b.resumed = woken ++ a.resumed ∧ (∀ s ∈ woken, s ∈ fresh ++ a.present) ∧
      (fresh = [] ∧ b.table.handed = a.table.handed ∨
        fresh = [a.table.handed] ∧ b.table.handed = a.table.handed + 1) := by
  cases h with
  | nothing => exact ⟨[], [], [], by simp, rfl, by simp, Or.inl ⟨rfl, rfl⟩⟩
  | hand kind routine =>
    refine ⟨[], [a.table.handed], [], ?_, rfl, by simp, Or.inr ⟨rfl, rfl⟩⟩
    have hpark := a.table.accept.waitingSerials_park kind ⟨a.table.handed, routine⟩
    simpa [present] using (hpark.append_right _).append_right _
  | start =>
    refine ⟨[], [a.table.handed], [a.table.handed], ?_, rfl, by simp, Or.inr ⟨rfl, rfl⟩⟩
    refine List.perm_iff_count.mpr fun s => ?_
    simp only [present, Subscriptions.waitingSerials_accept, List.count_append, List.count_cons,
      List.count_nil]
    omega
  | drain kind =>
    refine ⟨[], [], [], ?_, rfl, by simp, Or.inl ⟨rfl, rfl⟩⟩
    have hdrain := a.table.waitingSerials_drain kind
    refine List.perm_iff_count.mpr fun s => ?_
    have hcount := hdrain.count_eq s
    simp only [present, List.flatten_cons, List.map_append, List.count_append,
      List.nil_append, List.append_nil] at hcount ⊢
    omega
  | @wake task queue passes h =>
    refine ⟨[], [], [task.serial], ?_, rfl, ?_, Or.inl ⟨rfl, rfl⟩⟩
    · refine List.perm_iff_count.mpr fun s => ?_
      simp only [present, h, List.flatten_cons, List.cons_append, List.map_cons, List.count_append,
        List.count_cons, List.nil_append, List.append_nil]
      omega
    · simp [present, h]
  | @cease queue passes h =>
    refine ⟨queue.map Task.serial, [], [], ?_, rfl, by simp, Or.inl ⟨rfl, rfl⟩⟩
    refine List.perm_iff_count.mpr fun s => ?_
    simp only [present, h, List.flatten_cons, List.map_append, List.count_append, List.nil_append]
    omega
  | @leave s running h =>
    refine ⟨[s], [], [], ?_, rfl, by simp, Or.inl ⟨rfl, rfl⟩⟩
    refine List.perm_iff_count.mpr fun t => ?_
    simp only [present, h, List.count_append, List.count_cons, List.count_nil, List.nil_append]
    omega
  | @park s running kind rest h =>
    refine ⟨[], [], [], ?_, rfl, by simp, Or.inl ⟨rfl, rfl⟩⟩
    refine List.perm_iff_count.mpr fun t => ?_
    have hcount := (a.table.waitingSerials_park kind ⟨s, rest⟩).count_eq t
    simp only [present, h, List.count_append, List.count_cons, List.nil_append,
      List.append_nil] at hcount ⊢
    omega

/-- Nobody is in two places, and the next serial number is nobody's. -/
structure Orderly (a : Workload D) : Prop where
  nodup : a.present.Nodup
  handed : ∀ s ∈ a.present, s < a.table.handed

theorem Orderly.step {a b : Workload D} (ha : a.Orderly) (h : a.Step b) : b.Orderly := by
  obtain ⟨gone, fresh, -, hperm, -, -, hfresh⟩ := h.census
  have hmem : ∀ s ∈ b.present, s ∈ fresh ++ a.present := fun s hs =>
    hperm.mem_iff.mp (List.mem_append_left gone hs)
  have hnodup : (fresh ++ a.present).Nodup := by
    rcases hfresh with ⟨rfl, -⟩ | ⟨rfl, -⟩
    · exact ha.nodup
    · exact List.nodup_cons.mpr ⟨fun hs => Nat.lt_irrefl _ (ha.handed _ hs), ha.nodup⟩
  refine ⟨(List.nodup_append.mp (hperm.nodup_iff.mpr hnodup)).1, fun s hs => ?_⟩
  rcases hfresh with ⟨rfl, hsame⟩ | ⟨rfl, hmore⟩
  · exact hsame ▸ ha.handed s (hmem s hs)
  · rcases List.mem_cons.mp (hmem s hs) with rfl | hold
    · omega
    · have := ha.handed s hold
      omega

/-- Whoever was handed over and is nowhere any more. -/
def Retired (a : Workload D) (s : Nat) : Prop :=
  s < a.table.handed ∧ s ∉ a.present

/-- **Nobody comes back.** -/
theorem Retired.step {a b : Workload D} {s : Nat} (hs : a.Retired s) (h : a.Step b) :
    b.Retired s ∧ b.resumed.count s = a.resumed.count s := by
  obtain ⟨hhanded, hnowhere⟩ := hs
  obtain ⟨gone, fresh, woken, hperm, hresumed, hwoken, hfresh⟩ := h.census
  have habsent : s ∉ fresh ++ a.present := by
    rcases hfresh with ⟨rfl, -⟩ | ⟨rfl, -⟩
    · exact hnowhere
    · exact List.not_mem_cons_of_ne_of_not_mem (Nat.ne_of_lt hhanded) hnowhere
  refine ⟨⟨by omega, fun hb => habsent (hperm.mem_iff.mp (List.mem_append_left gone hb))⟩, ?_⟩
  have hzero : woken.count s = 0 := List.count_eq_zero.mpr fun hmem => habsent (hwoken s hmem)
  rw [hresumed, List.count_append, hzero, Nat.zero_add]

/-- Whoever is resumed meanwhile runs. -/
def Wakes (a b : Workload D) : Prop :=
  ∃ woken, b.resumed = woken ++ a.resumed ∧ ∀ s ∈ woken, s ∈ b.running

theorem Step.wakes {a b : Workload D} (h : a.Step b) : a.Wakes b := by
  cases h with
  | start => exact ⟨[a.table.handed], rfl, by simp⟩
  | @wake task queue passes h => exact ⟨[task.serial], rfl, by simp⟩
  | nothing | hand | drain | cease | leave | park => exact ⟨[], rfl, by simp⟩

/-- A workload with more passes and more running coroutines further out. -/
def under (a : Workload D) (passes : List (List (Task D))) (running : List Nat) : Workload D :=
  { a with passes := a.passes ++ passes, running := a.running ++ running }

/-- A turn does not mind what is under way further out. -/
theorem Step.under {a b : Workload D} (h : a.Step b) (passes : List (List (Task D)))
    (running : List Nat) : (a.under passes running).Step (b.under passes running) := by
  cases h with
  | nothing => exact .nothing
  | hand kind routine => exact .hand kind routine
  | start => exact .start
  | drain kind => exact .drain kind
  | wake h => exact .wake (by simp [Workload.under, h])
  | @cease queue rest h =>
    have hpasses : (a.under passes running).passes = queue :: (rest ++ passes) := by
      simp [Workload.under, h]
    exact .cease hpasses
  | @leave s _ h => exact .leave (s := s) (by simp [Workload.under, h])
  | park kind rest h => exact .park kind rest (by simp [Workload.under, h])

end Workload

end ScriptHost
