import Mathlib.Logic.Relation
import ScriptHost.Stage.Run

/-!
# Runs of the host

A run starts in a world in which nothing has happened and goes from
configuration to configuration.  While activities are under way, the machine
does one step at a time (`Config.step?`).  While nothing is under way, the host
may take the **initiative**: it runs code of its own, brings an instance into
being, ends one, works on a bench, or rearranges what it holds.  What it may do
when is all the order there is; so a statement about every run covers every
order of host operations, and every point inside them.

* `Config.Move.cases` — a move is a step of the innermost activity or an
  initiative of the host;
* `Config.IsRun.runs` — from an earlier configuration of a run one comes to a
  later one;
* `Config.runs_after`, `Config.isRun_of_busy` — what the machine does on its own is a run.
-/

namespace ScriptHost

variable {D : Dialect}

/-- What the host may do of its own accord: the world right after it, and the
activities it starts. -/
inductive Initiative (w : World D) : World D → List (Frame D) → Prop
  /-- Code of the host's own runs.  It can do whatever script code can. -/
  | code (code : Code D Unit) : Initiative w w [.handler code]
  | spawn (id : ScriptId) (path : Path) (detached : Bool) (code : EntryCode D) :
      Initiative w (w.beginLife id path detached)
        [.entry w.instances.length code, .settle w.instances.length]
  | terminate (i : Nat) : Initiative w (w.beginEnding i).1 (w.beginEnding i).2
  /-- The coroutines at a bench are resumed. -/
  | notify (n : Nat) (kind : EventKind) (args : Args) (pulse : Pulse D) :
      Initiative w (w.beginPass (.bench n) kind args pulse).1
        [(w.beginPass (.bench n) kind args pulse).2]
  | addBench (label : String) : Initiative w (w.addBench label) []
  | hold (name : String) (i : Nat) (hi : i < w.instances.length) :
      Initiative w (w.hold name i) []
  | takeHeld (name : String) : Initiative w (w.takeHeld name) []
  | setRequests (requests : List Request) : Initiative w { w with requests } []
  | setShutdown (shutdown : Option (Watch Bool)) : Initiative w { w with shutdown } []

namespace Config

variable (I : Interpreter D)

/-- One move of a run. -/
inductive Move : Config D → Config D → Prop
  | step {c c' : Config D} (h : c.step? I = some c') : Move c c'
  | host {w w' : World D} {started : List (Frame D)} (h : Initiative w w' started) :
      Move ⟨w, []⟩ ⟨w', started⟩

/-- Any number of moves. -/
abbrev Runs : Config D → Config D → Prop :=
  Relation.ReflTransGen (Move I)

/-- What a run can come to, from a world in which nothing has happened. -/
def Reachable (c : Config D) : Prop :=
  ∃ memory, Runs I ⟨World.new memory, []⟩ c

/-- A sequence of configurations whose first `n` moves are those of a run. -/
def IsRun (run : Nat → Config D) (n : Nat) : Prop :=
  ∀ k < n, Move I (run k) (run (k + 1))

/-- A move is a step of the innermost activity, or the host's while nothing is
under way. -/
theorem Move.cases {c c' : Config D} (h : Move I c c') :
    (∃ f rest, c.stack = f :: rest ∧
        c' = ⟨(f.advance I c.world).1, (f.advance I c.world).2 ++ rest⟩) ∨
      (c.stack = [] ∧ Initiative c.world c'.world c'.stack) := by
  cases h with
  | host h => exact Or.inr ⟨rfl, h⟩
  | step h =>
    obtain ⟨w, stack⟩ := c
    cases stack with
    | nil => simp [step?] at h
    | cons f rest =>
      have hc : c' = ⟨(f.advance I w).1, (f.advance I w).2 ++ rest⟩ := by
        simpa [step?] using h.symm
      exact Or.inl ⟨f, rest, rfl, hc⟩

variable {I}

theorem Reachable.move {c c' : Config D} (hc : c.Reachable I) (h : c.Move I c') :
    c'.Reachable I := by
  obtain ⟨memory, hruns⟩ := hc
  exact ⟨memory, hruns.tail h⟩

theorem Reachable.runs {c c' : Config D} (hc : c.Reachable I) (h : c.Runs I c') :
    c'.Reachable I := by
  obtain ⟨memory, hruns⟩ := hc
  exact ⟨memory, hruns.trans h⟩

/-- What holds of a world in which nothing has happened and is kept by every
move holds of whatever a run comes to. -/
theorem Reachable.induction {P : Config D → Prop} (hnew : ∀ memory, P ⟨World.new memory, []⟩)
    (hmove : ∀ c c', c.Reachable I → P c → c.Move I c' → P c') {c : Config D}
    (hc : c.Reachable I) : P c := by
  obtain ⟨memory, hruns⟩ := hc
  induction hruns with
  | refl => exact hnew memory
  | tail hfirst h ih => exact hmove _ _ ⟨memory, hfirst⟩ ih h

/-- From one configuration of a run one comes to every later one. -/
theorem IsRun.runs {run : Nat → Config D} {n : Nat} (h : IsRun I run n) {j k : Nat}
    (hjk : j ≤ k) (hk : k ≤ n) : (run j).Runs I (run k) := by
  obtain ⟨d, rfl⟩ := Nat.exists_eq_add_of_le hjk
  clear hjk
  induction d with
  | zero => exact .refl
  | succ d ih => exact (ih (by omega)).tail (h (j + d) (by omega))

/-- A run without its first moves. -/
theorem IsRun.drop {run : Nat → Config D} {m n : Nat} (h : IsRun I run (m + n)) :
    IsRun I (fun k => run (m + k)) n :=
  fun k hk => h (m + k) (by omega)

variable (I)

/-- The machine's next configuration; the same one when nothing is under way. -/
def next (c : Config D) : Config D :=
  (c.step? I).getD c

/-- What the machine has come to after some steps. -/
def after (c : Config D) : Nat → Config D
  | 0 => c
  | n + 1 => (c.after n).next I

theorem runs_next (c : Config D) : c.Runs I (c.next I) := by
  unfold next
  cases h : c.step? I with
  | none => exact .refl
  | some c' => exact .single (.step h)

/-- What the machine does on its own is a run. -/
theorem runs_after (c : Config D) (n : Nat) : c.Runs I (c.after I n) := by
  induction n with
  | zero => exact .refl
  | succ n ih => exact ih.trans (runs_next I _)

/-- The host moves while nothing is under way. -/
theorem move_host {c : Config D} {w : World D} {started : List (Frame D)} (h : c.stack = [])
    (hinit : Initiative c.world w started) : c.Move I ⟨w, started⟩ := by
  obtain ⟨w₀, stack⟩ := c
  obtain rfl : stack = [] := h
  exact .host hinit

/-- The machine moves while something is under way. -/
theorem move_next {c : Config D} (h : c.stack ≠ []) : c.Move I (c.next I) := by
  obtain ⟨w, stack⟩ := c
  cases stack with
  | nil => exact absurd rfl h
  | cons f rest => exact .step rfl

/-- As long as something is under way, the machine makes a run on its own. -/
theorem isRun_of_busy {run : Nat → Config D} {n : Nat} (hnext : ∀ k, run (k + 1) = (run k).next I)
    (hbusy : ∀ k < n, (run k).stack.isEmpty = false) : IsRun I run n := by
  intro k hk
  have hstack : (run k).stack ≠ [] := by
    intro hnil
    have hk := hbusy k hk
    rw [hnil] at hk
    cases hk
  rw [hnext k]
  exact move_next I hstack

end Config

/-! ## A small run

A script waits for timer ticks, over and over, and has a callback for them.  It
is held under the name `"me"`; when it is called, it ends itself by that name
and returns a coroutine to be started. -/

namespace Specimen

/-- A language with one coroutine and one callback. -/
def dialect : Dialect :=
  ⟨Unit, Unit, Unit, Empty, Empty⟩

/-- What they do. -/
def interpreter : Interpreter dialect where
  resume _ _ := .ret (.ok (.await (.ofKind .timerTick) ()))
  callable _ := true
  call _ _ := .act (.terminate "me") fun _ => .ret (.ok (.spawn ()))
  handle h := h.elim
  patience := 100

/-- The top-level code sets the callback and returns the coroutine. -/
def entry : EntryCode dialect :=
  .act (.setCallback 0 .timerTick (some ())) fun _ => .ret (.ok (some ()))

/-- The script has come into being. -/
def born : Config dialect :=
  ⟨(World.new ()).beginLife ⟨1⟩ ⟨"me"⟩ false, [.entry 0 entry, .settle 0]⟩

/-- Its top-level code has run, and the coroutine waits. -/
def settled : Config dialect :=
  born.after interpreter 4

/-- It is held, and code of the host emits a tick. -/
def ticking : Config dialect :=
  ⟨settled.world.hold "me" 0, [.handler (.act (.emit .timerTick) fun _ => .ret ())]⟩

theorem reachable_ticking : ticking.Reachable interpreter := by
  have hborn : Config.Move interpreter ⟨World.new (), []⟩ born :=
    .host (.spawn ⟨1⟩ ⟨"me"⟩ false entry)
  have hsettled : settled.stack = [] := by rfl
  have hheld : settled.Move interpreter ⟨settled.world.hold "me" 0, []⟩ :=
    Config.move_host interpreter hsettled (.hold "me" 0 (by decide +kernel))
  have hticking : Config.Move interpreter ⟨settled.world.hold "me" 0, []⟩ ticking :=
    .host (.code _)
  have hruns : Config.Runs interpreter ⟨World.new (), []⟩ settled :=
    (Config.runs_after interpreter born 4).head hborn
  exact ⟨(), (hruns.tail hheld).tail hticking⟩

/-- What has come of the tick after some steps.  The script has ended at moment
10, and at moment 15 nothing is under way. -/
def endingRun (n : Nat) : Config dialect :=
  ticking.after interpreter n

theorem reachable_endingRun (n : Nat) : (endingRun n).Reachable interpreter :=
  reachable_ticking.runs (Config.runs_after interpreter ticking n)

theorem isRun_endingRun : Config.IsRun interpreter endingRun 15 :=
  Config.isRun_of_busy interpreter (fun _ => rfl) (by decide +kernel)

end Specimen

end ScriptHost
