import ScriptHost.Proofs.Runs
import ScriptHost.Proofs.Standing

/-!
# The account of an instance

The account of an instance is what a configuration holds of it: its `Standing`,
the queues that passes at its desk have yet to resume, and its coroutines that
run.  A step of the machine does to one instance one **deed** out of a short
list, and `Account.Step` says of each deed when it is possible and what the
account is afterwards; `Account.Step.writes` says what the journal gains by it.
`Config.Move.deed` is the inversion lemma of the
development: every move does one deed to every instance, and the deed has one of
the causes that `Frame.Brings` lists.  What holds of all runs can so be proved
over the deeds, without looking at the machine again.
-/

namespace ScriptHost

variable {D : Dialect}

/-- The queue a pass at an instance's desk has yet to resume. -/
def Frame.queue? (i : Nat) : Frame D → Option (List (Task D))
  | .pass desk _ _ _ queue _ => if desk = .script i then some queue else none
  | _ => none

/-- The coroutine of an instance that a frame runs. -/
def Frame.running? (i : Nat) : Frame D → Option Nat
  | .coroutine desk serial _ => if desk = .script i then some serial else none
  | _ => none

/-- What a configuration holds of one instance. -/
structure Account (D : Dialect) extends Standing D where
  /-- What the passes under way have yet to resume, the innermost first. -/
  passes : List (List (Task D))
  /-- The coroutines that run, the innermost first. -/
  running : List Nat

/-- The account of an instance. -/
def Config.account (c : Config D) (i : Nat) : Account D :=
  { c.world.standing i with
    passes := c.stack.filterMap (Frame.queue? i)
    running := c.stack.filterMap (Frame.running? i) }

/-- How a coroutine comes to its first run. -/
inductive Door where
  /-- Script code asks for it. -/
  | context
  /-- A callback returned it. -/
  | callback
  /-- It is the main coroutine the top-level code returned. -/
  | entry
deriving DecidableEq, Repr

/-- What a step does to an instance. -/
inductive Deed (D : Dialect) where
  | nothing
  | birth
  | settle
  /-- The end of the instance is complete. -/
  | ending
  /-- A coroutine is handed over, to wait for a kind. -/
  | hand (kind : EventKind) (routine : D.Coroutine)
  /-- A coroutine is handed over and runs. -/
  | start (door : Door) (routine : D.Coroutine)
  /-- A pass begins. -/
  | drain (kind : EventKind)
  /-- A pass resumes its next coroutine. -/
  | wake (task : Task D) (args : Args)
  /-- A pass drops what it has yet to resume. -/
  | cut
  /-- A pass has resumed everything. -/
  | exhaust
  /-- A coroutine gives control back. -/
  | yield (serial : Nat) (result : Except ScriptError (Yield D))
  | call (kind : EventKind) (callback : D.Callback) (args : Args)
  | setCallback (kind : EventKind) (callback : Option D.Callback)
  | clearCallbacks
  | reset

namespace Account

/-- When a deed is possible, and what the account is afterwards. -/
inductive Step (i : Nat) (a : Account D) : Deed D → Account D → Prop
  | nothing : Step i a .nothing a
  | birth (h : a.state = none) (htable : a.table = .empty) :
      Step i a .birth { a with state := some .initializing, table := .empty }
  | settle (h : a.state = some .initializing) :
      Step i a .settle { a with state := some .running }
  | ending (h : a.state ≠ none) :
      Step i a .ending
        { a with toStanding := { a.toStanding.cleared i with state := some .terminated } }
  | hand {kind : EventKind} {routine : D.Coroutine} (h : a.isAlive) :
      Step i a (.hand kind routine)
        { a with
          table := a.table.accept.park kind ⟨a.table.handed, routine⟩
          story := .handed (.script i) a.table.handed :: a.story }
  | start {door : Door} {routine : D.Coroutine} (h : a.state ≠ none)
      (hdoor : door = .context → a.isAlive) :
      Step i a (.start door routine)
        { a with
          table := a.table.accept
          running := a.table.handed :: a.running
          story := .resumed (.script i) a.table.handed [] ::
            .handed (.script i) a.table.handed :: a.story }
  | drain {kind : EventKind} (h : a.isAlive) :
      Step i a (.drain kind)
        { a with table := a.table.drain kind, passes := a.table.waiting kind :: a.passes }
  | wake {task : Task D} {args : Args} {queue : List (Task D)} {passes : List (List (Task D))}
      (h : a.isAlive) (hpass : a.passes = (task :: queue) :: passes) :
      Step i a (.wake task args)
        { a with
          passes := queue :: passes
          running := task.serial :: a.running
          story := .resumed (.script i) task.serial args :: a.story }
  | cut {queue : List (Task D)} {passes : List (List (Task D))} (h : ¬ a.isAlive)
      (hpass : a.passes = queue :: passes) :
      Step i a .cut
        { a with
          passes
          story := ((queue.map Task.serial).map fun s =>
            Happening.left (.script i) s .cutShort).reverse ++ a.story }
  | exhaust {passes : List (List (Task D))} (hpass : a.passes = [] :: passes) :
      Step i a .exhaust { a with passes }
  | finished {s : Nat} {running : List Nat} (hrun : a.running = s :: running) :
      Step i a (.yield s (.ok .finished))
        { a with running, story := .left (.script i) s .finished :: a.story }
  | parked {s : Nat} {running : List Nat} {request : AwaitRequest} {rest : D.Coroutine}
      {kind : EventKind} (hrun : a.running = s :: running) (hkind : request.resolve = .ok kind) :
      Step i a (.yield s (.ok (.await request rest)))
        { a with running, table := a.table.park kind ⟨s, rest⟩ }
  | misdirected {s : Nat} {running : List Nat} {request : AwaitRequest} {rest : D.Coroutine}
      {e : ScriptError} (hrun : a.running = s :: running) (he : request.resolve = .error e) :
      Step i a (.yield s (.ok (.await request rest)))
        { a with running, story := .left (.script i) s (.misdirected e) :: a.story }
  | failed {s : Nat} {running : List Nat} {e : ScriptError} (hrun : a.running = s :: running) :
      Step i a (.yield s (.error e))
        { a with running, story := .left (.script i) s (.failed e) :: a.story }
  | call {kind : EventKind} {callback : D.Callback} {args : Args} (h : a.isAlive)
      (hcallback : a.table.callback kind = some callback) :
      Step i a (.call kind callback args)
        { a with story := .called i kind callback args :: a.story }
  | setCallback {kind : EventKind} {callback : Option D.Callback} (h : a.isAlive) :
      Step i a (.setCallback kind callback)
        { a with table := a.table.setCallback kind callback }
  | clearCallbacks : Step i a .clearCallbacks { a with table := a.table.clearCallbacks }
  | reset : Step i a .reset { a with toStanding := a.toStanding.cleared i }

/-- An account with more passes and more running coroutines further out. -/
def under (a : Account D) (passes : List (List (Task D))) (running : List Nat) : Account D :=
  { a with passes := a.passes ++ passes, running := a.running ++ running }

/-- A deed does not mind what is under way further out. -/
theorem Step.under {i : Nat} {a b : Account D} {δ : Deed D} (h : Step i a δ b)
    (passes : List (List (Task D))) (running : List Nat) :
    Step i (a.under passes running) δ (b.under passes running) := by
  cases h with
  | nothing => exact .nothing
  | birth h htable => exact .birth h htable
  | settle h => exact .settle h
  | ending h => exact .ending h
  | hand h => exact .hand h
  | start h hdoor => exact .start h hdoor
  | drain h => exact .drain h
  | wake h hpass => exact .wake h (by simp [Account.under, hpass])
  | cut h hpass => exact .cut h (by simp [Account.under, hpass])
  | exhaust hpass => exact .exhaust (by simp [Account.under, hpass])
  | finished hrun => exact .finished (by simp [Account.under, hrun])
  | parked hrun hkind => exact .parked (by simp [Account.under, hrun]) hkind
  | misdirected hrun he => exact .misdirected (by simp [Account.under, hrun]) he
  | failed hrun => exact .failed (by simp [Account.under, hrun])
  | call h hcallback => exact .call h hcallback
  | setCallback h => exact .setCallback h
  | clearCallbacks => exact .clearCallbacks
  | reset => exact .reset

/-! ## What a deed writes into the story -/

/-- Whatever a story gains between two accounts is of a sort. -/
def Gains (P : Happening D → Prop) (a b : Account D) : Prop :=
  ∃ news, b.story = news ++ a.story ∧ ∀ x ∈ news, P x

theorem Gains.refl (P : Happening D → Prop) (a : Account D) : Gains P a a :=
  ⟨[], rfl, by simp⟩

theorem Gains.trans {P : Happening D → Prop} {a b c : Account D} (hab : Gains P a b)
    (hbc : Gains P b c) : Gains P a c := by
  obtain ⟨news, hb, hnews⟩ := hab
  obtain ⟨news', hc, hnews'⟩ := hbc
  refine ⟨news' ++ news, by rw [hc, hb, List.append_assoc], fun x hx => ?_⟩
  rcases List.mem_append.mp hx with hx | hx
  · exact hnews' x hx
  · exact hnews x hx

theorem Gains.mono {P Q : Happening D → Prop} {a b : Account D} (h : Gains P a b)
    (hPQ : ∀ x, P x → Q x) : Gains Q a b := by
  obtain ⟨news, hb, hnews⟩ := h
  exact ⟨news, hb, fun x hx => hPQ x (hnews x hx)⟩

/-- What was written once stays written. -/
theorem Gains.mem {P : Happening D → Prop} {a b : Account D} (h : Gains P a b)
    {x : Happening D} (hx : x ∈ a.story) : x ∈ b.story := by
  obtain ⟨news, hb, -⟩ := h
  exact hb ▸ List.mem_append_right news hx

/-- Farewells do not matter to a reading that finds nothing in them. -/
theorem filterMap_farewells {β : Type} {f : Happening D → Option β} {i : Nat}
    (hf : ∀ s why, f (.left (.script i) s why) = none) (why : Farewell) (serials : List Nat)
    (story : List (Happening D)) :
    ((serials.map fun s => Happening.left (.script i) s why).reverse ++ story).filterMap f
      = story.filterMap f := by
  have hnothing : (serials.map fun s => Happening.left (.script i) s why).reverse.filterMap f
      = [] := by
    simp [List.filterMap_reverse, List.filterMap_map, hf]
  rw [List.filterMap_append, hnothing, List.nil_append]

/-- What a deed can write. -/
inductive Writes (i : Nat) (a : Account D) : Deed D → Happening D → Prop
  | handed {kind : EventKind} {routine : D.Coroutine} (h : a.isAlive) :
      Writes i a (.hand kind routine) (.handed (.script i) a.table.handed)
  | newcomer (door : Door) (routine : D.Coroutine) :
      Writes i a (.start door routine) (.handed (.script i) a.table.handed)
  | left (δ : Deed D) (s : Nat) (why : Farewell) : Writes i a δ (.left (.script i) s why)
  /-- Only a pass resumes somebody who waited, and only while the instance is
  alive. -/
  | woken {task : Task D} {args : Args} {queue : List (Task D)} {passes : List (List (Task D))}
      (h : a.isAlive) (hpass : a.passes = (task :: queue) :: passes) :
      Writes i a (.wake task args) (.resumed (.script i) task.serial args)
  | started (door : Door) (routine : D.Coroutine) :
      Writes i a (.start door routine) (.resumed (.script i) a.table.handed [])
  | called {kind : EventKind} {callback : D.Callback} {args : Args} (h : a.isAlive) :
      Writes i a (.call kind callback args) (.called i kind callback args)

theorem Step.writes {i : Nat} {a b : Account D} {δ : Deed D} (h : Step i a δ b) :
    Gains (Writes i a δ) a b := by
  have farewells : ∀ (δ : Deed D) (why : Farewell) (serials : List Nat),
      ∀ x ∈ (serials.map fun s => Happening.left (.script i) s why).reverse, Writes i a δ x := by
    intro δ why serials x hx
    obtain ⟨s, -, rfl⟩ := List.mem_map.mp (List.mem_reverse.mp hx)
    exact .left δ s why
  cases h with
  | nothing | birth | settle | drain | exhaust | parked | setCallback | clearCallbacks =>
    exact ⟨[], rfl, by simp⟩
  | ending | reset => exact ⟨_, rfl, farewells _ _ _⟩
  | cut => exact ⟨_, rfl, farewells _ _ _⟩
  | hand h => exact ⟨[_], rfl, by simpa using .handed h⟩
  | @start door routine =>
    refine ⟨[_, _], rfl, fun x hx => ?_⟩
    rcases List.mem_pair.mp hx with rfl | rfl
    · exact .started door routine
    · exact .newcomer door routine
  | wake h hpass => exact ⟨[_], rfl, by simpa using .woken h hpass⟩
  | finished | misdirected | failed => exact ⟨[_], rfl, by simpa using .left _ _ _⟩
  | call h => exact ⟨[_], rfl, by simpa using .called h⟩

end Account

/-- Whatever the journal gains about an instance between two configurations is of
a sort. -/
def Config.Gains (c : Config D) (i : Nat) (P : Happening D → Prop) (c' : Config D) : Prop :=
  Account.Gains P (c.account i) (c'.account i)

/-- What every move writes is written by a run, as long as an invariant holds. -/
theorem Config.Runs.gains {I : Interpreter D} {i : Nat} {P : Happening D → Prop}
    {J : Config D → Prop} (hmove : ∀ c c', J c → c.Move I c' → J c' ∧ c.Gains i P c')
    {c c' : Config D} (h : c.Runs I c') (hc : J c) : J c' ∧ c.Gains i P c' := by
  induction h with
  | refl => exact ⟨hc, .refl P _⟩
  | tail _ hlast ih =>
    obtain ⟨hinv, hgains⟩ := ih
    obtain ⟨hinv', hgains'⟩ := hmove _ _ hinv hlast
    exact ⟨hinv', hgains.trans hgains'⟩

/-- A reading of what concerns an instance finds it in the story of the instance. -/
theorem Config.filterMap_story {β : Type} {f : Happening D → Option β} {i : Nat}
    (hf : ∀ x : Happening D, x.concerns i = false → f x = none) (c : Config D) :
    (c.account i).story.filterMap f = c.world.journal.filterMap f :=
  filterMap_filter_of_none hf c.world.journal

theorem Config.account_append (w : World D) (fs rest : List (Frame D)) (i : Nat) :
    (⟨w, fs ++ rest⟩ : Config D).account i
      = ((⟨w, fs⟩ : Config D).account i).under (rest.filterMap (Frame.queue? i))
          (rest.filterMap (Frame.running? i)) := by
  simp [Config.account, Account.under]

/-- A frame in which nothing of the instance is kept adds nothing to its
account. -/
theorem Config.account_cons {f : Frame D} {i : Nat} (hqueue : f.queue? i = none)
    (hrunning : f.running? i = none) (w : World D) (rest : List (Frame D)) :
    (⟨w, f :: rest⟩ : Config D).account i = (⟨w, rest⟩ : Config D).account i := by
  simp [Config.account, hqueue, hrunning]

end ScriptHost
