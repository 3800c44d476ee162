import Mathlib.Logic.Function.Basic
import ScriptHost.Proofs.Signs
import ScriptHost.Script.Builtin

/-!
# What the built-in scripts do about an event

Between two events an instance of a built-in script is at one of a few **posts**: it waits
for frames and has counted so many, it logs, it watches ticks and has counted so many in
its cell, or it is idle, where its file is no built-in script.  The post says what the
instance reports about the next event, and at which post it is then (`Post.reports`,
`Post.after`); and the machine does that.

* `World.answers_delivery` — an event that is delivered to an instance at a post;
* `World.reveals_emission` — an event that is emitted while everybody is at a post.
-/

namespace ScriptHost

namespace Builtin

/-- What an instance of a script of the built-in engine has come to. -/
inductive Post where
  /-- It waits for a frame, and has counted so many. -/
  | counter (id : ScriptId) (frames : Nat)
  | logger (id : ScriptId)
  /-- It counts ticks in a cell, and has counted so many. -/
  | watch (id : ScriptId) (cell ticks : Nat)
  | idle

namespace Post

/-- The name of the script. -/
def name? : Post → Option String
  | counter .. => some frameCounterName
  | logger _ => some eventLoggerName
  | watch .. => some tickWatchName
  | idle => none

/-- What it has counted. -/
def count : Post → Nat
  | counter _ n => n
  | watch _ _ ticks => ticks
  | _ => 0

/-- The cell it counts in. -/
def cell? : Post → Option Nat
  | watch _ cell _ => some cell
  | _ => none

/-- What it reports about an event. -/
def reports (event : Event) (args : Args) : Post → List Notice
  | counter id n =>
    if event = .frameAdvance ∧ (n + 1) % reportEvery = 0 then
      [.builtin (.framesReached id (n + 1))]
    else []
  | logger id => [.builtin (.eventSeen id event.kind args)]
  | watch id _ ticks =>
    match event with
    | .scriptEnd ended => [.builtin (.scriptEnded id (Int64.ofNat ended.val.toNat) ticks)]
    | _ => []
  | idle => []

/-- What becomes known of it when an event is delivered to it. -/
def signs (event : Event) (args : Args) (p : Post) : List Sign :=
  .delivered event :: (p.reports event args).map .logged

/-- What it has come to after an event. -/
def after (event : Event) : Post → Post
  | counter id n => counter id (if event = .frameAdvance then n + 1 else n)
  | watch id cell ticks => watch id cell (if event = .timerTick then ticks + 1 else ticks)
  | p => p

/-- An event moves nobody to another post. -/
@[simp] theorem name?_after (p : Post) (event : Event) : (p.after event).name? = p.name? := by
  cases p <;> rfl

/-- An event gives nobody another cell. -/
@[simp] theorem cell?_after (p : Post) (event : Event) : (p.after event).cell? = p.cell? := by
  cases p <;> rfl

/-- An instance of an id is at a post: what it is subscribed to, and what the memory holds
for it. -/
def IsHeld (m : Memory) (me : ScriptId) (s : Subscriptions Repertoire) : Post → Prop
  | counter id n => me = id ∧ (∀ kind, s.callback kind = none) ∧
      ∃ serial, ∀ kind, s.waiting kind
        = if kind = .frameAdvance then [⟨serial, .frameCounter id (some n)⟩] else []
  | logger id => me = id ∧ (∀ kind, s.waiting kind = []) ∧
      ∀ kind, s.callback kind = some (.eventLogger id kind)
  | watch id cell ticks => me = id ∧ (∀ kind, s.waiting kind = []) ∧
      (∀ kind, s.callback kind
        = if kind = .timerTick then some (.tickCounter cell)
          else if kind = .scriptEnd then some (.endReporter id cell) else none) ∧
      cell < m.cells.size ∧ m.count cell = ticks
  | idle => ∀ kind, s.isIdle kind = true

end Post

end Builtin

/-! ## The memory -/

namespace Memory

/-- One memory has the cells of another, and what they hold but for one. -/
structure SameBut (cell : Option Nat) (m m' : Memory) : Prop where
  size : m'.cells.size = m.cells.size
  count : ∀ c, cell ≠ some c → m'.count c = m.count c

theorem SameBut.refl (cell : Option Nat) (m : Memory) : m.SameBut cell m :=
  ⟨rfl, fun _ _ => rfl⟩

/-- Counting in one cell leaves the others alone. -/
theorem count_increment (m : Memory) (cell c : Nat) (hcell : cell < m.cells.size) :
    (m.increment cell).count c = if cell = c then m.count c + 1 else m.count c := by
  unfold count increment
  simp only [Array.getElem?_modify]
  split
  · next h =>
    subst h
    simp [hcell]
  · rfl

/-- Counting changes one cell only. -/
theorem sameBut_increment (m : Memory) {cell : Nat} (hcell : cell < m.cells.size) :
    m.SameBut (some cell) (m.increment cell) := by
  refine ⟨by simp [increment], fun c hc => ?_⟩
  rw [count_increment m cell c hcell, if_neg fun h => hc (congrArg some h)]

/-- One memory has the cells of another, with what they hold, and perhaps more. -/
structure Extends (m m' : Memory) : Prop where
  size : m.cells.size ≤ m'.cells.size
  count : ∀ c < m.cells.size, m'.count c = m.count c

theorem Extends.refl (m : Memory) : m.Extends m :=
  ⟨Nat.le_refl _, fun _ _ => rfl⟩

end Memory

namespace Event

theorem kind_eq_frameAdvance {event : Event} :
    event.kind = .frameAdvance ↔ event = .frameAdvance := by
  cases event <;> simp [kind]

theorem kind_eq_timerTick {event : Event} : event.kind = .timerTick ↔ event = .timerTick := by
  cases event <;> simp [kind]

end Event

/-! ## The code -/

namespace Builtin

/-- A run of the frame counter but for the first. -/
theorem result?_countFrame (id : ScriptId) (n : Nat) (m : Memory) :
    (countFrame id (some n)).result? m
        = some (.ok (.await (.ofKind .frameAdvance) (.frameCounter id (some (n + 1)))), m) ∧
      (countFrame id (some n)).notices m
        = if (n + 1) % reportEvery = 0 then [.builtin (.framesReached id (n + 1))] else [] := by
  by_cases h : (n + 1) % reportEvery = 0
  · have hcode : countFrame id (some n) = .log (.builtin (.framesReached id (n + 1)))
        (.ret (.ok (.await (.ofKind .frameAdvance) (.frameCounter id (some (n + 1)))))) := by
      simp [countFrame, h]
      rfl
    rw [hcode, if_pos h]
    exact ⟨rfl, rfl⟩
  · have hcode : countFrame id (some n)
        = .ret (.ok (.await (.ofKind .frameAdvance) (.frameCounter id (some (n + 1))))) := by
      simp [countFrame, h]
      rfl
    rw [hcode, if_neg h]
    exact ⟨rfl, rfl⟩

end Builtin

namespace World

open Builtin

variable {w : World Repertoire} {i : Nat} {me : ScriptId} {p : Post} {event : Event} {args : Args}

/-- What comes of an event that is delivered to an instance at a post: it reports what the
post has to report, and comes to the next post.  Nothing else changes but its cell. -/
def Answers (w : World Repertoire) (i : Nat) (me : ScriptId) (event : Event) (args : Args)
    (p : Post) : Prop :=
  ∀ below : List (Frame Repertoire), ∃ table m' news,
    Config.Reveals repertoire ⟨(w.deliver i event).1, (w.deliver i event).2 ++ below⟩
      (Sign.about i ((p.reports event args).map .logged)) ⟨w.turned i table m' news, below⟩ ∧
    (p.after event).IsHeld m' me table ∧ Memory.SameBut p.cell? w.memory m'

/-- Where nothing is subscribed to, nothing comes of it. -/
theorem answers_of_isIdle (hidle : (w.subscriptions (.script i)).isIdle event.kind = true)
    (hp : p.IsHeld w.memory me (w.subscriptions (.script i)))
    (hreports : p.reports event args = []) (hafter : p.after event = p) :
    w.Answers i me event args p := by
  intro below
  refine ⟨w.subscriptions (.script i), w.memory, [], ?_, by rwa [hafter], .refl _ _⟩
  rw [w.deliver_of_isIdle i event hidle, turned_self, hreports]
  exact (Config.Reveals.refl _).congr fun j => by simp

/-- A frame counter answers an event. -/
theorem answers_counter {id : ScriptId} {n : Nat} (halive : w.isAlive i = true)
    (hp : (Post.counter id n).IsHeld w.memory me (w.subscriptions (.script i)))
    (hargs : event.args = .ok args) : w.Answers i me event args (.counter id n) := by
  obtain ⟨hid, hcallback, serial, hwaiting⟩ := hp
  by_cases hframe : event = .frameAdvance
  · subst hframe
    obtain ⟨hresult, hnotices⟩ := result?_countFrame id n w.memory
    intro below
    have hqueue : (w.subscriptions (.script i)).waiting .frameAdvance
        = [⟨serial, .frameCounter id (some n)⟩] := by rw [hwaiting, if_pos rfl]
    obtain ⟨news, hreveals⟩ := reveals_woken (I := repertoire) halive hargs hqueue
      (hcallback .frameAdvance) hresult (AwaitRequest.resolve_ofKind .frameAdvance) below
    refine ⟨_, _, news, hreveals.congr fun j => ?_, ⟨hid, fun kind => ?_, serial, fun kind => ?_⟩,
      .refl _ _⟩
    · have hreports : (repertoire.resume (.frameCounter id (some n)) args).notices w.memory
          = (Post.counter id n).reports .frameAdvance args := by
        simp only [Post.reports, true_and]
        exact hnotices
      rw [hreports]
    · simp [hcallback]
    · by_cases hkind : kind = .frameAdvance
      · subst hkind
        simp [Subscriptions.waiting_park, Subscriptions.waiting_drain, Event.kind]
      · simp [Subscriptions.waiting_park, Subscriptions.waiting_drain, Event.kind, hwaiting, hkind,
          Ne.symm hkind]
  · have hkind : event.kind ≠ .frameAdvance := fun h => hframe (Event.kind_eq_frameAdvance.mp h)
    refine answers_of_isIdle ?_ ⟨hid, hcallback, serial, hwaiting⟩ (by simp [Post.reports, hframe])
      (by simp [Post.after, hframe])
    rw [Subscriptions.isIdle_iff, hcallback, hwaiting, if_neg hkind]
    exact ⟨rfl, rfl⟩

/-- An event logger answers an event. -/
theorem answers_logger {id : ScriptId} (halive : w.isAlive i = true)
    (hp : (Post.logger id).IsHeld w.memory me (w.subscriptions (.script i)))
    (hargs : event.args = .ok args) : w.Answers i me event args (.logger id) := by
  obtain ⟨hid, hwaiting, hcallback⟩ := hp
  intro below
  obtain ⟨news, hreveals⟩ := reveals_called (I := repertoire) (m := w.memory) halive hargs
    (hwaiting event.kind) (c := .eventLogger id event.kind) (hcallback event.kind) rfl below
  refine ⟨_, _, news, hreveals, ⟨hid, fun kind => ?_, fun kind => ?_⟩, .refl _ _⟩
  · simp [Subscriptions.waiting_drain, hwaiting]
  · simp [hcallback]

/-- A tick watch answers an event. -/
theorem answers_watch {id : ScriptId} {cell ticks : Nat} (halive : w.isAlive i = true)
    (hp : (Post.watch id cell ticks).IsHeld w.memory me (w.subscriptions (.script i)))
    (hargs : event.args = .ok args) : w.Answers i me event args (.watch id cell ticks) := by
  obtain ⟨hid, hwaiting, hcallback, hcell, hcount⟩ := hp
  have hdrained : ∀ kind, ((w.subscriptions (.script i)).drain event.kind).waiting kind = [] := by
    intro kind
    simp [Subscriptions.waiting_drain, hwaiting]
  have hslot : ∀ kind, ((w.subscriptions (.script i)).drain event.kind).callback kind
      = (w.subscriptions (.script i)).callback kind := by
    intro kind
    simp
  by_cases htick : event.kind = .timerTick
  · obtain rfl := Event.kind_eq_timerTick.mp htick
    intro below
    obtain ⟨news, hreveals⟩ := reveals_called (I := repertoire) (m := w.memory.increment cell)
      halive hargs (hwaiting .timerTick) (c := .tickCounter cell) (hcallback .timerTick) rfl below
    refine ⟨_, _, news, hreveals, ⟨hid, hdrained, fun kind => (hslot kind).trans (hcallback kind),
      ?_, ?_⟩, w.memory.sameBut_increment hcell⟩
    · exact (w.memory.sameBut_increment hcell).size ▸ hcell
    · rw [w.memory.count_increment cell cell hcell, if_pos rfl, hcount, if_pos rfl]
  · have hother : event ≠ .timerTick := fun h => htick (h ▸ rfl)
    by_cases hended : ∃ ended, event = .scriptEnd ended
    · obtain ⟨ended, rfl⟩ := hended
      obtain rfl : [.int (Int64.ofNat ended.val.toNat)] = args := by simpa [Event.args] using hargs
      intro below
      obtain ⟨news, hreveals⟩ := reveals_called (I := repertoire) (m := w.memory) halive hargs
        (hwaiting .scriptEnd) (c := .endReporter id cell) (hcallback .scriptEnd) rfl below
      refine ⟨_, _, news, hreveals.congr fun j => ?_, ⟨hid, hdrained,
        fun kind => (hslot kind).trans (hcallback kind), hcell, ?_⟩, .refl _ _⟩
      · rw [← hcount]
        rfl
      · rw [hcount, if_neg hother]
    · have hkind : event.kind ≠ .scriptEnd := by
        intro h
        cases event <;> cases h
        exact hended ⟨_, rfl⟩
      refine answers_of_isIdle ?_ ⟨hid, hwaiting, hcallback, hcell, hcount⟩ ?_
        (by simp [Post.after, hother])
      · rw [Subscriptions.isIdle_iff, hcallback, hwaiting, if_neg htick, if_neg hkind]
        exact ⟨rfl, rfl⟩
      · cases event with
        | scriptEnd ended => exact absurd ⟨ended, rfl⟩ hended
        | _ => rfl

/-- **An instance at a post hears of an event.** -/
theorem answers_delivery (halive : w.isAlive i = true)
    (hp : p.IsHeld w.memory me (w.subscriptions (.script i))) (hargs : event.args = .ok args) :
    w.Answers i me event args p := by
  cases p with
  | counter id n => exact answers_counter halive hp hargs
  | logger id => exact answers_logger halive hp hargs
  | watch id cell ticks => exact answers_watch halive hp hargs
  | idle => exact answers_of_isIdle (hp event.kind) hp rfl rfl

end World

/-! ## Emissions -/

/-- What others count does not touch what one counts. -/
theorem Builtin.Post.IsHeld.sameBut {m m' : Memory} {me : ScriptId} {s : Subscriptions Repertoire}
    {p : Builtin.Post} {cell : Option Nat} (h : p.IsHeld m me s) (hm : m.SameBut cell m')
    (hapart : ∀ c, p.cell? = some c → cell ≠ some c) : p.IsHeld m' me s := by
  cases p with
  | counter | logger | idle => exact h
  | watch id c ticks =>
    obtain ⟨hid, hwaiting, hcallback, hcell, hcount⟩ := h
    exact ⟨hid, hwaiting, hcallback, hm.size ▸ hcell, (hm.count c (hapart c rfl)).trans hcount⟩

namespace World

open Builtin

/-- Whoever has not ended is at a post of the script its file has, and no two count in one
cell. -/
structure Staffed (w : World Repertoire) (post : Nat → Post) : Prop where
  held : ∀ i b, w.view.infos[i]? = some b → b.isAlive = true →
    (post i).IsHeld w.memory b.id (w.subscriptions (.script i))
  named : ∀ i b, w.view.infos[i]? = some b → b.isAlive = true →
    (post i).name? = if engine.supports b.path then b.path.stem? else none
  apart : ∀ i j, w.view.isAlive i = true → w.view.isAlive j = true → i ≠ j →
    ∀ cell, (post i).cell? = some cell → (post j).cell? ≠ some cell

variable {w w' : World Repertoire} {post post' : Nat → Post} {event : Event} {args : Args}

/-- Whether somebody is alive can be seen of him. -/
theorem isAlive_of_info {w : World Repertoire} {i : Nat} {b : InstanceInfo}
    (hb : w.view.infos[i]? = some b) : w.view.isAlive i = b.isAlive := by
  simp [View.isAlive, hb]

/-- Of whoever is alive something can be seen. -/
theorem exists_info {w : World Repertoire} {i : Nat} (h : w.view.isAlive i = true) :
    ∃ b, w.view.infos[i]? = some b ∧ b.isAlive = true := by
  simpa [View.isAlive, Option.any_eq_true] using h

/-- Whoever has not ended was there, and had the same id, file and table. -/
theorem Staffed.inherit (h : w.Staffed post) (hmemory : w'.memory = w.memory)
    (hkept : ∀ i b, w'.view.infos[i]? = some b → b.isAlive = true →
      ∃ b₀, w.view.infos[i]? = some b₀ ∧ b₀.isAlive = true ∧ b₀.id = b.id ∧ b₀.path = b.path ∧
        w'.subscriptions (.script i) = w.subscriptions (.script i) ∧ post' i = post i) :
    w'.Staffed post' := by
  refine ⟨fun i b hb halive => ?_, fun i b hb halive => ?_, fun i j hi hj hij => ?_⟩
  · obtain ⟨b₀, hb₀, halive₀, hid, -, htable, hpost⟩ := hkept i b hb halive
    rw [hmemory, htable, hpost, ← hid]
    exact h.held i b₀ hb₀ halive₀
  · obtain ⟨b₀, hb₀, halive₀, -, hpath, -, hpost⟩ := hkept i b hb halive
    rw [hpost, ← hpath]
    exact h.named i b₀ hb₀ halive₀
  · obtain ⟨b, hb, hbalive⟩ := exists_info hi
    obtain ⟨c, hc, hcalive⟩ := exists_info hj
    obtain ⟨b₀, hb₀, hblives, -, -, -, hpost⟩ := hkept i b hb hbalive
    obtain ⟨c₀, hc₀, hclives, -, -, -, hpost'⟩ := hkept j c hc hcalive
    rw [hpost, hpost']
    exact h.apart i j ((isAlive_of_info hb₀).trans hblives) ((isAlive_of_info hc₀).trans hclives)
      hij

/-- Only the view, the memory and the tables matter, and only the posts of those who have
not ended. -/
theorem Staffed.congr (h : w.Staffed post) (hview : w'.view = w.view)
    (hmemory : w'.memory = w.memory)
    (htable : ∀ i, w'.subscriptions (.script i) = w.subscriptions (.script i))
    (hsame : ∀ i, w.view.isAlive i = true → post' i = post i) : w'.Staffed post' := by
  refine h.inherit hmemory fun i b hb halive => ?_
  rw [hview] at hb
  exact ⟨b, hb, halive, rfl, rfl, htable i, hsame i ((isAlive_of_info hb).trans halive)⟩

/-- Where one instance has heard of an event, the others are at their posts still. -/
theorem Staffed.turned (h : w.Staffed post) {i : Nat} (hlives : w.view.isAlive i = true)
    {table : Subscriptions Repertoire} {m' : Memory} (news : List (Happening Repertoire))
    (hheld : ∀ b, w.view.infos[i]? = some b → ((post i).after event).IsHeld m' b.id table)
    (hm : w.memory.SameBut (post i).cell? m') :
    (w.turned i table m' news).Staffed (Function.update post i ((post i).after event)) := by
  have hview := w.view_turned i table m' news
  have hcells : ∀ j, (Function.update post i ((post i).after event) j).cell? = (post j).cell? := by
    intro j
    by_cases hj : j = i
    · subst hj
      simp
    · rw [Function.update_of_ne hj]
  refine ⟨fun j b hb halive => ?_, fun j b hb halive => ?_, fun j k hj hk hjk cell => ?_⟩
  · rw [hview] at hb
    by_cases hj : j = i
    · subst hj
      rw [subscriptions_turned table m' news ((w.isAlive_eq j).trans hlives), Function.update_self]
      exact hheld b hb
    · rw [subscriptions_turned_of_ne w (Ne.symm hj), Function.update_of_ne hj]
      have hjlives : w.view.isAlive j = true := (isAlive_of_info hb).trans halive
      exact (h.held j b hb halive).sameBut hm fun c hc => h.apart j i hjlives hlives hj c hc
  · rw [hview] at hb
    by_cases hj : j = i
    · subst hj
      rw [Function.update_self, Post.name?_after]
      exact h.named j b hb halive
    · rw [Function.update_of_ne hj]
      exact h.named j b hb halive
  · rw [hview] at hj hk
    rw [hcells, hcells]
    exact h.apart j k hj hk hjk cell

/-- **Everybody on a list hears of an event once**, one after another. -/
theorem reveals_listeners (hargs : event.args = .ok args) (n : Nat)
    {listeners : List (Listener Repertoire)} (hstaffed : w.Staffed post)
    (hall : ∀ l ∈ listeners, ∃ i, l.place? = some i ∧ w.view.isAlive i = true)
    (hnodup : (listeners.filterMap Listener.place?).Nodup) (below : List (Frame Repertoire)) :
    ∃ w', Config.Reveals repertoire ⟨w, .emission n event listeners :: below⟩
        (fun i => if i ∈ listeners.filterMap Listener.place? then (post i).signs event args else [])
        ⟨w', below⟩ ∧
      w'.view = w.view ∧
      w'.Staffed fun i =>
        if i ∈ listeners.filterMap Listener.place? then (post i).after event else post i := by
  induction listeners generalizing w post with
  | nil =>
    refine ⟨w, ((Config.Reveals.refl _).silent rfl fun i => ?_).congr fun i => by simp, rfl,
      by simpa using hstaffed⟩
    exact Config.sign?_of_ne (by simp) _ _ i
  | cons l rest ih =>
    obtain ⟨⟨i, hplace, hlives⟩, hrest⟩ := List.forall_mem_cons.mp hall
    rw [List.filterMap_cons, hplace] at hnodup ⊢
    obtain ⟨hnew, hnodup⟩ := List.nodup_cons.mp hnodup
    have halive : w.isAlive i = true := (w.isAlive_eq i).trans hlives
    -- the first one hears of it
    let w₀ := w.record (.reached n l.id)
    have hstaffed₀ : w₀.Staffed post :=
      hstaffed.congr rfl rfl (fun _ => rfl) fun _ _ => rfl
    obtain ⟨b, hb, hbalive⟩ := exists_info hlives
    obtain ⟨table, m', news, hdelivered, hheld, hm⟩ := answers_delivery (w := w₀) halive
      (hstaffed₀.held i b hb hbalive) hargs (.emission n event rest :: below)
    have hheld₀ : ∀ b', w₀.view.infos[i]? = some b' →
        ((post i).after event).IsHeld m' b'.id table :=
      fun b' hb' => Option.some.inj (hb.symm.trans hb') ▸ hheld
    have hstaffed₁ := hstaffed₀.turned hlives news hheld₀ hm
    have hview₁ : (w₀.turned i table m' news).view = w.view := w₀.view_turned i table m' news
    -- then the others
    obtain ⟨w', hlater, hview, hstaffed'⟩ := ih hstaffed₁ (hview₁ ▸ hrest) hnodup
    have hstep : Config.step? repertoire ⟨w, .emission n event (l :: rest) :: below⟩
        = some ⟨(w₀.deliver i event).1,
          (w₀.deliver i event).2 ++ .emission n event rest :: below⟩ := by
      have hhook : l.hook = .script i := Listener.place?_eq_some.mp hplace
      simp [Config.step?, Frame.advance, hhook, w₀]
    have hsign : ∀ j, (⟨w, .emission n event (l :: rest) :: below⟩ : Config Repertoire).sign? j
        = if i = j then some (.delivered event) else none := by
      intro j
      rw [Config.sign?_of_ne (by simp)]
      by_cases hj : i = j
      · subst hj
        simp [Frame.sign?, hplace, halive]
      · simp [Frame.sign?, hplace, hj]
    refine ⟨w', ((hdelivered.trans hlater).head hstep).congr fun j => ?_, hview.trans hview₁,
      hstaffed'.congr rfl rfl (fun _ => rfl) fun j _ => ?_⟩
    · rw [hsign]
      by_cases hj : i = j
      · subst hj
        simp [Sign.about, hnew, Post.signs]
      · by_cases hmem : j ∈ rest.filterMap Listener.place?
        · simp [Sign.about, hj, Ne.symm hj, hmem]
        · simp [Sign.about, hj, Ne.symm hj, hmem]
    · by_cases hj : j = i
      · subst hj
        simp [hnew]
      · by_cases hmem : j ∈ rest.filterMap Listener.place?
        · simp [hj, hmem]
        · simp [hj, hmem]

/-- Every listener is one of an instance, and every instance that has not ended has one for
every kind. -/
structure Manned (w : World Repertoire) : Prop where
  orderly : w.view.Orderly
  attached : ∀ i, w.view.Attached i
  scripted : w.hub.handlers = 0

/-- Who is on the lists can be seen. -/
theorem Manned.of_view (h : w.Manned) (hview : w'.view = w.view) : w'.Manned := by
  have hhub : w'.hub = w.hub := congrArg View.hub hview
  exact ⟨hview ▸ h.orderly, hview ▸ h.attached, hhub ▸ h.scripted⟩

/-- Whoever is on a list is an instance that has not ended. -/
theorem Manned.exists_place (h : w.Manned) {kind : EventKind} {l : Listener Repertoire}
    (hl : l ∈ w.hub.listeners kind) : ∃ i, l.place? = some i ∧ w.view.isAlive i = true := by
  have hnone := List.countP_eq_zero.mp h.scripted l
    (List.mem_flatMap.mpr ⟨kind, EventKind.mem_all kind, hl⟩)
  obtain ⟨i, hplace⟩ : ∃ i, l.place? = some i := by
    cases hplace : l.place? with
    | none => simp [hplace] at hnone
    | some i => exact ⟨i, rfl⟩
  have hmem : i ∈ w.view.hub.places kind :=
    Hub.mem_places.mpr ⟨l, hl, Listener.place?_eq_some.mp hplace⟩
  exact ⟨i, hplace, h.orderly.isAlive_of_mem_places hmem⟩

/-- **An event that is emitted** is delivered to everybody who has not ended, and to each of
them once. -/
theorem reveals_emission (hmanned : w.Manned) (hstaffed : w.Staffed post)
    (hargs : event.args = .ok args) (below : List (Frame Repertoire)) :
    ∃ w', Config.Reveals repertoire
        ⟨(w.beginEmission event).1, (w.beginEmission event).2 :: below⟩
        (fun i => if w.view.isAlive i then (post i).signs event args else []) ⟨w', below⟩ ∧
      w'.view = w.view ∧ w'.Staffed fun i => (post i).after event := by
  have hplaces : w.hub.places event.kind = w.view.alive :=
    View.places_eq_alive hmanned.orderly hmanned.attached event.kind
  have hmem : ∀ i, i ∈ w.hub.places event.kind ↔ w.view.isAlive i = true := by
    intro i
    rw [hplaces, View.mem_alive]
  have hnodup : (w.hub.places event.kind).Nodup := by
    rw [hplaces]
    exact List.nodup_range.filter _
  obtain ⟨w', hreveals, hview, hstaffed'⟩ := reveals_listeners (w := (w.beginEmission event).1)
    hargs w.emissions (hstaffed.congr rfl rfl (fun _ => rfl) fun _ _ => rfl)
    (fun l hl => hmanned.exists_place hl) hnodup below
  refine ⟨w', hreveals.congr fun i => if_congr (hmem i) rfl rfl, hview,
    hstaffed'.congr rfl rfl (fun _ => rfl) fun i hi => ?_⟩
  rw [hview] at hi
  exact (if_pos ((hmem i).mpr hi)).symm

end World

end ScriptHost
