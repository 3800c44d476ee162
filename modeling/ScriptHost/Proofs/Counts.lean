import ScriptHost.Proofs.Careers
import ScriptHost.Proofs.Recruits

/-!
# What the built-in scripts count

What has become known of an instance of a built-in script and the post it is at go
together: the frame counter has counted the frames that were emitted, and reported every
sixtieth; the tick watch has counted the ticks, and reported, of every end it heard of, the
ticks up to then.

* `Builtin.Post.Accounts.after` — one event keeps an instance so;
* `Audit` — where that goes for everybody, while those who have ended are at rest;
* `Audit.exists_emission`, `Audit.exists_obeyed` — an event, and every order of a registry,
  comes to its end, and the audit stands.
-/

namespace ScriptHost

/-! ## The reports that are due -/

namespace Sign

/-- The events that are emitted. -/
def emissions (signs : List Sign) : List Event :=
  signs.filterMap emitted?

/-- The events that are delivered. -/
def deliveries (signs : List Sign) : List Event :=
  signs.filterMap delivered?

/-- What is reported. -/
def reports (signs : List Sign) : List Notice :=
  signs.filterMap logged?

variable (signs signs' : List Sign) (notices : List Notice)

@[simp] theorem emissions_append :
    emissions (signs ++ signs') = emissions signs ++ emissions signs' :=
  List.filterMap_append

@[simp] theorem deliveries_append :
    deliveries (signs ++ signs') = deliveries signs ++ deliveries signs' :=
  List.filterMap_append

@[simp] theorem reports_append : reports (signs ++ signs') = reports signs ++ reports signs' :=
  List.filterMap_append

@[simp] theorem emissions_logged : emissions (notices.map logged) = [] := by
  induction notices with
  | nil => rfl
  | cons n rest ih => exact ih

@[simp] theorem deliveries_logged : deliveries (notices.map logged) = [] := by
  induction notices with
  | nil => rfl
  | cons n rest ih => exact ih

@[simp] theorem reports_logged : reports (notices.map logged) = notices := by
  induction notices with
  | nil => rfl
  | cons n rest ih => exact congrArg (n :: ·) ih

end Sign

namespace Builtin

/-- The reports of a frame counter that has counted so many frames: one for every sixtieth. -/
def frameReports (id : ScriptId) (frames : Nat) : List Notice :=
  (List.range (frames / reportEvery)).map fun k =>
    .builtin (.framesReached id (reportEvery * (k + 1)))

/-- The reports of a tick watch: one for every end that is delivered, with the ticks that
were emitted before. -/
def endReports (id : ScriptId) : Nat → List Sign → List Notice
  | _, [] => []
  | ticks, .emitted .timerTick :: rest => endReports id (ticks + 1) rest
  | ticks, .delivered (.scriptEnd ended) :: rest =>
    .builtin (.scriptEnded id (Int64.ofNat ended.val.toNat) ticks) :: endReports id ticks rest
  | ticks, _ :: rest => endReports id ticks rest

/-- A frame is counted. -/
theorem frameReports_succ (id : ScriptId) (n : Nat) :
    frameReports id (n + 1) = frameReports id n
      ++ if (n + 1) % reportEvery = 0 then [.builtin (.framesReached id (n + 1))] else [] := by
  unfold frameReports
  by_cases h : (n + 1) % reportEvery = 0
  · have hdiv : (n + 1) / reportEvery = n / reportEvery + 1 := by
      unfold reportEvery at h ⊢
      omega
    have hlast : reportEvery * (n / reportEvery + 1) = n + 1 := by
      unfold reportEvery at h ⊢
      omega
    rw [hdiv, List.range_succ, List.map_append, List.map_singleton, hlast, if_pos h]
  · have hdiv : (n + 1) / reportEvery = n / reportEvery := by
      unfold reportEvery at h ⊢
      omega
    rw [hdiv, if_neg h, List.append_nil]

/-- What is reported of later ends goes on with the ticks counted so far. -/
theorem endReports_append (id : ScriptId) (ticks : Nat) (signs signs' : List Sign) :
    endReports id ticks (signs ++ signs') = endReports id ticks signs
      ++ endReports id (ticks + (Sign.emissions signs).count .timerTick) signs' := by
  induction signs generalizing ticks with
  | nil => rfl
  | cons s rest ih =>
    cases s with
    | logged n => exact ih ticks
    | emitted event =>
      have hcount : (Sign.emissions (.emitted event :: rest)).count .timerTick
          = (Sign.emissions rest).count .timerTick + if event = .timerTick then 1 else 0 := by
        simp [Sign.emissions, Sign.emitted?, List.count_cons]
      rw [hcount]
      cases event with
      | timerTick =>
        have hsum : ticks + ((Sign.emissions rest).count .timerTick + 1)
            = ticks + 1 + (Sign.emissions rest).count .timerTick := by omega
        rw [if_pos rfl, hsum]
        exact ih (ticks + 1)
      | _ => exact ih ticks
    | delivered event =>
      cases event with
      | scriptEnd ended => exact congrArg (_ :: ·) (ih ticks)
      | _ => exact ih ticks

/-- Nothing is due for what is reported. -/
theorem endReports_logged (id : ScriptId) (ticks : Nat) (notices : List Notice) :
    endReports id ticks (notices.map .logged) = [] := by
  induction notices with
  | nil => rfl
  | cons n rest ih => exact ih

namespace Post

/-- What has become known of an instance goes with its post: it has counted what was
emitted, and reported what was due. -/
def Accounts (signs : List Sign) : Post → Prop
  | counter id n => n = (Sign.emissions signs).count .frameAdvance ∧
      Sign.reports signs = frameReports id n
  | watch id _ ticks => ticks = (Sign.emissions signs).count .timerTick ∧
      Sign.reports signs = endReports id 0 signs
  | _ => True

variable {p : Post} {signs pre : List Sign} {event : Event} {args : Args}

/-- Whoever has counted nothing goes with an empty record. -/
theorem accounts_nil (h : p.count = 0) : p.Accounts [] := by
  cases p with
  | counter id n =>
    obtain rfl : n = 0 := h
    exact ⟨rfl, rfl⟩
  | watch id cell ticks =>
    obtain rfl : ticks = 0 := h
    exact ⟨rfl, rfl⟩
  | logger | idle => trivial

/-- What somebody does at his post is no emission. -/
@[simp] theorem emissions_signs : Sign.emissions (p.signs event args) = [] :=
  Sign.emissions_logged _

/-- What somebody says at his post are the reports of the post. -/
@[simp] theorem reports_signs : Sign.reports (p.signs event args) = p.reports event args :=
  Sign.reports_logged _

/-- At a post one event is delivered at a time. -/
@[simp] theorem deliveries_signs : Sign.deliveries (p.signs event args) = [event] :=
  congrArg (event :: ·) (Sign.deliveries_logged _)

/-- What is known of an event before it is delivered: that the host emits it, unless it is
the end of a script, which is announced by nobody's emission. -/
def Announces (event : Event) (pre : List Sign) : Prop :=
  pre = [.emitted event] ∨ pre = [] ∧ ∃ ended, event = .scriptEnd ended

/-- An event is counted where it was announced, and only there. -/
theorem Announces.count (hpre : Announces event pre) {e : Event}
    (he : ∀ ended, e ≠ .scriptEnd ended) :
    (Sign.emissions (signs ++ (pre ++ p.signs event args))).count e
      = (Sign.emissions signs).count e + if event = e then 1 else 0 := by
  rw [Sign.emissions_append, Sign.emissions_append, emissions_signs, List.append_nil,
    List.count_append]
  rcases hpre with rfl | ⟨rfl, ended, rfl⟩
  · simp [Sign.emissions, Sign.emitted?, List.count_cons]
  · simp [Sign.emissions, Ne.symm (he ended)]

/-- The announcement of an event reports nothing by itself. -/
theorem Announces.reports (hpre : Announces event pre) :
    Sign.reports (signs ++ (pre ++ p.signs event args))
      = Sign.reports signs ++ p.reports event args := by
  rw [Sign.reports_append, Sign.reports_append, reports_signs]
  rcases hpre with rfl | ⟨rfl, -⟩ <;> rfl

/-- What is due for one event is what the tick watch reports. -/
theorem Announces.endReports (hpre : Announces event pre) (id : ScriptId) (cell ticks : Nat) :
    endReports id ticks (pre ++ (watch id cell ticks).signs event args)
      = (watch id cell ticks).reports event args := by
  have hend : ∀ ended, Builtin.endReports id ticks
      ((watch id cell ticks).signs (.scriptEnd ended) args)
        = (watch id cell ticks).reports (.scriptEnd ended) args := fun ended =>
    congrArg (_ :: ·) (endReports_logged id ticks _)
  rcases hpre with rfl | ⟨rfl, ended, rfl⟩
  · cases event with
    | scriptEnd ended => exact hend ended
    | _ => rfl
  · exact hend ended

/-- **One event** is counted, and what is due is reported. -/
theorem Accounts.after (h : p.Accounts signs) (hpre : Announces event pre) :
    (p.after event).Accounts (signs ++ (pre ++ p.signs event args)) := by
  cases p with
  | counter id n =>
    obtain ⟨hn, hlogged⟩ := h
    refine ⟨?_, ?_⟩
    · rw [hpre.count (e := .frameAdvance) (by simp), ← hn]
      split <;> rfl
    · rw [hpre.reports, hlogged]
      by_cases hframe : event = .frameAdvance
      · rw [if_pos hframe, frameReports_succ]
        simp [reports, hframe]
      · rw [if_neg hframe]
        simp [reports, hframe]
  | watch id cell ticks =>
    obtain ⟨hticks, hlogged⟩ := h
    refine ⟨?_, ?_⟩
    · rw [hpre.count (e := .timerTick) (by simp), ← hticks]
      split <;> rfl
    · rw [hpre.reports, hlogged, endReports_append, Nat.zero_add, ← hticks, hpre.endReports]
  | logger | idle => trivial

end Post

end Builtin

/-! ## Everybody's counts -/

namespace World

open Builtin

variable {w w' : World Repertoire} {post : Nat → Post} {i : Nat} {b : InstanceInfo}

/-- The script of an instance that has not ended is told by the name of its file. -/
theorem Staffed.name?_eq (h : w.Staffed post) (hb : w.view.infos[i]? = some b)
    (halive : b.isAlive = true) {name : String} (hstem : b.path.stem? = some name)
    (hknown : (engine.entries.lookup name).isSome = true) : (post i).name? = some name := by
  have hsupports : engine.supports b.path = true := by
    rw [Engine.supports, Engine.entryFor?, hstem]
    exact hknown
  rw [h.named i b hb halive, if_pos hsupports, hstem]

/-- A frame counter that has not ended is at the post of one. -/
theorem Staffed.exists_counter (h : w.Staffed post) (hb : w.view.infos[i]? = some b)
    (halive : b.isAlive = true) (hstem : b.path.stem? = some frameCounterName) :
    ∃ n, post i = .counter b.id n := by
  have hname := h.name?_eq hb halive hstem rfl
  have hheld := h.held i b hb halive
  cases hpost : post i with
  | counter id n =>
    rw [hpost] at hheld
    exact ⟨n, by rw [hheld.1]⟩
  | logger | watch | idle =>
    rw [hpost] at hname
    simp [Post.name?, frameCounterName, eventLoggerName, tickWatchName] at hname

/-- A tick watch that has not ended is at the post of one. -/
theorem Staffed.exists_watch (h : w.Staffed post) (hb : w.view.infos[i]? = some b)
    (halive : b.isAlive = true) (hstem : b.path.stem? = some tickWatchName) :
    ∃ cell ticks, post i = .watch b.id cell ticks := by
  have hname := h.name?_eq hb halive hstem rfl
  have hheld := h.held i b hb halive
  cases hpost : post i with
  | watch id cell ticks =>
    rw [hpost] at hheld
    exact ⟨cell, ticks, by rw [hheld.1]⟩
  | counter | logger | idle =>
    rw [hpost] at hname
    simp [Post.name?, frameCounterName, eventLoggerName, tickWatchName] at hname

end World

/-- What is known of an instance that has ended: the last event it heard of was its own
end, and what was due has been reported. -/
structure InstanceInfo.HasRested (b : InstanceInfo) (signs : List Sign) : Prop where
  last : (Sign.deliveries signs).getLast? = some (.scriptEnd b.id)
  reported : b.path.stem? = some Builtin.tickWatchName →
    Sign.reports signs = Builtin.endReports b.id 0 signs

/-- Whoever has ended hears of nothing any more. -/
theorem InstanceInfo.HasRested.later {b : InstanceInfo} {signs pre : List Sign} {event : Event}
    (h : b.HasRested signs) (hpre : Builtin.Post.Announces event pre) :
    b.HasRested (signs ++ pre) := by
  rcases hpre with rfl | ⟨rfl, -⟩
  · refine ⟨?_, fun hstem => ?_⟩
    · rw [Sign.deliveries_append]
      exact (congrArg List.getLast? (List.append_nil _)).trans h.last
    · rw [Sign.reports_append, Builtin.endReports_append]
      have hnone : ∀ ticks, Builtin.endReports b.id ticks [.emitted event] = [] := fun ticks => by
        cases event <;> rfl
      rw [hnone]
      exact congrArg (· ++ []) (h.reported hstem)
  · rwa [List.append_nil]

/-- Everybody's signs go with his post, after a trace that has led to a world. -/
structure Audit (cs : List (Config Repertoire)) (w : World Repertoire) : Prop where
  manned : w.Manned
  staffed : ∃ post, w.Staffed post ∧
    ∀ i, w.view.isAlive i = true → (post i).Accounts (Config.signs i cs)
  ended : ∀ i (b : InstanceInfo), w.view.infos[i]? = some b → b.isAlive = false →
    b.HasRested (Config.signs i cs)
  unborn : ∀ i, w.view.infos.length ≤ i → Config.signs i cs = []

namespace Audit

open Builtin

variable {cs cs' : List (Config Repertoire)} {w w' : World Repertoire} {event : Event} {args : Args}

/-- Where nothing becomes known and nothing changes that scripts go by, the audit stands. -/
theorem quiet (h : Audit cs w) (hview : w'.view = w.view) (hmemory : w'.memory = w.memory)
    (htable : ∀ i, w'.subscriptions (.script i) = w.subscriptions (.script i))
    (hsigns : ∀ i, Config.signs i cs' = []) : Audit (cs ++ cs') w' := by
  have hsame : ∀ i, Config.signs i (cs ++ cs') = Config.signs i cs := fun i => by
    rw [Config.signs_append, hsigns, List.append_nil]
  obtain ⟨post, hstaffed, haccounts⟩ := h.staffed
  refine ⟨h.manned.of_view hview, ⟨post, hstaffed.congr hview hmemory htable fun _ _ => rfl, ?_⟩,
    ?_, ?_⟩
  · simpa only [hsame, hview] using haccounts
  · simpa only [hsame, hview] using h.ended
  · simpa only [hsame, hview] using h.unborn

/-- **An event that everybody hears of** is counted by everybody, while those who have
ended stay at rest. -/
theorem heard (h : Audit cs w) {post : Nat → Post}
    (haccounts : ∀ i, w.view.isAlive i = true → (post i).Accounts (Config.signs i cs))
    {pre : List Sign} (hpre : Post.Announces event pre)
    (hsigns : ∀ i, Config.signs i cs' = (if i < w.view.infos.length then pre else []) ++
      if w.view.isAlive i then (post i).signs event args else []) :
    (∀ i, w.view.isAlive i = true →
      ((post i).after event).Accounts (Config.signs i (cs ++ cs'))) ∧
    (∀ i (b : InstanceInfo), w.view.infos[i]? = some b → b.isAlive = false →
      b.HasRested (Config.signs i (cs ++ cs'))) ∧
    ∀ i, w.view.infos.length ≤ i → Config.signs i (cs ++ cs') = [] := by
  refine ⟨fun i hlives => ?_, fun i b hb hended => ?_, fun i hi => ?_⟩
  · obtain ⟨b, hb, -⟩ := World.exists_info hlives
    rw [Config.signs_append, hsigns, if_pos (List.getElem?_eq_some_iff.mp hb).1, if_pos hlives]
    exact (haccounts i hlives).after hpre
  · have hrests : ¬ w.view.isAlive i = true := by simp [World.isAlive_of_info hb, hended]
    rw [Config.signs_append, hsigns, if_pos (List.getElem?_eq_some_iff.mp hb).1, if_neg hrests,
      List.append_nil]
    exact (h.ended i b hb hended).later hpre
  · have hrests : ¬ w.view.isAlive i = true := by
      simp [View.isAlive, List.getElem?_eq_none hi]
    rw [Config.signs_append, hsigns, if_neg (Nat.not_lt.mpr hi), if_neg hrests, h.unborn i hi]
    rfl

/-- **The host emits an event**, and that is what is known to be emitted. -/
theorem exists_emission (h : Audit cs w) (hargs : event.args = .ok args) :
    ∃ cs' w', Config.Trace repertoire
        ⟨w, [.handler (.act (.emit event) fun _ => .ret ())]⟩ cs' ⟨w', []⟩ ∧
      Audit (cs ++ cs') w' ∧ ∀ i, Sign.emissions (Config.signs i cs')
        = if i < w.instances.length then [event] else [] := by
  obtain ⟨post, hstaffed, haccounts⟩ := h.staffed
  obtain ⟨w', hreveals, hview, hstaffed'⟩ :=
    World.reveals_emission h.manned hstaffed hargs [.handler (.ret ())]
  have hreturns : Config.Reveals repertoire ⟨w', [.handler (.ret ())]⟩ (fun _ => []) ⟨w', []⟩ :=
    (Config.Reveals.refl _).silent rfl fun _ => rfl
  obtain ⟨cs', htrace, hsigns⟩ := (hreveals.trans hreturns).head
    (c := ⟨w, [.handler (.act (.emit event) fun _ => .ret ())]⟩) rfl
  have hsigns : ∀ i, Config.signs i cs'
      = (if i < w.view.infos.length then [Sign.emitted event] else []) ++
        if w.view.isAlive i then (post i).signs event args else [] := by
    intro i
    have hfirst : (Config.sign? i
        ⟨w, [.handler (.act (.emit event) fun _ => .ret ())]⟩ : Option Sign).toList
          = if i < w.view.infos.length then [Sign.emitted event] else [] := by
      rw [World.length_infos]
      show (if i < w.instances.length then some (Sign.emitted event) else none).toList = _
      split <;> rfl
    rw [← hfirst]
    exact (hsigns i).trans (congrArg (_ ++ ·) (List.append_nil _))
  obtain ⟨hcounted, hended, hunborn⟩ := h.heard haccounts (Or.inl rfl) hsigns
  refine ⟨cs', w', htrace, ⟨h.manned.of_view hview, ⟨_, hstaffed', ?_⟩, ?_, ?_⟩, fun i => ?_⟩
  · simpa only [hview] using hcounted
  · simpa only [hview] using hended
  · simpa only [hview] using hunborn
  · have hnone :
        Sign.emissions (if w.view.isAlive i then (post i).signs event args else []) = [] := by
      split
      · exact Post.emissions_signs
      · rfl
    rw [hsigns, Sign.emissions_append, hnone, List.append_nil, World.length_infos]
    split <;> rfl

/-- **An instance comes into being.** -/
theorem exists_birth (h : Audit cs w) (id : ScriptId) (path : Path) :
    ∃ cs' w', Config.Trace repertoire
      ⟨w.beginLife id path false, [.entry w.instances.length
        (engine.entry path id w.instances.length), .settle w.instances.length]⟩ cs' ⟨w', []⟩ ∧
      Audit (cs ++ cs') w' := by
  obtain ⟨post, hstaffed, haccounts⟩ := h.staffed
  obtain ⟨w', p, ⟨cs', htrace, hsigns⟩, hview, hcount, hstaffed'⟩ :=
    World.reveals_spawn hstaffed id path
  have hsame : ∀ i, Config.signs i (cs ++ cs') = Config.signs i cs := fun i => by
    rw [Config.signs_append, hsigns, List.append_nil]
  have hlength : w.view.infos.length = w.instances.length := w.length_infos
  have hmanned : w'.Manned := by
    have hborn : (w.beginLife id path false).Manned :=
      h.manned.after (w.view_beginLife id path false) nofun nofun
    refine hborn.after (e := .settle w.instances.length) ?_ nofun nofun
    rw [hview, w.view_beginLife id path false]
  have hinfo : ∀ j, w'.view.infos[j]? = if j = w.instances.length
      then some ⟨id, path, .running, View.freshIds w.view.hub.given, false⟩
      else w.view.infos[j]? := by
    intro j
    have hsettled : w'.view.infos[j]? = _ :=
      (congrArg (·.infos[j]?) hview).trans (List.getElem?_modify ..)
    rw [hsettled, View.getElem?_enroll, hlength]
    by_cases hj : j = w.instances.length
    · subst hj
      simp [InstanceInfo.settle]
    · simp [hj, Ne.symm hj]
  have hmore : w'.view.infos.length = w.instances.length + 1 := by
    rw [hview]
    simp [View.after, hlength]
  refine ⟨cs', w', htrace, hmanned, ⟨_, hstaffed', fun i hi => ?_⟩, fun i b hb hended => ?_,
    fun i hi => ?_⟩
  · rw [hsame]
    by_cases hin : i = w.instances.length
    · subst hin
      rw [Function.update_self, h.unborn _ (Nat.le_of_eq hlength)]
      exact Post.accounts_nil hcount
    · rw [Function.update_of_ne hin]
      refine haccounts i ?_
      simpa only [View.isAlive, hinfo i, if_neg hin] using hi
  · rw [hsame]
    rw [hinfo] at hb
    split at hb
    · obtain rfl := Option.some.inj hb
      cases hended
    · exact h.ended i b hb hended
  · rw [hsame]
    exact h.unborn i (by omega)

/-- **An instance is ended**, if it has not ended before. -/
theorem exists_ending (h : Audit cs w) (i : Nat) :
    ∃ cs' w', Config.Trace repertoire ⟨(w.beginEnding i).1, (w.beginEnding i).2⟩ cs' ⟨w', []⟩ ∧
      Audit (cs ++ cs') w' := by
  by_cases hlives : w.view.isAlive i = true
  · obtain ⟨b, hb, halive⟩ := World.exists_info hlives
    obtain ⟨post, hstaffed, haccounts⟩ := h.staffed
    obtain ⟨w', ⟨cs', htrace, hsigns⟩, hview, hstaffed'⟩ :=
      World.reveals_ending h.manned hstaffed hb halive
    obtain ⟨hcounted, hended, hunborn⟩ := h.heard haccounts (Or.inr ⟨rfl, b.id, rfl⟩) fun j => by
      rw [ite_self, List.nil_append]
      exact hsigns j
    have hafter : ∀ p : Post, p.after (.scriptEnd b.id) = p := by
      rintro (- | - | - | -) <;> rfl
    refine ⟨cs', w', htrace, h.manned.after hview nofun nofun, ⟨post, hstaffed', fun j hj => ?_⟩,
      fun j b' hb' hended' => ?_, fun j hj => ?_⟩
    · rw [hview, View.isAlive_dismiss] at hj
      have hcounts := hcounted j (Bool.and_eq_true_iff.mp hj).1
      rwa [hafter] at hcounts
    · rw [hview, View.after, List.getElem?_modify] at hb'
      by_cases hij : i = j
      · subst hij
        obtain rfl : b.dismiss = b' := by simpa [hb] using hb'
        have hcounts := hcounted i hlives
        rw [hafter] at hcounts
        refine ⟨?_, fun hstem => ?_⟩
        · rw [Config.signs_append, (hsigns i).trans (if_pos hlives), Sign.deliveries_append,
            Post.deliveries_signs, List.getLast?_concat]
          rfl
        · obtain ⟨cell, ticks, hpost⟩ := hstaffed.exists_watch hb halive hstem
          rw [hpost] at hcounts
          exact hcounts.2
      · exact hended j b' (by simpa [hij] using hb') hended'
    · rw [hview] at hj
      exact hunborn j (by simpa [View.after] using hj)
  · have hnone : w.farewell? i = none := by
      rw [← World.isAlive_eq] at hlives
      unfold World.isAlive at hlives
      unfold World.farewell?
      cases hx : w.instance? i with
      | none => rfl
      | some x => simpa [hx, Option.filter] using hlives
    rw [World.beginEnding_of_ended hnone]
    exact ⟨[], w, .nil _, by rwa [List.append_nil]⟩

/-- **Every order of a registry** with the engine of the built-in scripts comes to its end,
and the audit stands. -/
theorem exists_obeyed {o : Order Repertoire} (ho : o.Of engine) (h : Audit cs w) :
    ∃ cs' w', Config.Trace repertoire ⟨(w.beginOrder o).1, (w.beginOrder o).2⟩ cs' ⟨w', []⟩ ∧
      Audit (cs ++ cs') w' := by
  cases ho with
  | report n =>
    have hreturns : Config.Reveals repertoire ⟨w.log n, [.handler (.ret ())]⟩ (fun _ => [])
        ⟨w.log n, []⟩ := (Config.Reveals.refl _).silent rfl fun _ => rfl
    obtain ⟨cs', htrace, hsigns⟩ : Config.Reveals repertoire ⟨w, [.handler (.report n)]⟩
        (fun _ => []) ⟨w.log n, []⟩ := hreturns.silent rfl fun _ => rfl
    exact ⟨cs', _, htrace, h.quiet rfl rfl (fun _ => rfl) hsigns⟩
  | spawn id path => exact h.exists_birth id path
  | terminate i => exact h.exists_ending i
  | dropRequests => exact ⟨[], _, .nil _, h.quiet rfl rfl (fun _ => rfl) fun _ => rfl⟩

end Audit

end ScriptHost
