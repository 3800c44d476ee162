import ScriptHost.Proofs.Emissions

/-!
# The hub's lists bear out its book

Beside the hub one can keep a book of what came of each operation on it: under which id
a listener was registered, which id was removed, which id nobody knew.  The book tells
who is registered: whoever was given an id that has not been removed since.  The hub
does not look into a book.  It looks for an id on one list after another, and takes it
off the first that has it; that this comes to the same rests on ids which are given in
ascending order and stand on one list each.

The host keeps the numbers of the ids in 64 bits.  Until the count begins anew they are as
different as the ids themselves (`Hub.Registers.nodup_words`).

* `Hub.Registers.apply` — an operation keeps the lists and the book in agreement;
* `World.act_listen`, `World.act_unlisten` — what script code is answered;
* `Config.Move.hub_operationsTo` — every move applies operations to the hub, the host's
  as well;
* `Config.IsRun.registrations` — what is so at any time in any run.
-/

namespace ScriptHost

variable {D : Dialect}

/-- The number of an id as the host keeps it. -/
def ListenerId.word (id : ListenerId) : UInt64 :=
  .ofNat id.val

/-! ## The book -/

/-- What came of an operation on the hub. -/
inductive Booking (D : Dialect) where
  /-- A listener was registered under the id it has. -/
  | given (kind : EventKind) (l : Listener D)
  | removed (id : ListenerId)
  /-- Nobody was registered under the id. -/
  | unknown (id : ListenerId)

/-- What came of one operation after another, the oldest first. -/
abbrev Book (D : Dialect) :=
  List (Booking D)

namespace Book

/-- The ids that were given, in the order in which they were. -/
def ids : Book D → List ListenerId
  | [] => []
  | .given _ l :: later => l.id :: ids later
  | _ :: later => ids later

/-- Whether an id was removed. -/
def Removes (book : Book D) (id : ListenerId) : Prop :=
  .removed id ∈ book

/-- An id was given to somebody, and has not been removed since. -/
def Holds (book : Book D) (id : ListenerId) : Prop :=
  ∃ earlier kind l later, book = earlier ++ .given kind l :: later ∧ l.id = id ∧
    ¬ Removes later id

instance (book : Book D) (id : ListenerId) : Decidable (book.Removes id) :=
  decidable_of_iff (book.any fun | .removed id' => id' = id | _ => false) (by
    rw [List.any_eq_true]
    constructor
    · rintro ⟨b, hb, hid⟩
      cases b with
      | removed id' => exact of_decide_eq_true hid ▸ hb
      | given | unknown => cases hid
    · intro hid
      exact ⟨_, hid, decide_eq_true rfl⟩)

/-- The listeners of a kind that were given an id, and not removed since, in the order
in which they registered. -/
def standing (kind : EventKind) : Book D → List (Listener D)
  | [] => []
  | .given kind' l :: later =>
    if kind' = kind ∧ ¬ Removes later l.id then l :: standing kind later else standing kind later
  | _ :: later => standing kind later

theorem removes_append {book later : Book D} {id : ListenerId} :
    Removes (book ++ later) id ↔ Removes book id ∨ Removes later id :=
  List.mem_append

theorem ids_append (book later : Book D) : (book ++ later).ids = book.ids ++ later.ids := by
  induction book with
  | nil => rfl
  | cons b rest ih =>
    cases b with
    | given kind l => exact congrArg (l.id :: ·) ih
    | removed | unknown => exact ih

/-- What comes later takes off the listeners it removes, and brings its own. -/
theorem standing_append (kind : EventKind) (book later : Book D) :
    (book ++ later).standing kind
      = (book.standing kind).filter (fun l => ¬ Removes later l.id) ++ later.standing kind := by
  induction book with
  | nil => rfl
  | cons b rest ih =>
    cases b with
    | removed | unknown => exact ih
    | given kind' l =>
      simp only [List.cons_append, standing, removes_append, not_or, ih]
      by_cases hkind : kind' = kind
      · by_cases hrest : Removes rest l.id
        · simp [hrest]
        · by_cases hlater : Removes later l.id <;> simp [hkind, hrest, hlater]
      · simp [hkind]

/-- The book holds the ids of the listeners that stand in it. -/
theorem holds_iff_standing {book : Book D} {id : ListenerId} :
    book.Holds id ↔ ∃ kind, ∃ l ∈ book.standing kind, l.id = id := by
  constructor
  · rintro ⟨earlier, kind, l, later, rfl, rfl, hkept⟩
    refine ⟨kind, l, ?_, rfl⟩
    rw [standing_append]
    apply List.mem_append_right
    simp [standing, hkept]
  · rintro ⟨kind, l, hl, rfl⟩
    induction book with
    | nil => cases hl
    | cons b rest ih =>
      have further : l ∈ Book.standing kind rest → Holds (b :: rest) l.id := by
        intro hl
        obtain ⟨earlier, kind', l', later, rfl, hid, hkept⟩ := ih hl
        exact ⟨b :: earlier, kind', l', later, rfl, hid, hkept⟩
      cases b with
      | removed | unknown => exact further hl
      | given kind' l' =>
        rw [standing] at hl
        split at hl
        · next hstands =>
          rcases List.mem_cons.mp hl with rfl | hl
          · exact ⟨[], kind', l, rest, rfl, rfl, hstands.2⟩
          · exact further hl
        · exact further hl

end Book

namespace Hub

/-- What comes of an operation: a listener has the id that is handed out. -/
def outcome (h : Hub D) : HubOperation D → Booking D
  | .listen kind hook => .given kind ⟨(h.enlist kind hook).1, hook⟩
  | .unlisten id =>
    match h.kindOf? id with
    | some _ => .removed id
    | none => .unknown id

/-- What comes of operations, one after another. -/
def outcomes (h : Hub D) : List (HubOperation D) → Book D
  | [] => []
  | operation :: later => h.outcome operation :: (h.apply operation).outcomes later

theorem outcomes_append (h : Hub D) (earlier later : List (HubOperation D)) :
    h.outcomes (earlier ++ later) = h.outcomes earlier ++ (h.applyAll earlier).outcomes later := by
  induction earlier generalizing h with
  | nil => rfl
  | cons operation rest ih => exact congrArg (h.outcome operation :: ·) (ih (h.apply operation))

/-- The lists of a hub agree with a book, and the ids are those that count up to the
next one. -/
structure Registers (h : Hub D) (book : Book D) : Prop where
  orderly : h.Orderly
  ids : book.ids = (List.range h.given).map ListenerId.mk
  lists : ∀ kind, h.listeners kind = book.standing kind

theorem registers_empty : (empty : Hub D).Registers [] :=
  ⟨orderly_empty, rfl, listeners_empty⟩

/-- A registered id is on a list. -/
theorem isSome_kindOf? (h : Hub D) (id : ListenerId) :
    (h.kindOf? id).isSome ↔ ∃ kind, ∃ l ∈ h.listeners kind, l.id = id := by
  constructor
  · intro hsome
    obtain ⟨kind, hkind⟩ := Option.isSome_iff_exists.mp hsome
    exact ⟨kind, exists_of_kindOf? hkind⟩
  · rintro ⟨kind, l, hl, hid⟩
    cases hkind : h.kindOf? id with
    | some kind' => rfl
    | none => exact absurd hid (kindOf?_eq_none hkind kind hl)

/-- **An operation keeps the lists and the book in agreement.** -/
theorem Registers.apply {h : Hub D} {book : Book D} (hh : h.Registers book)
    (operation : HubOperation D) :
    (h.apply operation).Registers (book ++ [h.outcome operation]) := by
  cases operation with
  | listen kind hook =>
    refine ⟨hh.orderly.listen kind hook, ?_, fun kind' => ?_⟩
    · rw [Book.ids_append, hh.ids]
      simp [Hub.apply, Hub.outcome, Hub.enlist, Book.ids, Hub.nextId, List.range_succ]
    · have hstay : (book.standing kind').filter
          (fun l => ¬ Book.Removes [h.outcome (.listen kind hook)] l.id) = book.standing kind' := by
        apply List.filter_eq_self.mpr
        intro l _
        simp [Hub.outcome, Book.Removes]
      rw [Book.standing_append, hstay, ← hh.lists]
      simp only [Hub.apply, Hub.outcome, Hub.enlist, listeners_listen, Book.standing]
      by_cases hkind : kind = kind' <;> simp [hkind, Book.Removes]
  | unlisten id =>
    refine ⟨hh.orderly.remove id, ?_, fun kind => ?_⟩
    · have hgiven : (h.apply (.unlisten id)).given = h.given := given_remove h id
      rw [Book.ids_append, hh.ids, hgiven]
      cases hkind : h.kindOf? id <;> simp [Hub.outcome, hkind, Book.ids]
    · rw [Book.standing_append, ← hh.lists]
      cases hkind : h.kindOf? id with
      | some kind' =>
        have hlist := listeners_remove hh.orderly id kind
        simp only [Hub.apply, hlist, Hub.outcome, hkind, Book.standing, List.append_nil]
        apply List.filter_congr
        intro l _
        simp [Book.Removes]
      | none =>
        have hsame : h.apply (.unlisten id) = h := by simp [Hub.apply, Hub.remove, hkind]
        simp [hsame, Hub.outcome, hkind, Book.standing, Book.Removes]

/-- However many operations there are, the lists and the book agree. -/
theorem Registers.applyAll {h : Hub D} {book : Book D} (hh : h.Registers book)
    (operations : List (HubOperation D)) :
    (h.applyAll operations).Registers (book ++ h.outcomes operations) := by
  induction operations generalizing h book with
  | nil => simpa [Hub.applyAll, outcomes] using hh
  | cons operation later ih =>
    have hlater := ih (hh.apply operation)
    rw [List.append_assoc] at hlater
    exact hlater

theorem registers_applyAll (operations : List (HubOperation D)) :
    (empty.applyAll operations).Registers (empty.outcomes operations) :=
  registers_empty.applyAll operations

theorem Registers.nodup {h : Hub D} {book : Book D} (hh : h.Registers book) : book.ids.Nodup := by
  rw [hh.ids]
  apply List.nodup_range.map
  intro a b hab
  exact congrArg ListenerId.val hab

/-- **No number is given twice** while there are numbers left. -/
theorem Registers.nodup_words {h : Hub D} {book : Book D} (hh : h.Registers book)
    (hcount : book.ids.length ≤ UInt64.size) : (book.ids.map ListenerId.word).Nodup := by
  rw [hh.ids, List.length_map, List.length_range] at hcount
  rw [hh.ids, List.map_map]
  refine List.nodup_range.map_on fun a ha b hb hab => ?_
  have ha := List.mem_range.mp ha
  have hb := List.mem_range.mp hb
  have hmod : a % UInt64.size = b % UInt64.size := by
    simpa [ListenerId.word] using congrArg UInt64.toNat hab
  rwa [Nat.mod_eq_of_lt (by omega), Nat.mod_eq_of_lt (by omega)] at hmod

/-- The next id is none of those that were given. -/
theorem Registers.fresh {h : Hub D} {book : Book D} (hh : h.Registers book) :
    h.nextId ∉ book.ids := by
  rw [hh.ids]
  intro hmem
  obtain ⟨n, hn, hid⟩ := List.mem_map.mp hmem
  have hn := List.mem_range.mp hn
  have hid : n = h.given := congrArg ListenerId.val hid
  omega

theorem Registers.isSome_kindOf? {h : Hub D} {book : Book D} (hh : h.Registers book)
    (id : ListenerId) : (h.kindOf? id).isSome ↔ book.Holds id := by
  rw [h.isSome_kindOf?, Book.holds_iff_standing]
  simp only [hh.lists]

end Hub

/-! ## What registering and removing does -/

/-- A world loses the one listener an id was given to: it is gone from its list, where
the others keep their order, and everything else stays. -/
def World.Loses (w : World D) (id : ListenerId) (w' : World D) : Prop :=
  ∃ kind before l after, l.id = id ∧
    w.hub.listeners kind = before ++ l :: after ∧ w'.hub.listeners kind = before ++ after ∧
    (∀ kind' ≠ kind, w'.hub.listeners kind' = w.hub.listeners kind') ∧
    w'.hub.given = w.hub.given ∧
    w' = ({ w with hub := w'.hub } : World D).log (.hub (.removed id kind))

/-- In an ascending list, leaving out an id that is there takes out one listener. -/
theorem Hub.Orderly.filter_ne {h : Hub D} (ho : h.Orderly) {kind : EventKind} {l : Listener D}
    (hl : l ∈ h.listeners kind) :
    ∃ before after, h.listeners kind = before ++ l :: after ∧
      (h.listeners kind).filter (fun l' => l'.id ≠ l.id) = before ++ after := by
  obtain ⟨before, after, hlist⟩ := List.append_of_mem hl
  have hasc := ho.ascending kind
  rw [hlist, List.pairwise_append] at hasc
  obtain ⟨-, hafter, hbefore⟩ := hasc
  refine ⟨before, after, hlist, ?_⟩
  have hkeep : ∀ l', l' ∈ before ∨ l' ∈ after → l'.id ≠ l.id := by
    rintro l' (hl' | hl') hid
    · exact Nat.ne_of_lt (hbefore l' hl' l List.mem_cons_self) (congrArg ListenerId.val hid)
    · exact Nat.ne_of_gt ((List.pairwise_cons.mp hafter).1 l' hl') (congrArg ListenerId.val hid)
  have hall : ∀ part : List (Listener D), (∀ l' ∈ part, l' ∈ before ∨ l' ∈ after) →
      part.filter (fun l' => l'.id ≠ l.id) = part := by
    intro part hpart
    apply List.filter_eq_self.mpr
    intro l' hl'
    exact decide_eq_true (hkeep l' (hpart l' hl'))
  rw [hlist, List.filter_append, List.filter_cons_of_neg (by simp),
    hall before fun _ => Or.inl, hall after fun _ => Or.inr]

/-- The hub is what operations have made of an empty one, and a book has what came of them. -/
structure World.HasBook (w : World D) (operations : List (HubOperation D)) (book : Book D) :
    Prop where
  hub : w.hub = Hub.empty.applyAll operations
  book : Hub.empty.outcomes operations = book

namespace World

theorem HasBook.registers {w : World D} {operations : List (HubOperation D)} {book : Book D}
    (h : w.HasBook operations book) : w.hub.Registers book := by
  rw [h.hub, ← h.book]
  exact Hub.registers_applyAll operations

/-- One more operation, and one more line of the book. -/
theorem HasBook.next {w w' : World D} {operations : List (HubOperation D)} {book : Book D}
    (h : w.HasBook operations book) {operation : HubOperation D} {b : Booking D}
    (hhub : w'.hub = w.hub.apply operation) (hb : w.hub.outcome operation = b) :
    w'.HasBook (operations ++ [operation]) (book ++ [b]) := by
  constructor
  · rw [hhub, h.hub, Hub.applyAll_append]
    rfl
  · rw [Hub.outcomes_append, h.book, ← h.hub, ← hb]
    rfl

/-- An id is removed if a list has it, and then from that list alone. -/
theorem loses_of_unlisten {w w' : World D} (ho : w.hub.Orderly) {id : ListenerId}
    (h : w.unlisten id = .ok w') : w.Loses id w' := by
  have hhub : w'.hub = w.hub.remove id := congrArg View.hub (view_unlisten h)
  unfold unlisten at h
  split at h
  · next kind hkind =>
    obtain ⟨l, hl, rfl⟩ := Hub.exists_of_kindOf? hkind
    obtain ⟨before, after, hlist, hrest⟩ := ho.filter_ne hl
    refine ⟨kind, before, l, after, rfl, hlist, ?_, fun kind' hne => ?_, ?_, ?_⟩
    · rw [hhub, Hub.listeners_remove ho, hrest]
    · rw [hhub, Hub.remove, hkind]
      simp [Hub.listeners_detach, hne.symm]
    · rw [hhub, Hub.given_remove]
    · obtain rfl := Except.ok.inj h
      rfl
  · cases h

/-- What nobody is registered under is refused, and nothing is done. -/
theorem act_unlisten_unknown (I : Interpreter D) {w : World D} {book : Book D}
    (hbook : w.hub.Registers book) {id : ListenerId} (hid : ¬ book.Holds id) :
    w.act I (.unlisten id) = (.failed (.event (.unknownListener id)), w, []) ∧
      w.hub = w.hub.apply (.unlisten id) ∧ w.hub.outcome (.unlisten id) = .unknown id := by
  rw [← hbook.isSome_kindOf?] at hid
  have hnone : w.hub.kindOf? id = none := by simpa using hid
  simp [act, unlisten, Hub.apply, Hub.remove, Hub.outcome, hnone]

/-- **Whoever is registered is removed**, and nobody else. -/
theorem act_unlisten (I : Interpreter D) {w : World D} {book : Book D}
    (hbook : w.hub.Registers book) {id : ListenerId} (hid : book.Holds id) :
    ∃ w', w.act I (.unlisten id) = (.done, w', []) ∧ w.Loses id w' ∧
      w'.hub = w.hub.apply (.unlisten id) ∧ w.hub.outcome (.unlisten id) = .removed id := by
  obtain ⟨kind, hkind⟩ := Option.isSome_iff_exists.mp ((hbook.isSome_kindOf? id).mpr hid)
  obtain ⟨w', hremoved⟩ : ∃ w', w.unlisten id = .ok w' := by simp [unlisten, hkind]
  refine ⟨w', by simp [act, hremoved], loses_of_unlisten hbook.orderly hremoved,
    congrArg View.hub (view_unlisten hremoved), by simp [Hub.outcome, hkind]⟩

/-- **A new listener** gets an id that was never given, the id that is handed out. -/
theorem enlist_registers {w : World D} {book : Book D} (hbook : w.hub.Registers book)
    (kind : EventKind) (hook : Hook D) :
    (w.enlist kind hook).1 ∉ book.ids ∧
      (w.enlist kind hook).2.hub = w.hub.apply (.listen kind hook) ∧
      w.hub.outcome (.listen kind hook) = .given kind ⟨(w.enlist kind hook).1, hook⟩ :=
  ⟨hbook.fresh, rfl, rfl⟩

/-- Script code is answered with that id. -/
theorem act_listen (I : Interpreter D) (w : World D) (kind : EventKind) (handler : D.Handler) :
    w.act I (.listen kind handler) = (.listener (w.enlist kind (.host handler)).1,
      (w.enlist kind (.host handler)).2, []) :=
  rfl

end World

/-! ## Runs -/

namespace Config

/-- The operations on the hub of a move.  While something is under way, they are those
of the innermost activity; otherwise whoever the host brings into being registers, once
for every kind. -/
def operationsTo (c c' : Config D) : List (HubOperation D) :=
  match c.stack with
  | _ :: _ => c.operations
  | [] =>
    (List.range' c.world.instances.length
      (c'.world.instances.length - c.world.instances.length)).flatMap fun i =>
        EventKind.all.map (.listen · (.script i))

/-- The operations on the hub of the first moves of a run, in their order. -/
def operationsIn (run : Nat → Config D) (n : Nat) : List (HubOperation D) :=
  (List.range n).flatMap fun k => (run k).operationsTo (run (k + 1))

variable {I : Interpreter D}

/-- **Every move applies its operations to the hub.** -/
theorem Move.hub_operationsTo {c c' : Config D} (h : c.Move I c') :
    c'.world.hub = c.world.hub.applyAll (c.operationsTo c') := by
  cases hstack : c.stack with
  | cons f rest =>
    simp only [operationsTo, hstack]
    exact h.hub (by simp [hstack])
  | nil =>
    simp only [operationsTo, hstack]
    rcases h.view with ⟨f, rest, hbusy, -⟩ | ⟨-, hsame | ⟨id, path, detached, hborn⟩⟩
    · rw [hstack] at hbusy
      cases hbusy
    · have hcount : c'.world.instances.length = c.world.instances.length := by
        rw [← World.length_infos, hsame, World.length_infos]
      rw [hcount, Nat.sub_self]
      exact congrArg View.hub hsame
    · have hcount : c'.world.instances.length = c.world.instances.length + 1 := by
        rw [← World.length_infos, hborn, ← World.length_infos]
        simp [View.after]
      have hhub := congrArg View.hub hborn
      rw [View.hub_after] at hhub
      rw [hcount, Nat.add_sub_cancel_left, List.range'_one, List.flatMap_singleton,
        ← World.length_infos]
      exact hhub

/-- The hub at a moment is what the operations up to it made of the first one. -/
theorem IsRun.hub_operationsIn {run : Nat → Config D} {n : Nat} (hrun : IsRun I run n) :
    (run n).world.hub = (run 0).world.hub.applyAll (operationsIn run n) := by
  induction n with
  | zero => rfl
  | succ n ih =>
    have hearlier := ih fun k hk => hrun k (by omega)
    rw [(hrun n (by omega)).hub_operationsTo, hearlier, ← Hub.applyAll_append, operationsIn,
      operationsIn, List.range_succ, List.flatMap_append, List.flatMap_singleton]

/-- The operations up to a moment come first among those of the run. -/
theorem operationsIn_isPrefix (run : Nat → Config D) {k n : Nat} (hk : k ≤ n) :
    operationsIn run k <+: operationsIn run n := by
  obtain ⟨d, rfl⟩ := Nat.exists_eq_add_of_le hk
  rw [operationsIn, operationsIn, List.range_add, List.flatMap_append]
  exact List.prefix_append _ _

/-- **The hub's lists bear out its book.**  In a run that begins with an empty hub, the hub
is at every moment what the operations up to it have made of it, whoever operates: a handler
of the host, a script, an instance that comes or goes, inside emissions or not.  And whatever
operations there have been, take the book of what came of them.

* No id has been given twice, and no number of an id while there are numbers left.
* Every kind's list is made up of the listeners that registered for it and have not been
  removed since, in the order in which they registered.
* Whoever registers gets an id that was never given.  That id is written into the book, code
  that registers a handler is answered with it, and it can be removed.
* An id that was given and has not been removed since can be removed: its listener is gone,
  nothing else has changed, and that is what is written into the book.
* Any other id is reported as unknown, and nothing at all has changed. -/
theorem IsRun.registrations {run : Nat → Config D} {n : Nat} (hrun : IsRun I run n)
    (hnew : (run 0).world.hub = Hub.empty) :
    (∀ k ≤ n, operationsIn run k <+: operationsIn run n ∧
        (run k).world.HasBook (operationsIn run k) (Hub.empty.outcomes (operationsIn run k))) ∧
      ∀ (w : World D) operations book, w.HasBook operations book →
        book.ids.Nodup ∧
        (book.ids.length ≤ UInt64.size → (book.ids.map ListenerId.word).Nodup) ∧
        (∀ kind, w.hub.listeners kind = book.standing kind) ∧
        (∀ kind hook, ∃ id w', w.enlist kind hook = (id, w') ∧ id ∉ book.ids ∧
          w'.HasBook (operations ++ [.listen kind hook]) (book ++ [.given kind ⟨id, hook⟩]) ∧
          (∀ handler, hook = .host handler →
            w.act I (.listen kind handler) = (.listener id, w', [])) ∧
          ∃ w'', w'.act I (.unlisten id) = (.done, w'', []) ∧ w'.Loses id w'') ∧
        ∀ id,
          (book.Holds id → ∃ w', w.act I (.unlisten id) = (.done, w', []) ∧ w.Loses id w' ∧
            w'.HasBook (operations ++ [.unlisten id]) (book ++ [.removed id])) ∧
          (¬ book.Holds id →
            w.act I (.unlisten id) = (.failed (.event (.unknownListener id)), w, []) ∧
            w.HasBook (operations ++ [.unlisten id]) (book ++ [.unknown id])) := by
  constructor
  · intro k hk
    have hfirst : IsRun I run k := fun j hj => hrun j (by omega)
    refine ⟨operationsIn_isPrefix run hk, ?_, rfl⟩
    rw [hfirst.hub_operationsIn, hnew]
  · intro w operations book hbook
    have hregisters := hbook.registers
    refine ⟨hregisters.nodup, hregisters.nodup_words, hregisters.lists, fun kind hook => ?_,
      fun id => ⟨fun hholds => ?_, fun hunknown => ?_⟩⟩
    · obtain ⟨hfresh, hhub, hgiven⟩ := World.enlist_registers hregisters kind hook
      have hnext := hbook.next hhub hgiven
      have hholds : Book.Holds (book ++ [.given kind ⟨(w.enlist kind hook).1, hook⟩])
          (w.enlist kind hook).1 := ⟨book, kind, _, [], rfl, rfl, List.not_mem_nil⟩
      obtain ⟨w'', hact, hloses, -⟩ := World.act_unlisten I hnext.registers hholds
      refine ⟨_, _, rfl, hfresh, hnext, fun handler hhandler => ?_, w'', hact, hloses⟩
      subst hhandler
      exact w.act_listen I kind handler
    · obtain ⟨w', hact, hloses, hhub, hremoved⟩ := World.act_unlisten I hregisters hholds
      exact ⟨w', hact, hloses, hbook.next hhub hremoved⟩
    · obtain ⟨hact, hhub, houtcome⟩ := World.act_unlisten_unknown I hregisters hunknown
      exact ⟨hact, hbook.next hhub houtcome⟩

/-- In the middle of the emission inside the emission of `Specimen.nestedRun`: the handler
that removed itself is unknown, its neighbour, which is being called, can be removed, and so
can whoever registers now, under the id that is answered. -/
theorem IsRun.registrations_nested :
    (Specimen.nestedRun 9).world.act Specimen.hostHandlers (.unlisten ⟨0⟩)
        = (.failed (.event (.unknownListener ⟨0⟩)), (Specimen.nestedRun 9).world, []) ∧
      (∃ w', (Specimen.nestedRun 9).world.act Specimen.hostHandlers (.unlisten ⟨1⟩)
          = (.done, w', []) ∧
        (Specimen.nestedRun 9).world.Loses ⟨1⟩ w') ∧
      ∃ w' w'', (Specimen.nestedRun 9).world.act Specimen.hostHandlers (.listen .timerTick false)
          = (.listener ⟨3⟩, w', []) ∧
        w'.act Specimen.hostHandlers (.unlisten ⟨3⟩) = (.done, w'', []) ∧ w'.Loses ⟨3⟩ w'' := by
  obtain ⟨hmoments, hbooks⟩ := IsRun.registrations Specimen.isRun_nestedRun rfl
  obtain ⟨-, hbook⟩ := hmoments 9 (by decide)
  obtain ⟨-, -, -, hlisten, hids⟩ := hbooks _ _ _ hbook
  have hholds := hbook.registers.isSome_kindOf?
  have hunknown : ((Specimen.nestedRun 9).world.hub.kindOf? ⟨0⟩).isSome = false := by
    decide +kernel
  have hknown : ((Specimen.nestedRun 9).world.hub.kindOf? ⟨1⟩).isSome = true := by
    decide +kernel
  refine ⟨((hids ⟨0⟩).2 fun h => ?_).1, ?_, ?_⟩
  · have hsome := (hholds ⟨0⟩).mpr h
    rw [hunknown] at hsome
    cases hsome
  · obtain ⟨w', hact, hloses, -⟩ := (hids ⟨1⟩).1 ((hholds ⟨1⟩).mp hknown)
    exact ⟨w', hact, hloses⟩
  · obtain ⟨id, w', henlist, -, -, hact, w'', hremoved, hloses⟩ := hlisten .timerTick (.host false)
    obtain rfl : ListenerId.mk 3 = id := congrArg Prod.fst henlist
    exact ⟨w', w'', hact false rfl, hremoved, hloses⟩

end Config

end ScriptHost
