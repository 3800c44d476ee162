import Mathlib.Data.List.InsertIdx
import ScriptHost.Proofs.Chronicle
import ScriptHost.Proofs.Refusals

/-!
# The table of entries

Selectors name entries by position, and positions shift when an entry is taken out;
discovery, deferred requests and hot reload do many such operations in a row.  What is
left of the table — the paths with their flags — can be said of each operation by
itself: which rows there are (`RegistryOperation.Revises`), and that every row it does
not name is as it was, and stands before and behind the same rows as before
(`Rows.Amended`).

* `Rows.Amended.trans` — one operation after another;
* `RegistryOperation.revises` — the operations on a registry;
* `Session.trace_runCycle_rows` — a cycle;
* `Scene.Reachable.stable_table` — what is so in every session.
-/

namespace ScriptHost

variable {D : Dialect} {α β : Type} {I : Interpreter D} {concurrent : Bool}

/-! ## Rows that are named, and the others -/

/-- The rows of a table: paths with their flags. -/
abbrev Rows :=
  List (Path × Bool)

namespace Rows

variable {named named' : Path → Prop} {rows rows' rows'' : Rows}

/-- Every row is kept where it is, but that rows whose paths are named may have their
flag set, or be taken out. -/
inductive Kept (named : Path → Prop) : Rows → Rows → Prop
  | nil : Kept named [] []
  | same (row : Path × Bool) {rows rows' : Rows} (h : Kept named rows rows') :
      Kept named (row :: rows) (row :: rows')
  | flagged {p : Path} (hp : named p) (flag flag' : Bool) {rows rows' : Rows}
      (h : Kept named rows rows') : Kept named ((p, flag) :: rows) ((p, flag') :: rows')
  | dropped {row : Path × Bool} (hrow : named row.1) {rows rows' : Rows}
      (h : Kept named rows rows') : Kept named (row :: rows) rows'

/-- Rows are kept, and rows whose paths are named may have been appended. -/
def Amended (named : Path → Prop) (rows rows' : Rows) : Prop :=
  ∃ kept news, rows' = kept ++ news ∧ Kept named rows kept ∧ ∀ row ∈ news, named row.1

theorem Kept.refl (named : Path → Prop) (rows : Rows) : Kept named rows rows := by
  induction rows with
  | nil => exact .nil
  | cons row rows ih => exact .same row ih

/-- Rows that are kept but for some are kept but for more. -/
theorem Kept.mono (h : Kept named rows rows') (hnamed : ∀ p, named p → named' p) :
    Kept named' rows rows' := by
  induction h with
  | nil => exact .nil
  | same row _ ih => exact .same row ih
  | flagged hp flag flag' _ ih => exact .flagged (hnamed _ hp) flag flag' ih
  | dropped hrow _ ih => exact .dropped (hnamed _ hrow) ih

/-- What is kept twice is kept. -/
theorem Kept.trans (h : Kept named rows rows') (h' : Kept named rows' rows'') :
    Kept named rows rows'' := by
  induction h generalizing rows'' with
  | nil => exact h'
  | dropped hrow _ ih => exact .dropped hrow (ih h')
  | same row _ ih =>
    cases h' with
    | same _ h' => exact .same row (ih h')
    | flagged hp flag flag' h' => exact .flagged hp flag flag' (ih h')
    | dropped hrow h' => exact .dropped hrow (ih h')
  | flagged hp flag flag' _ ih =>
    cases h' with
    | same _ h' => exact .flagged hp flag flag' (ih h')
    | flagged _ _ flag'' h' => exact .flagged hp flag flag'' (ih h')
    | dropped _ h' => exact .dropped hp (ih h')

/-- What is kept of two tables one behind the other is kept of each. -/
theorem Kept.of_append {first second : Rows} (h : Kept named (first ++ second) rows') :
    ∃ first' second', rows' = first' ++ second' ∧ Kept named first first' ∧
      Kept named second second' := by
  induction first generalizing rows' with
  | nil => exact ⟨[], rows', rfl, .nil, h⟩
  | cons row first ih =>
    cases h with
    | same _ h =>
      obtain ⟨first', second', rfl, hfirst, hsecond⟩ := ih h
      exact ⟨row :: first', second', rfl, .same row hfirst, hsecond⟩
    | flagged hp flag flag' h =>
      obtain ⟨first', second', rfl, hfirst, hsecond⟩ := ih h
      exact ⟨_ :: first', second', rfl, .flagged hp flag flag' hfirst, hsecond⟩
    | dropped hrow h =>
      obtain ⟨first', second', rfl, hfirst, hsecond⟩ := ih h
      exact ⟨first', second', rfl, .dropped hrow hfirst, hsecond⟩

/-- No path appears that was not there. -/
theorem Kept.mem (h : Kept named rows rows') {row : Path × Bool} (hrow : row ∈ rows') :
    ∃ row₀ ∈ rows, row₀.1 = row.1 := by
  induction h with
  | nil => cases hrow
  | same row' _ ih =>
    rcases List.mem_cons.mp hrow with rfl | hrow
    · exact ⟨row, List.mem_cons_self, rfl⟩
    · obtain ⟨row₀, hmem, hpath⟩ := ih hrow
      exact ⟨row₀, List.mem_cons_of_mem _ hmem, hpath⟩
  | flagged hp flag flag' _ ih =>
    rcases List.mem_cons.mp hrow with rfl | hrow
    · exact ⟨_, List.mem_cons_self, rfl⟩
    · obtain ⟨row₀, hmem, hpath⟩ := ih hrow
      exact ⟨row₀, List.mem_cons_of_mem _ hmem, hpath⟩
  | dropped _ _ ih =>
    obtain ⟨row₀, hmem, hpath⟩ := ih hrow
    exact ⟨row₀, List.mem_cons_of_mem _ hmem, hpath⟩

theorem Amended.refl (named : Path → Prop) (rows : Rows) : Amended named rows rows :=
  ⟨rows, [], (List.append_nil rows).symm, .refl named rows, by simp⟩

/-- Rows amended for some paths are amended for more. -/
theorem Amended.mono (h : Amended named rows rows') (hnamed : ∀ p, named p → named' p) :
    Amended named' rows rows' := by
  obtain ⟨kept, news, hrows, hkept, hnews⟩ := h
  exact ⟨kept, news, hrows, hkept.mono hnamed, fun row hrow => hnamed _ (hnews row hrow)⟩

/-- **One change after another.** -/
theorem Amended.trans (h : Amended named rows rows') (h' : Amended named rows' rows'') :
    Amended named rows rows'' := by
  obtain ⟨kept, news, rfl, hkept, hnews⟩ := h
  obtain ⟨kept', news', rfl, hkept', hnews'⟩ := h'
  obtain ⟨first, second, rfl, hfirst, hsecond⟩ := hkept'.of_append
  refine ⟨first, second ++ news', List.append_assoc .., hkept.trans hfirst, fun row hrow => ?_⟩
  rcases List.mem_append.mp hrow with hrow | hrow
  · obtain ⟨row₀, hmem, hpath⟩ := hsecond.mem hrow
    exact hpath ▸ hnews row₀ hmem
  · exact hnews' row hrow

/-- Rows that are kept are amended, with nothing new. -/
theorem Kept.amended (h : Kept named rows rows') : Amended named rows rows' :=
  ⟨rows', [], (List.append_nil rows').symm, h, by simp⟩

/-- New rows for the paths that are named come last. -/
theorem amended_append (rows : Rows) {news : Rows} (hnews : ∀ row ∈ news, named row.1) :
    Amended named rows (rows ++ news) :=
  ⟨rows, news, rfl, .refl named rows, hnews⟩

/-- Setting the flag of a row that is named. -/
theorem kept_modify {i : Nat} (hnamed : ∀ row, rows[i]? = some row → named row.1) (flag : Bool) :
    Kept named rows (rows.modify i fun row => (row.1, flag)) := by
  induction rows generalizing i with
  | nil => simpa using Kept.nil
  | cons row rows ih =>
    cases i with
    | zero => exact .flagged (hnamed row rfl) row.2 flag (.refl named rows)
    | succ i => exact .same row (ih fun row' hrow' => hnamed row' (by simpa using hrow'))

/-- Taking out a row that is named. -/
theorem kept_eraseIdx {i : Nat} (hnamed : ∀ row, rows[i]? = some row → named row.1) :
    Kept named rows (rows.eraseIdx i) := by
  induction rows generalizing i with
  | nil => exact .nil
  | cons row rows ih =>
    cases i with
    | zero => exact .dropped (hnamed row rfl) (.refl named rows)
    | succ i => exact .same row (ih fun row' hrow' => hnamed row' (by simpa using hrow'))

/-- Taking out rows all of which are named. -/
theorem kept_filter {test : Path × Bool → Bool} (hnamed : ∀ row ∈ rows, test row = false →
    named row.1) : Kept named rows (rows.filter test) := by
  induction rows with
  | nil => exact .nil
  | cons row rows ih =>
    have hrest := ih fun row' hrow' => hnamed row' (List.mem_cons_of_mem row hrow')
    cases htest : test row with
    | true =>
      rw [List.filter_cons_of_pos htest]
      exact .same row hrest
    | false =>
      rw [List.filter_cons_of_neg (by simp [htest])]
      exact .dropped (hnamed row List.mem_cons_self htest) hrest

/-- Setting flags of rows that are named. -/
theorem kept_map {flag : Path × Bool → Bool} (hnamed : ∀ row ∈ rows, ¬ named row.1 →
    flag row = row.2) : Kept named rows (rows.map fun row => (row.1, flag row)) := by
  induction rows with
  | nil => exact .nil
  | cons row rows ih =>
    have hrest := ih fun row' hrow' => hnamed row' (List.mem_cons_of_mem row hrow')
    by_cases hrow : named row.1
    · exact .flagged hrow row.2 (flag row) hrest
    · have hsame : (row.1, flag row) = row := by rw [hnamed row List.mem_cons_self hrow]
      rw [List.map_cons, hsame]
      exact .same row hrest

end Rows

/-! ## The operations on a registry -/

namespace Registry

/-- Switching an entry changes its flag. -/
theorem flags_modifyEntry (r : Registry D) (i : Nat) (value : Bool) :
    (r.modifyEntry i fun e => { e with enabled := value }).flags
      = r.flags.modify i fun row => (row.1, value) := by
  apply List.ext_getElem?
  intro j
  simp only [flags, modifyEntry, List.getElem?_map, List.getElem?_modify]
  cases r.entries[j]? with
  | none => rfl
  | some e => by_cases hij : i = j <;> simp [hij]

/-- The table without an entry is without its row. -/
theorem flags_eraseIdx (r : Registry D) (i : Nat) :
    ({ r with entries := r.entries.eraseIdx i } : Registry D).flags = r.flags.eraseIdx i :=
  (List.eraseIdx_map _ _ _).symm

end Registry

namespace Host

/-- What a chore yields it yields whatever becomes of its result. -/
theorem yields_void {c : Chore D (Host D) α} {Q : Registry D → Prop}
    (hc : Yields I c r fun _ r' => Q r') : Yields I c.void r fun _ r' => Q r' :=
  yields_bind hc fun _ _ hQ => yields_pure hQ

/-- **Restarting** concerns nothing but the instance, and is refused only where scripts run
one at a time. -/
theorem yields_restartAt (i : Nat) (r : Registry D) :
    Yields I (restartAt i) r fun a r' =>
      r.Resembles r' ∧ ∀ e, a = .error e → r.MayRefuse e := by
  refine yields_state ?_
  rintro h rfl
  split
  · exact yields_pure ⟨.refl _, by simp⟩
  · split
    · refine yields_bind (yields_destroy i _) fun _ r₁ hdestroyed => yields_state fun h₁ _ => ?_
      split
      · refine yields_mono (yields_instantiate i r₁) ?_
        rintro a r' ⟨hmade, hrefused⟩
        exact ⟨hdestroyed.trans hmade, fun e he => hdestroyed.mayRefuse (hrefused e he)⟩
      · exact yields_pure ⟨hdestroyed, by simp⟩
    · refine yields_bind (yields_report _ _) ?_
      rintro _ _ rfl
      exact yields_pure ⟨.refl _, by simp⟩

/-- A restart leaves the table as it was. -/
theorem yields_restart (s : Selector) (r : Registry D) :
    Yields I (restart s) r fun _ r' => r'.flags = r.flags := by
  refine yields_state ?_
  rintro h rfl
  split
  · exact yields_mono (yields_restartAt _ _) fun _ _ hdone => hdone.1.flags
  · exact yields_pure rfl

/-- So does restarting everybody. -/
theorem yields_restartAll (r : Registry D) :
    Yields I restartAll r fun _ r' => r'.flags = r.flags := by
  refine yields_state fun h _ => yields_bind (yields_report _ r) ?_
  rintro _ _ rfl
  exact yields_mono (yields_attemptAll yields_restartAt _ _) fun _ _ hdone => hdone.1.flags

/-- **Setting a flag** of a selected entry. -/
theorem yields_setEnabled (s : Selector) (value : Bool) (r : Registry D) :
    Yields I (setEnabled s value) r fun _ r' =>
      match r.resolve s with
      | .ok i => r'.flags = r.flags.modify i fun row => (row.1, value)
      | .error _ => r'.flags = r.flags := by
  refine yields_state ?_
  rintro h rfl
  cases h.registry.resolve s with
  | error e => exact yields_pure rfl
  | ok i =>
    refine yields_mono (yields_setEnabledAt i value _) fun _ r' hset => ?_
    exact hset.1.trans (Registry.flags_modifyEntry h.registry i value)

/-- **Removing** takes out the selected row. -/
theorem yields_remove (s : Selector) (r : Registry D) :
    Yields I (remove s) r fun _ r' =>
      match r.resolve s with
      | .ok i => r'.flags = r.flags.eraseIdx i
      | .error _ => r'.flags = r.flags := by
  refine yields_state ?_
  rintro h rfl
  cases hs : h.registry.resolve s with
  | error e => exact yields_pure rfl
  | ok i =>
    refine yields_bind (yields_destroy i _) fun _ r₁ hdestroyed => yields_state ?_
    rintro h₁ rfl
    split
    · next hnone =>
      have hlength : h₁.registry.entries.length = h.registry.entries.length := by
        simpa [Registry.flags] using congrArg List.length hdestroyed.flags
      have hlt := Registry.lt_of_resolve hs
      have hge := List.getElem?_eq_none_iff.mp hnone
      omega
    · refine yields_bind (yields_modifyRegistry _ _) ?_
      rintro _ _ rfl
      refine yields_bind (yields_report _ _) ?_
      rintro _ _ rfl
      refine yields_pure ?_
      rw [Registry.flags_eraseIdx, hdestroyed.flags]

/-- **Adding** a path appends it, unless it is there already. -/
theorem yields_add_rows (path : Path) (enabled : Bool) (r : Registry D) :
    Yields I (add path enabled) r fun _ r' =>
      r'.flags = r.flags ++ if r.contains path then [] else [(path, enabled)] := by
  cases hknown : r.contains path with
  | false => exact yields_mono (yields_add hknown enabled) fun _ _ hadded => hadded.1
  | true =>
    refine yields_state ?_
    rintro h rfl
    rw [if_pos hknown]
    exact yields_pure (List.append_nil _).symm

/-- **Adding by name** appends what is not there already, up to the first refusal. -/
theorem yields_addNamed (dir : Path) (names : List String) (r : Registry D) :
    Yields I (addNamed dir names) r fun _ r' => ∃ news : Rows, r'.flags = r.flags ++ news ∧
      ∀ row ∈ news, row.2 = true ∧ r.contains row.1 = false ∧
        ∃ name ∈ names, row.1 = scriptFile dir name := by
  induction names generalizing r with
  | nil => exact yields_pure ⟨[], (List.append_nil _).symm, by simp⟩
  | cons name rest ih =>
    have hlater : ∀ row : Path × Bool, (∃ name ∈ rest, row.1 = scriptFile dir name) →
        ∃ name' ∈ name :: rest, row.1 = scriptFile dir name' :=
      fun row ⟨name', hmem, hrow⟩ => ⟨name', List.mem_cons_of_mem _ hmem, hrow⟩
    refine yields_state ?_
    rintro h rfl
    dsimp only
    split
    · refine yields_bind (yields_order _ () _) ?_
      rintro _ _ rfl
      refine yields_mono (ih _) ?_
      rintro _ r' ⟨news, hrows, hnews⟩
      exact ⟨news, hrows, fun row hrow => ⟨(hnews row hrow).1, (hnews row hrow).2.1,
        hlater row (hnews row hrow).2.2⟩⟩
    · next hunknown =>
      have hunknown := Bool.eq_false_iff.mpr hunknown
      refine yields_bind (yields_add hunknown true) ?_
      rintro added r₁ ⟨hadded, -, -⟩
      have hfirst : ∃ name' ∈ name :: rest, scriptFile dir name = scriptFile dir name' :=
        ⟨name, List.mem_cons_self, rfl⟩
      cases added with
      | error e =>
        refine yields_pure ⟨_, hadded, fun row hrow => ?_⟩
        obtain rfl := List.mem_singleton.mp hrow
        exact ⟨rfl, hunknown, hfirst⟩
      | ok =>
        refine yields_bind (ih r₁) ?_
        rintro _ r₂ ⟨news, hrows, hnews⟩
        refine yields_pure ⟨(scriptFile dir name, true) :: news, ?_, fun row hrow => ?_⟩
        · rw [hrows, hadded, List.append_assoc, List.singleton_append]
        · rcases List.mem_cons.mp hrow with rfl | hrow
          · exact ⟨rfl, hunknown, hfirst⟩
          · obtain ⟨hflag, hnot, hname⟩ := hnews row hrow
            rw [Registry.contains_eq_known, hadded, Request.known, List.any_append,
              Bool.or_eq_false_iff] at hnot
            exact ⟨hflag, (Registry.contains_eq_known _ _).trans hnot.1, hlater row hname⟩

end Host

namespace RegistryOperation

/-- The paths an operation names: of the entry it selects, of those it is to register, of
those there are requests for.  To restart, start or stop names none. -/
def Names (h : Host D) : RegistryOperation → Path → Prop
  | .add path _, p => p = path
  | .setEnabled s _, p | .remove s, p =>
    ∃ i e, h.registry.resolve s = .ok i ∧ h.registry.entries[i]? = some e ∧ e.path = p
  | .restart _, _ | .restartAll, _ | .startAll, _ | .stopAll, _ => False
  | .discover files dir settings, p => p ∈ (Walk.autorun files dir settings).1
  | .processRequests, p => ∃ q ∈ h.world.requests, q.path.Same p
  | .addNamed dir names, p => ∃ name ∈ names, p = Host.scriptFile dir name

/-- The rows there are after an operation. -/
def Revises (h : Host D) (rows : Rows) : RegistryOperation → Prop
  | .add path enabled =>
    rows = h.registry.flags ++ if h.registry.contains path then [] else [(path, enabled)]
  | .setEnabled s value =>
    match h.registry.resolve s with
    | .ok i => rows = h.registry.flags.modify i fun row => (row.1, value)
    | .error _ => rows = h.registry.flags
  | .remove s =>
    match h.registry.resolve s with
    | .ok i => rows = h.registry.flags.eraseIdx i
    | .error _ => rows = h.registry.flags
  | .restart _ | .restartAll | .startAll | .stopAll => rows = h.registry.flags
  | .discover files dir settings =>
    ∃ news : Rows, rows = h.registry.flags ++ news ∧
      ∀ row ∈ news, row.2 = settings.pathEnabled row.1 ∧ h.registry.contains row.1 = false ∧
        row.1 ∈ (Walk.autorun files dir settings).1
  | .processRequests => rows = Request.heedAll h.world.requests h.registry.flags
  | .addNamed dir names =>
    ∃ news : Rows, rows = h.registry.flags ++ news ∧
      ∀ row ∈ news, row.2 = true ∧ h.registry.contains row.1 = false ∧
        ∃ name ∈ names, row.1 = Host.scriptFile dir name

variable {h h' : Host D} {cs : List (Config D)}

/-- **Every operation** leaves the rows that are said of it. -/
theorem revises (hdistinct : h.registry.Distinct) (op : RegistryOperation) {u : Unit}
    (hc : (op.chore : Chore D (Host D) Unit).Trace I h cs u h') :
    op.Revises h h'.registry.flags := by
  cases op with
  | add path enabled =>
    exact hc.of_ensures (Host.yields_void (Host.yields_add_rows path enabled _) h rfl)
  | setEnabled s value =>
    exact hc.of_ensures (Host.yields_void (Host.yields_setEnabled s value _) h rfl)
  | remove s => exact hc.of_ensures (Host.yields_void (Host.yields_remove s _) h rfl)
  | restart s => exact hc.of_ensures (Host.yields_void (Host.yields_restart s _) h rfl)
  | restartAll => exact hc.of_ensures (Host.yields_void (Host.yields_restartAll _) h rfl)
  | startAll => exact hc.of_ensures (Host.yields_void (Host.yields_startAll_flags _) h rfl)
  | stopAll => exact hc.of_ensures (Host.yields_stopAll_flags _ h rfl)
  | addNamed dir names =>
    exact hc.of_ensures (Host.yields_void (Host.yields_addNamed dir names _) h rfl)
  | discover files dir settings =>
    obtain ⟨result, hc⟩ := hc.of_void
    obtain ⟨news, hnews⟩ := Host.trace_discover hc
    refine ⟨news.map fun e => (e.path, e.enabled), ?_, fun row hrow => ?_⟩
    · rw [Registry.flags, hnews.entries, List.map_append]
      rfl
    · obtain ⟨e, he, rfl⟩ := List.mem_map.mp hrow
      exact ⟨hnews.wanted e he, hnews.unknown e he, hnews.mem e he⟩
  | processRequests =>
    obtain ⟨failures, hc⟩ := hc.of_void
    have hserved := Host.trace_processRequests hc
    have hrows := hserved.of_ensures (Host.yields_applyRequests h.world.requests hdistinct _ rfl)
    exact hrows.1.trans (Request.heedAll_eq _ _)

/-- Requests for other paths do not concern a path. -/
theorem wanted_of_unasked {queue : List Request} {p : Path} (h : ¬ ∃ q ∈ queue, q.path.Same p)
    (before : Bool) : Request.wanted queue p before = before := by
  have hnone : (queue.reverse.find? fun q => decide (q.path.Same p)) = none := by
    apply List.find?_eq_none.mpr
    intro q hq hsame
    exact h ⟨q, List.mem_reverse.mp hq, of_decide_eq_true hsame⟩
  rw [Request.wanted, hnone]
  rfl

/-- Who is to be started first is asked for in the queue. -/
theorem mem_of_firstStarts {queue : List Request} {p : Path}
    (hp : p ∈ Request.firstStarts queue) : ∃ q ∈ queue, q.path = p := by
  induction queue with
  | nil => cases hp
  | cons q rest ih =>
    obtain ⟨kind, path⟩ := q
    have later : p ∈ Request.firstStarts rest →
        ∃ q ∈ (⟨kind, path⟩ : Request) :: rest, q.path = p := by
      intro hp
      obtain ⟨q, hq, hpath⟩ := ih hp
      exact ⟨q, List.mem_cons_of_mem _ hq, hpath⟩
    cases kind with
    | stop => exact later hp
    | start =>
      rcases List.mem_cons.mp hp with rfl | hp
      · exact ⟨_, List.mem_cons_self, rfl⟩
      · exact later (List.mem_filter.mp hp).1

/-- Working off requests concerns the paths there are requests for. -/
theorem amended_heedAll (queue : List Request) (rows : Rows) :
    Rows.Amended (fun p => ∃ q ∈ queue, q.path.Same p) rows (Request.heedAll queue rows) := by
  refine ⟨_, _, rfl, Rows.kept_map fun row _ hrow => wanted_of_unasked hrow row.2,
    fun row hrow => ?_⟩
  obtain ⟨p, hp, rfl⟩ := List.mem_map.mp hrow
  obtain ⟨q, hq, rfl⟩ := mem_of_firstStarts (List.mem_filter.mp hp).1
  exact ⟨q, hq, .refl _⟩

/-- **No operation concerns a row it does not name.** -/
theorem Revises.amended {rows : Rows} {op : RegistryOperation} (hrows : op.Revises h rows) :
    Rows.Amended (op.Names h) h.registry.flags rows := by
  have selected : ∀ {s : Selector} {i : Nat}, h.registry.resolve s = .ok i →
      ∀ row, h.registry.flags[i]? = some row → ∃ i e, h.registry.resolve s = .ok i ∧
        h.registry.entries[i]? = some e ∧ e.path = row.1 := by
    intro s i hi row hrow
    obtain ⟨e, he, rfl⟩ := Option.map_eq_some_iff.mp (List.getElem?_map ▸ hrow)
    exact ⟨i, e, hi, he, rfl⟩
  cases op with
  | restart | restartAll | startAll | stopAll =>
    rw [show rows = h.registry.flags from hrows]
    exact .refl _ _
  | add path enabled =>
    rw [show rows = _ from hrows]
    apply Rows.amended_append
    intro row hrow
    split at hrow
    · cases hrow
    · rw [List.mem_singleton.mp hrow]
      rfl
  | setEnabled s value =>
    simp only [Revises] at hrows
    split at hrows
    · next i hi => exact hrows ▸ (Rows.kept_modify (selected hi) value).amended
    · exact hrows ▸ .refl _ _
  | remove s =>
    simp only [Revises] at hrows
    split at hrows
    · next i hi => exact hrows ▸ (Rows.kept_eraseIdx (selected hi)).amended
    · exact hrows ▸ .refl _ _
  | discover files dir settings =>
    obtain ⟨news, rfl, hnews⟩ := hrows
    exact Rows.amended_append _ fun row hrow => (hnews row hrow).2.2
  | processRequests =>
    rw [show rows = _ from hrows]
    exact amended_heedAll _ _
  | addNamed dir names =>
    obtain ⟨news, rfl, hnews⟩ := hrows
    exact Rows.amended_append _ fun row hrow => (hnews row hrow).2.2

end RegistryOperation

/-! ## Hot reload -/

namespace Session

variable {s s' : Session D} {cs : List (Config D)}

/-- Restarting what is asked for changes no row. -/
theorem trace_reloadOnSignal_rows (hs : s.host.WellKept I concurrent) {m : Nat}
    (hc : reloadOnSignal.Trace I s cs m s') :
    s'.host.registry.flags = s.host.registry.flags := by
  obtain ⟨-, -, -, hidle, hasked⟩ := trace_reloadOnSignal hs hc
  cases h : s.isAsked with
  | false => rw [(hidle h).1]
  | true => exact (hasked h).2.flags

/-- Applying what changed on disk takes out the rows of the missing files, and appends
rows for new ones. -/
theorem trace_reloadFromDisk_rows (hs : s.host.WellKept I concurrent) {files : Files}
    {clock : Int} {m : Nat} (hc : (reloadFromDisk files clock).Trace I s cs m s') :
    ∃ news : Rows, s'.host.registry.flags
        = (s.host.registry.flags.filter fun row =>
            !row.1.among (s.lookAt files clock).1.removed) ++ news ∧
      ∀ row ∈ news, row.2 = s.settings.pathEnabled row.1 ∧
        row.1 ∈ (s.lookAt files clock).1.added := by
  obtain ⟨-, -, -, mid, news, happlies, -⟩ := trace_reloadFromDisk hs hc
  refine ⟨news.map fun e => (e.path, e.enabled), ?_, fun row hrow => ?_⟩
  · rw [Registry.flags, happlies.appends.entries, List.map_append, ← happlies.renews.flags,
      Registry.flags, List.filter_map]
    rfl
  · obtain ⟨e, he, rfl⟩ := List.mem_map.mp hrow
    exact ⟨happlies.appends.wanted e he, (List.mem_filter.mp (happlies.appends.mem e he)).1⟩

/-- The watch finds a file missing, or new. -/
def Sees (s : Session D) (files : Files) (p : Path) : Prop :=
  ∃ scanner ∈ s.scanner, p.among (scanner.scan files).1.removed = true ∨
    p ∈ (scanner.scan files).1.added

/-- What is seen on disk, the watch can see. -/
theorem sees_of_lookAt {files : Files} {clock : Int} {p : Path}
    (h : p.among (s.lookAt files clock).1.removed = true ∨ p ∈ (s.lookAt files clock).1.added) :
    s.Sees files p := by
  unfold lookAt at h
  split at h
  · simp at h
  · next scanner hscanner =>
    split at h
    · exact ⟨scanner, hscanner, h⟩
    · simp at h

/-- **A cycle** concerns the rows there are requests for, and those whose files are
missing or new. -/
theorem trace_runCycle_rows (hs : s.host.WellKept I concurrent) {files : Files} {t : Moment}
    {report : CycleReport} (hc : (runCycle files t).Trace I s cs report s') :
    Rows.Amended (fun p => (∃ q ∈ s.host.world.requests, q.path.Same p) ∨ s.Sees files p)
      s.host.registry.flags s'.host.registry.flags := by
  obtain ⟨_, failures, s₁, _, -, hrequests, hc⟩ := hc.bind
  have hs₁ := wellKept_of_trace hs (upholds_withHost Host.upholds_processRequests) hrequests
  obtain ⟨hrequests, hsame₁⟩ := trace_host hrequests
  obtain ⟨_, ticked, s₂, _, -, htick, hc⟩ := hc.bind
  have hs₂ := wellKept_of_trace hs₁ (upholds_tick t.now) htick
  obtain ⟨hregistry, hsame₂⟩ := trace_tick htick
  obtain ⟨_, m₁, s₃, _, -, hsignal, hc⟩ := hc.bind
  have hs₃ := wellKept_of_trace hs₂ upholds_reloadOnSignal hsignal
  have hrows₃ := trace_reloadOnSignal_rows hs₂ hsignal
  obtain ⟨-, hscanner, -⟩ := trace_reloadOnSignal hs₂ hsignal
  obtain ⟨_, m₂, s₄, _, -, hdisk, hdone⟩ := hc.bind
  obtain ⟨-, rfl⟩ := hdone.pure
  obtain ⟨news, hrows₄, hnews⟩ := trace_reloadFromDisk_rows hs₃ hdisk
  have hwatch : s₃.scanner = s.scanner := hscanner.trans (hsame₁.trans hsame₂).scanner
  have hsees : ∀ p, s₃.Sees files p → s.Sees files p := by
    rintro p ⟨scanner, hmem, hsight⟩
    exact ⟨scanner, hwatch ▸ hmem, hsight⟩
  have hserved : Rows.Amended (fun p => ∃ q ∈ s.host.world.requests, q.path.Same p)
      s.host.registry.flags s₁.host.registry.flags := by
    have hserved := Host.trace_processRequests hrequests
    have hrows := (hserved.of_ensures
      (Host.yields_applyRequests s.host.world.requests hs.tidy.distinct _ rfl)).1
    rw [hrows, Request.heedAll_eq]
    exact RegistryOperation.amended_heedAll _ _
  have hreloaded : Rows.Amended (s.Sees files) s₁.host.registry.flags s'.host.registry.flags := by
    rw [hrows₄, hrows₃, hregistry]
    refine ⟨_, news, rfl, Rows.kept_filter fun row _ hrow => ?_, fun row hrow => ?_⟩
    · exact hsees _ (sees_of_lookAt (Or.inl (by simpa using hrow)))
    · exact hsees _ (sees_of_lookAt (Or.inr (hnews row hrow).2))
  exact (hserved.mono fun p hp => Or.inl hp).trans (hreloaded.mono fun p hp => Or.inr hp)

end Session

/-- **The table is stable.**  In every session and at every moment, no two entries have
the same path.  Between operations,

* every operation on the registry leaves just the rows that are said of it: to restart,
  start or stop changes none, to remove takes out the selected one, to set a flag sets
  that of the selected one, and new rows come last; so the rows it does not name keep
  path, flag and order;
* a requested reload changes no row; what changed on disk takes out the rows of the
  missing files and appends rows for new ones;
* a whole cycle concerns no row but those there are requests for, and those whose files
  are missing or new. -/
theorem Scene.Reachable.stable_table {x : Scene D} (h : x.Reachable I concurrent) :
    x.session.host.registry.paths.Pairwise (fun p q => ¬ p.Same q) ∧
      (x.AtRest →
        (∀ (op : RegistryOperation) (cs : List (Config D)) (h' : Host D),
          op.chore.Trace I x.session.host cs () h' →
            op.Revises x.session.host h'.registry.flags ∧
            Rows.Amended (op.Names x.session.host) x.session.host.registry.flags
              h'.registry.flags) ∧
        (∀ (cs : List (Config D)) (m : Nat) (s' : Session D),
          Session.reloadOnSignal.Trace I x.session cs m s' →
            s'.host.registry.flags = x.session.host.registry.flags) ∧
        (∀ (files : Files) (clock : Int) (cs : List (Config D)) (m : Nat) (s' : Session D),
          (Session.reloadFromDisk files clock).Trace I x.session cs m s' →
            ∃ news : Rows, s'.host.registry.flags
                = (x.session.host.registry.flags.filter fun row =>
                    !row.1.among (x.session.lookAt files clock).1.removed) ++ news ∧
              ∀ row ∈ news, row.2 = x.session.settings.pathEnabled row.1 ∧
                row.1 ∈ (x.session.lookAt files clock).1.added) ∧
        ∀ (files : Files) (t : Moment) (cs : List (Config D)) (report : CycleReport)
          (s' : Session D), (Session.runCycle files t).Trace I x.session cs report s' →
            Rows.Amended
              (fun p => (∃ q ∈ x.world.requests, q.path.Same p) ∨ x.session.Sees files p)
              x.session.host.registry.flags s'.host.registry.flags) := by
  refine ⟨h.ruled.always.distinct, fun hrest => ?_⟩
  have hkept := h.upheld.rest hrest
  refine ⟨fun op cs h' hc => ?_, ?_, ?_, ?_⟩
  · have hrows := op.revises hkept.tidy.distinct hc
    exact ⟨hrows, hrows.amended⟩
  · intro cs m s' hc
    exact Session.trace_reloadOnSignal_rows hkept hc
  · intro files clock cs m s' hc
    exact Session.trace_reloadFromDisk_rows hkept hc
  · intro files t cs report s' hc
    exact Session.trace_runCycle_rows hkept hc

/-- A script is removed under another spelling of its path, and the table is empty. -/
theorem Scene.Reachable.stable_table_emptied :
    ∃ cs h', (RegistryOperation.remove (.path ⟨"a.py/"⟩)).chore.Trace Specimen.interpreter
        (Specimen.restartRun true 41).1.session.host cs () h' ∧ h'.registry.flags = [] := by
  have hdone : ((RegistryOperation.remove (.path ⟨"a.py/"⟩)).chore.run Specimen.interpreter
      (Specimen.restartRun true 41).1.session.host).isSome = true := by decide +kernel
  obtain ⟨⟨⟨⟩, h'⟩, hrun⟩ := Option.isSome_iff_exists.mp hdone
  obtain ⟨cs, htrace⟩ := Chore.trace_of_run hrun
  obtain ⟨-, hresting⟩ := Scene.Reachable.stable_table
    (Specimen.reachable_restartRun true (Nat.le_refl 41))
  obtain ⟨hoperations, -⟩ := hresting ⟨rfl, rfl⟩
  obtain ⟨hrows, -⟩ := hoperations _ cs h' htrace
  have hselected : (Specimen.restartRun true 41).1.session.host.registry.resolve
      (.path ⟨"a.py/"⟩) = .ok 0 := by rfl
  simp only [RegistryOperation.Revises, hselected] at hrows
  refine ⟨cs, h', htrace, hrows.trans ?_⟩
  decide +kernel

end ScriptHost
