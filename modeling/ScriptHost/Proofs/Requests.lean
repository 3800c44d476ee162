import ScriptHost.Proofs.Orders
import ScriptHost.Proofs.Outcomes
import ScriptHost.Proofs.Sessions

/-!
# Deferred requests: the last one wins

One request after another changes the flags of a registry (`Request.heed`); what comes
of a whole queue can be said without going through it.  Whether a script is wanted is
up to the last request for its path (`Request.wanted`); the scripts that come to be
registered are those that are to be started at any time, in the order of the first such
request (`Request.firstStarts`).

* `Request.heedAll_eq` — one request after another, or all at a time;
* `Host.yields_applyRequests` — working off a queue heeds its requests;
* `Host.requests_last_wins` — working off the deferred requests.
-/

namespace ScriptHost

variable {D : Dialect} {I : Interpreter D}

/-! ## What a queue of requests comes to -/

namespace Request

/-- Whether a path is among those that have flags. -/
def known (flags : List (Path × Bool)) (p : Path) : Bool :=
  flags.any fun f => p.Same f.1

/-- What a request makes of the flag of a path: its own path is to have the one it gives. -/
def mark (q : Request) (f : Path × Bool) : Path × Bool :=
  if q.path.Same f.1 then (f.1, decide (q.kind = .start)) else f

/-- What a request makes of paths and flags. -/
def heed (flags : List (Path × Bool)) (q : Request) : List (Path × Bool) :=
  flags.map q.mark ++
    if q.kind = .start ∧ known flags q.path = false then [(q.path, true)] else []

/-- Whether a script is wanted after some requests: as the last one for its path says,
and as before where there is none. -/
def wanted (queue : List Request) (p : Path) (before : Bool) : Bool :=
  ((queue.reverse.find? fun q => q.path.Same p).map fun q => decide (q.kind = .start)).getD before

/-- The paths that are to be started at any time, each once, in the order of the first
request that says so. -/
def firstStarts : List Request → List Path
  | [] => []
  | ⟨.start, p⟩ :: rest => p :: (firstStarts rest).filter fun p' => ¬ p.Same p'
  | ⟨.stop, _⟩ :: rest => firstStarts rest

/-- The paths among them that have no flag yet. -/
def newcomers (queue : List Request) (flags : List (Path × Bool)) : List Path :=
  (firstStarts queue).filter fun p => !known flags p

/-- What a queue makes of paths and flags, all at a time. -/
def heedAll (queue : List Request) (flags : List (Path × Bool)) : List (Path × Bool) :=
  (flags.map fun f => (f.1, wanted queue f.1 f.2)) ++
    (newcomers queue flags).map fun p => (p, wanted queue p false)

@[simp] theorem mark_fst (q : Request) (f : Path × Bool) : (q.mark f).1 = f.1 := by
  unfold mark
  split <;> rfl

theorem mark_of_not_same {q : Request} {f : Path × Bool} (h : ¬ q.path.Same f.1) : q.mark f = f :=
  if_neg h

theorem heed_of_known {flags : List (Path × Bool)} {q : Request}
    (h : known flags q.path = true) : heed flags q = flags.map q.mark := by
  rw [heed, if_neg (by simp [h]), List.append_nil]

theorem heed_of_unknown {flags : List (Path × Bool)} {q : Request}
    (h : known flags q.path = false) :
    heed flags q = flags ++ if q.kind = .start then [(q.path, true)] else [] := by
  have hkept : flags.map q.mark = flags := by
    refine (List.map_congr_left fun f hf => mark_of_not_same ?_).trans (List.map_id flags)
    simpa using List.any_eq_false.mp h f hf
  simp only [heed, hkept, h, and_true]

theorem wanted_cons (q : Request) (rest : List Request) (p : Path) (before : Bool) :
    wanted (q :: rest) p before
      = wanted rest p (if q.path.Same p then decide (q.kind = .start) else before) := by
  simp only [wanted, List.reverse_cons, List.find?_append]
  cases rest.reverse.find? fun q => q.path.Same p with
  | some q' => rfl
  | none => by_cases h : q.path.Same p <;> simp [h]

theorem known_of_same {flags : List (Path × Bool)} {p p' : Path} (h : p.Same p') :
    known flags p = known flags p' := by
  have hiff : ∀ f : Path × Bool, p.Same f.1 ↔ p'.Same f.1 := fun f => ⟨h.symm.trans, h.trans⟩
  simp only [known, hiff]

/-- A request makes a path known that it is to start. -/
theorem known_heed (flags : List (Path × Bool)) (q : Request) (p : Path) :
    known (heed flags q) p = (known flags p || (q.kind = .start && q.path.Same p)) := by
  have hold : (flags.map q.mark).any (fun f => p.Same f.1) = known flags p := by
    simp [known, Function.comp_def]
  rw [known, heed, List.any_append, hold]
  by_cases hnew : q.kind = .start ∧ known flags q.path = false
  · have hiff : p.Same q.path ↔ q.path.Same p := ⟨.symm, .symm⟩
    simp [hnew, hiff]
  · rw [if_neg hnew]
    by_cases hsame : q.path.Same p
    · rw [known_of_same hsame] at hnew
      by_cases hstart : q.kind = .start
      · have hknown : known flags p = true := by simpa [hstart] using hnew
        simp [hknown]
      · simp [hstart]
    · simp [hsame]

/-- The first request may bring a newcomer, and the others bring theirs. -/
theorem newcomers_cons (q : Request) (rest : List Request) (flags : List (Path × Bool)) :
    newcomers (q :: rest) flags
      = (if q.kind = .start ∧ known flags q.path = false then [q.path] else [])
        ++ newcomers rest (heed flags q) := by
  obtain ⟨kind, path⟩ := q
  cases kind with
  | stop => simp [newcomers, firstStarts, known_heed]
  | start =>
    simp only [newcomers, firstStarts, List.filter_cons, List.filter_filter, known_heed]
    cases known flags path <;> simp

/-- Whom the first request concerns goes on with the flag it gives. -/
theorem map_heed (q : Request) (rest : List Request) (flags : List (Path × Bool)) :
    (heed flags q).map (fun f => (f.1, wanted rest f.1 f.2))
      = (flags.map fun f => (f.1, wanted (q :: rest) f.1 f.2)) ++
        (if q.kind = .start ∧ known flags q.path = false then [q.path] else []).map fun p =>
          (p, wanted (q :: rest) p false) := by
  rw [heed, List.map_append, List.map_map]
  congr 1
  · refine List.map_congr_left fun f _ => ?_
    simp only [Function.comp_apply, wanted_cons, mark_fst]
    unfold mark
    split <;> rfl
  · split
    · next hnew => simp [wanted_cons, Path.Same.refl, hnew.1]
    · rfl

/-- Whom a later request brings the first one does not concern, unless it stops. -/
theorem wanted_cons_newcomer {q : Request} {rest : List Request} {flags : List (Path × Bool)}
    {p : Path} (hp : p ∈ newcomers rest (heed flags q)) :
    wanted (q :: rest) p false = wanted rest p false := by
  obtain ⟨-, hunknown⟩ := List.mem_filter.mp hp
  rw [known_heed] at hunknown
  rw [wanted_cons]
  by_cases hsame : q.path.Same p
  · obtain ⟨-, hstop⟩ : known flags p = false ∧ q.kind ≠ .start := by
      simpa [hsame] using hunknown
    simp [hstop]
  · simp [hsame]

/-- **One request after another, or all at a time.** -/
theorem heedAll_eq (queue : List Request) (flags : List (Path × Bool)) :
    queue.foldl heed flags = heedAll queue flags := by
  induction queue generalizing flags with
  | nil => simp [heedAll, newcomers, firstStarts, wanted]
  | cons q rest ih =>
    have hlater : ((newcomers rest (heed flags q)).map fun p => (p, wanted rest p false))
        = (newcomers rest (heed flags q)).map fun p => (p, wanted (q :: rest) p false) :=
      List.map_congr_left fun p hp => by rw [wanted_cons_newcomer hp]
    rw [List.foldl_cons, ih, heedAll, heedAll, map_heed, hlater, newcomers_cons, List.map_append,
      List.append_assoc]

/-- A queue makes the paths known that are to be started at any time. -/
theorem known_foldl_heed (queue : List Request) (flags : List (Path × Bool)) (p : Path) :
    known (queue.foldl heed flags) p
      = (known flags p || queue.any fun q => q.kind = .start && q.path.Same p) := by
  induction queue generalizing flags with
  | nil => simp
  | cons q rest ih => rw [List.foldl_cons, ih, known_heed, List.any_cons, Bool.or_assoc]

end Request

/-! ## Flags by path -/

namespace Registry

theorem contains_eq_known (r : Registry D) (p : Path) : r.contains p = Request.known r.flags p := by
  rw [contains, position?, List.findIdx?_isSome, Request.known, flags, List.any_map]
  rfl

theorem paths_eq (r : Registry D) : r.paths = r.flags.map Prod.fst := by
  simp [paths, flags]

/-- A request registers no path twice. -/
theorem distinct_of_heed {r r' : Registry D} (h : r.Distinct) {q : Request}
    (hflags : r'.flags = Request.heed r.flags q) : r'.Distinct := by
  have hpaths : r'.paths = r.paths
      ++ if q.kind = .start ∧ Request.known r.flags q.path = false then [q.path] else [] := by
    rw [paths_eq, paths_eq, hflags, Request.heed, List.map_append, List.map_map]
    congr 1
    · exact List.map_congr_left fun f _ => q.mark_fst f
    · split <;> rfl
  rw [Distinct, hpaths]
  split
  · next hnew =>
    refine List.pairwise_append.mpr ⟨h, List.pairwise_singleton _ _, fun p hp p' hp' hsame => ?_⟩
    obtain rfl := List.mem_singleton.mp hp'
    have hunknown : r.contains q.path = false := (contains_eq_known r q.path).trans hnew.2
    exact not_same_of_contains hunknown hp hsame.symm
  · exact (List.append_nil r.paths).symm ▸ h

/-- Where no path is registered twice, the flag of an entry is the flag of its path. -/
theorem flags_setEnabled {r : Registry D} (h : r.Distinct) {q : Request} {i : Nat}
    (hq : r.position? q.path = some i) :
    (r.modifyEntry i fun e => { e with enabled := decide (q.kind = .start) }).flags
      = r.flags.map q.mark := by
  obtain ⟨hi, hsame, -⟩ := List.findIdx?_eq_some_iff_getElem.mp hq
  have hsame : q.path.Same r.entries[i].path := of_decide_eq_true hsame
  have he := List.getElem?_eq_getElem hi
  generalize r.entries[i] = e at hsame he
  obtain ⟨before, rest, hentries, hmodify⟩ :=
    entries_modifyEntry (fun e => { e with enabled := decide (q.kind = .start) }) he
  rw [Distinct, paths, hentries, List.map_append, List.map_cons, List.pairwise_append,
    List.pairwise_cons] at h
  obtain ⟨-, ⟨hafter, -⟩, hbefore⟩ := h
  have hothers : ∀ l : List Entry, (∀ e ∈ l, ¬ q.path.Same e.path) →
      (l.map fun e => (e.path, e.enabled)).map q.mark = l.map fun e => (e.path, e.enabled) := by
    intro l hl
    rw [List.map_map]
    exact List.map_congr_left fun e he => Request.mark_of_not_same (hl e he)
  have hmarked : q.mark (e.path, e.enabled) = (e.path, decide (q.kind = .start)) := if_pos hsame
  simp only [flags, hmodify, hentries, List.map_append, List.map_cons, hmarked]
  congr 1
  · refine (hothers before fun e he hsame' => ?_).symm
    exact hbefore _ (List.mem_map_of_mem he) _ List.mem_cons_self (hsame'.symm.trans hsame)
  · refine congrArg _ (hothers rest fun e he hsame' => ?_).symm
    exact hafter _ (List.mem_map_of_mem he) (hsame.symm.trans hsame')

end Registry

namespace Host

/-! ## Working off the queue -/

/-- **A request is heeded**, whether the script may start or not. -/
theorem yields_applyRequest {r : Registry D} (hdistinct : r.Distinct) (q : Request) :
    Yields I (applyRequest q) r fun a r' =>
      r'.flags = Request.heed r.flags q ∧ r'.concurrent = r.concurrent ∧
        ∀ e, a = .error e → r.MayRefuse e := by
  obtain ⟨kind, path⟩ := q
  refine yields_state ?_
  rintro h rfl
  dsimp only
  cases hposition : h.registry.position? path with
  | some i =>
    have hknown : Request.known h.registry.flags path = true := by
      rw [← Registry.contains_eq_known, Registry.contains, hposition, Option.isSome_some]
    rw [Request.heed_of_known (q := ⟨kind, path⟩) hknown,
      ← Registry.flags_setEnabled (q := ⟨kind, path⟩) hdistinct hposition]
    cases kind with
    | start => exact yields_setEnabledAt i true _
    | stop => exact yields_setEnabledAt i false _
  | none =>
    have hunknown : h.registry.contains path = false := by
      rw [Registry.contains, hposition, Option.isSome_none]
    rw [Request.heed_of_unknown (q := ⟨kind, path⟩)
      ((Registry.contains_eq_known _ path).symm.trans hunknown)]
    cases kind with
    | start =>
      refine yields_bind (yields_add hunknown true) ?_
      rintro a r' ⟨hflags, hconcurrent, hrefused⟩
      exact yields_pure ⟨hflags, hconcurrent, fun e he => hrefused e (eq_error_of_map he)⟩
    | stop =>
      refine yields_bind (yields_report _ _) ?_
      rintro _ _ rfl
      exact yields_pure ⟨(List.append_nil _).symm, rfl, by simp⟩

/-- **Working off a queue heeds its requests**, one after another; whatever fails was
refused because one script runs at a time. -/
theorem yields_applyRequests (queue : List Request) {r : Registry D} (hdistinct : r.Distinct) :
    Yields I (applyRequests queue) r fun failures r' =>
      r'.flags = queue.foldl Request.heed r.flags ∧ ∀ e ∈ failures, r.MayRefuse e := by
  induction queue generalizing r with
  | nil => exact yields_pure ⟨rfl, by simp⟩
  | cons q rest ih =>
    refine yields_bind (yields_applyRequest hdistinct q) ?_
    rintro a r₁ ⟨hflags, hconcurrent, hrefused⟩
    have hlater := ih (Registry.distinct_of_heed hdistinct hflags)
    rw [hflags] at hlater
    have hpolicy : ∀ e, r₁.MayRefuse e → r.MayRefuse e :=
      fun e he => ⟨hconcurrent.symm.trans he.1, he.2⟩
    cases a with
    | ok =>
      exact yields_mono hlater fun _ _ hdone =>
        ⟨hdone.1, fun e he => hpolicy e (hdone.2 e he)⟩
    | error e =>
      refine yields_bind (yields_report _ _) ?_
      rintro _ _ rfl
      refine yields_bind hlater ?_
      rintro failures r₂ ⟨hheeded, hfailures⟩
      refine yields_pure ⟨hheeded, ?_⟩
      rintro e' (_ | ⟨_, he'⟩)
      · exact hrefused e rfl
      · exact hpolicy e' (hfailures e' he')

/-! ## The queue meanwhile -/

/-- **Working off requests empties no queue**: what is pushed meanwhile stays. -/
theorem retains_applyRequests (queue : List Request) :
    (applyRequests queue : Chore D (Host D) _).Orders (· ≠ .dropRequests) := by
  refine (orders_applyRequests queue).mono fun o ho => ?_
  rintro rfl
  cases ho

/-- Working off the deferred requests takes the queue out first. -/
theorem trace_processRequests {h h' : Host D} {cs : List (Config D)}
    {failures : List RegistryError} (htrace : Chore.Trace I processRequests h cs failures h') :
    Chore.Trace I (applyRequests h.world.requests) { h with world := h.world.dropRequests } cs
      failures h' := by
  have htrace : Chore.Trace I (.look fun s : Host D =>
      .order .dropRequests (applyRequests s.world.requests)) h cs failures h' := htrace
  cases htrace with
  | look htrace =>
    cases htrace with
    | order hobeyed hrest =>
      cases hobeyed with
      | nil => exact hrest
      | cons hstep => cases hstep

/-- **The last request wins.**  In every session, and at every moment, no path of the
registry is registered twice.  Where that is so, whatever is in the queue and whatever
scripts do, once the deferred requests have been worked off,

* the entries there were have kept path and position, and are wanted as the last request
  for their path says, or as before if there was none; those that were to be started at
  any time and were unknown follow in the order of the first such request, wanted as the
  last one says;
* a path is registered if it was, or if some request was to start it;
* the queue has the requests that scripts pushed meanwhile, in that order;
* nothing has failed if concurrent scripts are allowed, and otherwise nothing but what
  was refused for another script that ran. -/
theorem requests_last_wins (I : Interpreter D) :
    (∀ (concurrent : Bool) (x : Scene D), x.Reachable I concurrent →
        x.session.host.registry.Distinct) ∧
      ∀ (h h' : Host D) (cs : List (Config D)) (failures : List RegistryError),
        h.registry.Distinct → Chore.Trace I processRequests h cs failures h' →
          h'.registry.flags =
              (h.registry.flags.map fun f => (f.1, Request.wanted h.world.requests f.1 f.2)) ++
                ((Request.firstStarts h.world.requests).filter fun p => !h.registry.contains p).map
                  (fun p => (p, Request.wanted h.world.requests p false)) ∧
            (∀ p, h'.registry.contains p = true ↔ h.registry.contains p = true ∨
              ∃ q ∈ h.world.requests, q.kind = .start ∧ q.path.Same p) ∧
            h'.world.requests = cs.flatMap Config.pushes ∧
            (h.registry.concurrent = true → failures = []) ∧
            (h.registry.concurrent = false →
              ∀ e ∈ failures, ∃ requested live, e = .concurrentRejected requested live) := by
  refine ⟨fun concurrent x hx => hx.ruled.always.distinct, ?_⟩
  intro h h' cs failures hdistinct htrace
  have htrace := trace_processRequests htrace
  obtain ⟨hflags, hrefused⟩ :=
    htrace.of_ensures (yields_applyRequests h.world.requests hdistinct _ rfl)
  refine ⟨?_, fun p => ?_, ?_, fun hconcurrent => ?_, fun _ e he => (hrefused e he).2⟩
  · rw [hflags, Request.heedAll_eq, Request.heedAll, Request.newcomers]
    simp only [Registry.contains_eq_known]
  · rw [Registry.contains_eq_known, hflags, Request.known_foldl_heed, Registry.contains_eq_known]
    simp
  · exact htrace.requests (retains_applyRequests _)
  · refine List.eq_nil_iff_forall_not_mem.mpr fun e he => ?_
    have hsingle := (hrefused e he).1
    rw [hconcurrent] at hsingle
    cases hsingle

end Host

namespace Specimen

/-- A started registry that runs one script at a time knows a script, which is not
enabled; there are requests to start it and another one, and to stop a third. -/
def requested : Host dialect :=
  ⟨{ World.new () with requests := [⟨.start, ⟨"a.py"⟩⟩, ⟨.start, ⟨"b.py"⟩⟩, ⟨.stop, ⟨"c.py"⟩⟩] },
    { Registry.new engine false with entries := [⟨⟨"a.py"⟩, false, none⟩], started := true }⟩

end Specimen

/-- Both scripts are wanted afterwards, and the third is not registered; what failed is
that one of them was to run beside the other. -/
theorem Host.requests_last_wins_rejected :
    ∃ failures h', Host.processRequests.run Specimen.interpreter Specimen.requested
        = some (failures, h') ∧
      h'.registry.flags = [(⟨"a.py"⟩, true), (⟨"b.py"⟩, true)] ∧
      h'.registry.contains ⟨"c.py"⟩ = false ∧
      ∀ e ∈ failures, ∃ requested live, e = .concurrentRejected requested live := by
  have hdone : (Host.processRequests.run Specimen.interpreter Specimen.requested).isSome
      = true := by
    decide +kernel
  obtain ⟨⟨failures, h'⟩, hrun⟩ := Option.isSome_iff_exists.mp hdone
  obtain ⟨cs, htrace⟩ := Chore.trace_of_run hrun
  have hdistinct : Specimen.requested.registry.Distinct := List.pairwise_singleton _ _
  obtain ⟨hflags, hknown, -, -, hrefused⟩ :=
    (requests_last_wins Specimen.interpreter).2 _ h' cs failures hdistinct htrace
  refine ⟨failures, h', hrun, hflags.trans (by decide +kernel), ?_, hrefused rfl⟩
  rw [Bool.eq_false_iff, Ne, hknown]
  decide +kernel

end ScriptHost
