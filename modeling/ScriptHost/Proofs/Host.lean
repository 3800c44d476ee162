import ScriptHost.Proofs.Ending

/-!
# What the host does with the machine is a run

The operations of `Stage.Run` start activities and wait until everything is over.
Each of them leads from one moment of rest to another by the moves of a run
(`World.LeadsTo`), so what holds of every run holds of whatever the host does with
its scripts.

* `Config.runs_of_run` — waiting is running, whatever stands below on the stack;
* `Code.leadsTo_run` — code of the host's own, and with it every act, leads on;
* `World.leadsTo_spawn`, `leadsTo_terminate`, `leadsTo_notify`, `leadsTo_emitTimes`,
  `leadsTo_terminateHeld` — so do the other operations;
* `World.hasEnded_of_terminate` — when the host ends an instance, it has ended.
-/

namespace ScriptHost

variable {D : Dialect} {I : Interpreter D}

/-- What the machine has come to when everything is over, it comes to by moves, with
anything else left waiting below. -/
theorem Config.runs_of_run {n : Nat} {c : Config D} {w : World D} (h : c.run I n = some w)
    (rest : List (Frame D)) : Runs I ⟨c.world, c.stack ++ rest⟩ ⟨w, rest⟩ := by
  induction n generalizing c with
  | zero =>
    obtain ⟨w₀, stack⟩ := c
    cases stack with
    | nil =>
      obtain rfl : w₀ = w := by simpa [run] using h
      exact .refl
    | cons f stack => simp [run] at h
  | succ n ih =>
    obtain ⟨w₀, stack⟩ := c
    cases stack with
    | nil =>
      obtain rfl : w₀ = w := by simpa [run, step?] using h
      exact .refl
    | cons f stack =>
      have hnext : Config.run I n ⟨(f.advance I w₀).1, (f.advance I w₀).2 ++ stack⟩ = some w := by
        simpa [run, step?] using h
      have hmove : Move I ⟨w₀, f :: (stack ++ rest)⟩
          ⟨(f.advance I w₀).1, (f.advance I w₀).2 ++ (stack ++ rest)⟩ := .step rfl
      have hruns := ih hnext
      rw [List.append_assoc] at hruns
      exact hruns.head hmove

/-- From a moment of rest in one world, a run comes to one in another. -/
def World.LeadsTo (I : Interpreter D) (w w' : World D) : Prop :=
  Config.Runs I ⟨w, []⟩ ⟨w', []⟩

/-- Code of the host's own, run act by act, is run by the machine. -/
theorem Code.runs_of_run {α : Type} {code : Code D α} {w w' : World D} {a : α}
    (h : code.run I w = some (a, w')) (k : α → Code D Unit) (rest : List (Frame D)) :
    Config.Runs I ⟨w, .handler (code.bind k) :: rest⟩ ⟨w', .handler (k a) :: rest⟩ := by
  induction code generalizing w with
  | ret b =>
    obtain ⟨rfl, rfl⟩ : b = a ∧ w = w' := by simpa [Code.run] using h
    exact .refl
  | read f ih => exact (ih w.memory h).head (.step rfl)
  | write m f ih => exact (ih h).head (.step rfl)
  | remark r f ih => exact (ih h).head (.step rfl)
  | log n f ih => exact (ih h).head (.step rfl)
  | act b f ih =>
    obtain ⟨w₁, hawait, hrun⟩ : ∃ w₁, (w.act I b).2.1.await I (w.act I b).2.2 = some w₁ ∧
        (f (w.act I b).1).run I w₁ = some (a, w') := by
      simpa [Code.run, Option.bind_eq_some_iff] using h
    have hmove : Config.Move I ⟨w, .handler ((Code.act b f).bind k) :: rest⟩
        ⟨(w.act I b).2.1, (w.act I b).2.2 ++ .handler ((f (w.act I b).1).bind k) :: rest⟩ := by
      refine .step ?_
      simp [Config.step?, Frame.advance, Code.bind, Code.progress]
    exact ((Config.runs_of_run hawait _).trans (ih _ hrun)).head hmove

/-- **Code of the host's own leads on.** -/
theorem Code.leadsTo_run {α : Type} {code : Code D α} {w w' : World D} {a : α}
    (h : code.run I w = some (a, w')) : w.LeadsTo I w' := by
  have hruns := Code.runs_of_run h (fun _ => .ret ()) []
  have hover : Config.Move I ⟨w', [.handler (.ret ())]⟩ ⟨w', []⟩ := .step rfl
  exact (hruns.tail hover).head (.host (.code _))

namespace World

theorem leadsTo_emit {w w' : World D} {event : Event} (h : w.emit I event = some w') :
    w.LeadsTo I w' := by
  have hrun : (Code.act (.emit event) .ret : Code D Answer).run I w = some (.done, w') := by
    simp only [Code.run, act]
    exact Option.bind_eq_some_iff.mpr ⟨w', h, rfl⟩
  exact Code.leadsTo_run hrun

theorem leadsTo_emitTimes {w w' : World D} {event : Event} {n : Nat}
    (h : w.emitTimes I event n = some w') : w.LeadsTo I w' := by
  induction n generalizing w with
  | zero =>
    obtain rfl : w = w' := by simpa [emitTimes] using h
    exact .refl
  | succ n ih =>
    obtain ⟨w₁, hemit, hrest⟩ := Option.bind_eq_some_iff.mp h
    exact (leadsTo_emit hemit).trans (ih hrest)

/-- Resuming the coroutines at a bench leads on. -/
theorem leadsTo_notify {w w' : World D} {b n : Nat} {kind : EventKind} {args : Args}
    {pulse : Pulse D} (h : w.notify I (.bench b) kind args pulse = some (n, w')) :
    w.LeadsTo I w' := by
  obtain ⟨w₁, hawait, hsame⟩ := Option.map_eq_some_iff.mp h
  obtain rfl : w₁ = w' := (Prod.mk.inj hsame).2
  exact (Config.runs_of_run hawait []).head (.host (.notify b kind args pulse))

/-- **Bringing an instance into being leads on.** -/
theorem leadsTo_spawn {w w' : World D} {engine : Engine D} {id : ScriptId} {path : Path}
    {detached : Bool} {i : Nat} (h : w.spawn I engine id path detached = some (i, w')) :
    w.LeadsTo I w' := by
  obtain ⟨w₁, hawait, hsame⟩ := Option.map_eq_some_iff.mp h
  obtain rfl : w₁ = w' := (Prod.mk.inj hsame).2
  exact (Config.runs_of_run hawait []).head (.host (.spawn id path detached _))

/-- **Ending an instance leads on.** -/
theorem leadsTo_terminate {w w' : World D} {i : Nat} (h : w.terminate I i = some w') :
    w.LeadsTo I w' := by
  have hruns := Config.runs_of_run h []
  rw [List.append_nil] at hruns
  exact hruns.head (.host (.terminate i))

theorem leadsTo_terminateHeld {w w' : World D} {name : String} {there : Bool}
    (h : w.terminateHeld I name = some (there, w')) : w.LeadsTo I w' := by
  obtain ⟨w₁, hawait, hsame⟩ := Option.map_eq_some_iff.mp h
  obtain rfl : w₁ = w' := (Prod.mk.inj hsame).2
  have hrun : (Code.act (.terminate name) .ret : Code D Answer).run I w
      = some ((w.act I (.terminate name)).1, w₁) :=
    Option.bind_eq_some_iff.mpr ⟨w₁, hawait, rfl⟩
  exact Code.leadsTo_run hrun

/-- **When the host ends an instance, it has ended**: by the end that was announced,
or because it had ended before. -/
theorem hasEnded_of_terminate {w w' : World D} {i : Nat}
    (hw : (⟨w, []⟩ : Config D).Reachable I) (hi : i < w.instances.length)
    (h : w.terminate I i = some w') : (⟨w', []⟩ : Config D).HasEnded i := by
  have hx : w.instance? i = some w.instances[i] := List.getElem?_eq_getElem hi
  have hbegun : Config.Move I ⟨w, []⟩ ⟨(w.beginEnding i).1, (w.beginEnding i).2⟩ :=
    .host (.terminate i)
  have hruns := Config.runs_of_run h []
  rw [List.append_nil] at hruns
  by_cases halive : w.instances[i].isAlive
  · have hstack : (w.beginEnding i).2
        = [((w.log (.script (.stopping w.instances[i].id w.instances[i].path))).beginEmission
            (.scriptEnd w.instances[i].id)).2] ++ .ending i :: [] := by
      simp [beginEnding, hx, halive]
    exact Config.Runs.hasEnded_of_returned (hw.move hbegun) hruns hstack (Nat.le_refl 0)
  · have hended : (⟨w, []⟩ : Config D).HasEnded i := by
      have hstate : w.instances[i].state = .terminated := by simpa [Instance.isAlive] using halive
      simp [Config.HasEnded, Account.HasEnded, Config.account, standing, hx, hstate]
    exact Config.Runs.hasEnded hw (hruns.head hbegun) hended

end World

end ScriptHost
