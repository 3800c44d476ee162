import ScriptHost.Event.Kind

/-!
# One value per event kind

A `PerKind α` keeps one `α` for every kind of the catalog: the hub keeps a
listener list per kind, a script a callback slot and a waiting queue per kind.

* `get_set`, `get_modify` — writing one kind's value changes that kind's value
  alone.
-/

namespace ScriptHost

/-- One `α` for each kind of event. -/
structure PerKind (α : Type) where
  values : Vector α EventKind.count

namespace PerKind

variable {α β : Type}

/-- The same value for every kind. -/
def const (a : α) : PerKind α :=
  ⟨Vector.replicate EventKind.count a⟩

/-- The value of a kind. -/
def get (t : PerKind α) (k : EventKind) : α :=
  t.values[k.index]

/-- Give a kind a new value. -/
def set (t : PerKind α) (k : EventKind) (a : α) : PerKind α :=
  ⟨t.values.set k.index a⟩

/-- Apply a function to one kind's value. -/
def modify (t : PerKind α) (k : EventKind) (f : α → α) : PerKind α :=
  t.set k (f (t.get k))

/-- Apply a function to every kind's value. -/
def map (t : PerKind α) (f : α → β) : PerKind β :=
  ⟨t.values.map f⟩

/-- The values in catalog order, each with its kind. -/
def toList (t : PerKind α) : List (EventKind × α) :=
  EventKind.all.map fun k => (k, t.get k)

instance [Inhabited α] : Inhabited (PerKind α) :=
  ⟨const default⟩

@[simp] theorem get_const (a : α) (k : EventKind) : (const a).get k = a := by
  simp [const, get]

@[simp] theorem get_map (t : PerKind α) (f : α → β) (k : EventKind) :
    (t.map f).get k = f (t.get k) := by
  simp [map, get]

/-- Reading after a write. -/
theorem get_set (t : PerKind α) (k l : EventKind) (a : α) :
    (t.set k a).get l = if k = l then a else t.get l := by
  simp only [get, set, Fin.getElem_fin, Vector.getElem_set]
  by_cases h : k = l
  · simp [h]
  · have : ¬ k.index.val = l.index.val := fun e => h (EventKind.index_injective (Fin.ext e))
    simp [h, this]

@[simp] theorem get_set_self (t : PerKind α) (k : EventKind) (a : α) :
    (t.set k a).get k = a := by
  simp [get_set]

/-- Reading after a change of one kind's value. -/
theorem get_modify (t : PerKind α) (k l : EventKind) (f : α → α) :
    (t.modify k f).get l = if k = l then f (t.get l) else t.get l := by
  unfold modify
  rw [get_set]
  split <;> simp_all

end PerKind

end ScriptHost
