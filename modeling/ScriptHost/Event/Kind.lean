/-!
# The catalog of event kinds

The host raises a **closed set** of thirteen kinds of events.  A kind has the
name scripts use for it (`"frameadvance"`), an *origin* — the emulation thread
or the host — and a place in the catalog, which is the order in which every
listing of kinds is given.

* `EventKind.ofName?_name` — a kind is found under its name;
* `EventKind.mem_all`, `EventKind.all_get_index` — the catalog is complete, and
  `index` is the place of a kind in it.
-/

namespace ScriptHost

/-- Where events of a kind are raised: on the emulation thread, in step with
the emulation, or by the host around it. -/
inductive Origin where
  | emulation
  | host
deriving DecidableEq, Repr

/-- The name of an origin in listings. -/
def Origin.name : Origin → String
  | .emulation => "Emulation"
  | .host => "Host"

/-- The kinds of events, in catalog order. -/
inductive EventKind where
  | frameAdvance
  | frameDrawn
  | memoryBreakpoint
  | codeBreakpoint
  | saveStateSave
  | saveStateLoad
  | beforeSaveStateLoad
  | frameBegin
  | unpause
  | focusChange
  | renderGeometryChange
  | timerTick
  | scriptEnd
deriving DecidableEq, Repr, Inhabited

namespace EventKind

/-- The catalog: every kind once, in order. -/
def all : List EventKind :=
  [.frameAdvance, .frameDrawn, .memoryBreakpoint, .codeBreakpoint, .saveStateSave,
   .saveStateLoad, .beforeSaveStateLoad, .frameBegin, .unpause, .focusChange,
   .renderGeometryChange, .timerTick, .scriptEnd]

/-- How many kinds the catalog has. -/
abbrev count : Nat := 13

/-- The place of a kind in the catalog. -/
def index : EventKind → Fin count
  | .frameAdvance => 0
  | .frameDrawn => 1
  | .memoryBreakpoint => 2
  | .codeBreakpoint => 3
  | .saveStateSave => 4
  | .saveStateLoad => 5
  | .beforeSaveStateLoad => 6
  | .frameBegin => 7
  | .unpause => 8
  | .focusChange => 9
  | .renderGeometryChange => 10
  | .timerTick => 11
  | .scriptEnd => 12

/-- The name scripts use to refer to a kind. -/
def name : EventKind → String
  | .frameAdvance => "frameadvance"
  | .frameDrawn => "framedrawn"
  | .memoryBreakpoint => "memorybreakpoint"
  | .codeBreakpoint => "codebreakpoint"
  | .saveStateSave => "savestatesave"
  | .saveStateLoad => "savestateload"
  | .beforeSaveStateLoad => "beforesavestateload"
  | .frameBegin => "framebegin"
  | .unpause => "unpause"
  | .focusChange => "focuschange"
  | .renderGeometryChange => "rendergeometrychange"
  | .timerTick => "timertick"
  | .scriptEnd => "scriptend"

/-- The kind of a name.  Names are compared letter by letter, so
`"FrameAdvance"` names nothing. -/
def ofName? (s : String) : Option EventKind :=
  all.find? fun k => k.name == s

/-- Where events of a kind are raised. -/
def origin : EventKind → Origin
  | .frameAdvance | .frameDrawn | .memoryBreakpoint | .codeBreakpoint | .saveStateSave
  | .saveStateLoad | .beforeSaveStateLoad | .frameBegin => .emulation
  | .unpause | .focusChange | .renderGeometryChange | .timerTick | .scriptEnd => .host

/-- The catalog is complete. -/
theorem mem_all (k : EventKind) : k ∈ all := by
  cases k <;> decide

/-- The catalog lists no kind twice. -/
theorem nodup_all : all.Nodup := by
  decide

/-- `index` is the place in the catalog. -/
theorem all_get_index (k : EventKind) : all[k.index.val]? = some k := by
  cases k <;> rfl

/-- Two kinds at one place are one kind. -/
theorem index_injective {k l : EventKind} (h : k.index = l.index) : k = l := by
  have hk := all_get_index k
  rw [h, all_get_index l] at hk
  exact (Option.some.inj hk).symm

/-- A kind is found under its own name. -/
theorem ofName?_name (k : EventKind) : ofName? k.name = some k := by
  cases k <;> decide

end EventKind

end ScriptHost
