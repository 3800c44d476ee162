import ScriptHost.Event.Kind

/-!
# Events and the identities they speak of

An event is one occurrence of a kind together with the fields its kind
carries.  Field widths are those of the host's wire format: addresses and slots
have 32 bits, watched values 64, screen coordinates are signed.
-/

namespace ScriptHost

/-- The identity of one script instance. -/
structure ScriptId where
  val : UInt32
deriving DecidableEq, Repr

instance : ToString ScriptId :=
  ⟨fun i => toString i.val⟩

/-- The handle the hub returns for a registered listener.  The host keeps the number in 64
bits; numbers below 2^64 are the same there. -/
structure ListenerId where
  val : Nat
deriving DecidableEq, Repr

instance : ToString ListenerId :=
  ⟨fun i => "listener#" ++ toString i.val⟩

/-- One occurrence of a catalog event. -/
inductive Event where
  | frameAdvance
  /-- A finished frame: four bytes for each of `width * height` pixels, and
  perhaps more that do not belong to it. -/
  | frameDrawn (width height : UInt32) (data : List UInt8)
  | memoryBreakpoint (isWrite : Bool) (address : UInt32) (value : UInt64)
  | codeBreakpoint (address : UInt32)
  | saveStateSave (toSlot : Bool) (slot : UInt32)
  | saveStateLoad (fromSlot : Bool) (slot : UInt32)
  | beforeSaveStateLoad (fromSlot : Bool) (slot : UInt32)
  | frameBegin
  | unpause
  | focusChange (hasFocus : Bool)
  | renderGeometryChange (x y width height : Int32)
  | timerTick
  | scriptEnd (script : ScriptId)
deriving DecidableEq, Repr

namespace Event

/-- The kind an event is an occurrence of. -/
def kind : Event → EventKind
  | frameAdvance => .frameAdvance
  | frameDrawn .. => .frameDrawn
  | memoryBreakpoint .. => .memoryBreakpoint
  | codeBreakpoint .. => .codeBreakpoint
  | saveStateSave .. => .saveStateSave
  | saveStateLoad .. => .saveStateLoad
  | beforeSaveStateLoad .. => .beforeSaveStateLoad
  | frameBegin => .frameBegin
  | unpause => .unpause
  | focusChange .. => .focusChange
  | renderGeometryChange .. => .renderGeometryChange
  | timerTick => .timerTick
  | scriptEnd .. => .scriptEnd

/-- Where an event is raised. -/
def origin (e : Event) : Origin :=
  e.kind.origin

end Event

end ScriptHost
