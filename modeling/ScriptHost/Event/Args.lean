import ScriptHost.Event.Fault

/-!
# The argument tuple of an event

Scripts do not see events but **argument tuples**: a list of booleans, signed
and unsigned 64-bit numbers and byte strings.  `Event.args` maps an event to
its tuple.  It fails for one kind only: a drawn frame whose buffer is shorter
than its width and height demand.  Surplus bytes of a buffer are not passed on.
`Event.ofArgs?` reads a tuple back: kind and tuple determine the event up to
those surplus bytes, that is, up to `Event.trimmed`.
-/

namespace ScriptHost

/-- One argument. -/
inductive Arg where
  | bool (b : Bool)
  | int (i : Int64)
  | uint (u : UInt64)
  | bytes (b : List UInt8)
deriving DecidableEq, Repr

namespace Arg

/-- The truth value an argument is. -/
def asBool? : Arg → Option Bool
  | bool b => some b
  | _ => none

/-- The signed number an argument is. -/
def asInt? : Arg → Option Int64
  | int i => some i
  | _ => none

/-- The unsigned number an argument is. -/
def asUInt? : Arg → Option UInt64
  | uint u => some u
  | _ => none

/-- The byte string an argument is. -/
def asBytes? : Arg → Option (List UInt8)
  | bytes b => some b
  | _ => none

/-- An argument as diagnostics show it. -/
def describe : Arg → String
  | bool b => s!"Bool({b})"
  | int i => s!"Int({i})"
  | uint u => s!"UInt({u})"
  | bytes b => "Bytes([" ++ ", ".intercalate (b.map toString) ++ "])"

end Arg

/-- An argument tuple. -/
abbrev Args := List Arg

/-- A tuple as diagnostics show it. -/
def Args.describe (args : Args) : String :=
  "EventArgs([" ++ ", ".intercalate (args.map Arg.describe) ++ "])"

namespace Event

/-- The number of bytes in a frame of four-byte pixels. -/
def frameBytes (width height : UInt32) : Nat :=
  width.toNat * height.toNat * 4

/-- The product of two sizes, unless it is too large for one. -/
def checkedMul (a b : UInt64) : Option UInt64 :=
  if a.toNat * b.toNat < UInt64.size then some (a * b) else none

/-- The number of bytes in a frame as a size, if it is one: the pixels first, then
their bytes. -/
def frameSize? (width height : UInt32) : Option UInt64 :=
  (checkedMul width.toUInt64 height.toUInt64).bind fun pixels => checkedMul pixels 4

/-- The argument tuple scripts receive for an event. -/
def args : Event → Except EventError Args
  | frameAdvance | frameBegin | unpause | timerTick => .ok []
  | frameDrawn w h data =>
    match frameSize? w h with
    | none => .error (.malformed .frameDrawn (.frameOverflows w h))
    | some needs =>
      if data.length < needs.toNat then
        .error (.malformed .frameDrawn (.frameShort w h needs.toNat data.length))
      else .ok [.uint w.toUInt64, .uint h.toUInt64, .bytes (data.take needs.toNat)]
  | memoryBreakpoint isWrite address value =>
    .ok [.bool isWrite, .uint address.toUInt64, .uint value]
  | codeBreakpoint address => .ok [.uint address.toUInt64]
  | saveStateSave toSlot slot => .ok [.bool toSlot, .uint slot.toUInt64]
  | saveStateLoad fromSlot slot => .ok [.bool fromSlot, .uint slot.toUInt64]
  | beforeSaveStateLoad fromSlot slot => .ok [.bool fromSlot, .uint slot.toUInt64]
  | focusChange hasFocus => .ok [.bool hasFocus]
  | renderGeometryChange x y w h =>
    .ok [.int x.toInt64, .int y.toInt64, .int w.toInt64, .int h.toInt64]
  | scriptEnd script => .ok [.int (Int64.ofNat script.val.toNat)]

/-- The event of a kind and a tuple. -/
def ofArgs? : EventKind → Args → Option Event
  | .frameAdvance, [] => some frameAdvance
  | .frameDrawn, [.uint w, .uint h, .bytes data] =>
    some (frameDrawn w.toUInt32 h.toUInt32 data)
  | .memoryBreakpoint, [.bool isWrite, .uint address, .uint value] =>
    some (memoryBreakpoint isWrite address.toUInt32 value)
  | .codeBreakpoint, [.uint address] => some (codeBreakpoint address.toUInt32)
  | .saveStateSave, [.bool toSlot, .uint slot] => some (saveStateSave toSlot slot.toUInt32)
  | .saveStateLoad, [.bool fromSlot, .uint slot] => some (saveStateLoad fromSlot slot.toUInt32)
  | .beforeSaveStateLoad, [.bool fromSlot, .uint slot] =>
    some (beforeSaveStateLoad fromSlot slot.toUInt32)
  | .frameBegin, [] => some frameBegin
  | .unpause, [] => some unpause
  | .focusChange, [.bool hasFocus] => some (focusChange hasFocus)
  | .renderGeometryChange, [.int x, .int y, .int w, .int h] =>
    some (renderGeometryChange x.toInt32 y.toInt32 w.toInt32 h.toInt32)
  | .timerTick, [] => some timerTick
  | .scriptEnd, [.int script] => some (scriptEnd ⟨script.toInt.toNat.toUInt32⟩)
  | _, _ => none

/-- The event without the bytes that do not belong to its frame. -/
def trimmed : Event → Event
  | frameDrawn w h data => frameDrawn w h (data.take (frameBytes w h))
  | e => e

end Event

end ScriptHost
