import ScriptHost.Event.Args

/-!
# What the argument tuple keeps of an event

Arguments are wider than the fields they are made from: 32-bit fields become 64-bit
numbers, signed where the field has a sign or names a script.  So a tuple is read here
as the list of truth values, integers and byte strings it stands for, and compared with
the fields read the same way: nothing is cut off, and the tuple can be read back.

The one kind that can fail is the drawn frame.  Its size is multiplied out in 64 bits,
where the product of a width, a height and four need not fit.  No buffer is as long as
a product that does not, so the tuple is refused exactly where the buffer is too short.
-/

namespace ScriptHost

/-- What an argument says, whatever the width of the number in it. -/
inductive Meaning where
  | truth (b : Bool)
  | number (n : Int)
  | bytes (b : List UInt8)
deriving DecidableEq, Repr

/-- What an argument says. -/
def Arg.meaning : Arg → Meaning
  | bool b => .truth b
  | int i => .number i.toInt
  | uint u => .number u.toNat
  | bytes b => .bytes b

namespace Event

/-- What an event says: its fields, and of a buffer the frame in it. -/
def meanings : Event → List Meaning
  | frameAdvance | frameBegin | unpause | timerTick => []
  | frameDrawn w h data =>
    [.number w.toNat, .number h.toNat, .bytes (data.take (frameBytes w h))]
  | memoryBreakpoint isWrite address value =>
    [.truth isWrite, .number address.toNat, .number value.toNat]
  | codeBreakpoint address => [.number address.toNat]
  | saveStateSave toSlot slot => [.truth toSlot, .number slot.toNat]
  | saveStateLoad fromSlot slot => [.truth fromSlot, .number slot.toNat]
  | beforeSaveStateLoad fromSlot slot => [.truth fromSlot, .number slot.toNat]
  | focusChange hasFocus => [.truth hasFocus]
  | renderGeometryChange x y w h =>
    [.number x.toInt, .number y.toInt, .number w.toInt, .number h.toInt]
  | scriptEnd script => [.number script.val.toNat]

/-- The event fits into the memory of a machine whose addresses have 64 bits. -/
def Addressable : Event → Prop
  | frameDrawn _ _ data => data.length < UInt64.size
  | _ => True

instance : DecidablePred Addressable
  | frameDrawn _ _ data => inferInstanceAs (Decidable (data.length < UInt64.size))
  | frameAdvance | frameBegin | unpause | timerTick | memoryBreakpoint .. | codeBreakpoint ..
  | saveStateSave .. | saveStateLoad .. | beforeSaveStateLoad .. | focusChange ..
  | renderGeometryChange .. | scriptEnd .. => isTrue trivial

/-- A checked product is the product, where that is a size. -/
theorem toNat_checkedMul (a b : UInt64) :
    (checkedMul a b).map UInt64.toNat =
      if a.toNat * b.toNat < UInt64.size then some (a.toNat * b.toNat) else none := by
  by_cases hfits : a.toNat * b.toNat < UInt64.size
  · have hexact : (a * b).toNat = a.toNat * b.toNat := by
      rw [UInt64.toNat_mul]
      exact Nat.mod_eq_of_lt hfits
    simp [checkedMul, hfits, hexact]
  · simp [checkedMul, hfits]

/-- The two checked products find the size of a frame exactly where it is a size: where
the pixels are already too many, so are their bytes. -/
theorem toNat_frameSize? (w h : UInt32) :
    (frameSize? w h).map UInt64.toNat =
      if frameBytes w h < UInt64.size then some (frameBytes w h) else none := by
  have hpixels := toNat_checkedMul w.toUInt64 h.toUInt64
  simp only [UInt32.toNat_toUInt64] at hpixels
  cases hm : checkedMul w.toUInt64 h.toUInt64 with
  | none =>
    have hmany : ¬ w.toNat * h.toNat < UInt64.size := by
      intro hfew
      simp [hm, hfew] at hpixels
    have hlarge : ¬ frameBytes w h < UInt64.size := by
      unfold frameBytes
      omega
    simp [frameSize?, hm, hlarge]
  | some pixels =>
    have hcount : pixels.toNat = w.toNat * h.toNat := by
      by_cases hfew : w.toNat * h.toNat < UInt64.size
      · simpa [hm, hfew] using hpixels
      · simp [hm, hfew] at hpixels
    have hbytes := toNat_checkedMul pixels 4
    rw [hcount] at hbytes
    simp only [frameSize?, hm, Option.bind_some]
    exact hbytes

/-- A size that was found is the number of bytes. -/
theorem toNat_of_frameSize? {w h : UInt32} {needs : UInt64}
    (hsize : frameSize? w h = some needs) : needs.toNat = frameBytes w h := by
  have hexact := toNat_frameSize? w h
  rw [hsize] at hexact
  by_cases hfits : frameBytes w h < UInt64.size
  · simpa [hfits] using hexact
  · simp [hfits] at hexact

/-- Where no size is found, the frame has more bytes than any buffer. -/
theorem size_le_of_frameSize? {w h : UInt32} (hsize : frameSize? w h = none) :
    UInt64.size ≤ frameBytes w h := by
  have hexact := toNat_frameSize? w h
  rw [hsize] at hexact
  by_cases hfits : frameBytes w h < UInt64.size
  · simp [hfits] at hexact
  · omega

/-- What is wrong with a frame whose buffer is too short: whether its size is one at all is
found out first. -/
def shortage (w h : UInt32) (has : Nat) : PayloadFault :=
  if UInt64.size ≤ frameBytes w h then .frameOverflows w h
  else .frameShort w h (frameBytes w h) has

/-- A frame in a buffer that holds it has a tuple, with just its bytes. -/
theorem args_of_frameBytes_le {w h : UInt32} {data : List UInt8}
    (hdata : data.length < UInt64.size) (hholds : frameBytes w h ≤ data.length) :
    (frameDrawn w h data).args =
      .ok [.uint w.toUInt64, .uint h.toUInt64, .bytes (data.take (frameBytes w h))] := by
  cases hsize : frameSize? w h with
  | none =>
    have hlarge := size_le_of_frameSize? hsize
    omega
  | some needs =>
    have henough : ¬ data.length < frameBytes w h := by omega
    simp only [args, hsize, toNat_of_frameSize? hsize, if_neg henough]

/-- A frame in a buffer that ends before it is refused. -/
theorem args_of_lt_frameBytes {w h : UInt32} {data : List UInt8}
    (hshort : data.length < frameBytes w h) :
    (frameDrawn w h data).args = .error (.malformed .frameDrawn (shortage w h data.length)) := by
  have hexact := toNat_frameSize? w h
  by_cases hfits : frameBytes w h < UInt64.size
  · have hsize : ¬ UInt64.size ≤ frameBytes w h := by omega
    obtain ⟨needs, hfound, hneeds⟩ := Option.map_eq_some_iff.mp (hexact.trans (if_pos hfits))
    simp only [args, hfound, hneeds, if_pos hshort, shortage, if_neg hsize]
  · have hsize : UInt64.size ≤ frameBytes w h := by omega
    have hfound := Option.map_eq_none_iff.mp (hexact.trans (if_neg hfits))
    simp only [args, hfound, shortage, if_pos hsize]

/-- A frame has a tuple only in a buffer that holds it. -/
theorem frameBytes_le_of_args {w h : UInt32} {data : List UInt8} {args : Args}
    (hargs : (frameDrawn w h data).args = .ok args) : frameBytes w h ≤ data.length := by
  by_cases hshort : data.length < frameBytes w h
  · simp [args_of_lt_frameBytes hshort] at hargs
  · omega

/-- Only a drawn frame has that kind. -/
theorem eq_frameDrawn_of_kind {e : Event} (hkind : e.kind = .frameDrawn) :
    ∃ w h data, e = frameDrawn w h data := by
  cases e with
  | frameDrawn w h data => exact ⟨w, h, data, rfl⟩
  | _ => simp [kind] at hkind

/-- No other event is refused. -/
theorem exists_args {e : Event} (hkind : e.kind ≠ .frameDrawn) : ∃ args, e.args = .ok args := by
  cases e with
  | frameDrawn w h data => exact absurd rfl hkind
  | _ => exact ⟨_, rfl⟩

/-- No other event has bytes to lose. -/
theorem trimmed_eq {e : Event} (hkind : e.kind ≠ .frameDrawn) : e.trimmed = e := by
  cases e with
  | frameDrawn w h data => exact absurd rfl hkind
  | _ => rfl

/-- What an event loses does not change its kind. -/
@[simp] theorem kind_trimmed (e : Event) : e.trimmed.kind = e.kind := by
  cases e <;> rfl

/-- The id of a script keeps its value where it gets a sign. -/
theorem toInt_ofNat_toNat (n : UInt32) : (Int64.ofNat n.toNat).toInt = n.toNat := by
  have hbound := n.toNat_lt
  exact Int64.toInt_ofNat_of_lt (by omega)

/-- What a tuple says is what the event says. -/
theorem map_meaning_args {e : Event} {args : Args} (haddr : e.Addressable)
    (hargs : e.args = .ok args) : args.map Arg.meaning = e.meanings := by
  cases e with
  | frameDrawn w h data =>
    rw [args_of_frameBytes_le haddr (frameBytes_le_of_args hargs)] at hargs
    obtain rfl := Except.ok.inj hargs
    simp [meanings, Arg.meaning]
  | scriptEnd script =>
    obtain rfl := Except.ok.inj hargs
    have hexact := toInt_ofNat_toNat script.val
    simp only [meanings, List.map, Arg.meaning, hexact]
  | _ =>
    obtain rfl := Except.ok.inj hargs
    simp [meanings, Arg.meaning]

/-- A tuple and the kind it came with are read back as the event, up to the bytes after
its frame. -/
theorem ofArgs?_args {e : Event} {args : Args} (haddr : e.Addressable)
    (hargs : e.args = .ok args) : ofArgs? e.kind args = some e.trimmed := by
  have hnarrow := UInt32.toUInt32_toUInt64
  cases e with
  | frameDrawn w h data =>
    rw [args_of_frameBytes_le haddr (frameBytes_le_of_args hargs)] at hargs
    obtain rfl := Except.ok.inj hargs
    change some (frameDrawn w.toUInt64.toUInt32 h.toUInt64.toUInt32 _) = some (frameDrawn w h _)
    rw [hnarrow, hnarrow]
  | memoryBreakpoint isWrite address value =>
    obtain rfl := Except.ok.inj hargs
    exact congrArg (fun a => some (memoryBreakpoint isWrite a value)) (hnarrow address)
  | codeBreakpoint address =>
    obtain rfl := Except.ok.inj hargs
    exact congrArg (fun a => some (codeBreakpoint a)) (hnarrow address)
  | saveStateSave toSlot slot =>
    obtain rfl := Except.ok.inj hargs
    exact congrArg (fun a => some (saveStateSave toSlot a)) (hnarrow slot)
  | saveStateLoad fromSlot slot =>
    obtain rfl := Except.ok.inj hargs
    exact congrArg (fun a => some (saveStateLoad fromSlot a)) (hnarrow slot)
  | beforeSaveStateLoad fromSlot slot =>
    obtain rfl := Except.ok.inj hargs
    exact congrArg (fun a => some (beforeSaveStateLoad fromSlot a)) (hnarrow slot)
  | renderGeometryChange x y w h =>
    obtain rfl := Except.ok.inj hargs
    change some (renderGeometryChange x.toInt64.toInt32 y.toInt64.toInt32 w.toInt64.toInt32
      h.toInt64.toInt32) = some (renderGeometryChange x y w h)
    simp only [Int32.toInt32_toInt64]
  | scriptEnd script =>
    obtain rfl := Except.ok.inj hargs
    have hexact := toInt_ofNat_toNat script.val
    change some (scriptEnd ⟨(Int64.ofNat script.val.toNat).toInt.toNat.toUInt32⟩)
      = some (scriptEnd script)
    rw [hexact, Int.toNat_natCast, Nat.toUInt32, UInt32.ofNat_toNat]
  | frameAdvance | frameBegin | unpause | timerTick | focusChange =>
    obtain rfl := Except.ok.inj hargs
    rfl

/-- Two frames with the same bytes in them have the same tuple. -/
theorem args_frameDrawn_of_take_eq {w h : UInt32} {data data' : List UInt8} {args : Args}
    (hdata : data.length < UInt64.size) (hdata' : data'.length < UInt64.size)
    (hargs : (frameDrawn w h data).args = .ok args)
    (htake : data'.take (frameBytes w h) = data.take (frameBytes w h)) :
    (frameDrawn w h data').args = .ok args := by
  have hholds := frameBytes_le_of_args hargs
  -- the frames are equally long, so the other buffer holds one too
  have hlengths := congrArg List.length htake
  rw [List.length_take, List.length_take] at hlengths
  have hholds' : frameBytes w h ≤ data'.length := by omega
  rw [args_of_frameBytes_le hdata hholds] at hargs
  rw [args_of_frameBytes_le hdata' hholds', htake]
  exact hargs

/-- Events that differ in nothing but the bytes after their frame have the same tuple. -/
theorem args_of_trimmed_eq {e e' : Event} {args : Args} (haddr : e.Addressable)
    (haddr' : e'.Addressable) (hargs : e.args = .ok args) (hsame : e'.trimmed = e.trimmed) :
    e'.kind = e.kind ∧ e'.args = .ok args := by
  have hkinds : e'.kind = e.kind := by rw [← kind_trimmed e', hsame, kind_trimmed]
  by_cases hkind : e.kind = .frameDrawn
  · obtain ⟨w, h, data, rfl⟩ := eq_frameDrawn_of_kind hkind
    obtain ⟨w', h', data', rfl⟩ := eq_frameDrawn_of_kind (hkinds.trans hkind)
    obtain ⟨rfl, rfl, htake⟩ := Event.frameDrawn.inj hsame
    exact ⟨rfl, args_frameDrawn_of_take_eq haddr haddr' hargs htake⟩
  · rw [trimmed_eq hkind, trimmed_eq (hkinds ▸ hkind)] at hsame
    subst hsame
    exact ⟨rfl, hargs⟩

/-- An event is refused just where it is a frame in a buffer that ends before it. -/
theorem args_eq_error {e : Event} {err : EventError} (haddr : e.Addressable) :
    e.args = .error err ↔ ∃ w h data, e = .frameDrawn w h data ∧
      data.length < frameBytes w h ∧ err = .malformed .frameDrawn (shortage w h data.length) := by
  constructor
  · intro hargs
    by_cases hkind : e.kind = .frameDrawn
    · obtain ⟨w, h, data, rfl⟩ := eq_frameDrawn_of_kind hkind
      by_cases hshort : data.length < frameBytes w h
      · rw [args_of_lt_frameBytes hshort] at hargs
        exact ⟨w, h, data, rfl, hshort, (Except.error.inj hargs).symm⟩
      · have hholds : frameBytes w h ≤ data.length := by omega
        simp [args_of_frameBytes_le haddr hholds] at hargs
    · obtain ⟨args, hok⟩ := exists_args hkind
      simp [hok] at hargs
  · rintro ⟨w, h, data, rfl, hshort, rfl⟩
    exact args_of_lt_frameBytes hshort

/-- Where a frame has a tuple, its size was found, and the buffer holds as many bytes. -/
theorem exists_frameSize {w h : UInt32} {data : List UInt8} {args : Args}
    (haddr : data.length < UInt64.size) (hargs : (frameDrawn w h data).args = .ok args) :
    ∃ needs, frameSize? w h = some needs ∧ needs.toNat = frameBytes w h ∧
      needs.toNat ≤ data.length := by
  have hholds := frameBytes_le_of_args hargs
  cases hsize : frameSize? w h with
  | none =>
    have hlarge := size_le_of_frameSize? hsize
    omega
  | some needs =>
    have hneeds := toNat_of_frameSize? hsize
    exact ⟨needs, rfl, hneeds, by omega⟩

/-- **The mapping to arguments is exact.**  A tuple is refused to an event just where it is
a drawn frame whose buffer has fewer bytes than its width times its height times four; that
product is not taken modulo anything.  Where there is a tuple, the bytes it takes are there
to be taken, each argument says what its field says, whatever its width and sign, and kind
and tuple are read back as the event without the bytes after its frame: another event has
this kind and this tuple just where it differs in those bytes only. -/
theorem args_exact {e : Event} (haddr : e.Addressable) :
    (∀ err, e.args = .error err ↔ ∃ w h data, e = .frameDrawn w h data ∧
      data.length < w.toNat * h.toNat * 4 ∧
      err = .malformed .frameDrawn (shortage w h data.length)) ∧
    ∀ args, e.args = .ok args →
      (∀ w h data, e = .frameDrawn w h data → ∃ needs, frameSize? w h = some needs ∧
        needs.toNat = w.toNat * h.toNat * 4 ∧ needs.toNat ≤ data.length) ∧
      args.map Arg.meaning = e.meanings ∧
      ofArgs? e.kind args = some e.trimmed ∧
      ∀ e' : Event, e'.Addressable →
        (e'.kind = e.kind ∧ e'.args = .ok args ↔ e'.trimmed = e.trimmed) := by
  refine ⟨fun err => args_eq_error haddr, ?_⟩
  intro args hargs
  have hread := ofArgs?_args haddr hargs
  refine ⟨?_, map_meaning_args haddr hargs, hread, ?_⟩
  · rintro w h data rfl
    exact exists_frameSize haddr hargs
  · intro e' haddr'
    constructor
    · rintro ⟨hkind, hargs'⟩
      have hread' := ofArgs?_args haddr' hargs'
      rw [hkind, hread] at hread'
      exact (Option.some.inj hread').symm
    · exact args_of_trimmed_eq haddr haddr' hargs

/-- A frame of the greatest width and height, whose bytes do not fit 64 bits, is refused with
three bytes; an event at negative coordinates is read back. -/
theorem args_exact_extremes :
    (frameDrawn 4294967295 4294967295 [1, 2, 3]).args =
        .error (.malformed .frameDrawn (.frameOverflows 4294967295 4294967295)) ∧
      ofArgs? .renderGeometryChange [.int (-10), .int 20, .int 640, .int 480] =
        some (renderGeometryChange (-10) 20 640 480) := by
  refine ⟨((args_exact (by decide)).1 _).mpr ⟨_, _, _, rfl, by decide, rfl⟩, ?_⟩
  have hread := ((args_exact (e := renderGeometryChange (-10) 20 640 480) trivial).2 _ rfl).2.2.1
  exact hread

end Event

end ScriptHost
