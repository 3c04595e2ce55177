import HidShift.Ids
import HidShift.Input.Keyboard

/-! Mouse, consumer and combined input states and the frames that carry them
(`input/mouse.rs`, `input/consumer.rs`, `input/leds.rs`, `input/mod.rs`). -/

namespace HidShift

/-- A set of the five mouse buttons.  The bits above them are never set: every
constructor of the source masks them. -/
structure MouseButtons where
  bits : BitVec 8
  masked : bits &&& 0xe0#8 = 0#8
deriving DecidableEq

namespace MouseButtons

theorem ext {left right : MouseButtons} (bits : left.bits = right.bits) :
    left = right := by
  cases left
  cases right
  cases bits
  rfl

theorem masked_and (mask : BitVec 8) {bits : BitVec 8}
    (masked : bits &&& 0xe0#8 = 0#8) : (bits &&& mask) &&& 0xe0#8 = 0#8 := by
  rw [BitVec.and_assoc, BitVec.and_comm mask, ← BitVec.and_assoc, masked,
    BitVec.zero_and]

def empty : MouseButtons := ⟨0, rfl⟩

def fromBitsTruncate (bits : BitVec 8) : MouseButtons :=
  ⟨bits &&& 0x1f#8, by
    rw [BitVec.and_assoc]
    exact BitVec.and_zero⟩

def without (buttons suppressed : MouseButtons) : MouseButtons :=
  ⟨buttons.bits &&& ~~~suppressed.bits, masked_and _ buttons.masked⟩

def intersection (buttons other : MouseButtons) : MouseButtons :=
  ⟨buttons.bits &&& other.bits, masked_and _ buttons.masked⟩

theorem bits_and_mask (buttons : MouseButtons) :
    buttons.bits &&& 0x1f#8 = buttons.bits := by
  have split : buttons.bits &&& (0x1f#8 ||| 0xe0#8) = _ :=
    BitVec.and_or_distrib_left
  rw [buttons.masked, BitVec.or_zero] at split
  rw [← split]
  exact BitVec.and_allOnes

theorem bits_fromBitsTruncate_or (left right : MouseButtons) :
    (fromBitsTruncate (left.bits ||| right.bits)).bits =
      left.bits ||| right.bits := by
  show (left.bits ||| right.bits) &&& 0x1f#8 = _
  rw [BitVec.and_or_distrib_right, bits_and_mask, bits_and_mask]

end MouseButtons

structure MouseMovement where
  x : Int16
  y : Int16
  wheel : Int8
  pan : Int8
deriving DecidableEq

def MouseMovement.neutral : MouseMovement := ⟨0, 0, 0, 0⟩

structure MouseFrame where
  buttons : MouseButtons
  movement : MouseMovement
deriving DecidableEq

structure PhysicalMouseState where
  buttons : MouseButtons
deriving DecidableEq

def PhysicalMouseState.new : PhysicalMouseState := ⟨.empty⟩

structure ConsumerUsage where
  val : UInt16
deriving DecidableEq, Repr

structure ConsumerFrame where
  active : Option ConsumerUsage
deriving DecidableEq

structure ConsumerState where
  active : Option ConsumerUsage
deriving DecidableEq

def ConsumerState.new : ConsumerState := ⟨none⟩

abbrev KeyboardLedState := BitVec 8

def KeyboardLedState.empty : KeyboardLedState := 0

structure PhysicalInputState where
  keyboard : PhysicalKeyboardState
  mouse : PhysicalMouseState
  consumer : ConsumerState
deriving DecidableEq

def PhysicalInputState.new : PhysicalInputState := ⟨.new, .new, .new⟩

structure StandardInputFrame where
  deviceId : DeviceId
  interfaceId : InterfaceId
  keyboard : Option KeyboardFrame
  mouse : Option MouseFrame
  consumer : Option ConsumerFrame
deriving DecidableEq

/-- Vendor reports are only counted, so their payload is not kept here. -/
inductive InputFrame
  | standard (frame : StandardInputFrame)
  | vendor

end HidShift
