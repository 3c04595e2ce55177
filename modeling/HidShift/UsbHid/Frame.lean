import HidShift.UsbHid.Report

/-! Input frames from the reports of USB devices (`usb_hid/frame.rs`). -/

namespace HidShift

open Lib
open Lib.Checked (mapError result)

inductive Modifier
  | leftCtrl
  | leftShift
  | leftAlt
  | leftGui
  | rightCtrl
  | rightShift
  | rightAlt
  | rightGui
deriving DecidableEq

def Modifier.flag : Modifier → ModifierState
  | .leftCtrl => 0x01
  | .leftShift => 0x02
  | .leftAlt => 0x04
  | .leftGui => 0x08
  | .rightCtrl => 0x10
  | .rightShift => 0x20
  | .rightAlt => 0x40
  | .rightGui => 0x80

def modifierFromKeyboardUsage (usage : UInt8) : Option Modifier :=
  if usage = 0xe0 then some .leftCtrl
  else if usage = 0xe1 then some .leftShift
  else if usage = 0xe2 then some .leftAlt
  else if usage = 0xe3 then some .leftGui
  else if usage = 0xe4 then some .rightCtrl
  else if usage = 0xe5 then some .rightShift
  else if usage = 0xe6 then some .rightAlt
  else if usage = 0xe7 then some .rightGui
  else none

def MouseButton.mask : MouseButton → BitVec 8
  | .left => 0x01
  | .right => 0x02
  | .middle => 0x04
  | .back => 0x08
  | .forward => 0x10

theorem MouseButton.mask_masked (button : MouseButton) :
    button.mask &&& 0xe0#8 = 0#8 := by
  cases button <;> rfl

def MouseButtons.press (buttons : MouseButtons) (button : MouseButton) :
    MouseButtons :=
  ⟨buttons.bits ||| button.mask, by
    rw [BitVec.and_or_distrib_right, buttons.masked, button.mask_masked]
    rfl⟩

def clampI32ToI16 (value : Int32) : Int16 :=
  if 32767 < value then 32767
  else if value < -32768 then -32768
  else value.toInt16

def clampI32ToI8 (value : Int32) : Int8 :=
  if 127 < value then 127
  else if value < -128 then -128
  else value.toInt8

/-- What the events of a report add up to. -/
structure FrameParts where
  modifiers : ModifierState
  keyboard : KeyboardFrame
  hasKeyboard : Bool
  mouse : MouseFrame
  hasMouse : Bool
  consumer : Option ConsumerUsage

namespace FrameParts

def new : FrameParts :=
  ⟨0, .new 0, false, ⟨.empty, .neutral⟩, false, none⟩

def move (parts : FrameParts) (movement : MouseMovement) : FrameParts :=
  { parts with
    mouse := { parts.mouse with movement := movement }
    hasMouse := true }

def addKey (parts : FrameParts) (usage : UInt8) :
    Except InputError FrameParts :=
  match modifierFromKeyboardUsage usage with
  | some modifier => .ok { parts with
      modifiers := parts.modifiers ||| modifier.flag
      hasKeyboard := true }
  | none =>
      if 4 ≤ usage then do
        let keyboard ← parts.keyboard.pushKey ⟨usage⟩
        return { parts with keyboard := keyboard, hasKeyboard := true }
      else
        .ok { parts with hasKeyboard := true }

def add (parts : FrameParts) : HidReportEvent → Except InputError FrameParts
  | .keyboardUsageDown usage => parts.addKey usage
  | .mouseButtonDown button => .ok { parts with
      mouse := { parts.mouse with
        buttons := parts.mouse.buttons.press button }
      hasMouse := true }
  | .mouseX x =>
      .ok (parts.move { parts.mouse.movement with x := clampI32ToI16 x })
  | .mouseY y =>
      .ok (parts.move { parts.mouse.movement with y := clampI32ToI16 y })
  | .mouseWheel wheel =>
      .ok (parts.move { parts.mouse.movement with
        wheel := clampI32ToI8 wheel })
  | .mousePan pan =>
      .ok (parts.move { parts.mouse.movement with pan := clampI32ToI8 pan })
  | .consumerUsageDown usage => .ok { parts with
      consumer := parts.consumer.or (some ⟨usage⟩) }

def frame (parts : FrameParts) (deviceId : DeviceId)
    (interfaceId : InterfaceId) : StandardInputFrame where
  deviceId := deviceId
  interfaceId := interfaceId
  keyboard := if parts.hasKeyboard then
      some { parts.keyboard with modifiers := parts.modifiers }
    else
      none
  mouse := if parts.hasMouse then some parts.mouse else none
  consumer := parts.consumer.map fun active => ⟨some active⟩

end FrameParts

def eventsToStandardInputFrame (deviceId : DeviceId)
    (interfaceId : InterfaceId) (events : List HidReportEvent) :
    Except InputError StandardInputFrame := do
  let parts ← events.foldlM FrameParts.add .new
  return parts.frame deviceId interfaceId

inductive UsbInputFrameError
  | hidReport (error : HidReportError)
  | input (error : InputError)
deriving DecidableEq

/-- An empty part for every domain of the report that reported nothing. -/
def StandardInputFrame.withDomains (frame : StandardInputFrame)
    (domains : HidReportDomains) : StandardInputFrame :=
  { frame with
    keyboard := if domains.keyboard ∧ frame.keyboard.isNone then
        some (.new 0)
      else
        frame.keyboard
    mouse := if domains.mouse ∧ frame.mouse.isNone then
        some ⟨.empty, .neutral⟩
      else
        frame.mouse
    consumer := if domains.consumer ∧ frame.consumer.isNone then
        some ⟨none⟩
      else
        frame.consumer }

/-- `capacity` bounds the events of one report. -/
def decodeStandardInputFrame {fieldCapacity : Nat} (capacity : Nat)
    (deviceId : DeviceId) (interfaceId : InterfaceId)
    (descriptor : HidReportDescriptor fieldCapacity) (report : List UInt8) :
    Checked UsbInputFrameError StandardInputFrame := do
  let (reportId, _) ← mapError .hidReport
    (result (descriptor.matchingPayload report))
  let events ← mapError .hidReport (decodeReport descriptor capacity report)
  let frame ← mapError .input
    (result (eventsToStandardInputFrame deviceId interfaceId events.toList))
  return frame.withDomains (descriptor.reportDomains reportId)

end HidShift
