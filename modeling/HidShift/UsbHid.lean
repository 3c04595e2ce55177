import HidShift.Bridge.State

/-! The LED reports of USB keyboards and the power of the USB host bus
(`usb_hid/output.rs`, `usb_hid/power.rs`). -/

namespace HidShift

def maxKeyboardLedOutputReportLen : Nat := 8

structure BitPos where
  byteIndex : Nat
  bitIndex : UInt8
deriving DecidableEq

inductive KeyboardLedOutputError
  | reportTooLong
  | missingLedUsages
deriving DecidableEq, Repr

/-- Where a keyboard keeps its LEDs.  The parser of report descriptors only
names bits inside the report. -/
structure KeyboardLedOutputReport where
  reportId : Option UInt8
  byteLen : Nat
  numLockBit : Option BitPos
  capsLockBit : Option BitPos
  scrollLockBit : Option BitPos
  inside : ∀ position ∈
    [numLockBit, capsLockBit, scrollLockBit].reduceOption,
      (if reportId.isSome then 1 else 0) + position.byteIndex < byteLen ∧
        position.bitIndex.toNat < 8
deriving DecidableEq

def KeyboardLedOutputReport.bootKeyboard : KeyboardLedOutputReport :=
  ⟨none, 1, some ⟨0, 0⟩, some ⟨0, 1⟩, some ⟨0, 2⟩, by decide⟩

structure KeyboardLedOutputBytes where
  len : Nat
  reportId : Option UInt8
  bytes : Vector UInt8 8
deriving DecidableEq

def setLedBit (bytes : Vector UInt8 8) (dataOffset : Nat)
    (bitPos : Option BitPos) (enabled : Bool) : Vector UInt8 8 :=
  match bitPos with
  | none => bytes
  | some position =>
      let index := dataOffset + position.byteIndex
      let mask : UInt8 := 1 <<< position.bitIndex
      let byte := bytes.toList.getD index 0
      bytes.setIfInBounds index
        (if enabled then byte ||| mask else byte &&& ~~~mask)

def KeyboardLedOutputReport.build (report : KeyboardLedOutputReport)
    (leds : KeyboardLedState) :
    Except KeyboardLedOutputError KeyboardLedOutputBytes :=
  if maxKeyboardLedOutputReportLen < report.byteLen then
    .error .reportTooLong
  else
    let dataOffset := if report.reportId.isSome then 1 else 0
    let bytes : Vector UInt8 8 := match report.reportId with
      | some reportId => (Vector.replicate 8 0).setIfInBounds 0 reportId
      | none => Vector.replicate 8 0
    let bytes := setLedBit bytes dataOffset report.numLockBit (leds.getLsbD 0)
    let bytes := setLedBit bytes dataOffset report.capsLockBit (leds.getLsbD 1)
    let bytes := setLedBit bytes dataOffset report.scrollLockBit
      (leds.getLsbD 2)
    .ok ⟨report.byteLen, report.reportId, bytes⟩

def usbHostSuspendDelayMs : UInt64 := 3000

inductive UsbHostBusState
  | running
  | suspended
deriving DecidableEq, Repr

structure UsbHostPowerPolicy where
  state : UsbHostBusState
  suspendDeadlineMs : Option UInt64
deriving DecidableEq

namespace UsbHostPowerPolicy

def new : UsbHostPowerPolicy := ⟨.running, none⟩

def update (policy : UsbHostPowerPolicy) (nowMs : UInt64)
    (usbDevicePresent computerConnected : Bool) :
    UsbHostPowerPolicy × Option UsbHostBusState :=
  if !usbDevicePresent || computerConnected then
    if policy.state = .suspended then (⟨.running, none⟩, some .running)
    else ({ policy with suspendDeadlineMs := none }, none)
  else if policy.state = .suspended then
    (policy, none)
  else
    let deadline := policy.suspendDeadlineMs.getD
      (saturatingAddMs nowMs usbHostSuspendDelayMs)
    if nowMs < deadline then
      ({ policy with suspendDeadlineMs := some deadline }, none)
    else
      (⟨.suspended, none⟩, some .suspended)

end UsbHostPowerPolicy

end HidShift
