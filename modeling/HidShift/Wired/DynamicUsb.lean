import HidShift.Bridge.State
import HidShift.Interchip.Message
import HidShift.ManagementCodec

/-! The USB device shown to a wired computer (`usb_dynamic.rs`): the queue of
packets for its IN endpoints and the packets its OUT endpoints bring. -/

namespace HidShift

open Lib

def rawPacketMaxLen : Nat := 64

def rawQueueCapacity : Nat := 16

def managementInEndpoint : UInt8 := 0x84

def managementOutEndpoint : UInt8 := 0x04

def managementHidRequestReportId : UInt8 := 0x10

def managementHidResponseReportId : UInt8 := 0x11

def managementHidEventReportId : UInt8 := 0x12

inductive DynamicUsbError
  | endpointAllocation
  | endpointCapacity
  | unknownEndpoint
  | packetTooLarge
  | queueFull
deriving DecidableEq

inductive UsbError
  | wouldBlock
  | parseError
  | bufferOverflow
  | endpointOverflow
  | endpointMemoryOverflow
  | invalidEndpoint
  | unsupported
  | invalidState
deriving Repr

structure RawPacket where
  endpointAddress : UInt8
  data : BoundedVec UInt8 rawPacketMaxLen
deriving DecidableEq

def RawPacket.new (endpointAddress : UInt8) (data : List UInt8) :
    Except DynamicUsbError RawPacket :=
  if fits : data.length ≤ rawPacketMaxLen then
    .ok ⟨endpointAddress, ⟨data, fits⟩⟩
  else
    .error .packetTooLarge

/-- What the bus answers while one `service` call runs. -/
structure UsbBus where
  write : UInt8 → List UInt8 → Except UsbError Nat
  read : UInt8 → Except UsbError (BoundedVec UInt8 rawPacketMaxLen)

def clampI16ToI8 (value : Int16) : Int8 :=
  if 127 < value then 127 else if value < -128 then -128 else value.toInt8

def MouseReport.bootBytes (report : MouseReport) : List UInt8 :=
  [report.bytes.getD 0 0, (clampI16ToI8 report.movement.x).toUInt8,
    (clampI16ToI8 report.movement.y).toUInt8]

structure DynamicUsb where
  inputs : List UInt8
  outputs : List UInt8
  pendingIn : BoundedVec RawPacket rawQueueCapacity
  pendingOut : BoundedVec RawPacket rawQueueCapacity
  fallback : Bool
  pendingStandardOutput : Option StandardOutputReport
  pendingManagementRequest : Option (ManagementRequest .dual)
  fallbackProtocol : Vector UInt8 4
  fallbackLastInput : Vector (Option RawPacket) 4
  droppedPackets : UInt32

def fallbackEndpoints : List UInt8 := [0x81, 0x01, 0x82, 0x83, 0x84, 0x04]

namespace DynamicUsb

def new (endpoints : List UInt8) (fallback : Bool) : DynamicUsb where
  inputs := endpoints.filter (· &&& 0x80 ≠ 0)
  outputs := endpoints.filter (· &&& 0x80 = 0)
  pendingIn := .empty
  pendingOut := .empty
  fallback := fallback
  pendingStandardOutput := none
  pendingManagementRequest := none
  fallbackProtocol := Vector.replicate 4 1
  fallbackLastInput := Vector.replicate 4 none
  droppedPackets := 0

def dropStandardReport (usb : DynamicUsb) : DynamicUsb :=
  { usb with droppedPackets := saturatingSucc usb.droppedPackets }

def pushPendingIn (usb : DynamicUsb) (packet : RawPacket) :
    Except DynamicUsbError DynamicUsb :=
  match usb.pendingIn.push? packet with
  | some pendingIn => .ok { usb with pendingIn }
  | none => .error .queueFull

def enqueueManagementPacket (usb : DynamicUsb) (bytes : List UInt8) :
    DynamicUsb :=
  if usb.fallback then
    match RawPacket.new managementInEndpoint bytes >>= usb.pushPendingIn with
    | .ok next => next
    | .error _ => usb.dropStandardReport
  else
    usb.dropStandardReport

def enqueueManagementResponse (usb : DynamicUsb)
    (response : ManagementResponse) : DynamicUsb :=
  usb.enqueueManagementPacket (managementHidResponseReportId :: response.encode)

def enqueueManagementEvent (usb : DynamicUsb) (event : ManagementEvent) :
    DynamicUsb :=
  usb.enqueueManagementPacket (managementHidEventReportId :: event.encode)

def standardData (usb : DynamicUsb) :
    StandardHidReport → Nat × UInt8 × List UInt8
  | .keyboard report => (0, 0x81, report.bytes.toList)
  | .mouse report =>
      (1, 0x82, if usb.fallbackProtocol.getD 1 0 = 0 then report.bootBytes
        else report.bytes.toList)
  | .consumer report => (2, 0x83, report.bytes.toList)

def enqueueStandardReport (usb : DynamicUsb) (report : StandardHidReport) :
    DynamicUsb :=
  if usb.fallback then
    match RawPacket.new (usb.standardData report).2.1
        (usb.standardData report).2.2 with
    | .ok packet =>
        let usb := { usb with
          fallbackLastInput :=
            usb.fallbackLastInput.setIfInBounds (usb.standardData report).1
              packet }
        match usb.pushPendingIn packet with
        | .ok next => next
        | .error _ => usb.dropStandardReport
    | .error _ => usb.dropStandardReport
  else
    usb.dropStandardReport

def releases : List StandardHidReport :=
  [.keyboard .release, .mouse .releaseButtons, .consumer .release]

def releaseAllStandard (usb : DynamicUsb) : DynamicUsb :=
  releases.foldl enqueueStandardReport usb

/-- The IN half of `service`, with the packet the bus took. -/
def serviceIn (usb : DynamicUsb) (bus : UsbBus) :
    DynamicUsb × Option RawPacket :=
  match usb.pendingIn.toList.head? with
  | none => (usb, none)
  | some packet =>
      match if packet.endpointAddress ∈ usb.inputs then
          bus.write packet.endpointAddress packet.data.toList
        else .error .invalidEndpoint with
      | .ok _ => ({ usb with pendingIn := usb.pendingIn.drop 1 }, some packet)
      | .error .wouldBlock => (usb, none)
      | .error _ =>
          ({ usb with
            pendingIn := usb.pendingIn.drop 1,
            droppedPackets := saturatingSucc usb.droppedPackets }, none)

def managementRequest (usb : DynamicUsb) (packet : RawPacket) :
    Option (ManagementRequest .dual) :=
  if managementRequestLen + 1 ≤ packet.data.toList.length ∧
      byteAt packet.data.toList 0 = managementHidRequestReportId ∧
      usb.pendingManagementRequest.isNone then
    (ManagementRequest.decode .dual
      (slice packet.data.toList 1 managementRequestLen)).toOption
  else
    none

def received (usb : DynamicUsb) (packet : RawPacket) : DynamicUsb :=
  if usb.fallback ∧ packet.endpointAddress = managementOutEndpoint then
    match usb.managementRequest packet with
    | some request => { usb with pendingManagementRequest := some request }
    | none => usb.dropStandardReport
  else if usb.fallback ∧ packet.endpointAddress = 0x01 then
    { usb with
      pendingStandardOutput :=
        (StandardOutputReport.new 1 packet.data.toList).toOption }
  else
    match usb.pendingOut.push? packet with
    | some pendingOut => { usb with pendingOut }
    | none => usb

def serviceOutput (usb : DynamicUsb) (bus : UsbBus) (address : UInt8) :
    DynamicUsb :=
  match bus.read address with
  | .ok data => usb.received ⟨address, data⟩
  | .error .wouldBlock => usb
  | .error _ => usb.dropStandardReport

/-- The OUT half of `service`; it stops at a full queue. -/
def serviceOutputs (bus : UsbBus) : List UInt8 → DynamicUsb → DynamicUsb
  | [], usb => usb
  | address :: rest, usb =>
      if usb.pendingOut.toList.length = rawQueueCapacity then usb
      else serviceOutputs bus rest (usb.serviceOutput bus address)

def service (usb : DynamicUsb) (bus : UsbBus) :
    DynamicUsb × Option RawPacket :=
  let (usb, written) := usb.serviceIn bus
  (serviceOutputs bus usb.outputs usb, written)

def setProtocol (usb : DynamicUsb) (interface : Fin 4) (value : UInt16) :
    DynamicUsb :=
  if usb.fallback ∧ interface.val < 2 ∧ value ≤ 1 then
    { usb with
      fallbackProtocol := usb.fallbackProtocol.set interface value.toUInt8 }
  else
    usb

def reset (usb : DynamicUsb) : DynamicUsb :=
  { usb with
    pendingStandardOutput := none,
    pendingManagementRequest := none,
    fallbackProtocol := Vector.replicate 4 1,
    fallbackLastInput := Vector.replicate 4 none }

end DynamicUsb

end HidShift
