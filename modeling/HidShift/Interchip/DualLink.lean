import HidShift.Interchip.DeviceStream

/-! The two ends of the link: a host sender with its receiver, and a device
link.  The device arms its cell first; a transaction then exchanges it for the
cell the host prepares, and either of the two may get lost.  Both ends may
start a new session at any time. -/

namespace HidShift

open Lib

structure HostPair where
  sender : ReliableSender
  receiver : ReliableReceiver

/-- What the host sends: a cell it repeats, a new cell, a new cell that opens
a session, or nothing but its acknowledgement. -/
inductive HostChoice
  | retransmit (nowMs timeoutMs : UInt64) (maxAttempts : UInt8)
  | queue (content : List UInt8) (recordCount : UInt8) (nowMs : UInt64)
  | restart (sessionId : UInt32) (content : List UInt8) (recordCount : UInt8)
      (nowMs : UInt64)
  | idle

namespace HostPair

def start (sessionId : UInt32) : HostPair where
  sender := ReliableSender.new sessionId
  receiver := ReliableReceiver.new

def idleCell (host : HostPair) : SpiCell :=
  (SpiCell.empty host.sender.sessionId).withAck host.receiver.cumulativeAck

def acknowledgeDevice (host : HostPair) : HostPair :=
  { host with
    sender := host.sender.setCumulativeAck host.receiver.cumulativeAck }

def queue (host : HostPair) (content : List UInt8) (recordCount : UInt8)
    (nowMs : UInt64) : SpiCell × HostPair :=
  match host.sender.queue content recordCount nowMs with
  | .ok (cell, sender) => (cell, { host with sender })
  | .error _ => (host.idleCell, host)

def restart (host : HostPair) (sessionId : UInt32) : HostPair :=
  { host with sender := host.sender.resetSession sessionId }

def transmit (host : HostPair) : HostChoice → SpiCell × HostPair
  | .retransmit nowMs timeoutMs maxAttempts =>
      match host.sender.pollRetransmit nowMs timeoutMs maxAttempts with
      | (.send cell, sender) => (cell, { host with sender })
      | (_, sender) => (host.idleCell, { host with sender })
  | .queue content recordCount nowMs => host.queue content recordCount nowMs
  | .restart sessionId content recordCount nowMs =>
      (host.restart sessionId).queue content recordCount nowMs
  | .idle => (host.idleCell, host)

def prepare (host : HostPair) (choice : HostChoice) : SpiCell × HostPair :=
  host.acknowledgeDevice.transmit choice

/-- A new session of the device makes the host start one too; otherwise the
acknowledgement is taken. -/
def receive (host : HostPair) (cell : SpiCell) :
    ReceiveDisposition × HostPair :=
  let (disposition, receiver) := host.receiver.receive cell
  let sender :=
    if disposition.remoteSessionChanged then
      host.sender.resetSession (nonzeroSession (host.sender.sessionId + 1))
    else (host.sender.acknowledge cell.header.cumulativeAck).2
  (disposition, { sender, receiver })

end HostPair

inductive DeviceRequest
  | usbState (state : UsbState)
  | standardOutput (report : StandardOutputReport)
  | profileResult (result : ProfileResult)
  | rawEndpointOut (report : RawEndpointReport)
  | controlRequest (request : MirrorControlRequest)
  | managementRequest (request : ManagementRequest .dual)

def DeviceRequest.apply (request : DeviceRequest) (link : DeviceLink)
    (nowMs : UInt64) : DeviceLink :=
  match request with
  | .usbState state => link.updateUsbState state nowMs
  | .standardOutput report => (link.queueStandardOutput report nowMs).2
  | .profileResult result => (link.queueProfileResult result nowMs).2
  | .rawEndpointOut report => (link.queueRawEndpointOut report nowMs).2
  | .controlRequest request => (link.queueControlRequest request nowMs).2
  | .managementRequest request => (link.queueManagementRequest request nowMs).2

/-- The cell the device has armed, and its position in the stream of the
device's session unless it is an idle cell. -/
structure ArmedCell where
  wire : Vector UInt8 spiCellLen
  position : Option Nat

/-- The link with a record of what happened: how many cells of the present
device session were released, the positions the host has accepted in it, and
the device session whose cells the host's acknowledgement counts.  The count
belongs to a session when its first cell was, at that time, the oldest one the
device still held. -/
structure DualLink where
  host : HostPair
  device : DeviceLink
  armed : Option ArmedCell
  session : Nat
  released : Nat
  accepted : List Nat
  counted : Option Nat

inductive DualLinkEvent
  | resetHostSender (sessionId : UInt32)
  | forgetDevice
  | restartDevice (sessionId : UInt32) (usbState : UsbState)
      (capabilities activeProfileHash : UInt32)
  | request (request : DeviceRequest) (nowMs : UInt64)
  | arm (nowMs : UInt64)
  | exchange (choice : HostChoice) (hostArrives deviceArrives : Bool)
      (nowMs : UInt64) (eventCapacity : Nat)

namespace DualLink

def start (hostSession : UInt32) (device : DeviceLink) : DualLink where
  host := HostPair.start hostSession
  device
  armed := none
  session := 0
  released := 0
  accepted := []
  counted := none

/-- A new device session: nothing of it is released or accepted yet. -/
def enterSession (link : DualLink) : DualLink :=
  { link with session := link.session + 1, released := 0, accepted := [] }

/-- Where the stream of a sender has the cell with a sequence number. -/
def positionOf (sender : ReliableSender) (released : Nat)
    (cell : SpiCell) : Option Nat :=
  (sender.pendingCells.findIdx? fun pending =>
    pending.cell.header.txSequence = cell.header.txSequence).map (released + ·)

def armedCell (sender : ReliableSender) (released : Nat)
    (wire : Vector UInt8 spiCellLen) : ArmedCell where
  wire
  position :=
    match SpiCell.decode wire with
    | .ok cell => positionOf sender released cell
    | .error _ => none

def arm (link : DualLink) (nowMs : UInt64) : DualLink :=
  match link.armed with
  | some _ => link
  | none =>
      let (wire, device) := link.device.nextTransaction nowMs
      let entered :=
        if device.sender.sessionId ≠ link.device.sender.sessionId then
          link.enterSession
        else link
      { entered with
        device
        armed := some (armedCell device.sender entered.released wire) }

def countedAfter (link : DualLink) (receiver : ReliableReceiver)
    (fresh : Bool) (position : Option Nat) : Option Nat :=
  if receiver.cumulativeAck = 0 then none
  else if fresh then
    if position = some link.released then some link.session else none
  else link.counted

/-- The count starts anew with the first cell accepted of a session. -/
def startsCount (receiver : ReliableReceiver) (cell : SpiCell) : Bool :=
  (receiver.enterSession cell.header.sessionId).cumulativeAck = 0

def acceptedAfter (accepted : List Nat) (position : Option Nat) :
    ReceiveDisposition → List Nat
  | .accepted _ _ => position.toList ++ accepted
  | _ => accepted

def hostTakes (link : DualLink) (cell : SpiCell) (position : Option Nat) :
    DualLink :=
  let (disposition, host) := link.host.receive cell
  { link with
    host
    accepted := acceptedAfter link.accepted position disposition
    counted := link.countedAfter host.receiver
      (startsCount link.host.receiver cell) position }

def hostReceives (link : DualLink) (armed : ArmedCell) : DualLink :=
  match SpiCell.decode armed.wire with
  | .error _ => link
  | .ok cell => link.hostTakes cell armed.position

def deviceReceives (link : DualLink) (wire : Vector UInt8 spiCellLen)
    (nowMs : UInt64) (eventCapacity : Nat) : DualLink :=
  let events : BoundedVec DeviceLinkEvent eventCapacity := .empty
  { link with
    device := (link.device.handleTransaction wire nowMs events).link
    released := link.released +
      match SpiCell.decode wire with
      | .ok cell =>
          link.device.sender.acknowledgedCount cell.header.cumulativeAck
      | .error _ => 0 }

def send (link : DualLink) (choice : HostChoice) : SpiCell × DualLink :=
  let (cell, host) := link.host.prepare choice
  (cell, { link with host, armed := none })

def exchange (link : DualLink) (choice : HostChoice)
    (hostArrives deviceArrives : Bool) (nowMs : UInt64)
    (eventCapacity : Nat) : DualLink :=
  match link.armed with
  | none => link
  | some armed =>
      let (cell, sent) := link.send choice
      let crossed := if deviceArrives then sent.hostReceives armed else sent
      if hostArrives then
        crossed.deviceReceives (DeviceLink.wireCell cell) nowMs eventCapacity
      else crossed

def perform (link : DualLink) : DualLinkEvent → DualLink
  | .resetHostSender sessionId =>
      { link with host := link.host.restart sessionId }
  | .forgetDevice =>
      { link with
        host := { link.host with receiver := ReliableReceiver.new }
        counted := none }
  | .restartDevice sessionId usbState capabilities activeProfileHash =>
      { link.enterSession with
        device := DeviceLink.withCapabilities sessionId usbState capabilities
          activeProfileHash
        armed := none }
  | .request request nowMs =>
      { link with device := request.apply link.device nowMs }
  | .arm nowMs => link.arm nowMs
  | .exchange choice hostArrives deviceArrives nowMs eventCapacity =>
      link.exchange choice hostArrives deviceArrives nowMs eventCapacity

def Step (before : DualLink) (event : DualLinkEvent) (_ : Unit)
    (after : DualLink) : Prop := before.perform event = after

/-- A host cell that reaches the device acknowledges nothing the device holds,
or was prepared while the host counted cells of the device's present
session. -/
def AckMatches (link : DualLink) : DualLinkEvent → Prop
  | .exchange choice true _ _ _ => link.armed.isSome →
      link.device.sender.acknowledgedCount
          (link.host.prepare choice).1.header.cumulativeAck = 0 ∨
        link.counted = some link.session
  | _ => True

end DualLink

end HidShift
