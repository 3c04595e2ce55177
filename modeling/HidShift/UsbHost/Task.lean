import HidShift.Input.MovementQueue
import HidShift.Interchip.Message
import HidShift.Runtime.State
import HidShift.UsbHid.Frame
import HidShift.UsbHid.Topology

/-! The task that owns the USB host (`platform/usb_host_task.rs`).  It attaches
devices, passes their reports on to the runtime and detaches what goes away.
What the bus and the devices answer comes with the events. -/

namespace HidShift

open Lib
open Lib.Checked (mapError result)

def maxActiveUsbInterfaces : Nat := 5

def maxHubPorts : Nat := 4

def maxReportFields : Nat := 48

def maxReportEvents : Nat := 32

def usbHidReportMaxLen : Nat := 256

inductive UsbHidInterfaceRuntimeInputError
  | reportTooLong
  | wrongDevice
  | wrongInterface
  | decode (error : UsbInputFrameError)

structure UsbHidInputReport where
  deviceId : DeviceId
  interfaceId : InterfaceId
  bytes : List UInt8

/-- Sessions are objects of their own; `connection` tells those of one
attachment from those of another. -/
structure UsbHidInterfaceRuntimeSession where
  deviceId : DeviceId
  interfaceId : InterfaceId
  descriptor : HidReportDescriptor maxReportFields
  connection : Nat
deriving DecidableEq

namespace UsbHidInterfaceRuntimeSession

def captureInputReport (session : UsbHidInterfaceRuntimeSession)
    (report : List UInt8) :
    Except UsbHidInterfaceRuntimeInputError UsbHidInputReport :=
  if usbHidReportMaxLen < report.length then
    .error .reportTooLong
  else
    .ok ⟨session.deviceId, session.interfaceId, report⟩

def inputMessage (session : UsbHidInterfaceRuntimeSession)
    (report : UsbHidInputReport) :
    Checked UsbHidInterfaceRuntimeInputError StandardInputFrame :=
  if report.deviceId ≠ session.deviceId then
    throw .wrongDevice
  else if report.interfaceId ≠ session.interfaceId then
    throw .wrongInterface
  else
    mapError .decode (decodeStandardInputFrame maxReportEvents
      session.deviceId session.interfaceId session.descriptor report.bytes)

end UsbHidInterfaceRuntimeSession

structure ActiveUsbInterfaceSlot where
  interfaceId : InterfaceId
  interruptInEp : UInt8
  session : UsbHidInterfaceRuntimeSession
  lastMouseButtons : MouseButtons
  rawInSequence : UInt16
deriving DecidableEq

/-- `raw` is there in the dual build alone. -/
structure UsbDecodedInput where
  standard : Option StandardInputFrame
  movementOnly : Bool
  raw : Option RawEndpointReport

/-- The frame only moves the mouse; the buttons of the frame come second. -/
def movementOnlyFrame (frame : StandardInputFrame)
    (previousButtons : MouseButtons) : Bool × MouseButtons :=
  match frame.mouse with
  | none => (false, previousButtons)
  | some mouse =>
      (frame.keyboard.isNone && frame.consumer.isNone &&
        mouse.buttons = previousButtons && mouse.movement ≠ .neutral,
        mouse.buttons)

namespace ActiveUsbInterfaceSlot

def key (slot : ActiveUsbInterfaceSlot) : InterfaceId × DeviceId :=
  (slot.interfaceId, slot.session.deviceId)

/-- A report that the session rejects gives no frame; `none` stops the
task. -/
def decodeReport (slot : ActiveUsbInterfaceSlot) (report : List UInt8) :
    Option (ActiveUsbInterfaceSlot × Option StandardInputFrame × Bool) :=
  match (result (slot.session.captureInputReport report) >>=
      slot.session.inputMessage).run with
  | none => none
  | some (.error _) => some (slot, none, false)
  | some (.ok frame) =>
      let (movementOnly, buttons) :=
        movementOnlyFrame frame slot.lastMouseButtons
      some ({ slot with lastMouseButtons := buttons }, some frame, movementOnly)

def nextRawIn (slot : ActiveUsbInterfaceSlot) : ActiveUsbInterfaceSlot :=
  let next := slot.rawInSequence + 1
  { slot with rawInSequence := if next = 0 then 1 else next }

def handleReport (build : Build) (slot : ActiveUsbInterfaceSlot)
    (report : List UInt8) :
    Option (ActiveUsbInterfaceSlot × Option UsbDecodedInput) :=
  match build with
  | .single => do
      let (slot, standard, movementOnly) ← slot.decodeReport report
      return (slot, standard.map fun frame =>
        ⟨some frame, movementOnly, none⟩)
  | .dual =>
      let slot := slot.nextRawIn
      match RawEndpointReport.new slot.interruptInEp slot.rawInSequence
          report with
      | .error _ => some (slot, none)
      | .ok raw => do
          let (slot, standard, movementOnly) ← slot.decodeReport report
          return (slot, some ⟨standard, movementOnly, some raw⟩)

end ActiveUsbInterfaceSlot

inductive QueueAnswer
  /-- `free_capacity` is zero. -/
  | full
  /-- There was room, but `try_send` comes too late. -/
  | refused
  | accepted
deriving Repr

namespace UsbMovementCoalescer

def pushBack (queue : UsbMovementCoalescer) (frame : StandardInputFrame) :
    UsbMovementCoalescer :=
  match queue.push frame with
  | .ok next => next
  | .error _ => queue

/-- Sends what waits while the queue has room; the queue counts as full when
there are no more answers. -/
def sendWaiting : List QueueAnswer → UsbMovementCoalescer →
    UsbMovementCoalescer × List StandardInputFrame
  | [], queue => (queue, [])
  | .full :: _, queue => (queue, [])
  | .refused :: _, queue =>
      match queue.takeNext with
      | none => (queue, [])
      | some (frame, queue) => (queue.pushBack frame, [])
  | .accepted :: answers, queue =>
      match queue.takeNext with
      | none => (queue, [])
      | some (frame, queue) =>
          let (queue, sent) := sendWaiting answers queue
          (queue, frame :: sent)

def remaining (queue : UsbMovementCoalescer) : Nat :=
  (queue.waiting.map PendingMovement.remaining).sum

/-- Sends everything that waits, however long it takes; `left` bounds the
reports. -/
def sendAll : (left : Nat) → UsbMovementCoalescer →
    UsbMovementCoalescer × List StandardInputFrame
  | 0, queue => (queue, [])
  | left + 1, queue =>
      match queue.takeNext with
      | none => (queue, [])
      | some (frame, queue) =>
          let (queue, sent) := sendAll left queue
          (queue, frame :: sent)

/-- `forward_usb_input` of the single board: the frames that are sent.
`direct` is the answer to `try_send` of a frame that only moves the mouse. -/
def forward (queue : UsbMovementCoalescer) (frame : StandardInputFrame)
    (movementOnly : Bool) (answers : List QueueAnswer) (direct : Bool) :
    UsbMovementCoalescer × List StandardInputFrame :=
  let (queue, sent) := queue.sendWaiting answers
  if movementOnly then
    if direct then (queue, sent ++ [frame]) else (queue.pushBack frame, sent)
  else
    let (queue, rest) := queue.sendAll queue.remaining
    (queue, sent ++ rest ++ [frame])

end UsbMovementCoalescer

def frameMessage {build : Build} (frame : StandardInputFrame) :
    RuntimeInput build :=
  .bridgeEvent (.inputFrame (.standard frame))

def forwardUsbInput (build : Build) (queue : UsbMovementCoalescer)
    (deviceId : DeviceId) (input : UsbDecodedInput)
    (answers : List QueueAnswer) (direct : Bool) :
    UsbMovementCoalescer × List (RuntimeInput build) :=
  match build with
  | .single =>
      match input.standard with
      | none => (queue, [])
      | some frame =>
          let (queue, sent) :=
            queue.forward frame input.movementOnly answers direct
          (queue, sent.map frameMessage)
  | .dual =>
      (queue, input.raw.toList.map fun raw =>
        .usbEndpointIn deviceId raw (input.standard.map .standard))

inductive ProbeOutcome
  | ready (descriptor : HidReportDescriptor maxReportFields)
      (ledOutput : Option KeyboardLedOutputReport) (flags : UInt8)
  /-- No host channel is left for the reader. -/
  | noPipe
  | failed

structure HidInterfaceProbe where
  interfaceNumber : UInt8
  interruptInEp : UInt8
  outcome : ProbeOutcome

/-- A device behind a port.  `interfaces` is what `find_hid_interfaces` makes
of its configuration, `freeReaders` the room for reader tasks. -/
structure EnumeratedDevice where
  usbAddress : UInt8
  identity : InputIdentity
  name : FixedName
  interfaces : Option (List HidInterfaceProbe)
  freeReaders : Nat

inductive RootDevice
  | failed
  | hid (device : EnumeratedDevice)
  | hub (usbAddress : UInt8) (registered : Bool)

inductive UsbReaderEvent
  | report (deviceId : DeviceId) (interfaceId : InterfaceId) (data : List UInt8)
  | fatal (deviceId : DeviceId) (interfaceId : InterfaceId)
deriving DecidableEq

namespace UsbReaderEvent

def deviceId : UsbReaderEvent → DeviceId
  | .report deviceId _ _ => deviceId
  | .fatal deviceId _ => deviceId

def interfaceId : UsbReaderEvent → InterfaceId
  | .report _ interfaceId _ => interfaceId
  | .fatal _ interfaceId => interfaceId

def key (event : UsbReaderEvent) : InterfaceId × DeviceId :=
  (event.interfaceId, event.deviceId)

end UsbReaderEvent

inductive UsbHostEvent
  | rootConnected (device : RootDevice)
  | rootDisconnected
  | childEnumerated (port : UInt8) (device : EnumeratedDevice)
  | childRemoved (port : UInt8)
  | hubFailed
  | reader (event : UsbReaderEvent) (answers : List QueueAnswer) (direct : Bool)

inductive UsbHostPhase
  | waiting
  | device (deviceId : DeviceId)
  | hub (deviceId : DeviceId) (ports : List (Option DeviceId))
deriving DecidableEq

abbrev ActiveSlots := List (Option ActiveUsbInterfaceSlot)

structure UsbHostTask where
  topology : DefaultUsbTopologyManager
  activeSlots : ActiveSlots
  movementQueue : UsbMovementCoalescer
  phase : UsbHostPhase

/-- The task after a step, the messages it sent to the runtime and the readers
it started. -/
structure UsbHostStep (build : Build) where
  task : UsbHostTask
  sent : List (RuntimeInput build)
  readers : List (DeviceId × InterfaceId)

def UsbHostTask.boot : UsbHostTask where
  topology := .new
  activeSlots := List.replicate maxActiveUsbInterfaces none
  movementQueue := .new maxActiveUsbInterfaces
  phase := .waiting

structure Attaching (build : Build) where
  topology : DefaultUsbTopologyManager
  activeSlots : ActiveSlots
  sent : List (RuntimeInput build)
  readers : List (DeviceId × InterfaceId)

/-- One turn of the loop over the interfaces; an error ends the loop with what
it had reached. -/
def attachHidInterface {build : Build} (device : EnumeratedDevice)
    (deviceId : DeviceId) (connection : Nat) (attaching : Attaching build)
    (probe : HidInterfaceProbe) : Except (Attaching build) (Attaching build) :=
  match SlotTable.freeIndex? attaching.activeSlots with
  | none => .ok attaching
  | some slotIndex =>
      match attaching.topology.registerInterface deviceId
          probe.interfaceNumber with
      | .error _ => .error attaching
      | .ok (interfaceId, topology) =>
          match probe.outcome with
          | .failed => .error { attaching with topology }
          | .noPipe =>
              match topology.removeInterface interfaceId with
              | .ok (_, topology) => .ok { attaching with topology }
              | .error _ => .ok { attaching with topology }
          | .ready descriptor ledOutput flags =>
              .ok {
                topology
                activeSlots := attaching.activeSlots.set slotIndex
                  (some ⟨interfaceId, probe.interruptInEp,
                    ⟨deviceId, interfaceId, descriptor, connection⟩,
                    .empty, 0⟩)
                sent := attaching.sent ++
                  [.usbHidInterfaceConnected interfaceId deviceId ledOutput,
                    .usbDeviceMetadataUpdated deviceId device.identity
                      device.name flags]
                readers := attaching.readers ++ [(deviceId, interfaceId)] }

/-- The second component tells whether the device is attached. -/
def attachHidInterfacesForDevice (build : Build)
    (device : EnumeratedDevice) (deviceId : DeviceId) (connection : Nat)
    (topology : DefaultUsbTopologyManager) (activeSlots : ActiveSlots) :
    Attaching build × Bool :=
  match device.interfaces.getD [] with
  | [] => (⟨topology, activeSlots, [], []⟩, false)
  | probes =>
      match probes.foldlM (attachHidInterface device deviceId connection)
          ⟨topology, activeSlots, [], []⟩ with
      | .error attaching => ({ attaching with readers := [] }, false)
      | .ok attaching =>
          ({ attaching with
              readers := attaching.readers.take device.freeReaders },
            !attaching.readers.isEmpty &&
              attaching.readers.length ≤ device.freeReaders)

def pushUniqueInterfaceId (interfaces : List InterfaceId)
    (interfaceId : InterfaceId) : List InterfaceId :=
  if interfaceId ∈ interfaces then interfaces
  else interfaces ++ [interfaceId]

def detachActiveSlots (detaches : ActiveUsbInterfaceSlot → Bool)
    (slots : ActiveSlots × List InterfaceId) : ActiveSlots × List InterfaceId :=
  (slots.1.map fun slot => slot.filter fun slot => !detaches slot,
    ((slots.1.reduceOption.filter detaches).map
      ActiveUsbInterfaceSlot.interfaceId).foldl pushUniqueInterfaceId slots.2)

def detachActiveSlotByInterface (interfaceId : InterfaceId) :
    ActiveSlots × List InterfaceId → ActiveSlots × List InterfaceId :=
  detachActiveSlots fun slot => slot.interfaceId = interfaceId

def detachActiveSlotsForDevice (deviceId : DeviceId) :
    ActiveSlots × List InterfaceId → ActiveSlots × List InterfaceId :=
  detachActiveSlots fun slot => slot.session.deviceId = deviceId

def disconnectedMessages {build : Build} (disconnected : List InterfaceId) :
    List (RuntimeInput build) :=
  disconnected.map .usbHidInterfaceDisconnected

def sourceDisconnected (build : Build) (deviceId : DeviceId) :
    List (RuntimeInput build) :=
  match build with
  | .single => []
  | .dual => [.mirrorSourceDisconnected deviceId]

namespace UsbHostTask

def removeDeviceAndNotify (build : Build) (task : UsbHostTask)
    (deviceId : DeviceId) : UsbHostTask × List (RuntimeInput build) :=
  let (topology, slots) :=
    match task.topology.removeDevice deviceId with
    | .ok (removal, topology) =>
        (topology, removal.interfaces.foldl (fun slots entry =>
          detachActiveSlotByInterface entry.interfaceId slots)
          (task.activeSlots, []))
    | .error _ => (task.topology, (task.activeSlots, []))
  let (activeSlots, disconnected) := detachActiveSlotsForDevice deviceId slots
  ({ task with topology, activeSlots },
    sourceDisconnected build deviceId ++ disconnectedMessages disconnected)

def removeInterfaceAndNotify (build : Build) (task : UsbHostTask)
    (interfaceId : InterfaceId) : UsbHostTask × List (RuntimeInput build) :=
  let topology :=
    match task.topology.removeInterface interfaceId with
    | .ok (_, topology) => topology
    | .error _ => task.topology
  let (activeSlots, disconnected) :=
    detachActiveSlotByInterface interfaceId (task.activeSlots, [])
  ({ task with topology, activeSlots }, disconnectedMessages disconnected)

/-- The session a reader event is for. -/
def slotOf (task : UsbHostTask) (event : UsbReaderEvent) :
    Option ActiveUsbInterfaceSlot :=
  SlotTable.lookup ActiveUsbInterfaceSlot.key task.activeSlots event.key

def handleReport (build : Build) (task : UsbHostTask) (index : Nat)
    (slot : ActiveUsbInterfaceSlot) (data : List UInt8)
    (answers : List QueueAnswer) (direct : Bool) :
    Option (UsbHostTask × List (RuntimeInput build)) := do
  let (slot, decoded) ← slot.handleReport build data
  let task := { task with activeSlots := task.activeSlots.set index slot }
  match decoded with
  | none => return (task, [])
  | some input =>
      let (movementQueue, sent) := forwardUsbInput build task.movementQueue
        slot.session.deviceId input answers direct
      return ({ task with movementQueue }, sent)

def handleUsbReaderEvent (build : Build) (task : UsbHostTask)
    (event : UsbReaderEvent) (answers : List QueueAnswer) (direct : Bool) :
    Option (UsbHostTask × List (RuntimeInput build) × Option DeviceId) :=
  match SlotTable.slotIndex? ActiveUsbInterfaceSlot.key task.activeSlots
      event.key, task.slotOf event with
  | some index, some slot =>
      match event with
      | .report _ _ data => do
          let (task, sent) ←
            task.handleReport build index slot data answers direct
          return (task, sent, none)
      | .fatal deviceId interfaceId =>
          let (task, sent) := task.removeInterfaceAndNotify build interfaceId
          some (task, .diagnosticsEvent .usbError :: sent,
            if task.activeSlots.reduceOption.any fun slot =>
              slot.session.deviceId = deviceId then none else some deviceId)
  | _, _ => some (task, [], none)

def endSession (build : Build) (task : UsbHostTask) (root : DeviceId) :
    UsbHostStep build :=
  let (task, sent) := task.removeDeviceAndNotify build root
  ⟨{ task with phase := .waiting }, sent, []⟩

def attachDevice (build : Build) (task : UsbHostTask)
    (device : EnumeratedDevice) (deviceId : DeviceId) (connection : Nat)
    (attached : UsbHostPhase) : UsbHostStep build :=
  let (attaching, isAttached) := attachHidInterfacesForDevice build device
    deviceId connection task.topology task.activeSlots
  let task := { task with
    topology := attaching.topology, activeSlots := attaching.activeSlots }
  if isAttached then
    ⟨{ task with phase := attached }, attaching.sent, attaching.readers⟩
  else
    let (task, sent) := task.removeDeviceAndNotify build deviceId
    ⟨task, attaching.sent ++ sent, attaching.readers⟩

def startSession (build : Build) (task : UsbHostTask)
    (connection : Nat) (device : RootDevice) : UsbHostStep build :=
  let task := { task with activeSlots := task.activeSlots.map fun _ => none }
  match device with
  | .failed => ⟨task, [.diagnosticsEvent .usbError], []⟩
  | .hid device =>
      match task.topology.connectDevice device.usbAddress .direct with
      | .error _ => ⟨task, [], []⟩
      | .ok (deviceId, topology) =>
          { task with topology }.attachDevice build device deviceId
            connection (.device deviceId)
  | .hub usbAddress registered =>
      match task.topology.connectDevice usbAddress .direct with
      | .error _ => ⟨task, [], []⟩
      | .ok (deviceId, topology) =>
          if registered then
            ⟨{ task with
                topology
                phase := .hub deviceId (List.replicate maxHubPorts none) },
              [], []⟩
          else
            match topology.removeDevice deviceId with
            | .ok (_, topology) => ⟨{ task with topology }, [], []⟩
            | .error _ => ⟨{ task with topology }, [], []⟩

def handleHubDeviceEnumerated (build : Build) (task : UsbHostTask)
    (connection : Nat) (root : DeviceId) (ports : List (Option DeviceId))
    (port : UInt8) (device : EnumeratedDevice) : UsbHostStep build :=
  if maxHubPorts ≤ port.toNat then
    ⟨task, [], []⟩
  else
    match task.topology.connectDevice device.usbAddress
        (.downstream root port) with
    | .error _ => ⟨task, [], []⟩
    | .ok (deviceId, topology) =>
        { task with topology }.attachDevice build device deviceId connection
          (.hub root (ports.set port.toNat deviceId))

def handleHubDeviceRemoved (build : Build) (task : UsbHostTask)
    (root : DeviceId) (ports : List (Option DeviceId)) (port : UInt8) :
    UsbHostStep build :=
  match ports[port.toNat]?.join with
  | none => ⟨task, [], []⟩
  | some child =>
      let (task, sent) := task.removeDeviceAndNotify build child
      ⟨{ task with phase := .hub root (ports.set port.toNat none) }, sent, []⟩

/-- A device without interfaces is removed; if it is the root, its session is
over. -/
def afterReaderEvent (build : Build) (task : UsbHostTask)
    (sent : List (RuntimeInput build)) (failed : Option DeviceId) :
    UsbHostStep build :=
  match failed with
  | none => ⟨task, sent, []⟩
  | some deviceId =>
      let phase :=
        match task.phase with
        | .hub root ports => .hub root (ports.map fun child =>
            if child = some deviceId then none else child)
        | _ => .waiting
      let (task, removed) := task.removeDeviceAndNotify build deviceId
      ⟨{ task with phase }, sent ++ removed, []⟩

/-- `none` is an event that the phase does not wait for, or a panic.
`connection` numbers the attachments. -/
def step (build : Build) (connection : Nat) (task : UsbHostTask) :
    UsbHostEvent → Option (UsbHostStep build)
  | .rootConnected device =>
      match task.phase with
      | .waiting => some (task.startSession build connection device)
      | .device root | .hub root _ => some (task.endSession build root)
  | .rootDisconnected =>
      match task.phase with
      | .waiting => some ⟨task, [], []⟩
      | .device root | .hub root _ => some (task.endSession build root)
  | .childEnumerated port device =>
      match task.phase with
      | .hub root ports => some (task.handleHubDeviceEnumerated build
          connection root ports port device)
      | _ => none
  | .childRemoved port =>
      match task.phase with
      | .hub root ports =>
          some (task.handleHubDeviceRemoved build root ports port)
      | _ => none
  | .hubFailed =>
      match task.phase with
      | .hub root _ => some (task.endSession build root)
      | _ => none
  | .reader event answers direct =>
      match task.phase with
      | .waiting => none
      | _ => do
          let (task, sent, failed) ←
            task.handleUsbReaderEvent build event answers direct
          return task.afterReaderEvent build sent failed

end UsbHostTask

end HidShift
