import HidShift.Interchip.ControlFragment
import HidShift.ManagementCodec

/-! The device board's end of the link (`interchip/device.rs`). -/

namespace HidShift

open Lib

def nonzeroSession (value : UInt32) : UInt32 := if value = 0 then 1 else value

def saturatingCount (count : UInt32) : UInt32 :=
  if count = 0xffffffff then count else count + 1

def deviceCapabilities : UInt32 :=
  capabilityFallbackProfile ||| capabilityStandardWiredHid |||
    capabilityUsbStateReporting ||| capabilityHidManagement

def profileStorageCapabilities : UInt32 :=
  deviceCapabilities ||| capabilityDynamicProfile |||
    capabilityProfileFlashCache ||| capabilityEndpointIn |||
      capabilityEndpointOut ||| capabilityControlForwarding

def retransmitTimeoutMs : UInt64 := 5

def maxRetransmitAttempts : UInt8 := 8

inductive DeviceLinkEvent
  | standardInput (report : StandardInputReport)
  | releaseAll
  | forceFallback (operationId : UInt32)
  | activateProfile (activate : ActivateProfile)
  | profileBegin (begin : ProfileBegin)
  | profileChunk (chunk : ProfileChunkData)
  | profileCommit (transferId : UInt32)
  | rawEndpointIn (report : RawEndpointReport)
  | controlResponse (response : MirrorControlResponse)
  | managementResponse (response : ManagementResponse)
  | managementEvent (event : ManagementEvent)

structure DeviceLinkDiagnostics where
  validCells : UInt32
  hostSessionChanges : UInt32
  standardReportsReceived : UInt32
  releasesReceived : UInt32
  malformedCells : UInt32
  duplicateCells : UInt32
  sequenceGaps : UInt32
  eventOverflows : UInt32

structure DeviceLink where
  sender : ReliableSender
  receiver : ReliableReceiver
  nextCell : Option SpiCell
  hostCompatible : Bool
  usbState : UsbState
  usbStateDirty : Bool
  diagnostics : DeviceLinkDiagnostics
  capabilities : UInt32
  activeProfileHash : UInt32
  controlRequestTx : Option (MirrorControlRequest × UInt16)
  controlResponseAssembler : ControlResponseAssembler
  managementRequestTx : Option (ManagementRequest .dual)

namespace DeviceLink

def queueRecords (link : DeviceLink) (records : List Record)
    (nowMs : UInt64) : Option SpiCell × DeviceLink :=
  match encodeRecords records with
  | .error _ => (none, link)
  | .ok (content, count) =>
      match link.sender.queue content count nowMs with
      | .error _ => (none, link)
      | .ok (cell, sender) => (some cell, { link with sender })

def queueRecord (link : DeviceLink) (recordType : UInt8) (data : List UInt8)
    (nowMs : UInt64) : Option SpiCell × DeviceLink :=
  link.queueRecords [⟨recordType, 0, data⟩] nowMs

def deviceHello (link : DeviceLink) : Hello where
  role := .device
  protocolVersion := spiProtocolVersion
  firmwareMajor := 0
  firmwareMinor := 2
  capabilities := link.capabilities
  activeProfileHash := link.activeProfileHash

def queueHello (link : DeviceLink) (nowMs : UInt64) :
    Option SpiCell × DeviceLink :=
  link.queueRecord recordHello link.deviceHello.encode nowMs

def settleUsbState (queued : Option SpiCell × DeviceLink) :
    Option SpiCell × DeviceLink :=
  match queued with
  | (some cell, link) => (some cell, { link with usbStateDirty := false })
  | (none, link) => (none, link)

def queueHelloAckAndUsbState (link : DeviceLink) (nowMs : UInt64) :
    Option SpiCell × DeviceLink :=
  settleUsbState (link.queueRecords
    [⟨recordHelloAck, 0, link.deviceHello.encode⟩,
      ⟨recordUsbState, 0, link.usbState.encode⟩] nowMs)

def queueDirtyUsbState (link : DeviceLink) (nowMs : UInt64) :
    Option SpiCell × DeviceLink :=
  if ¬ link.hostCompatible ∨ ¬ link.usbStateDirty then (none, link)
  else
    settleUsbState (link.queueRecord recordUsbState link.usbState.encode nowMs)

def queueNextControlRequestFragment (link : DeviceLink) (nowMs : UInt64) :
    Option SpiCell × DeviceLink :=
  match link.controlRequestTx with
  | none => (none, link)
  | some (request, offset) =>
      match ControlRequestFragment.fromRequest request offset.toNat with
      | .error _ => (none, link)
      | .ok fragment =>
          match link.queueRecord recordControlRequest fragment.encode nowMs with
          | (none, link) => (none, link)
          | (some cell, link) =>
              let nextOffset := offset.toNat + fragment.data.toList.length
              (some cell,
                { link with
                  controlRequestTx :=
                    if isLastFragment fragment.flags then none
                    else some (request, UInt16.ofNat nextOffset) })

def queuePendingManagementRequest (link : DeviceLink) (nowMs : UInt64) :
    Option SpiCell × DeviceLink :=
  match link.managementRequestTx with
  | none => (none, link)
  | some request =>
      match link.queueRecord recordManagementRequest request.encode nowMs with
      | (none, link) => (none, link)
      | (some cell, link) =>
          (some cell, { link with managementRequestTx := none })

def withNextCell (queued : Option SpiCell × DeviceLink) : DeviceLink :=
  { queued.2 with nextCell := queued.1 }

def withCapabilities (sessionId : UInt32) (usbState : UsbState)
    (capabilities activeProfileHash : UInt32) : DeviceLink :=
  let link : DeviceLink := {
    sender := ReliableSender.new (nonzeroSession sessionId)
    receiver := ReliableReceiver.new
    nextCell := none
    hostCompatible := false
    usbState
    usbStateDirty := true
    diagnostics := ⟨0, 0, 0, 0, 0, 0, 0, 0⟩
    capabilities
    activeProfileHash
    controlRequestTx := none
    controlResponseAssembler := .new
    managementRequestTx := none }
  withNextCell (link.queueHello 0)

def new (sessionId : UInt32) (usbState : UsbState) : DeviceLink :=
  withCapabilities sessionId usbState deviceCapabilities 0

def newWithProfileStorage (sessionId : UInt32) (usbState : UsbState)
    (activeProfileHash : UInt32) : DeviceLink :=
  withCapabilities sessionId usbState profileStorageCapabilities
    activeProfileHash

def updateUsbState (link : DeviceLink) (state : UsbState) (nowMs : UInt64) :
    DeviceLink :=
  let link := { link with usbState := state, usbStateDirty := true }
  if link.hostCompatible ∧ link.nextCell.isNone then
    withNextCell (link.queueDirtyUsbState nowMs)
  else link

def ready (link : DeviceLink) : Bool :=
  link.hostCompatible && link.nextCell.isNone

def queueOneRecord (link : DeviceLink) (recordType : UInt8)
    (data : List UInt8) (nowMs : UInt64) : Bool × DeviceLink :=
  if ¬ link.ready then (false, link)
  else
    let link := withNextCell (link.queueRecord recordType data nowMs)
    (link.nextCell.isSome, link)

def queueStandardOutput (link : DeviceLink) (report : StandardOutputReport)
    (nowMs : UInt64) : Bool × DeviceLink :=
  link.queueOneRecord recordStandardOutputReport report.encode nowMs

def queueProfileResult (link : DeviceLink) (result : ProfileResult)
    (nowMs : UInt64) : Bool × DeviceLink :=
  link.queueOneRecord recordProfileResult result.encode nowMs

def queueRawEndpointOut (link : DeviceLink) (report : RawEndpointReport)
    (nowMs : UInt64) : Bool × DeviceLink :=
  link.queueOneRecord recordRawEndpointOut report.encode nowMs

def queueControlRequest (link : DeviceLink) (request : MirrorControlRequest)
    (nowMs : UInt64) : Bool × DeviceLink :=
  if ¬ link.ready ∨ link.controlRequestTx.isSome then (false, link)
  else
    let link := { link with controlRequestTx := some (request, 0) }
    let link := withNextCell (link.queueNextControlRequestFragment nowMs)
    (link.nextCell.isSome, link)

def queueManagementRequest (link : DeviceLink)
    (request : ManagementRequest .dual) (nowMs : UInt64) : Bool × DeviceLink :=
  if ¬ link.ready ∨ link.managementRequestTx.isSome then (false, link)
  else
    let link := { link with managementRequestTx := some request }
    let link := withNextCell (link.queuePendingManagementRequest nowMs)
    (link.nextCell.isSome, link)

/-- `or_else`: the second source is asked when the first has no cell. -/
def orElse (first : Option SpiCell × DeviceLink)
    (second : DeviceLink → Option SpiCell × DeviceLink) :
    Option SpiCell × DeviceLink :=
  match first with
  | (some cell, link) => (some cell, link)
  | (none, link) => second link

def takeNextCell (link : DeviceLink) : Option SpiCell × DeviceLink :=
  (link.nextCell, { link with nextCell := none })

/-- A new session starts with an introduction, so that a strict peer can
acknowledge its first cell. -/
def restartSession (link : DeviceLink) (nowMs : UInt64) :
    Option SpiCell × DeviceLink :=
  let sessionId := nonzeroSession (link.sender.sessionId + 1)
  let link := { link with
    sender := link.sender.resetSession sessionId
    hostCompatible := false
    usbStateDirty := true }
  link.queueHello nowMs

def pollRetransmit (link : DeviceLink) (nowMs : UInt64) :
    Option SpiCell × DeviceLink :=
  match link.sender.pollRetransmit nowMs retransmitTimeoutMs
      maxRetransmitAttempts with
  | (.send cell, sender) => (some cell, { link with sender })
  | (.linkResetRequired, sender) =>
      restartSession { link with sender } nowMs
  | (.idle, sender) => (none, { link with sender })

def selectCell (link : DeviceLink) (nowMs : UInt64) :
    Option SpiCell × DeviceLink :=
  let selected := link.takeNextCell
  let selected := orElse selected (·.queueNextControlRequestFragment nowMs)
  let selected := orElse selected (·.queuePendingManagementRequest nowMs)
  let selected := orElse selected (·.queueDirtyUsbState nowMs)
  orElse selected (·.pollRetransmit nowMs)

/-- The cell of the next transaction, with the latest acknowledgement. -/
def outgoingCell (link : DeviceLink) (selected : Option SpiCell) : SpiCell :=
  let cell := selected.getD (SpiCell.empty link.sender.sessionId)
  { cell with
    header :=
      { cell.header with cumulativeAck := link.receiver.cumulativeAck } }

def acknowledgeHost (link : DeviceLink) : DeviceLink :=
  { link with
    sender := link.sender.setCumulativeAck link.receiver.cumulativeAck }

def wireCell (cell : SpiCell) : Vector UInt8 spiCellLen :=
  match cell.encode with
  | .ok wire => wire
  | .error _ => Vector.replicate spiCellLen 0

def nextTransaction (link : DeviceLink) (nowMs : UInt64) :
    Vector UInt8 spiCellLen × DeviceLink :=
  let (selected, link) := link.acknowledgeHost.selectCell nowMs
  (wireCell (link.outgoingCell selected), link)

/-! Received cells.  A turn is the link with the events it has produced; an
event that finds no room is counted and dropped. -/

def isCompatibleHostHello (record : Record) : Bool :=
  record.recordType = recordHello &&
    match Hello.decode record.data with
    | .ok hello =>
        hello.role = .host && hello.protocolVersion = spiProtocolVersion
    | .error _ => false

def containsCompatibleHostHello (cell : SpiCell) : Bool :=
  let records := RecordIter.ofCell cell
  let (found, rest) := records.any
    (fun item => match item with
      | .ok record => isCompatibleHostHello record
      | .error _ => false) records.remaining
  found && rest.finish.isOk

structure Turn (capacity : Nat) where
  link : DeviceLink
  events : BoundedVec DeviceLinkEvent capacity

namespace Turn

variable {capacity : Nat}

def count (turn : Turn capacity)
    (update : DeviceLinkDiagnostics → DeviceLinkDiagnostics) : Turn capacity :=
  { turn with
    link := { turn.link with diagnostics := update turn.link.diagnostics } }

def markMalformed (turn : Turn capacity) : Turn capacity :=
  turn.count fun diagnostics =>
    { diagnostics with
      malformedCells := saturatingCount diagnostics.malformedCells }

def pushEvent (turn : Turn capacity) (event : DeviceLinkEvent) :
    Turn capacity :=
  match turn.events.push? event with
  | some events => { turn with events }
  | none =>
      turn.count fun diagnostics =>
        { diagnostics with
          eventOverflows := saturatingCount diagnostics.eventOverflows }

def pushDecoded {ε : Type} (turn : Turn capacity)
    (decoded : Except ε DeviceLinkEvent) : Turn capacity :=
  match decoded with
  | .ok event => turn.pushEvent event
  | .error _ => turn.markMalformed

def update (turn : Turn capacity) (change : DeviceLink → DeviceLink) :
    Turn capacity :=
  { turn with link := change turn.link }

/-- Transfers that a new or reset host link cannot finish are given up. -/
def dropTransfers (link : DeviceLink) : DeviceLink :=
  { link with
    hostCompatible := false
    controlRequestTx := none
    controlResponseAssembler := link.controlResponseAssembler.reset
    managementRequestTx := none }

def handleHello (turn : Turn capacity) (data : List UInt8)
    (nowMs : UInt64) : Turn capacity :=
  match Hello.decode data with
  | .error _ => turn.markMalformed
  | .ok hello =>
      let compatible := decide (hello.role = .host ∧
        hello.protocolVersion = spiProtocolVersion)
      turn.update fun link =>
        let link := { link with hostCompatible := compatible }
        if compatible then withNextCell (link.queueHelloAckAndUsbState nowMs)
        else link

def handleLinkReset (turn : Turn capacity) (nowMs : UInt64) :
    Turn capacity :=
  turn.update fun link =>
    let link := { dropTransfers link with usbStateDirty := true }
    withNextCell (link.queueHello nowMs)

def handleForceFallback (turn : Turn capacity) (data : List UInt8)
    (nowMs : UInt64) : Turn capacity :=
  if data.length ≠ 4 then turn.markMalformed
  else
    (turn.pushEvent (.forceFallback (readU32 data))).update fun link =>
      let link := { link with usbStateDirty := true }
      if link.nextCell.isNone then
        withNextCell (link.queueDirtyUsbState nowMs)
      else link

def handleProfileCommit (turn : Turn capacity) (data : List UInt8) :
    Turn capacity :=
  if data.length ≠ 4 then turn.markMalformed
  else turn.pushEvent (.profileCommit (readU32 data))

def handleControlResponse (turn : Turn capacity) (data : List UInt8) :
    Turn capacity :=
  match ControlResponseFragment.decode data with
  | .error _ => turn.markMalformed
  | .ok fragment =>
      let (result, assembler) :=
        turn.link.controlResponseAssembler.push fragment
      let turn := turn.update fun link =>
        { link with controlResponseAssembler := assembler }
      match result with
      | .ok (some response) => turn.pushEvent (.controlResponse response)
      | .ok none => turn
      | .error _ => turn.markMalformed

def handleStandardInput (turn : Turn capacity) (data : List UInt8) :
    Turn capacity :=
  match StandardInputReport.decode data with
  | .error _ => turn.markMalformed
  | .ok report =>
      (turn.count fun diagnostics =>
        { diagnostics with
          standardReportsReceived :=
            saturatingCount diagnostics.standardReportsReceived }).pushEvent
        (.standardInput report)

def handleReleaseAll (turn : Turn capacity) (data : List UInt8) :
    Turn capacity :=
  if data ≠ [] then turn.markMalformed
  else
    (turn.count fun diagnostics =>
      { diagnostics with
        releasesReceived :=
          saturatingCount diagnostics.releasesReceived }).pushEvent
      .releaseAll

/-- The records that are handled only for a compatible host. -/
def handleCommand (turn : Turn capacity) (record : Record) : Turn capacity :=
  if record.recordType = recordActivateProfile then
    turn.pushDecoded (.activateProfile <$> ActivateProfile.decode record.data)
  else if record.recordType = recordProfileBegin then
    turn.pushDecoded (.profileBegin <$> ProfileBegin.decode record.data)
  else if record.recordType = recordProfileChunk then
    turn.pushDecoded (.profileChunk <$> ProfileChunkData.decode record.data)
  else if record.recordType = recordProfileCommit then
    turn.handleProfileCommit record.data
  else if record.recordType = recordRawEndpointIn then
    turn.pushDecoded (.rawEndpointIn <$> RawEndpointReport.decode record.data)
  else if record.recordType = recordControlResponse then
    turn.handleControlResponse record.data
  else if record.recordType = recordStandardInputReport then
    turn.handleStandardInput record.data
  else if record.recordType = recordStandardReleaseAll then
    turn.handleReleaseAll record.data
  else if record.recordType = recordManagementResponse then
    turn.pushDecoded
      (.managementResponse <$> ManagementResponse.decode record.data)
  else if record.recordType = recordManagementEvent then
    turn.pushDecoded (.managementEvent <$> ManagementEvent.decode record.data)
  else turn

def handleRecord (turn : Turn capacity) (record : Record) (nowMs : UInt64) :
    Turn capacity :=
  if record.recordType = recordHello then turn.handleHello record.data nowMs
  else if record.recordType = recordHeartbeat then turn
  else if record.recordType = recordLinkReset then turn.handleLinkReset nowMs
  else if record.recordType = recordForceFallback then
    turn.handleForceFallback record.data nowMs
  else if turn.link.hostCompatible then turn.handleCommand record
  else turn

def handleItems (nowMs : UInt64) :
    List (Except RecordCodecError Record) → Turn capacity → Bool × Turn capacity
  | [], turn => (true, turn)
  | .error _ :: _, turn => (false, turn.markMalformed)
  | .ok record :: rest, turn =>
      handleItems nowMs rest (turn.handleRecord record nowMs)

def handleRecords (turn : Turn capacity) (cell : SpiCell) (nowMs : UInt64) :
    Turn capacity :=
  let (items, ended) := (RecordIter.ofCell cell).items
  match turn.handleItems nowMs items with
  | (false, turn) => turn
  | (true, turn) => if ended.finish.isOk then turn else turn.markMalformed

def receive (turn : Turn capacity) (cell : SpiCell) (nowMs : UInt64) :
    Turn capacity :=
  let (disposition, receiver) := turn.link.receiver.receive cell
  let turn := turn.update fun link => { link with receiver }
  match disposition with
  | .accepted _ _ => turn.handleRecords cell nowMs
  | .duplicate _ =>
      turn.count fun diagnostics =>
        { diagnostics with
          duplicateCells := saturatingCount diagnostics.duplicateCells }
  | .gap _ _ =>
      turn.count fun diagnostics =>
        { diagnostics with
          sequenceGaps := saturatingCount diagnostics.sequenceGaps }
  | .empty | .sessionChanged => turn

def acknowledged (turn : Turn capacity) (cumulativeAck : UInt16) :
    Turn capacity :=
  turn.update fun link =>
    { link with sender := (link.sender.acknowledge cumulativeAck).2 }

def handleCell (turn : Turn capacity) (cell : SpiCell) (nowMs : UInt64) :
    Turn capacity :=
  let turn := turn.count fun diagnostics =>
    { diagnostics with validCells := saturatingCount diagnostics.validCells }
  let turn := turn.acknowledged cell.header.cumulativeAck
  if turn.link.receiver.sessionId ≠ some cell.header.sessionId then
    let turn := turn.count fun diagnostics =>
      { diagnostics with
        hostSessionChanges := saturatingCount diagnostics.hostSessionChanges }
    let turn := turn.update dropTransfers
    if ¬ containsCompatibleHostHello cell then
      turn.update fun link =>
        { link with
          receiver := link.receiver.resetSession cell.header.sessionId }
    else turn.receive cell nowMs
  else if ¬ turn.link.hostCompatible ∧ ¬ containsCompatibleHostHello cell then
    turn
  else turn.receive cell nowMs

end Turn

def handleTransaction {capacity : Nat} (link : DeviceLink)
    (wire : Vector UInt8 spiCellLen) (nowMs : UInt64)
    (events : BoundedVec DeviceLinkEvent capacity) : Turn capacity :=
  let turn : Turn capacity := ⟨link, events⟩
  match SpiCell.decode wire with
  | .error _ => turn.markMalformed
  | .ok cell => turn.handleCell cell nowMs

end DeviceLink

end HidShift
