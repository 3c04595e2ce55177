import HidShift.Management
import HidShift.Storage.ImageRoundTrip

/-! The packets of management clients (`management.rs`): requests and
responses of 20 bytes, events of four.  The source keeps the unused bytes of a
name chunk; here they are zero. -/

namespace HidShift

open Lib

def managementProtocolVersion : UInt8 := 1

def managementRequestLen : Nat := 20

def managementResponseLen : Nat := 20

def managementEventLen : Nat := 4

inductive ManagementProtocolError
  | invalidLength
  | unsupportedVersion
  | unknownCommand
  | invalidArgument
deriving DecidableEq

/-- A packet of `size` bytes, zero after `content`. -/
def padTo (size : Nat) (content : List UInt8) : List UInt8 :=
  content ++ List.replicate (size - content.length) 0

def SettingId.wireId (id : SettingId) : UInt16 := (settingDescriptor id).wireId

def SettingId.fromU16 (value : UInt16) : Option SettingId :=
  (settingDescriptors.find? (·.wireId = value)).map (·.id)

def encodeSettingTarget : SettingTarget → List UInt8
  | .global => [0, 0]
  | .input profile => [1, profile.get]

def decodeSettingTarget (scope target : UInt8) :
    Except ManagementProtocolError SettingTarget :=
  if scope = 0 ∧ target = 0 then .ok .global
  else if scope = 1 then
    match InputProfileId.new target with
    | some profile => .ok (.input profile)
    | none => .error .invalidArgument
  else .error .invalidArgument

def optionHostId : Option HostId → UInt8
  | some host => host.val
  | none => 0

def decodeOptionalHost (value : UInt8) : Option HostId :=
  if value = 0 then none else some ⟨value⟩

def ManagementOutputTarget.encode : ManagementOutputTarget → List UInt8
  | .wired => [0, 0]
  | .ble host => [1, host.val]

def ManagementOutputTarget.decode (kind id : UInt8) :
    Except ManagementProtocolError ManagementOutputTarget :=
  if kind = 0 ∧ id = 0 then .ok .wired
  else if kind = 1 ∧ 1 ≤ id ∧ id ≤ 4 then .ok (.ble ⟨id⟩)
  else .error .invalidArgument

def ManagementHostName.fromParts (len : UInt8) (bytes : List UInt8) :
    Except ManagementProtocolError ManagementHostName :=
  match fromParts? len (readArray managementHostNameLen bytes) with
  | some name => .ok name
  | none => .error .invalidArgument

def ManagementHostName.encode (name : ManagementHostName) : List UInt8 :=
  name.len :: name.bytes.toList

namespace ManagementHostStatus

def bits (status : ManagementHostStatus) : UInt8 :=
  boolByte status.known ||| (boolByte status.connected <<< 1) |||
    (boolByte status.encrypted <<< 2) ||| (boolByte status.bonded <<< 3)

def fromBits (bits : UInt8) : ManagementHostStatus where
  known := bits &&& 1 ≠ 0
  connected := bits &&& 2 ≠ 0
  encrypted := bits &&& 4 ≠ 0
  bonded := bits &&& 8 ≠ 0

end ManagementHostStatus

def StorageHealth.toByte : StorageHealth → UInt8
  | .initializing => 0
  | .persistent => 1
  | .volatileTest => 2
  | .unavailable => 3
  | .degraded => 4

def StorageHealth.fromByte (value : UInt8) : Option StorageHealth :=
  [initializing, persistent, volatileTest, unavailable, degraded].find?
    (·.toByte = value)

def ManagementResult.toByte : ManagementResult → UInt8
  | .ok => 0
  | .invalidHost => 1
  | .hostNotFound => 2
  | .hostAlreadyBonded => 3
  | .internalError => 4
  | .invalidName => 5
  | .invalidSetting => 6
  | .notFound => 7
  | .unavailable => 8

def ManagementResult.fromByte (value : UInt8) : Option ManagementResult :=
  [ok, invalidHost, hostNotFound, hostAlreadyBonded, internalError,
    invalidName, invalidSetting, notFound, unavailable].find?
    (·.toByte = value)

def availabilityByte : OutputTargetAvailability → UInt8
  | .ready => 0
  | .connectedNotReady => 1
  | .unavailable => 2

def availabilityFromByte (value : UInt8) : Option OutputTargetAvailability :=
  [OutputTargetAvailability.ready, .connectedNotReady, .unavailable].find?
    (availabilityByte · = value)

def ManagementUsbPresentationKind.toByte :
    ManagementUsbPresentationKind → UInt8
  | .fallback => 0
  | .mirror => 1

def ManagementUsbPresentationKind.fromByte (value : UInt8) :
    Option ManagementUsbPresentationKind :=
  [fallback, mirror].find? (·.toByte = value)

def decodeBool (value : UInt8) : Option Bool :=
  if value = 0 then some false
  else if value = 1 then some true
  else none

/-- `ok_or(InvalidArgument)`. -/
def orInvalidArgument {α : Type} :
    Option α → Except ManagementProtocolError α
  | some value => .ok value
  | none => .error .invalidArgument

def ManagementCommand.encode {build : Build} :
    ManagementCommand build → UInt8 × List UInt8
  | .getStatus => (0x01, [])
  | .selectHost host => (0x02, [host.val])
  | .startPairing host => (0x03, [host.val])
  | .forgetHost host => (0x04, [host.val])
  | .getHostInfo host => (0x05, [host.val])
  | .setHostName host name => (0x06, host.val :: name.encode)
  | .cancelPairing => (0x07, [])
  | .getUsbDevice index nameOffset => (0x08, [index, nameOffset])
  | .getDiagnostics => (0x09, [])
  | .getHistory index => (0x0a, [index])
  | .getSchema => (0x0b, [])
  | .getSetting id target =>
      (0x0c, writeU16 id.wireId ++ encodeSettingTarget target)
  | .setSetting id target value =>
      (0x0d, writeU16 id.wireId ++ encodeSettingTarget target ++
        writeU32 value.toUInt32)
  | .getHostTiming host => (0x0e, [host.val])
  | .getClientSession => (0x12, [])
  | .selectOutputTarget target => (0x0f, target.encode)
  | .getOutputTargetStatus => (0x10, [])
  | .getMirrorCandidate candidate => (0x11, [candidate.val])
  | .setMirrorTarget candidate => (0x13, [candidate.val])
  | .clearMirrorTarget => (0x14, [])
  | .setWiredHostLink bleHost => (0x15, [optionHostId bleHost])

namespace ManagementRequest

def encode {build : Build} (request : ManagementRequest build) :
    List UInt8 :=
  let (opcode, payload) := request.command.encode
  padTo managementRequestLen
    ([managementProtocolVersion, request.requestId, opcode,
      UInt8.ofNat payload.length] ++ payload)

section

variable {α : Type} (payload : List UInt8)

def noArgument (command : α) : Except ManagementProtocolError α :=
  if payload.length = 0 then .ok command else .error .invalidArgument

def byteArgument (command : UInt8 → α) : Except ManagementProtocolError α :=
  if payload.length = 1 then .ok (command (byteAt payload 0))
  else .error .invalidArgument

def hostArgument (command : HostId → α) : Except ManagementProtocolError α :=
  byteArgument payload fun byte => command ⟨byte⟩

/-- Setting and scope at the front of a payload of the given length. -/
def settingArgument (length : Nat) (command : SettingId → SettingTarget → α) :
    Except ManagementProtocolError α :=
  if payload.length = length then do
    let id ← orInvalidArgument (SettingId.fromU16 (readU16 (slice payload 0 2)))
    let target ← decodeSettingTarget (byteAt payload 2) (byteAt payload 3)
    return command id target
  else .error .invalidArgument

end

def decodeHostLink (value : UInt8) :
    Except ManagementProtocolError (Option HostId) :=
  if value = 0 then .ok none
  else if value ≤ 4 then .ok (some ⟨value⟩)
  else .error .invalidArgument

def decodeDualCommand (opcode : UInt8) (payload : List UInt8) :
    Except ManagementProtocolError (ManagementCommand .dual) :=
  if opcode = 0x0f then
    if payload.length = 2 then do
      let target ← ManagementOutputTarget.decode (byteAt payload 0)
        (byteAt payload 1)
      return .selectOutputTarget target
    else .error .invalidArgument
  else if opcode = 0x10 then noArgument payload .getOutputTargetStatus
  else if opcode = 0x11 then
    byteArgument payload fun candidate => .getMirrorCandidate ⟨candidate⟩
  else if opcode = 0x13 then
    byteArgument payload fun candidate => .setMirrorTarget ⟨candidate⟩
  else if opcode = 0x14 then noArgument payload .clearMirrorTarget
  else if opcode = 0x15 then
    if payload.length = 1 then do
      let host ← decodeHostLink (byteAt payload 0)
      return .setWiredHostLink host
    else .error .invalidArgument
  else .error .unknownCommand

def decodeBuildCommand : (build : Build) → UInt8 → List UInt8 →
    Except ManagementProtocolError (ManagementCommand build)
  | .single, _, _ => .error .unknownCommand
  | .dual, opcode, payload => decodeDualCommand opcode payload

def decodeCommand (build : Build) (opcode : UInt8) (payload : List UInt8) :
    Except ManagementProtocolError (ManagementCommand build) :=
  if opcode = 0x01 then noArgument payload .getStatus
  else if opcode = 0x02 then hostArgument payload .selectHost
  else if opcode = 0x03 then hostArgument payload .startPairing
  else if opcode = 0x04 then hostArgument payload .forgetHost
  else if opcode = 0x05 then hostArgument payload .getHostInfo
  else if opcode = 0x06 then
    if payload.length = 2 + managementHostNameLen then do
      let name ← ManagementHostName.fromParts (byteAt payload 1)
        (payload.drop 2)
      return .setHostName ⟨byteAt payload 0⟩ name
    else .error .invalidArgument
  else if opcode = 0x07 then noArgument payload .cancelPairing
  else if opcode = 0x08 then
    if payload.length = 2 then
      .ok (.getUsbDevice (byteAt payload 0) (byteAt payload 1))
    else .error .invalidArgument
  else if opcode = 0x09 then noArgument payload .getDiagnostics
  else if opcode = 0x0a then byteArgument payload .getHistory
  else if opcode = 0x0b then noArgument payload .getSchema
  else if opcode = 0x0c then settingArgument payload 4 .getSetting
  else if opcode = 0x0d then
    settingArgument payload 8 fun id target =>
      .setSetting id target (readU32 (slice payload 4 4)).toInt32
  else if opcode = 0x0e then hostArgument payload .getHostTiming
  else if opcode = 0x12 then noArgument payload .getClientSession
  else decodeBuildCommand build opcode payload

def decode (build : Build) (bytes : List UInt8) :
    Except ManagementProtocolError (ManagementRequest build) := do
  require (bytes.length = managementRequestLen) .invalidLength
  require (byteAt bytes 0 = managementProtocolVersion) .unsupportedVersion
  let payloadLen := (byteAt bytes 3).toNat
  require (payloadLen ≤ managementRequestLen - 4) .invalidLength
  let command ← decodeCommand build (byteAt bytes 2) (slice bytes 4 payloadLen)
  return ⟨byteAt bytes 1, command⟩

end ManagementRequest

/-- Kind of the payload, its announced length and its bytes. -/
def ManagementResponsePayload.encode :
    ManagementResponsePayload → UInt8 × UInt8 × List UInt8
  | .none => (0, 0, [])
  | .status report => (1, 11,
      [optionHostId report.activeHost, optionHostId report.pairingHost,
        report.hostCount, report.usb.deviceCount, report.usb.interfaceCount,
        report.usb.keyboardCount] ++
        report.hosts.toList.map (·.bits) ++ [report.storageHealth.toByte])
  | .hostInfo info => (2, 15,
      [info.hostId.val, info.status.bits ||| ((info.nameSource &&& 3) <<< 4)]
        ++ info.name.encode)
  | .usbDevice device => (3, 15,
      [device.index, device.deviceId, device.flags] ++
        writeU16 device.vendorId ++ writeU16 device.productId ++
          [device.nameLen, device.nameOffset,
            UInt8.ofNat device.nameChunk.toList.length,
            device.inputProfileId.get] ++ padTo 4 device.nameChunk.toList)
  | .diagnostics counters => (4, 15,
      writeU32 counters.uptimeSeconds ++ [counters.resetReason] ++
        writeU16 counters.brownoutCount ++
          writeU16 counters.bleDisconnectCount ++
            writeU16 counters.bleNotifyFailureCount ++
              writeU16 counters.usbErrorCount ++
                [counters.flashWriteCount, counters.flashFailureCount])
  | .history event => (5, 15,
      [event.kind] ++ writeU16 event.sequence ++
        writeU32 event.timestampSeconds ++ [event.subject, event.detail] ++
          writeU16 event.vendorId ++ writeU16 event.productId)
  | .schema layout => (6, 8,
      writeU16 layout.version ++ [layout.settingCount, layout.historyCapacity,
        layout.usbCapacity] ++ writeU32 layout.hash ++
          [layout.firmwareMajor, layout.firmwareMinor, layout.firmwarePatch,
            layout.capabilities])
  | .setting entry => (7, 8,
      writeU16 entry.id.wireId ++ encodeSettingTarget entry.target ++
        writeU32 entry.value.toUInt32)
  | .hostTiming timing => (8, 10,
      [timing.hostId.val] ++ writeU32 timing.lastConnectedSeconds ++
        writeU32 timing.lastDisconnectedSeconds ++
          [timing.lastDisconnectReason])
  | .clientSession hostId => (11, 1, [optionHostId hostId])
  | .outputTargetStatus target => (9, 14,
      target.selected.encode ++
        (target.active.elim [0xff, 0] ManagementOutputTarget.encode) ++
          [availabilityByte target.availability, boolByte target.wiredReady,
            .ofBitVec target.readyBleMask,
            target.effectivePresentation.toByte,
            boolByte target.mirrorConfigured] ++ writeU32 target.operationId)
  | .mirrorCandidate candidate => (10, 15,
      [candidate.candidate.val, candidate.flags,
        candidate.sourceDevice.getD 0xff] ++ writeU16 candidate.vendorId ++
          writeU16 candidate.productId ++ writeU32 candidate.profileHash ++
            writeU32 candidate.descriptorHash)

namespace ManagementResponse

def encode (response : ManagementResponse) : List UInt8 :=
  let (kind, length, payload) := response.payload.encode
  padTo managementResponseLen
    ([managementProtocolVersion, response.requestId, response.result.toByte,
      kind, length] ++ payload)

def decodeStatus (bytes : List UInt8) :
    Except ManagementProtocolError ManagementStatus := do
  require (byteAt bytes 7 ≤ 4) .invalidArgument
  let storageHealth ← orInvalidArgument (StorageHealth.fromByte (byteAt bytes 15))
  return {
    activeHost := decodeOptionalHost (byteAt bytes 5)
    pairingHost := decodeOptionalHost (byteAt bytes 6)
    hostCount := byteAt bytes 7
    usb := ⟨byteAt bytes 8, byteAt bytes 9, byteAt bytes 10⟩
    hosts := (readArray 4 (slice bytes 11 4)).map ManagementHostStatus.fromBits
    storageHealth }

def decodeUsbDevice (bytes : List UInt8) :
    Except ManagementProtocolError ManagementUsbDevice := do
  let chunk := slice bytes 16 (byteAt bytes 14).toNat
  if fits : chunk.length ≤ 4 then
    require ((byteAt bytes 14).toNat ≤ 4 ∧
      min 255 ((byteAt bytes 13).toNat + (byteAt bytes 14).toNat) ≤
        (byteAt bytes 12).toNat) .invalidArgument
    let inputProfileId ← orInvalidArgument (InputProfileId.new (byteAt bytes 15))
    return {
      index := byteAt bytes 5
      deviceId := byteAt bytes 6
      flags := byteAt bytes 7
      vendorId := readU16 (slice bytes 8 2)
      productId := readU16 (slice bytes 10 2)
      inputProfileId
      nameLen := byteAt bytes 12
      nameOffset := byteAt bytes 13
      nameChunk := ⟨chunk, fits⟩ }
  else .error .invalidArgument

def decodeActiveTarget (kind id : UInt8) :
    Except ManagementProtocolError (Option ManagementOutputTarget) :=
  if kind = 0xff then
    if id ≠ 0 then .error .invalidArgument else .ok none
  else
    some <$> ManagementOutputTarget.decode kind id

def decodeOutputTargetStatus (bytes : List UInt8) :
    Except ManagementProtocolError ManagementOutputTargetStatus := do
  let selected ← ManagementOutputTarget.decode (byteAt bytes 5) (byteAt bytes 6)
  let active ← decodeActiveTarget (byteAt bytes 7) (byteAt bytes 8)
  let availability ← orInvalidArgument (availabilityFromByte (byteAt bytes 9))
  let wiredReady ← orInvalidArgument (decodeBool (byteAt bytes 10))
  let effectivePresentation ← orInvalidArgument
    (ManagementUsbPresentationKind.fromByte (byteAt bytes 12))
  let mirrorConfigured ← orInvalidArgument (decodeBool (byteAt bytes 13))
  return {
    selected
    active
    availability
    wiredReady
    readyBleMask := (byteAt bytes 11 &&& 0x0f).toBitVec
    effectivePresentation
    mirrorConfigured
    operationId := readU32 (slice bytes 14 4) }

def decodeHostInfo (bytes : List UInt8) :
    Except ManagementProtocolError ManagementHostInfo := do
  let name ← ManagementHostName.fromParts (byteAt bytes 7) (slice bytes 8 12)
  return {
    hostId := ⟨byteAt bytes 5⟩
    status := ManagementHostStatus.fromBits (byteAt bytes 6)
    name
    nameSource := (byteAt bytes 6 >>> 4) &&& 3 }

def decodeDiagnostics (bytes : List UInt8) : ManagementDiagnostics where
  uptimeSeconds := readU32 (slice bytes 5 4)
  resetReason := byteAt bytes 9
  brownoutCount := readU16 (slice bytes 10 2)
  bleDisconnectCount := readU16 (slice bytes 12 2)
  bleNotifyFailureCount := readU16 (slice bytes 14 2)
  usbErrorCount := readU16 (slice bytes 16 2)
  flashWriteCount := byteAt bytes 18
  flashFailureCount := byteAt bytes 19

def decodeHistory (bytes : List UInt8) : ManagementHistoryEvent where
  kind := byteAt bytes 5
  sequence := readU16 (slice bytes 6 2)
  timestampSeconds := readU32 (slice bytes 8 4)
  subject := byteAt bytes 12
  detail := byteAt bytes 13
  vendorId := readU16 (slice bytes 14 2)
  productId := readU16 (slice bytes 16 2)

def decodeSchema (bytes : List UInt8) : ManagementSchema where
  version := readU16 (slice bytes 5 2)
  settingCount := byteAt bytes 7
  historyCapacity := byteAt bytes 8
  usbCapacity := byteAt bytes 9
  hash := readU32 (slice bytes 10 4)
  firmwareMajor := byteAt bytes 14
  firmwareMinor := byteAt bytes 15
  firmwarePatch := byteAt bytes 16
  capabilities := byteAt bytes 17

def decodeSetting (bytes : List UInt8) :
    Except ManagementProtocolError ManagementSetting := do
  let id ← orInvalidArgument (SettingId.fromU16 (readU16 (slice bytes 5 2)))
  let target ← decodeSettingTarget (byteAt bytes 7) (byteAt bytes 8)
  return ⟨id, target, (readU32 (slice bytes 9 4)).toInt32⟩

def decodeHostTiming (bytes : List UInt8) : ManagementHostTiming where
  hostId := ⟨byteAt bytes 5⟩
  lastConnectedSeconds := readU32 (slice bytes 6 4)
  lastDisconnectedSeconds := readU32 (slice bytes 10 4)
  lastDisconnectReason := byteAt bytes 14

def decodeMirrorCandidate (bytes : List UInt8) :
    ManagementMirrorCandidate where
  candidate := ⟨byteAt bytes 5⟩
  flags := byteAt bytes 6
  sourceDevice :=
    if byteAt bytes 7 ≠ 0xff then some (byteAt bytes 7) else none
  vendorId := readU16 (slice bytes 8 2)
  productId := readU16 (slice bytes 10 2)
  profileHash := readU32 (slice bytes 12 4)
  descriptorHash := readU32 (slice bytes 16 4)

def decodePayload (bytes : List UInt8) :
    Except ManagementProtocolError ManagementResponsePayload :=
  let kind := byteAt bytes 3
  let length := byteAt bytes 4
  if kind = 0 ∧ length = 0 then .ok .none
  else if kind = 1 ∧ length = 11 then .status <$> decodeStatus bytes
  else if kind = 2 ∧ length = 15 then .hostInfo <$> decodeHostInfo bytes
  else if kind = 3 ∧ length = 15 then .usbDevice <$> decodeUsbDevice bytes
  else if kind = 4 ∧ length = 15 then
    .ok (.diagnostics (decodeDiagnostics bytes))
  else if kind = 5 ∧ length = 15 then .ok (.history (decodeHistory bytes))
  else if kind = 6 ∧ length = 8 then .ok (.schema (decodeSchema bytes))
  else if kind = 7 ∧ length = 8 then .setting <$> decodeSetting bytes
  else if kind = 8 ∧ length = 10 then
    .ok (.hostTiming (decodeHostTiming bytes))
  else if kind = 11 ∧ length = 1 then
    .ok (.clientSession (decodeOptionalHost (byteAt bytes 5)))
  else if kind = 9 ∧ length = 14 then
    .outputTargetStatus <$> decodeOutputTargetStatus bytes
  else if kind = 10 ∧ length = 15 then
    .ok (.mirrorCandidate (decodeMirrorCandidate bytes))
  else .error .invalidArgument

def decode (bytes : List UInt8) :
    Except ManagementProtocolError ManagementResponse := do
  require (bytes.length = managementResponseLen) .invalidLength
  require (byteAt bytes 0 = managementProtocolVersion) .unsupportedVersion
  let result ← orInvalidArgument (ManagementResult.fromByte (byteAt bytes 2))
  let payload ← decodePayload bytes
  return ⟨byteAt bytes 1, result, payload⟩

end ManagementResponse

namespace ManagementEvent

def encode (event : ManagementEvent) : List UInt8 :=
  [managementProtocolVersion, 1] ++ writeU16 event.sequence

def decode (bytes : List UInt8) :
    Except ManagementProtocolError ManagementEvent := do
  require (bytes.length = managementEventLen) .invalidLength
  require (byteAt bytes 0 = managementProtocolVersion) .unsupportedVersion
  require (byteAt bytes 1 = 1) .unknownCommand
  return ⟨readU16 (slice bytes 2 2)⟩

end ManagementEvent

end HidShift
