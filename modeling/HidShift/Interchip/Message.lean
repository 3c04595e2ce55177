import HidShift.Interchip.Record
import HidShift.Mirror
import HidShift.Reports

/-! The messages records carry (`interchip/message.rs`). -/

namespace HidShift

open Lib

inductive MessageError
  | invalidLength
  | invalidRole
  | invalidFlags
  | invalidStatus
deriving DecidableEq

def recordHello : UInt8 := 0x01

def recordHelloAck : UInt8 := 0x02

def recordHeartbeat : UInt8 := 0x03

def recordLinkReset : UInt8 := 0x04

def recordProfileBegin : UInt8 := 0x10

def recordProfileChunk : UInt8 := 0x11

def recordProfileCommit : UInt8 := 0x12

def recordProfileResult : UInt8 := 0x13

def recordActivateProfile : UInt8 := 0x14

def recordForceFallback : UInt8 := 0x15

def recordUsbState : UInt8 := 0x20

def recordControlRequest : UInt8 := 0x21

def recordControlResponse : UInt8 := 0x22

def recordRawEndpointIn : UInt8 := 0x24

def recordRawEndpointOut : UInt8 := 0x25

def recordStandardInputReport : UInt8 := 0x26

def recordStandardOutputReport : UInt8 := 0x27

def recordStandardReleaseAll : UInt8 := 0x28

def recordManagementRequest : UInt8 := 0x29

def recordManagementResponse : UInt8 := 0x2a

def recordManagementEvent : UInt8 := 0x2b

inductive InterchipRole
  | host
  | device
deriving DecidableEq, Repr

def InterchipRole.toByte : InterchipRole → UInt8
  | .host => 1
  | .device => 2

def capabilityDynamicProfile : UInt32 := (1 : UInt32) <<< 0

def capabilityFallbackProfile : UInt32 := (1 : UInt32) <<< 1

def capabilityControlForwarding : UInt32 := (1 : UInt32) <<< 2

def capabilityEndpointIn : UInt32 := (1 : UInt32) <<< 3

def capabilityEndpointOut : UInt32 := (1 : UInt32) <<< 4

def capabilityProfileFlashCache : UInt32 := (1 : UInt32) <<< 5

def capabilityStandardWiredHid : UInt32 := (1 : UInt32) <<< 6

def capabilityUsbStateReporting : UInt32 := (1 : UInt32) <<< 7

def capabilityHidManagement : UInt32 := (1 : UInt32) <<< 8

structure Hello where
  role : InterchipRole
  protocolVersion : UInt8
  firmwareMajor : UInt8
  firmwareMinor : UInt8
  capabilities : UInt32
  activeProfileHash : UInt32

namespace Hello

def encode (hello : Hello) : List UInt8 :=
  [hello.role.toByte, hello.protocolVersion, hello.firmwareMajor,
    hello.firmwareMinor] ++ writeU32 hello.capabilities ++
      writeU32 hello.activeProfileHash

def decodeRole (byte : UInt8) : Except MessageError InterchipRole :=
  if byte = 1 then .ok .host
  else if byte = 2 then .ok .device
  else .error .invalidRole

def decode (bytes : List UInt8) : Except MessageError Hello := do
  require (bytes.length = 12) .invalidLength
  let role ← decodeRole (byteAt bytes 0)
  return {
    role
    protocolVersion := byteAt bytes 1
    firmwareMajor := byteAt bytes 2
    firmwareMinor := byteAt bytes 3
    capabilities := readU32 (slice bytes 4 4)
    activeProfileHash := readU32 (slice bytes 8 4) }

end Hello

def rawEndpointHeaderLen : Nat := 6

def rawEndpointMaxWireLen : Nat := rawEndpointHeaderLen + rawEndpointMaxDataLen

namespace RawEndpointReport

def new (endpointAddress : UInt8) (packetSequence : UInt16)
    (data : List UInt8) : Except MessageError RawEndpointReport :=
  if fits : data.length ≤ rawEndpointMaxDataLen then
    .ok ⟨endpointAddress, packetSequence, ⟨data, fits⟩⟩
  else
    .error .invalidLength

def encode (report : RawEndpointReport) : List UInt8 :=
  [report.endpointAddress, 0] ++ writeU16 report.packetSequence ++
    writeU16 (UInt16.ofNat report.data.toList.length) ++ report.data.toList

def decode (bytes : List UInt8) : Except MessageError RawEndpointReport :=
  if bytes.length < rawEndpointHeaderLen ∨ byteAt bytes 1 ≠ 0 ∨
      (readU16 (slice bytes 4 2)).toNat ≠
        bytes.length - rawEndpointHeaderLen then
    .error .invalidLength
  else
    new (byteAt bytes 0) (readU16 (slice bytes 2 2))
      (bytes.drop rawEndpointHeaderLen)

end RawEndpointReport

def MirrorControlRequest.new (requestId : UInt32)
    (setupPacket : Vector UInt8 8) (data : List UInt8) :
    Except MessageError MirrorControlRequest :=
  if fits : data.length ≤ controlDataMaxLen then
    .ok ⟨requestId, setupPacket, ⟨data, fits⟩⟩
  else
    .error .invalidLength

def ControlStatus.toByte : ControlStatus → UInt8
  | .success => 0
  | .stall => 1
  | .timeout => 2
  | .disconnected => 3
  | .unsupported => 4

def ControlStatus.ofByte (byte : UInt8) : Option ControlStatus :=
  [success, stall, timeout, disconnected, unsupported].find? (·.toByte = byte)

def MirrorControlResponse.new (requestId : UInt32) (status : ControlStatus)
    (data : List UInt8) : Except MessageError MirrorControlResponse :=
  if fits : data.length ≤ controlDataMaxLen then
    .ok ⟨requestId, status, ⟨data, fits⟩⟩
  else
    .error .invalidLength

namespace ProfileBegin

def encode (begin : ProfileBegin) : List UInt8 :=
  writeU32 begin.transferId ++ writeU32 begin.totalLength ++
    writeU32 begin.crc32 ++ writeU32 begin.profileHash

def decode (bytes : List UInt8) : Except MessageError ProfileBegin := do
  require (bytes.length = 16) .invalidLength
  return {
    transferId := readU32 (slice bytes 0 4)
    totalLength := readU32 (slice bytes 4 4)
    crc32 := readU32 (slice bytes 8 4)
    profileHash := readU32 (slice bytes 12 4) }

end ProfileBegin

def profileChunkHeaderLen : Nat := 8

namespace ProfileChunkData

def encode (chunk : ProfileChunkData) : List UInt8 :=
  writeU32 chunk.transferId ++ writeU32 chunk.offset ++ chunk.data.toList

/-- `ProfileChunk::decode` and `ProfileChunkData::from_borrowed`. -/
def decode (bytes : List UInt8) : Except MessageError ProfileChunkData :=
  if bytes.length < profileChunkHeaderLen then .error .invalidLength
  else
    let data := bytes.drop profileChunkHeaderLen
    if fits : data.length ≤ profileChunkMaxDataLen then
      .ok ⟨readU32 (slice bytes 0 4), readU32 (slice bytes 4 4), ⟨data, fits⟩⟩
    else
      .error .invalidLength

end ProfileChunkData

def ProfileResultStatus.toByte : ProfileResultStatus → UInt8
  | .accepted => 0
  | .alreadyStored => 1
  | .invalidImage => 2
  | .unsupported => 3
  | .resourceExhausted => 4
  | .storageError => 5
  | .busy => 6

def ProfileResultStatus.ofByte (byte : UInt8) : Option ProfileResultStatus :=
  [accepted, alreadyStored, invalidImage, unsupported, resourceExhausted,
    storageError, busy].find? (·.toByte = byte)

namespace ProfileResult

def encode (result : ProfileResult) : List UInt8 :=
  writeU32 result.transferId ++ writeU32 result.profileHash ++
    [result.status.toByte, result.rejectReason] ++ writeU16 result.detail

def decode (bytes : List UInt8) : Except MessageError ProfileResult :=
  if bytes.length ≠ 12 then .error .invalidLength
  else
    match ProfileResultStatus.ofByte (byteAt bytes 8) with
    | none => .error .invalidStatus
    | some status => .ok {
        transferId := readU32 (slice bytes 0 4)
        profileHash := readU32 (slice bytes 4 4)
        status
        rejectReason := byteAt bytes 9
        detail := readU16 (slice bytes 10 2) }

end ProfileResult

namespace ActivateProfile

def encode (activate : ActivateProfile) : List UInt8 :=
  writeU32 activate.operationId ++ writeU32 activate.profileHash

def decode (bytes : List UInt8) : Except MessageError ActivateProfile := do
  require (bytes.length = 8) .invalidLength
  return {
    operationId := readU32 (slice bytes 0 4)
    profileHash := readU32 (slice bytes 4 4) }

end ActivateProfile

namespace UsbState

def encode (state : UsbState) : List UInt8 :=
  [boolByte state.attached ||| (boolByte state.configured <<< 1) |||
      (boolByte state.fallbackActive <<< 2) |||
        (boolByte state.healthy <<< 3), 0] ++
    writeU32 state.activeProfileHash ++ writeU16 state.errorCode

def decode (bytes : List UInt8) : Except MessageError UsbState := do
  require (bytes.length = 8) .invalidLength
  let flags := byteAt bytes 0
  require (byteAt bytes 1 = 0 ∧ flags &&& 0xf0 = 0) .invalidFlags
  return {
    attached := flags &&& 1 ≠ 0
    configured := flags &&& 2 ≠ 0
    fallbackActive := flags &&& 4 ≠ 0
    healthy := flags &&& 8 ≠ 0
    activeProfileHash := readU32 (slice bytes 2 4)
    errorCode := readU16 (slice bytes 6 2) }

end UsbState

def standardInputHeaderLen : Nat := 5

structure StandardInputReport where
  flags : UInt8
  sequence : UInt16
  report : StandardHidReport

inductive StandardInputReportError
  | invalidLength
  | invalidKind
  | invalidReportLength
deriving Repr

namespace StandardInputReport

def content : StandardHidReport → UInt8 × List UInt8
  | .keyboard report => (1, report.bytes.toList)
  | .mouse report => (2, report.bytes.toList)
  | .consumer report => (3, report.bytes.toList)

def encode (report : StandardInputReport) : List UInt8 :=
  let (kind, data) := content report.report
  [kind, report.flags] ++ writeU16 report.sequence ++
    [UInt8.ofNat data.length] ++ data

def decodeReport (kind : UInt8) (data : List UInt8) :
    Except StandardInputReportError StandardHidReport :=
  if kind = 1 ∧ data.length = 8 then
    .ok (.keyboard ⟨readArray 8 data⟩)
  else if kind = 2 ∧ data.length = 7 then
    .ok (.mouse ⟨readArray 7 data⟩)
  else if kind = 3 ∧ data.length = 2 then
    .ok (.consumer ⟨readArray 2 data⟩)
  else if 1 ≤ kind ∧ kind ≤ 3 then
    .error .invalidReportLength
  else
    .error .invalidKind

def decode (bytes : List UInt8) :
    Except StandardInputReportError StandardInputReport := do
  require (standardInputHeaderLen ≤ bytes.length ∧
    bytes.length = standardInputHeaderLen + (byteAt bytes 4).toNat)
    .invalidLength
  let report ← decodeReport (byteAt bytes 0) (bytes.drop standardInputHeaderLen)
  return ⟨byteAt bytes 1, readU16 (slice bytes 2 2), report⟩

end StandardInputReport

def standardOutputMaxDataLen : Nat := 8

structure StandardOutputReport where
  kind : UInt8
  data : BoundedVec UInt8 standardOutputMaxDataLen

inductive StandardOutputReportError
  | dataTooLong
  | invalidLength
deriving DecidableEq

namespace StandardOutputReport

def new (kind : UInt8) (data : List UInt8) :
    Except StandardOutputReportError StandardOutputReport :=
  if fits : data.length ≤ standardOutputMaxDataLen then
    .ok ⟨kind, ⟨data, fits⟩⟩
  else
    .error .dataTooLong

def encode (report : StandardOutputReport) : List UInt8 :=
  [report.kind, UInt8.ofNat report.data.toList.length] ++
    report.data.toList ++
      List.replicate (standardOutputMaxDataLen - report.data.toList.length) 0

def decode (bytes : List UInt8) :
    Except StandardOutputReportError StandardOutputReport :=
  let length := (byteAt bytes 1).toNat
  let data := slice bytes 2 length
  if fits : bytes.length = 10 ∧ data.length ≤ standardOutputMaxDataLen then
    if standardOutputMaxDataLen < length ∨
        (bytes.drop (2 + length)).any (· ≠ 0) then
      .error .invalidLength
    else
      .ok ⟨byteAt bytes 0, ⟨data, fits.2⟩⟩
  else
    .error .invalidLength

end StandardOutputReport

end HidShift
