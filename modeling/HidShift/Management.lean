import HidShift.Mirror
import HidShift.SettingsSchema
import HidShift.Storage.State

/-! Requests of management clients and the answers to them
(`management.rs`). -/

namespace HidShift

open Lib

/-- `StorageHealth` of `storage.rs`. -/
inductive StorageHealth
  | initializing
  | persistent
  | volatileTest
  | unavailable
  | degraded
deriving DecidableEq, Repr

def StorageHealth.allowsPersistentMutation : StorageHealth → Bool
  | .persistent | .volatileTest => true
  | .initializing | .unavailable | .degraded => false

namespace FixedName

def asBytes (name : FixedName) : List UInt8 :=
  name.bytes.toList.take name.len.toNat

def isAscii (byte : UInt8) : Bool := byte < 128

def fromAscii (bytes : List UInt8) : Option FixedName :=
  if fits : bytes.length ≤ maxHostNameLen ∧ bytes.all isAscii then
    some ⟨UInt8.ofNat bytes.length,
      Vector.ofFn fun index => bytes.getD index 0, by
        have small := fits.1
        rw [UInt8.toNat_ofNat']
        exact Nat.le_trans (Nat.mod_le _ _) small⟩
  else
    none

end FixedName

def managementHostNameLen : Nat := 12

def isPrintable (byte : UInt8) : Bool := 0x20 ≤ byte && byte ≤ 0x7e

/-- A name of at most 12 printable bytes; the bytes behind it are kept. -/
structure ManagementHostName where
  len : UInt8
  bytes : Vector UInt8 managementHostNameLen
  len_le : len.toNat ≤ managementHostNameLen
  printable : (bytes.toList.take len.toNat).all isPrintable = true
deriving DecidableEq

namespace ManagementHostName

theorem empty_len_le : (0 : UInt8).toNat ≤ managementHostNameLen :=
  Nat.zero_le _

theorem empty_printable :
    ((Vector.replicate managementHostNameLen (0 : UInt8)).toList.take
      (0 : UInt8).toNat).all isPrintable = true := rfl

def empty : ManagementHostName :=
  ⟨0, Vector.replicate managementHostNameLen 0, empty_len_le, empty_printable⟩

def fromParts? (len : UInt8) (bytes : Vector UInt8 managementHostNameLen) :
    Option ManagementHostName :=
  if fits : len.toNat ≤ managementHostNameLen ∧
      (bytes.toList.take len.toNat).all isPrintable = true then
    some ⟨len, bytes, fits.1, fits.2⟩
  else
    none

def fromAscii (text : List UInt8) : Option ManagementHostName :=
  if text.length ≤ managementHostNameLen then
    fromParts? (UInt8.ofNat text.length)
      (Vector.ofFn fun index => text.getD index 0)
  else
    none

def asBytes (name : ManagementHostName) : List UInt8 :=
  name.bytes.toList.take name.len.toNat

end ManagementHostName

inductive ManagementDestination
  | wiredHid
  | debugSerial
  | ble (hostId : HostId)
deriving DecidableEq

/-- The source has a second enumeration of the two output targets. -/
abbrev ManagementOutputTarget := OutputTarget

/-- The last six commands exist in the dual-board build only. -/
inductive ManagementCommand : Build → Type
  | getStatus {build : Build} : ManagementCommand build
  | selectHost {build : Build} (hostId : HostId) : ManagementCommand build
  | startPairing {build : Build} (hostId : HostId) : ManagementCommand build
  | forgetHost {build : Build} (hostId : HostId) : ManagementCommand build
  | getHostInfo {build : Build} (hostId : HostId) : ManagementCommand build
  | setHostName {build : Build} (hostId : HostId)
      (name : ManagementHostName) : ManagementCommand build
  | cancelPairing {build : Build} : ManagementCommand build
  | getUsbDevice {build : Build} (index nameOffset : UInt8) :
      ManagementCommand build
  | getDiagnostics {build : Build} : ManagementCommand build
  | getHostTiming {build : Build} (hostId : HostId) : ManagementCommand build
  | getClientSession {build : Build} : ManagementCommand build
  | getHistory {build : Build} (index : UInt8) : ManagementCommand build
  | getSchema {build : Build} : ManagementCommand build
  | getSetting {build : Build} (id : SettingId) (target : SettingTarget) :
      ManagementCommand build
  | setSetting {build : Build} (id : SettingId) (target : SettingTarget)
      (value : Int32) : ManagementCommand build
  | selectOutputTarget (target : ManagementOutputTarget) :
      ManagementCommand .dual
  | getOutputTargetStatus : ManagementCommand .dual
  | getMirrorCandidate (candidate : MirrorCandidateId) :
      ManagementCommand .dual
  | setMirrorTarget (candidate : MirrorCandidateId) : ManagementCommand .dual
  | clearMirrorTarget : ManagementCommand .dual
  | setWiredHostLink (bleHost : Option HostId) : ManagementCommand .dual

structure ManagementRequest (build : Build) where
  requestId : UInt8
  command : ManagementCommand build

inductive ManagementResult
  | ok
  | invalidHost
  | hostNotFound
  | hostAlreadyBonded
  | internalError
  | invalidName
  | invalidSetting
  | notFound
  | unavailable
deriving DecidableEq, Repr

structure ManagementHostStatus where
  known : Bool
  connected : Bool
  encrypted : Bool
  bonded : Bool
deriving DecidableEq

def ManagementHostStatus.empty : ManagementHostStatus :=
  ⟨false, false, false, false⟩

structure ManagementUsbStatus where
  deviceCount : UInt8
  interfaceCount : UInt8
  keyboardCount : UInt8
deriving DecidableEq

structure ManagementStatus where
  activeHost : Option HostId
  pairingHost : Option HostId
  hostCount : UInt8
  usb : ManagementUsbStatus
  hosts : Vector ManagementHostStatus 4
  storageHealth : StorageHealth
deriving DecidableEq

inductive ManagementUsbPresentationKind
  | fallback
  | mirror
deriving DecidableEq, Repr

structure ManagementOutputTargetStatus where
  selected : ManagementOutputTarget
  active : Option ManagementOutputTarget
  availability : OutputTargetAvailability
  wiredReady : Bool
  readyBleMask : BitVec 8
  effectivePresentation : ManagementUsbPresentationKind
  mirrorConfigured : Bool
  operationId : UInt32
deriving DecidableEq

/-- Flag bits: 0 registered, 1 selected, 2 active, 3 synthetic. -/
structure ManagementMirrorCandidate where
  candidate : MirrorCandidateId
  flags : UInt8
  sourceDevice : Option UInt8
  vendorId : UInt16
  productId : UInt16
  profileHash : UInt32
  descriptorHash : UInt32
deriving DecidableEq

/-- Flag bits: 0 connected, 1 keyboard, 2 mouse, 3 consumer control. -/
structure ManagementUsbDevice where
  index : UInt8
  deviceId : UInt8
  flags : UInt8
  vendorId : UInt16
  productId : UInt16
  inputProfileId : InputProfileId
  nameLen : UInt8
  nameOffset : UInt8
  nameChunk : BoundedVec UInt8 4
deriving DecidableEq

structure ManagementDiagnostics where
  uptimeSeconds : UInt32
  resetReason : UInt8
  brownoutCount : UInt16
  bleDisconnectCount : UInt16
  bleNotifyFailureCount : UInt16
  usbErrorCount : UInt16
  flashWriteCount : UInt8
  flashFailureCount : UInt8
deriving DecidableEq

def ManagementDiagnostics.new : ManagementDiagnostics :=
  ⟨0, 0, 0, 0, 0, 0, 0, 0⟩

structure ManagementHistoryEvent where
  kind : UInt8
  sequence : UInt16
  timestampSeconds : UInt32
  subject : UInt8
  detail : UInt8
  vendorId : UInt16
  productId : UInt16
deriving DecidableEq

structure ManagementSchema where
  version : UInt16
  settingCount : UInt8
  historyCapacity : UInt8
  usbCapacity : UInt8
  hash : UInt32
  firmwareMajor : UInt8
  firmwareMinor : UInt8
  firmwarePatch : UInt8
  capabilities : UInt8
deriving DecidableEq

structure ManagementSetting where
  id : SettingId
  target : SettingTarget
  value : Int32
deriving DecidableEq

/-- Name sources: 0 unknown, 1 automatically discovered, 2 manually
overridden. -/
structure ManagementHostInfo where
  hostId : HostId
  status : ManagementHostStatus
  name : ManagementHostName
  nameSource : UInt8
deriving DecidableEq

structure ManagementHostTiming where
  hostId : HostId
  lastConnectedSeconds : UInt32
  lastDisconnectedSeconds : UInt32
  lastDisconnectReason : UInt8
deriving DecidableEq

inductive ManagementResponsePayload
  | none
  | status (status : ManagementStatus)
  | hostInfo (info : ManagementHostInfo)
  | usbDevice (device : ManagementUsbDevice)
  | diagnostics (diagnostics : ManagementDiagnostics)
  | history (event : ManagementHistoryEvent)
  | schema (schema : ManagementSchema)
  | setting (setting : ManagementSetting)
  | hostTiming (timing : ManagementHostTiming)
  | clientSession (hostId : Option HostId)
  | outputTargetStatus (status : ManagementOutputTargetStatus)
  | mirrorCandidate (candidate : ManagementMirrorCandidate)
deriving DecidableEq

structure ManagementResponse where
  requestId : UInt8
  result : ManagementResult
  payload : ManagementResponsePayload
deriving DecidableEq

structure ManagementEvent where
  sequence : UInt16
deriving DecidableEq

end HidShift
