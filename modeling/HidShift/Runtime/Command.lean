import HidShift.Ble.Command
import HidShift.Management
import HidShift.UsbHid

/-! Commands of the runtime to the other tasks (`runtime/command.rs`) and the
status they carry (`runtime.rs`, `runtime/diagnostics.rs`). -/

namespace HidShift

open Lib

def runtimeUsbInterfacesMax : Nat := 8

def runtimeHistoryCapacity : Nat := 16

def releaseReportsMax : Nat := 3

def targetControlActionsMax : Nat := 4

def runtimeBridgeActionCapacity : Nat :=
  releaseReportsMax + runtimeUsbInterfacesMax + targetControlActionsMax + 1

def runtimeCommandCapacity : Nat := runtimeBridgeActionCapacity + 1

def runtimeBleEventCapacity : Nat := 2

def pairingModeTimeoutMs : UInt64 := 60000

structure RuntimeCounters where
  runtimeInputQueueHighWatermark : UInt16
  bleControlQueueHighWatermark : UInt16
  bleNotifyQueueHighWatermark : UInt16
  usbCommandQueueHighWatermark : UInt16
  storageQueueHighWatermark : UInt16
  statusQueueHighWatermark : UInt16
  bleNotifyDropped : UInt32
  bleNotifyTimeouts : UInt32
  criticalReleaseFailures : UInt32
  mouseReportsCoalesced : UInt32
  mouseMovementSaturated : UInt32
  mirrorNonTargetInputDropped : UInt32
  statusUpdatesDropped : UInt32
  usbLedWriteTimeouts : UInt32
deriving DecidableEq

def RuntimeCounters.new : RuntimeCounters :=
  ⟨0, 0, 0, 0, 0, 0, 0, 0, 0, 0, 0, 0, 0, 0⟩

structure StatusSnapshot where
  sequence : UInt64
  activeHost : Option HostId
  connectedHosts : BitVec 8
  pairingHost : Option HostId
  usbInterfaceCount : UInt8
  quiescing : Bool
  bridgeStats : BridgeStats
  runtimeCounters : RuntimeCounters
deriving DecidableEq

def StatusSnapshot.empty : StatusSnapshot :=
  ⟨0, none, 0, none, 0, false, .new, .new⟩

def StatusSnapshot.bridgeStatus (snapshot : StatusSnapshot) : BridgeStatus :=
  ⟨snapshot.activeHost, snapshot.pairingHost⟩

inductive RuntimeEffect
  | setLogLevel (level : UInt8)
deriving DecidableEq

inductive DeviceTaskCommand
  | standardReport (report : StandardHidReport) (reason : NotifyReason)
  | releaseAll
  | activateFallback (operationId : UInt32)
  | activateMirror (profile : ActivateProfile)
  | profileBegin (begin : ProfileBegin)
  | profileChunk (chunk : ProfileChunkData)
  | profileCommit (transferId : UInt32)
  | rawEndpointIn (report : RawEndpointReport)
  | controlResponse (response : MirrorControlResponse)
  | managementResponse (response : ManagementResponse)
  | managementEvent (event : ManagementEvent)
deriving DecidableEq

/-- The device commands and the two mirror commands exist in the dual-board
build only. -/
inductive RuntimeCommand
  | bleCommand (command : BleTaskCommand)
  | deviceCommand (command : DeviceTaskCommand)
  | usbKeyboardLedWrite (interfaceId : InterfaceId) (deviceId : DeviceId)
      (bytes : KeyboardLedOutputBytes)
  | setUsbHostBusState (state : UsbHostBusState)
  | usbMirrorEndpointOut (deviceId : DeviceId) (report : RawEndpointReport)
  | usbMirrorControlRequest (deviceId : DeviceId)
      (request : MirrorControlRequest)
  | persistStorage (state : StorageState) (priority : StoragePersistPriority)
  | statusChanged (snapshot : StatusSnapshot)
  | managementResponse (destination : ManagementDestination)
      (response : ManagementResponse)
  | applyEffect (effect : RuntimeEffect)
deriving DecidableEq

inductive UsbHostTaskCommand
  | keyboardLedWrite (interfaceId : InterfaceId) (deviceId : DeviceId)
      (bytes : KeyboardLedOutputBytes)
  | setBusState (state : UsbHostBusState)
  | mirrorEndpointOut (deviceId : DeviceId) (report : RawEndpointReport)
  | mirrorControlRequest (deviceId : DeviceId) (request : MirrorControlRequest)

inductive StorageTaskCommand
  | persist (state : StorageState) (priority : StoragePersistPriority)
  | factoryReset

structure ManagementTaskResponse where
  destination : ManagementDestination
  response : ManagementResponse

structure StatusTaskCommand where
  status : BridgeStatus
  snapshot : StatusSnapshot
  management : Option ManagementTaskResponse

end HidShift
