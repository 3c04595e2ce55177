import HidShift.Ble.HostEvent
import HidShift.Ble.MouseAccumulator
import HidShift.Bridge.Storage
import HidShift.Input.Transform
import HidShift.Runtime.Command

/-! State, inputs and errors of the runtime (`runtime.rs`), and what it reads
from its state. -/

namespace HidShift

open Lib

structure PairingModeState where
  hostId : HostId
  deadlineMs : UInt64
deriving DecidableEq

structure PendingTargetSwitch where
  target : HostId
  deadlineMs : UInt64
deriving DecidableEq

structure UsbHidInterfaceRuntimeState where
  interfaceId : InterfaceId
  deviceId : DeviceId
  ledOutput : Option KeyboardLedOutputReport
  vendorId : UInt16
  productId : UInt16
  name : FixedName
  flags : UInt8
  inputProfileId : Option InputProfileId
deriving DecidableEq

/-- The fields from `mirrorTarget` on belong to the dual-board build.  The
source keeps the mirror target in the state of the bridge, where no event
reads it. -/
structure BridgeRuntime where
  bridge : BridgeState
  usbInterfaces : List (Option UsbHidInterfaceRuntimeState)
  storageGeneration : UInt32
  pairingMode : Option PairingModeState
  globalSettings : GlobalSettings
  inputProfiles : InputProfileRegistry
  nowMs : UInt64
  diagnostics : ManagementDiagnostics
  history : BoundedVec ManagementHistoryEvent runtimeHistoryCapacity
  nextHistorySequence : UInt16
  hostLastConnectedSeconds : List UInt32
  hostLastDisconnectedSeconds : List UInt32
  hostLastDisconnectReason : List UInt8
  pendingTargetSwitch : Option PendingTargetSwitch
  statusSequence : UInt64
  counters : RuntimeCounters
  storageHealth : StorageHealth
  usbHostPower : UsbHostPowerPolicy
  mirrorTarget : Option MirrorStableId
  lastProfileResult : Option ProfileResult
  mirrorCandidates : MirrorCandidateRegistry
  pendingMirrorCandidate : Option MirrorCandidateMetadata
  lastMirrorEndpointOut : Option RawEndpointReport
  lastMirrorControlRequest : Option MirrorControlRequest
  presentationTransitionPending : Bool
  transitionMirrorTarget : Option MirrorCandidateId
  activeMirrorTarget : Option MirrorCandidateId
deriving DecidableEq

def BridgeRuntime.new (hosts usbInterfaces : Nat)
    (storageGeneration : UInt32) : BridgeRuntime where
  bridge := .new hosts
  usbInterfaces := List.replicate usbInterfaces none
  storageGeneration := storageGeneration
  pairingMode := none
  globalSettings := .default
  inputProfiles := .new
  nowMs := 0
  diagnostics := .new
  history := .empty
  nextHistorySequence := 0
  hostLastConnectedSeconds := List.replicate hosts 0
  hostLastDisconnectedSeconds := List.replicate hosts 0
  hostLastDisconnectReason := List.replicate hosts 0
  pendingTargetSwitch := none
  statusSequence := 0
  counters := .new
  storageHealth := .persistent
  usbHostPower := .new
  mirrorTarget := none
  lastProfileResult := none
  mirrorCandidates := .new
  pendingMirrorCandidate := none
  lastMirrorEndpointOut := none
  lastMirrorControlRequest := none
  presentationTransitionPending := false
  transitionMirrorTarget := none
  activeMirrorTarget := none

inductive RuntimeError
  | inputProfileCapacity
  | bridge (error : BridgeError)
  | storage (error : StorageError)
  | usbLed (error : KeyboardLedOutputError)
  | bleHostAdapter (error : BleHostAdapterError)
  | usbHidInterfaceCapacity
  | usbHidInterfaceNotRegistered (interfaceId : InterfaceId)
  | commandCapacity
  | storageUnavailable
  | unexpectedRealtimeAction
  | wiredFeatureDisabled
  | mirrorCandidateUnavailable

inductive ButtonIntent
  | nextConnectedTarget
  | enterPairingMode
  | clearActiveHostBond
deriving DecidableEq

inductive RuntimeDiagnosticsEvent
  | resetReason (reason : UInt8)
  | brownout
  | bleDisconnected (hostId : HostId) (reason : UInt8)
  | bleNotifyFailed
  | bleNotifyTimedOut (criticalRelease : Bool)
  | bleManagementNotifyTimedOut
  | usbLedWriteTimedOut
  | usbError
  | flashWrite (success : Bool)

/-- The inputs from `deviceCommandRequested` to `mirrorSourceDisconnected`
exist in the dual-board build only. -/
inductive RuntimeInput : Build → Type
  | bridgeEvent {build : Build} (event : BridgeEvent build) :
      RuntimeInput build
  | buttonIntent {build : Build} (intent : ButtonIntent) (nowMs : UInt64) :
      RuntimeInput build
  | managementRequest {build : Build} (destination : ManagementDestination)
      (request : ManagementRequest build) (nowMs : UInt64) :
      RuntimeInput build
  | tick {build : Build} (nowMs : UInt64) : RuntimeInput build
  | bleHostEvent {build : Build} (hostId : HostId)
      (event : BleHostAdapterEvent) : RuntimeInput build
  | usbHidInterfaceConnected {build : Build} (interfaceId : InterfaceId)
      (deviceId : DeviceId) (ledOutput : Option KeyboardLedOutputReport) :
      RuntimeInput build
  | usbHidInterfaceDisconnected {build : Build} (interfaceId : InterfaceId) :
      RuntimeInput build
  | usbDeviceMetadataUpdated {build : Build} (deviceId : DeviceId)
      (identity : InputIdentity) (name : FixedName) (flags : UInt8) :
      RuntimeInput build
  | hostNameDiscovered {build : Build} (hostId : HostId) (name : FixedName) :
      RuntimeInput build
  | diagnosticsEvent {build : Build} (event : RuntimeDiagnosticsEvent) :
      RuntimeInput build
  | storageHealthChanged {build : Build} (health : StorageHealth) :
      RuntimeInput build
  | deviceCommandRequested (command : DeviceTaskCommand) : RuntimeInput .dual
  | deviceProfileResult (result : ProfileResult) : RuntimeInput .dual
  | mirrorEndpointOut (report : RawEndpointReport) : RuntimeInput .dual
  | usbEndpointIn (deviceId : DeviceId) (report : RawEndpointReport)
      (standard : Option InputFrame) : RuntimeInput .dual
  | mirrorControlRequest (request : MirrorControlRequest) :
      RuntimeInput .dual
  | mirrorControlCompleted (response : MirrorControlResponse) :
      RuntimeInput .dual
  | deviceUsbState (state : UsbState) : RuntimeInput .dual
  | mirrorCandidateRegistered (candidate : MirrorCandidateId)
      (stableId : MirrorStableId) (profileHash : Option UInt32)
      (synthetic : Bool) (sourceDevice : Option DeviceId) :
      RuntimeInput .dual
  | mirrorSourceDisconnected (deviceId : DeviceId) : RuntimeInput .dual
  | restoreStorage {build : Build} (storage : StorageState) :
      RuntimeInput build

namespace BleHostStateMachine

def nextConnectedTarget (machine : BleHostStateMachine) : Option HostId :=
  nextTargetAfterLoop machine.activeTarget (·.connected)
    machine.hosts.reduceOption none machine.activeTarget.isNone

def hasBond (host : HostRuntimeState) : Bool :=
  host.bonded || host.bond.isSome

/-- The first host number without a bond; numbers past 255 do not exist. -/
def pairingCandidate (machine : BleHostStateMachine) : Option HostId :=
  (machine.activeTarget.filter fun active =>
    (machine.host active).any fun host => !hasBond host).or <|
      ((List.range' 1 (min machine.hosts.length 255)).map fun number =>
        (⟨UInt8.ofNat number⟩ : HostId)).find? fun hostId =>
          !(machine.host hostId).any hasBond

end BleHostStateMachine

namespace BridgeState

/-- Whether any computer transport is connected.  Neither encryption nor
report readiness is required. -/
def hasConnectedComputer (build : Build) (bridge : BridgeState) : Bool :=
  bridge.hosts.hosts.reduceOption.any (·.connected) ||
    match build with
    | .dual => bridge.wiredAvailability != .unavailable
    | .single => false

def markHostDisconnectedForQuiesce (bridge : BridgeState) (hostId : HostId) :
    BridgeState :=
  { bridge with hosts := bridge.hosts.onDisconnected hostId }

def holdWiredPresentationTransition (bridge : BridgeState) : BridgeState :=
  if bridge.wiredAvailability ≠ .unavailable then
    { bridge with
      wiredAvailability := .connectedNotReady
      outputTarget := bridge.outputTarget.setAvailability .connectedNotReady }
  else
    bridge

end BridgeState

namespace BridgeRuntime

variable (runtime : BridgeRuntime)

def nowSeconds : UInt32 :=
  UInt32.ofNat (min (runtime.nowMs.toNat / 1000) 4294967295)

def usbHidInterface (interfaceId : InterfaceId) :
    Option UsbHidInterfaceRuntimeState :=
  SlotTable.lookup UsbHidInterfaceRuntimeState.interfaceId
    runtime.usbInterfaces interfaceId

def interfacesOf (deviceId : DeviceId) : List UsbHidInterfaceRuntimeState :=
  runtime.usbInterfaces.reduceOption.filter (·.deviceId = deviceId)

def usbDevices : List DeviceId :=
  (runtime.usbInterfaces.reduceOption.map (·.deviceId)).eraseDups

def inputProfileForDevice (deviceId : DeviceId) : Option InputProfileId :=
  (runtime.interfacesOf deviceId).head?.bind (·.inputProfileId)

def inputFrameWouldTriggerShortcut (frame : InputFrame) : Bool :=
  match frame with
  | .vendor => false
  | .standard frame =>
      ((runtime.inputProfileForDevice frame.deviceId).bind
        runtime.inputProfiles.get?).any
          (·.targetSwitchShortcutWouldTrigger frame)

/-- The runtime and the frame after the profile of the device, and whether
the frame completed the target-switch shortcut. -/
def transformInputFrame (frame : InputFrame) :
    BridgeRuntime × InputFrame × Bool :=
  match frame with
  | .vendor => (runtime, frame, false)
  | .standard standard =>
      match (runtime.inputProfileForDevice standard.deviceId).bind
          runtime.inputProfiles.get? with
      | none => (runtime, frame, false)
      | some profile =>
          let (captured, filtered, triggered) :=
            profile.captureTargetSwitchShortcut standard
          let (transformed, output) := captured.transform filtered
          ({ runtime with
              inputProfiles := runtime.inputProfiles.update profile.id
                fun _ => transformed }, .standard output, triggered)

def mirrorProfileHash (candidate : MirrorCandidateId) : Option UInt32 :=
  (runtime.mirrorCandidates.get candidate).map (·.profileHash)

def mirrorStableId (candidate : MirrorCandidateId) : Option MirrorStableId :=
  (runtime.mirrorCandidates.get candidate).map (·.stableId)

def selectedMirrorCandidate : Option MirrorCandidateId :=
  runtime.mirrorTarget.bind runtime.mirrorCandidates.resolve

def effectiveMirrorCandidate : Option MirrorCandidateId :=
  runtime.selectedMirrorCandidate.filter fun candidate =>
    let physicalSource := (runtime.mirrorCandidates.get candidate).any
      (·.sourceDevice.isSome)
    !physicalSource || runtime.usbDevices.length ≤ 1

def activePhysicalMirrorSource : Option DeviceId :=
  if runtime.presentationTransitionPending ∨
      runtime.bridge.outputTarget.active ≠ some .wired then
    none
  else
    runtime.activeMirrorTarget.bind fun candidate =>
      (runtime.mirrorCandidates.get candidate).bind (·.sourceDevice)

def storageState (build : Build) : Except StorageError StorageState := do
  let state ← runtime.bridge.storageState build runtime.mirrorTarget
    runtime.storageGeneration
  return { state with
    globalSettings := runtime.globalSettings
    inputProfiles := runtime.inputProfiles }

end BridgeRuntime

end HidShift
