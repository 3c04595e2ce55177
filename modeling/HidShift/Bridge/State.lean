import HidShift.Bridge.HostState
import HidShift.Input.Aggregator

/-! State, events and actions of the bridge (`bridge/mod.rs`). -/

namespace HidShift

open Lib

def bridgeUsbHidInterfacesMax : Nat := 8

def bridgeInputInterfacesMax : Nat := bridgeUsbHidInterfacesMax

structure UsbHidInterfaceRegistration where
  interfaceId : InterfaceId
  deviceId : DeviceId
  keyboardLedSink : Bool
deriving DecidableEq

structure SuppressionState where
  keyboard : KeyboardSuppression
  mouseButtons : MouseButtons
  consumer : ConsumerState
deriving DecidableEq

def SuppressionState.new : SuppressionState := ⟨.new, .empty, .new⟩

structure BridgeStats where
  inputReportsDroppedNoReadyTarget : UInt32
  mouseMovementsDropped : UInt32
  keyboardReportsTruncated : UInt32
  vendorFramesIgnored : UInt32
deriving DecidableEq

def BridgeStats.new : BridgeStats := ⟨0, 0, 0, 0⟩

def saturatingSucc (counter : UInt32) : UInt32 :=
  if counter = 0xffffffff then counter else counter + 1

def saturatingAddMs (nowMs delayMs : UInt64) : UInt64 :=
  if nowMs ≤ UInt64.ofNat (UInt64.size - 1) - delayMs then nowMs + delayMs
  else UInt64.ofNat (UInt64.size - 1)

/-- The fields from `outputTarget` on belong to the dual-board build.  The
single-board build neither reads nor writes them. -/
structure BridgeState where
  input : PhysicalInputState
  inputDevices : InputAggregator
  suppression : SuppressionState
  usbHidInterfaces :
    BoundedVec UsbHidInterfaceRegistration bridgeUsbHidInterfacesMax
  hosts : BleHostStateMachine
  pairableHost : Option HostId
  stats : BridgeStats
  outputTarget : OutputTargetState
  wiredAvailability : OutputTargetAvailability
  wiredKeyboardLeds : KeyboardLedState
  wiredBleHost : Option HostId
deriving DecidableEq

/-- `Bridge::new` for a table of `hosts` BLE hosts. -/
def BridgeState.new (hosts : Nat) : BridgeState where
  input := .new
  inputDevices := .new bridgeInputInterfacesMax
  suppression := .new
  usbHidInterfaces := .empty
  hosts := .new hosts
  pairableHost := none
  stats := .new
  outputTarget := .new
  wiredAvailability := .unavailable
  wiredKeyboardLeds := .empty
  wiredBleHost := none

inductive NotifyReason
  | input
  /-- An ordered mouse button transition. -/
  | inputEdge
  | inputRelease
  | targetSwitchRelease
  | usbDeviceRemovedRelease
  | safetyRelease
deriving DecidableEq, Repr

structure BridgeStatus where
  activeTarget : Option HostId
  pairableHost : Option HostId
deriving DecidableEq

inductive BridgeAction
  | notify (target : OutputTarget) (report : StandardHidReport)
      (reason : NotifyReason)
  | usbSetKeyboardLeds (interfaceId : InterfaceId) (deviceId : DeviceId)
      (leds : KeyboardLedState)
  | allowPairing (hostId : HostId)
  | rejectPairing (hostId : HostId)
  | clearBond (hostId : HostId) (bond : Option StoredBond)
  | activateInput (hostId : HostId)
  | activateWired (operationId : UInt32)
  | ensureFallback (operationId : UInt32)
  | persistProfiles
  | statusChanged (status : BridgeStatus)
deriving DecidableEq

inductive BridgeError
  | actionCapacity
  | usbHidInterfaceCapacity
  | hostState (error : HostStateError)
  | input (error : InputError)
  | invalidOutputTarget
deriving DecidableEq, Repr

/-- The last three events exist in the dual-board build only. -/
inductive BridgeEvent : Build → Type
  | inputFrame {build : Build} (frame : InputFrame) : BridgeEvent build
  | usbDeviceRemoved {build : Build} (interfaceId : InterfaceId) :
      BridgeEvent build
  | resetInputDevice {build : Build} (deviceId : DeviceId) : BridgeEvent build
  | usbHidInterfaceConnected {build : Build} (interfaceId : InterfaceId)
      (deviceId : DeviceId) (keyboardLedSink : Bool) : BridgeEvent build
  | hostConnected {build : Build} (hostId : HostId) : BridgeEvent build
  | hostDisconnected {build : Build} (hostId : HostId) : BridgeEvent build
  | hostSecurityChanged {build : Build} (hostId : HostId)
      (encrypted bonded : Bool) (bond : Option StoredBond) : BridgeEvent build
  | cccdChanged {build : Build} (hostId : HostId) (report : ReportKind)
      (enabled : Bool) : BridgeEvent build
  | hostKeyboardLedChanged {build : Build} (hostId : HostId)
      (leds : KeyboardLedState) : BridgeEvent build
  | setHostName {build : Build} (hostId : HostId) (name : FixedName) :
      BridgeEvent build
  | enterPairingMode {build : Build} (hostId : HostId) : BridgeEvent build
  | pairingModeExpired {build : Build} (hostId : HostId) : BridgeEvent build
  | clearHost {build : Build} (hostId : HostId) : BridgeEvent build
  | switchTarget {build : Build} (target : HostId) : BridgeEvent build
  | selectOutputTarget (target : OutputTarget) : BridgeEvent .dual
  | wiredAvailabilityChanged (availability : OutputTargetAvailability) :
      BridgeEvent .dual
  | wiredKeyboardLedChanged (leds : KeyboardLedState) : BridgeEvent .dual

namespace BridgeState

def canSend (bridge : BridgeState) (hostId : HostId) (kind : ReportKind) :
    Bool :=
  bridge.hosts.canSend hostId kind

def bleTargetReady (bridge : BridgeState) (hostId : HostId) : Bool :=
  bleTargetReadinessPolicy.isReady (bridge.canSend hostId .keyboard)
    (bridge.canSend hostId .mouse) (bridge.canSend hostId .consumer)

def status (bridge : BridgeState) : BridgeStatus :=
  ⟨bridge.hosts.activeTarget, bridge.pairableHost⟩

def readyActiveTarget (build : Build) (bridge : BridgeState)
    (kind : ReportKind) : Option OutputTarget :=
  match build with
  | .dual =>
      match bridge.outputTarget.active with
      | none => none
      | some .wired => some .wired
      | some (.ble hostId) =>
          if bridge.canSend hostId kind then some (.ble hostId) else none
  | .single =>
      match bridge.hosts.activeTarget with
      | none => none
      | some hostId =>
          if bridge.canSend hostId kind then some (.ble hostId) else none

def selectedTargetAvailability (bridge : BridgeState) :
    OutputTargetAvailability :=
  match bridge.outputTarget.selected with
  | .wired => bridge.wiredAvailability
  | .ble hostId =>
      if bridge.bleTargetReady hostId then
        .ready
      else if (bridge.hosts.host hostId).any (·.connected) then
        .connectedNotReady
      else
        .unavailable

def refreshSelectedTargetAvailability (bridge : BridgeState) : BridgeState :=
  { bridge with outputTarget :=
      bridge.outputTarget.setAvailability bridge.selectedTargetAvailability }

def nextReadyOutputTarget (bridge : BridgeState) : Option OutputTarget :=
  let readyBleMask : BitVec 8 :=
    (List.range (min bridge.hosts.hosts.length hostSlotCount)).foldl
      (fun mask index =>
        if bridge.bleTargetReady ⟨(index + 1).toUInt8⟩ then
          mask ||| (1#8 <<< index)
        else
          mask) 0
  nextReadyComputerTarget bridge.outputTarget.selected
    (bridge.wiredAvailability = .ready) readyBleMask bridge.wiredBleHost

def captureSuppression (bridge : BridgeState) :
    Except InputError BridgeState := do
  let keyboard ← KeyboardSuppression.captureFrom bridge.input.keyboard
  return { bridge with suppression :=
    ⟨keyboard, bridge.input.mouse.buttons, bridge.input.consumer⟩ }

def upsertUsbHidInterface (bridge : BridgeState)
    (registration : UsbHidInterfaceRegistration) :
    Except BridgeError BridgeState :=
  match bridge.usbHidInterfaces.toList.findIdx?
      (·.interfaceId = registration.interfaceId) with
  | some index =>
      .ok { bridge with usbHidInterfaces :=
        ⟨bridge.usbHidInterfaces.toList.set index registration, by
          rw [List.length_set]
          exact bridge.usbHidInterfaces.length_le⟩ }
  | none =>
      match bridge.usbHidInterfaces.push? registration with
      | some interfaces => .ok { bridge with usbHidInterfaces := interfaces }
      | none => .error .usbHidInterfaceCapacity

/-- `swap_remove`: the last registration takes the freed place. -/
def swapRemove (interfaces : List UsbHidInterfaceRegistration)
    (index : Nat) : List UsbHidInterfaceRegistration :=
  match interfaces.getLast? with
  | some last => (interfaces.set index last).dropLast
  | none => []

theorem length_swapRemove (interfaces : List UsbHidInterfaceRegistration)
    (index : Nat) : (swapRemove interfaces index).length ≤ interfaces.length := by
  simp only [swapRemove]
  cases interfaces.getLast? <;> simp

def removeUsbHidInterface (bridge : BridgeState) (interfaceId : InterfaceId) :
    BridgeState :=
  match bridge.usbHidInterfaces.toList.findIdx?
      (·.interfaceId = interfaceId) with
  | some index =>
      { bridge with usbHidInterfaces :=
        ⟨swapRemove bridge.usbHidInterfaces.toList index,
          Nat.le_trans (length_swapRemove _ index)
            bridge.usbHidInterfaces.length_le⟩ }
  | none => bridge

def usbKeyboardLeds (bridge : BridgeState) (leds : KeyboardLedState) :
    List BridgeAction :=
  (bridge.usbHidInterfaces.toList.filter (·.keyboardLedSink)).map fun sink =>
    .usbSetKeyboardLeds sink.interfaceId sink.deviceId leds

def activeHostLeds (build : Build) (bridge : BridgeState) :
    List BridgeAction :=
  if build = .dual ∧ bridge.outputTarget.selected = .wired then
    bridge.usbKeyboardLeds bridge.wiredKeyboardLeds
  else
    match bridge.hosts.activeTarget with
    | none => []
    | some activeTarget =>
        bridge.usbKeyboardLeds
          (((bridge.hosts.host activeTarget).bind (·.keyboardLeds)).getD .empty)

def notifyIf (condition : Bool) (target : OutputTarget)
    (report : StandardHidReport) (reason : NotifyReason) : List BridgeAction :=
  if condition then [.notify target report reason] else []

def releaseReports (bridge : BridgeState) (hostId : HostId)
    (reason : NotifyReason) : List BridgeAction :=
  notifyIf (bridge.canSend hostId .keyboard) (.ble hostId)
      (.keyboard .release) reason ++
    (notifyIf (bridge.canSend hostId .mouse) (.ble hostId)
        (.mouse .releaseButtons) reason ++
      notifyIf (bridge.canSend hostId .consumer) (.ble hostId)
        (.consumer .release) reason)

def neutralReports (target : OutputTarget) (reason : NotifyReason) :
    List BridgeAction :=
  [.notify target (.keyboard .release) reason,
    .notify target (.mouse .releaseButtons) reason,
    .notify target (.consumer .release) reason]

def releaseTarget (bridge : BridgeState) (target : OutputTarget)
    (reason : NotifyReason) : List BridgeAction :=
  match target with
  | .ble hostId => bridge.releaseReports hostId reason
  | .wired => neutralReports target reason

end BridgeState

end HidShift
