import HidShift.Runtime.Handle

/-! The owner of the runtime and the queues of the other tasks
(`runtime/owner.rs`, `runtime/queues.rs`), with the realtime path of input
frames (`runtime.rs`). -/

namespace HidShift

open Lib

structure RuntimeCapacities where
  hosts : Nat
  usbInterfaces : Nat
  bridgeActions : Nat
  commands : Nat
  bleEvents : Nat
  bleCommandQueue : Nat
  usbCommandQueue : Nat
  storageCommandQueue : Nat
  statusCommandQueue : Nat

def defaultRuntimeCapacities : RuntimeCapacities where
  hosts := storedHostsMax
  usbInterfaces := runtimeUsbInterfacesMax
  bridgeActions := runtimeBridgeActionCapacity
  commands := runtimeCommandCapacity
  bleEvents := runtimeBleEventCapacity
  bleCommandQueue := runtimeCommandCapacity
  usbCommandQueue := runtimeCommandCapacity
  storageCommandQueue := runtimeCommandCapacity
  statusCommandQueue := runtimeCommandCapacity

def runtimeDeviceCommandQueueCapacity : Nat := runtimeCommandCapacity

inductive RuntimeDispatchError
  | bleQueueCapacity
  | deviceQueueCapacity
  | usbQueueCapacity
  | storageQueueCapacity
  | statusQueueCapacity
  | effectQueueCapacity
deriving DecidableEq, Repr

/-- The single-board build has no device queue and never fills this one. -/
structure RuntimeCommandQueues (capacities : RuntimeCapacities) where
  ble : BoundedVec BleTaskCommand capacities.bleCommandQueue
  device : BoundedVec DeviceTaskCommand runtimeDeviceCommandQueueCapacity
  usbHost : BoundedVec UsbHostTaskCommand capacities.usbCommandQueue
  storage : BoundedVec StorageTaskCommand capacities.storageCommandQueue
  status : BoundedVec StatusTaskCommand capacities.statusCommandQueue
  effects : BoundedVec RuntimeEffect capacities.statusCommandQueue

inductive RuntimeLane
  | ble
  | device
  | usb
  | storage
  | status
  | effects
deriving DecidableEq, Repr

def RuntimeCommand.lane (build : Build) : RuntimeCommand → RuntimeLane
  | .bleCommand _ => .ble
  | .deviceCommand _ => .device
  | .usbKeyboardLedWrite .. | .setUsbHostBusState _
  | .usbMirrorEndpointOut .. | .usbMirrorControlRequest .. => .usb
  | .persistStorage .. => .storage
  | .statusChanged _ => .status
  | .managementResponse destination _ =>
      if build = .dual ∧ destination = .wiredHid then .device else .status
  | .applyEffect _ => .effects

def laneCount (build : Build) (commands : List RuntimeCommand)
    (lane : RuntimeLane) : Nat :=
  commands.countP (·.lane build = lane)

def responseStatus (response : ManagementResponse) : BridgeStatus :=
  match response.payload with
  | .status status => ⟨status.activeHost, status.pairingHost⟩
  | _ => ⟨none, none⟩

namespace RuntimeCommandQueues

variable {capacities : RuntimeCapacities}

def new : RuntimeCommandQueues capacities :=
  ⟨.empty, .empty, .empty, .empty, .empty, .empty⟩

abbrev M (capacities : RuntimeCapacities) :=
  InPlace RuntimeDispatchError (RuntimeCommandQueues capacities)

def pushBle (command : BleTaskCommand) : M capacities Unit := do
  let queues ← get
  match queues.ble.push? command with
  | some ble => set { queues with ble := ble }
  | none => throw .bleQueueCapacity

def pushDevice (command : DeviceTaskCommand) : M capacities Unit := do
  let queues ← get
  match queues.device.push? command with
  | some device => set { queues with device := device }
  | none => throw .deviceQueueCapacity

/-- `insert(0, ..)`. -/
def pushDeviceFront (command : DeviceTaskCommand) : M capacities Unit := do
  let queues ← get
  if room : queues.device.toList.length < runtimeDeviceCommandQueueCapacity then
    set { queues with device := ⟨command :: queues.device.toList, room⟩ }
  else
    throw .deviceQueueCapacity

def pushUsbHost (command : UsbHostTaskCommand) : M capacities Unit := do
  let queues ← get
  match queues.usbHost.push? command with
  | some usbHost => set { queues with usbHost := usbHost }
  | none => throw .usbQueueCapacity

def pushStorage (command : StorageTaskCommand) : M capacities Unit := do
  let queues ← get
  match queues.storage.push? command with
  | some storage => set { queues with storage := storage }
  | none => throw .storageQueueCapacity

def pushStatus (command : StatusTaskCommand) : M capacities Unit := do
  let queues ← get
  match queues.status.push? command with
  | some status => set { queues with status := status }
  | none => throw .statusQueueCapacity

def pushEffect (effect : RuntimeEffect) : M capacities Unit := do
  let queues ← get
  match queues.effects.push? effect with
  | some effects => set { queues with effects := effects }
  | none => throw .effectQueueCapacity

/-- A management answer may change the presentation the computer asks
through, so it goes before the commands queued already. -/
def dispatchManagementResponse (build : Build)
    (destination : ManagementDestination) (response : ManagementResponse) :
    M capacities Unit :=
  if build = .dual ∧ destination = .wiredHid then
    pushDeviceFront (.managementResponse response)
  else
    pushStatus ⟨responseStatus response, .empty,
      some ⟨destination, response⟩⟩

def dispatchOne (build : Build) : RuntimeCommand → M capacities Unit
  | .bleCommand command => pushBle command
  | .deviceCommand command => pushDevice command
  | .usbKeyboardLedWrite interfaceId deviceId bytes =>
      pushUsbHost (.keyboardLedWrite interfaceId deviceId bytes)
  | .setUsbHostBusState state => pushUsbHost (.setBusState state)
  | .usbMirrorEndpointOut deviceId report =>
      pushUsbHost (.mirrorEndpointOut deviceId report)
  | .usbMirrorControlRequest deviceId request =>
      pushUsbHost (.mirrorControlRequest deviceId request)
  | .persistStorage state priority => pushStorage (.persist state priority)
  | .statusChanged snapshot =>
      pushStatus ⟨snapshot.bridgeStatus, snapshot, none⟩
  | .managementResponse destination response =>
      dispatchManagementResponse build destination response
  | .applyEffect effect => pushEffect effect

def dispatchAll (build : Build) : List RuntimeCommand → M capacities Unit
  | [] => pure ()
  | command :: rest => do
      dispatchOne build command
      dispatchAll build rest

def validateCapacity (build : Build) (capacities : RuntimeCapacities)
    (commands : List RuntimeCommand) : Except RuntimeDispatchError Unit := do
  let count := laneCount build commands
  require (count .ble ≤ capacities.bleCommandQueue) .bleQueueCapacity
  require (count .device ≤ runtimeDeviceCommandQueueCapacity)
    .deviceQueueCapacity
  require (count .usb ≤ capacities.usbCommandQueue) .usbQueueCapacity
  require (count .storage ≤ capacities.storageCommandQueue)
    .storageQueueCapacity
  require (count .status ≤ capacities.statusCommandQueue)
    .statusQueueCapacity
  require (count .effects ≤ capacities.statusCommandQueue)
    .effectQueueCapacity

def clear : M capacities Unit := modify fun _ => new

def dispatchFrom (build : Build) (commands : List RuntimeCommand) :
    M capacities Unit := do
  InPlace.lift id (validateCapacity build capacities commands)
  clear
  dispatchAll build commands

end RuntimeCommandQueues

structure RealtimeWork (capacities : RuntimeCapacities) where
  runtime : BridgeRuntime
  ble : BoundedVec BleTaskCommand capacities.bleCommandQueue
  device : BoundedVec DeviceTaskCommand runtimeDeviceCommandQueueCapacity

abbrev RealtimeM (capacities : RuntimeCapacities) :=
  InPlace RuntimeError (RealtimeWork capacities)

def InputFrame.maximumReports : InputFrame → Nat
  | .standard frame => frame.keyboard.isSome.toNat + frame.mouse.isSome.toNat +
      frame.consumer.isSome.toNat
  | .vendor => 0

def realtimeActionCapacity : Nat := 3

section

variable {capacities : RuntimeCapacities}

def realtimeTransform (frame : InputFrame) :
    RealtimeM capacities InputFrame := do
  let (runtime, frame, _) := (← get).runtime.transformInputFrame frame
  modify fun work => { work with runtime := runtime }
  return frame

def realtimeBridge (build : Build) (frame : InputFrame) :
    RealtimeM capacities (List BridgeAction) := do
  let work ← get
  match (handleEventInPlace build (.inputFrame frame)).run
      ⟨work.runtime.bridge,
        (.empty : BoundedVec BridgeAction realtimeActionCapacity)⟩ with
  | .ok _ after =>
      set { work with runtime := { work.runtime with bridge := after.bridge } }
      return after.out.toList
  | .error error after =>
      set { work with runtime := { work.runtime with bridge := after.bridge } }
      throw (.bridge error)

def pushRealtimeBle (command : BleTaskCommand) :
    RealtimeM capacities Unit := do
  let work ← get
  match work.ble.push? command with
  | some ble => set { work with ble := ble }
  | none => throw .commandCapacity

def pushRealtimeDevice (command : DeviceTaskCommand) :
    RealtimeM capacities Unit := do
  let work ← get
  match work.device.push? command with
  | some device => set { work with device := device }
  | none => throw .commandCapacity

def routeRealtime (build : Build) : BridgeAction → RealtimeM capacities Unit
  | .notify (.ble hostId) report reason =>
      pushRealtimeBle (.notify hostId report reason)
  | .notify .wired report reason =>
      match build with
      | .single => throw .unexpectedRealtimeAction
      | .dual => pushRealtimeDevice (.standardReport report reason)
  | _ => throw .unexpectedRealtimeAction

def routeRealtimeAll (build : Build) :
    List BridgeAction → RealtimeM capacities Unit
  | [] => pure ()
  | action :: rest => do
      routeRealtime build action
      routeRealtimeAll build rest

/-- `handle_realtime_input_frame_in_place` of the single-board build. -/
def handleRealtimeInputFrameSingle (frame : InputFrame) :
    RealtimeM capacities Unit := do
  let frame ← realtimeTransform frame
  let room := capacities.bleCommandQueue - (← get).ble.toList.length
  InPlace.lift id
    (require (frame.maximumReports ≤ room) RuntimeError.commandCapacity)
  let actions ← realtimeBridge .single frame
  routeRealtimeAll .single actions

/-- Frames are dropped while the wired presentation changes and while a
mirrored device is presented. -/
def BridgeRuntime.dropsRealtime (runtime : BridgeRuntime) : Bool :=
  (runtime.presentationTransitionPending ∧
      runtime.bridge.outputTarget.selected = .wired) ∨
    (runtime.bridge.outputTarget.active = some .wired ∧
      runtime.activeMirrorTarget.isSome)

def BridgeRuntime.countDropped (runtime : BridgeRuntime) : BridgeRuntime :=
  { runtime with counters := { runtime.counters with
      mirrorNonTargetInputDropped :=
        saturatingSucc runtime.counters.mirrorNonTargetInputDropped } }

def RealtimeWork.bleRoom (work : RealtimeWork capacities) : Nat :=
  capacities.bleCommandQueue - work.ble.toList.length

def RealtimeWork.deviceRoom (work : RealtimeWork capacities) : Nat :=
  runtimeDeviceCommandQueueCapacity - work.device.toList.length

def RealtimeWork.hasRoom (work : RealtimeWork capacities) (reports : Nat) :
    Bool :=
  match work.runtime.bridge.outputTarget.active with
  | some (.ble _) => reports ≤ work.bleRoom
  | some .wired => reports ≤ work.deviceRoom
  | none => true

def notifyCount (actions : List BridgeAction)
    (goesTo : OutputTarget → Bool) : Nat :=
  actions.countP fun action => match action with
    | .notify target _ _ => goesTo target
    | _ => false

def realtimeReports (frame : InputFrame) : RealtimeM capacities Unit := do
  let work ← get
  InPlace.lift id (require (work.hasRoom frame.maximumReports)
    RuntimeError.commandCapacity)
  let actions ← realtimeBridge .dual frame
  let work ← get
  InPlace.lift id (require
    (notifyCount actions (· ≠ .wired) ≤ work.bleRoom ∧
      notifyCount actions (· = .wired) ≤ work.deviceRoom)
    RuntimeError.commandCapacity)
  routeRealtimeAll .dual actions

/-- `handle_realtime_input_frame_in_place` of the dual-board build. -/
def handleRealtimeInputFrameDual (frame : InputFrame) :
    RealtimeM capacities Unit := do
  let frame ← realtimeTransform frame
  if (← get).runtime.dropsRealtime then
    modify fun work => { work with runtime := work.runtime.countDropped }
  else
    realtimeReports frame

def handleRealtimeInputFrameInPlace (build : Build) (frame : InputFrame) :
    RealtimeM capacities Unit :=
  match build with
  | .single => handleRealtimeInputFrameSingle frame
  | .dual => handleRealtimeInputFrameDual frame

end

inductive RuntimeOwnerError
  | runtime (error : RuntimeError)
  | dispatch (error : RuntimeDispatchError)

structure RuntimeOwner (capacities : RuntimeCapacities) where
  runtime : BridgeRuntime
  commands : BoundedVec RuntimeCommand capacities.commands
  queues : RuntimeCommandQueues capacities

structure RuntimeTransportMetrics where
  runtimeInputDepth : Nat
  bleControlDepth : Nat
  bleNotifyDepth : Nat
  usbDepth : Nat
  storageDepth : Nat
  statusDepth : Nat
  mouseReportsCoalesced : UInt32
  mouseMovementSaturated : UInt32
  statusUpdatesDropped : UInt32

def saturatingDepth (depth : Nat) : UInt16 := UInt16.ofNat (min depth 65535)

def RuntimeCounters.observe (counters : RuntimeCounters)
    (metrics : RuntimeTransportMetrics) : RuntimeCounters :=
  { counters with
    runtimeInputQueueHighWatermark :=
      max counters.runtimeInputQueueHighWatermark
        (saturatingDepth metrics.runtimeInputDepth)
    bleControlQueueHighWatermark :=
      max counters.bleControlQueueHighWatermark
        (saturatingDepth metrics.bleControlDepth)
    bleNotifyQueueHighWatermark :=
      max counters.bleNotifyQueueHighWatermark
        (saturatingDepth metrics.bleNotifyDepth)
    usbCommandQueueHighWatermark :=
      max counters.usbCommandQueueHighWatermark
        (saturatingDepth metrics.usbDepth)
    storageQueueHighWatermark :=
      max counters.storageQueueHighWatermark
        (saturatingDepth metrics.storageDepth)
    statusQueueHighWatermark :=
      max counters.statusQueueHighWatermark
        (saturatingDepth metrics.statusDepth)
    mouseReportsCoalesced := metrics.mouseReportsCoalesced
    mouseMovementSaturated := metrics.mouseMovementSaturated
    statusUpdatesDropped := metrics.statusUpdatesDropped }

namespace RuntimeOwner

variable {capacities : RuntimeCapacities} (build : Build)

def fromRuntime (runtime : BridgeRuntime) : RuntimeOwner capacities :=
  ⟨runtime, .empty, .new⟩

def new (capacities : RuntimeCapacities) (storageGeneration : UInt32) :
    RuntimeOwner capacities :=
  fromRuntime (.new capacities.hosts capacities.usbInterfaces storageGeneration)

abbrev M (capacities : RuntimeCapacities) :=
  InPlace RuntimeOwnerError (RuntimeOwner capacities)

/-- Runs a handler of the runtime on the command vector of the owner. -/
def runRuntime (program : RuntimeM capacities.commands Unit) :
    M capacities Unit := do
  let owner ← get
  match program.run ⟨owner.runtime, owner.commands, []⟩ with
  | .ok _ after =>
      set { owner with runtime := after.runtime, commands := after.commands }
  | .error error after =>
      set { owner with runtime := after.runtime, commands := after.commands }
      throw (.runtime error)

def runQueues (program : RuntimeCommandQueues.M capacities Unit) :
    M capacities Unit := do
  let owner ← get
  match program.run owner.queues with
  | .ok _ queues => set { owner with queues := queues }
  | .error error queues =>
      set { owner with queues := queues }
      throw (.dispatch error)

def runRealtime (program : RealtimeM capacities Unit) :
    M capacities Unit := do
  let owner ← get
  let store := fun (after : RealtimeWork capacities) =>
    { owner with
      runtime := after.runtime
      queues := { owner.queues with ble := after.ble, device := after.device } }
  match program.run ⟨owner.runtime, owner.queues.ble, owner.queues.device⟩ with
  | .ok _ after => set (store after)
  | .error error after =>
      set (store after)
      throw (.runtime error)

def handleAndDispatch (input : RuntimeInput build) : M capacities Unit := do
  runRuntime (handleInputInPlace build capacities.bridgeActions
    capacities.bleEvents input)
  runQueues (RuntimeCommandQueues.dispatchFrom build (← get).commands.toList)

/-- An owned message is a `RuntimeInput` whose GATT data has two bytes at
most; both are the same type here. -/
abbrev RuntimeInputMessage := RuntimeInput

/-- `process_input` and `process_message`: a failure leaves the owner as it
was. -/
def processMessage (owner : RuntimeOwner capacities)
    (message : RuntimeInputMessage build) :
    Except RuntimeOwnerError (RuntimeOwner capacities) :=
  match (handleAndDispatch build message).run (fromRuntime owner.runtime) with
  | .ok _ after => .ok after
  | .error error _ => .error error

/-- A frame that may complete the target-switch shortcut takes the plain
path. -/
def processRealtimeFrameInPlace (frame : InputFrame) :
    M capacities Unit := do
  if (← get).runtime.inputFrameWouldTriggerShortcut frame then
    handleAndDispatch build (.bridgeEvent (.inputFrame frame))
  else
    runQueues RuntimeCommandQueues.clear
    runRealtime (handleRealtimeInputFrameInPlace build frame)

def processEndpointInPlace (deviceId : DeviceId) (report : RawEndpointReport)
    (standard : Option InputFrame) : M capacities Unit := do
  runQueues RuntimeCommandQueues.clear
  if (← get).runtime.activePhysicalMirrorSource = some deviceId then
    runQueues (RuntimeCommandQueues.pushDevice (.rawEndpointIn report))
  else
    match standard with
    | none => pure ()
    | some frame => processRealtimeFrameInPlace .dual frame

/-- Processes a message on the owner itself.  A failing message leaves what
it had reached. -/
def processMessageInPlace (message : RuntimeInputMessage build) :
    M capacities Unit := do
  modify fun owner => { owner with commands := .empty }
  match build, message with
  | _, .usbEndpointIn deviceId report standard =>
      processEndpointInPlace deviceId report standard
  | build, .bridgeEvent (.inputFrame frame) =>
      processRealtimeFrameInPlace build frame
  | build, message => handleAndDispatch build message

/-- `rollback_runtime` to a checkpoint. -/
def rollbackRuntime (checkpoint : BridgeRuntime) : RuntimeOwner capacities :=
  fromRuntime checkpoint

def markHostDisconnectedForQuiesce (owner : RuntimeOwner capacities)
    (hostId : HostId) : RuntimeOwner capacities :=
  { owner with runtime := { owner.runtime with
      bridge := owner.runtime.bridge.markHostDisconnectedForQuiesce hostId } }

/-- The capture has room for every key, so the error of the source does not
occur. -/
def prepareForQuiesce (owner : RuntimeOwner capacities) :
    RuntimeOwner capacities :=
  { owner with runtime := { owner.runtime with
      bridge := match owner.runtime.bridge.captureSuppression with
        | .ok bridge => bridge
        | .error _ => owner.runtime.bridge } }

def observeTransportMetrics (owner : RuntimeOwner capacities)
    (metrics : RuntimeTransportMetrics) : RuntimeOwner capacities :=
  { owner with runtime := { owner.runtime with
      counters := owner.runtime.counters.observe metrics } }

end RuntimeOwner

end HidShift
