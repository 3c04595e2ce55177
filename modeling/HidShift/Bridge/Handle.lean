import HidShift.Bridge.State

/-! The event handlers of the bridge (`bridge/mod.rs`).  A handler updates the
bridge and the action vector in place; `handleEvent` runs one on copies. -/

namespace HidShift

open Lib

structure BridgeWork (actions : Nat) where
  bridge : BridgeState
  out : BoundedVec BridgeAction actions

abbrev BridgeM (actions : Nat) := InPlace BridgeError (BridgeWork actions)

variable {actions : Nat}

def pushAction (action : BridgeAction) : BridgeM actions Unit := do
  let work ← get
  match work.out.push? action with
  | some out => set { work with out := out }
  | none => throw .actionCapacity

def pushActions (list : List BridgeAction) : BridgeM actions Unit :=
  match list with
  | [] => pure ()
  | action :: rest => do
      pushAction action
      pushActions rest

def modifyBridge (update : BridgeState → BridgeState) :
    BridgeM actions Unit :=
  modify fun work => { work with bridge := update work.bridge }

def pushFrom (emit : BridgeState → List BridgeAction) :
    BridgeM actions Unit := do
  pushActions (emit (← get).bridge)

def pushStatus : BridgeM actions Unit :=
  pushFrom fun bridge => [.statusChanged bridge.status]

/-- `self.state.hosts.operation(..)?` -/
def updateHosts {α : Type}
    (operation : BleHostStateMachine →
      Except HostStateError (BleHostStateMachine × α)) :
    BridgeM actions α := do
  let (hosts, value) ←
    InPlace.lift .hostState (operation (← get).bridge.hosts)
  modifyBridge fun bridge => { bridge with hosts := hosts }
  return value

def refreshAvailability : Build → BridgeM actions Unit
  | .dual => modifyBridge .refreshSelectedTargetAvailability
  | .single => pure ()

def capture : BridgeM actions Unit := do
  let bridge ← InPlace.lift .input (← get).bridge.captureSuppression
  modifyBridge fun _ => bridge

def keyboardContainsRelease (previous current : PhysicalKeyboardState) :
    Bool :=
  previous.keys.toList.any (· ∉ current.keys.toList) ||
    previous.modifiers &&& ~~~current.modifiers != 0

namespace BridgeState

def keyboardReports (build : Build) (bridge : BridgeState)
    (keyboard : PhysicalKeyboardState) (suppression : KeyboardSuppression) :
    List BridgeAction :=
  match bridge.readyActiveTarget build .keyboard with
  | some target =>
      [.notify target
        (.keyboard
          (Keyboard6KroReport.fromPhysicalState keyboard suppression).report)
        (if keyboardContainsRelease bridge.input.keyboard keyboard then
          .inputRelease
        else
          .input)]
  | none => []

def mouseReports (build : Build) (bridge : BridgeState)
    (mouse : PhysicalMouseState) (suppression : MouseButtons)
    (movement : MouseMovement) : List BridgeAction :=
  match bridge.readyActiveTarget build .mouse with
  | some target =>
      let releasedButtons :=
        bridge.input.mouse.buttons.bits &&& ~~~mouse.buttons.bits != 0
      [.notify target
        (.mouse (.fromFrame (mouse.buttons.without suppression) movement))
        (if releasedButtons ∨ bridge.input.mouse.buttons ≠ mouse.buttons then
          .inputEdge
        else
          .input)]
  | none => []

def visibleConsumer (consumer suppression : ConsumerState) :
    Option ConsumerUsage :=
  if consumer.active = suppression.active then none else consumer.active

def consumerReport : Option ConsumerUsage → ConsumerReport
  | some usage => .fromUsage usage
  | none => .release

def consumerReports (build : Build) (bridge : BridgeState)
    (consumer suppression : ConsumerState) : List BridgeAction :=
  match bridge.readyActiveTarget build .consumer with
  | some target =>
      [.notify target
        (.consumer (consumerReport (visibleConsumer consumer suppression)))
        (if bridge.input.consumer.active.isSome ∧
            consumer.active.isNone then
          .inputRelease
        else
          .input)]
  | none => []

/-- A suppressed usage that is no longer the current one is forgotten. -/
def pruneConsumer (consumer suppression : ConsumerState) : ConsumerState :=
  if consumer.active ≠ suppression.active then ⟨none⟩ else suppression

end BridgeState

/-- The locals of `handle_standard_input_frame`: what the frame will leave in
the bridge once it is known to succeed. -/
structure NextInput (actions : Nat) where
  input : PhysicalInputState
  suppression : SuppressionState
  stats : BridgeStats
  out : BoundedVec BridgeAction actions

def NextInput.push (next : NextInput actions) (list : List BridgeAction) :
    Except BridgeError (NextInput actions) :=
  match next.out.extend? list with
  | some out => .ok { next with out := out }
  | none => .error .actionCapacity

/-- A part that the frame does not carry is left alone. -/
def NextInput.withPart {α : Type} (next : NextInput actions) (part : Option α)
    (update : α → NextInput actions → Except BridgeError (NextInput actions)) :
    Except BridgeError (NextInput actions) :=
  match part with
  | some value => update value next
  | none => .ok next

def Except.mapInputError {α : Type} :
    Except InputError α → Except BridgeError α
  | .ok value => .ok value
  | .error error => .error (.input error)

namespace BridgeState

def frameKeyboard (build : Build) (bridge : BridgeState)
    (aggregate : PhysicalInputState) (next : NextInput actions) :
    Except BridgeError (NextInput actions) := do
  let (keyboard, suppression) ← Except.mapInputError
    (bridge.input.keyboard.applyState aggregate.keyboard
      bridge.suppression.keyboard)
  let (suppression, suppressed) ← Except.mapInputError
    (suppression.suppressVisibleAfter keyboard keyboard6KroKeyCapacity)
  let truncated := if suppressed ≠ 0 then
      saturatingSucc next.stats.keyboardReportsTruncated
    else
      next.stats.keyboardReportsTruncated
  let dropped := if bridge.readyActiveTarget build .keyboard = none then
      saturatingSucc next.stats.inputReportsDroppedNoReadyTarget
    else
      next.stats.inputReportsDroppedNoReadyTarget
  let next ← next.push (bridge.keyboardReports build keyboard suppression)
  return { next with
    input := { next.input with keyboard := keyboard }
    suppression := { next.suppression with keyboard := suppression }
    stats := { next.stats with
      keyboardReportsTruncated := truncated
      inputReportsDroppedNoReadyTarget := dropped } }

def frameMouse (build : Build) (bridge : BridgeState)
    (aggregate : PhysicalInputState) (mouse : MouseFrame)
    (next : NextInput actions) : Except BridgeError (NextInput actions) := do
  let suppression :=
    bridge.suppression.mouseButtons.intersection aggregate.mouse.buttons
  let dropped := if bridge.readyActiveTarget build .mouse = none ∧
        mouse.movement ≠ .neutral then
      saturatingSucc next.stats.mouseMovementsDropped
    else
      next.stats.mouseMovementsDropped
  let next ← next.push
    (bridge.mouseReports build aggregate.mouse suppression mouse.movement)
  return { next with
    input := { next.input with mouse := aggregate.mouse }
    suppression := { next.suppression with mouseButtons := suppression }
    stats := { next.stats with mouseMovementsDropped := dropped } }

def frameConsumer (build : Build) (bridge : BridgeState)
    (aggregate : PhysicalInputState) (next : NextInput actions) :
    Except BridgeError (NextInput actions) := do
  let suppression :=
    pruneConsumer aggregate.consumer bridge.suppression.consumer
  let next ← next.push
    (bridge.consumerReports build aggregate.consumer suppression)
  return { next with
    input := { next.input with consumer := aggregate.consumer }
    suppression := { next.suppression with consumer := suppression } }

def frameInput (build : Build) (bridge : BridgeState)
    (aggregate : PhysicalInputState) (frame : StandardInputFrame)
    (out : BoundedVec BridgeAction actions) :
    Except BridgeError (NextInput actions) := do
  let next : NextInput actions :=
    ⟨bridge.input, bridge.suppression, bridge.stats, out⟩
  let next ← next.withPart frame.keyboard fun _ =>
    bridge.frameKeyboard build aggregate
  let next ← next.withPart frame.mouse fun mouse =>
    bridge.frameMouse build aggregate mouse
  next.withPart frame.consumer fun _ =>
    bridge.frameConsumer build aggregate

end BridgeState

def handleStandardInputFrame (build : Build) (frame : StandardInputFrame) :
    BridgeM actions Unit := do
  let work ← get
  let prepared ← InPlace.lift .input
    (work.bridge.inputDevices.prepareFrame frame)
  let aggregate := prepared.aggregateOver work.bridge.inputDevices
  let next ← InPlace.lift id
    (work.bridge.frameInput build aggregate frame work.out)
  set ({
    bridge := { work.bridge with
      inputDevices := work.bridge.inputDevices.commitFrame prepared
      input := next.input
      suppression := next.suppression
      stats := next.stats }
    out := next.out } : BridgeWork actions)

def handleInputFrame (build : Build) : InputFrame → BridgeM actions Unit
  | .vendor => modifyBridge fun bridge =>
      let ignored := saturatingSucc bridge.stats.vendorFramesIgnored
      { bridge with
        stats := { bridge.stats with vendorFramesIgnored := ignored } }
  | .standard frame => handleStandardInputFrame build frame

/-- The reports that release the active target, when there is a reason to
send them. -/
def BridgeState.releaseActive (bridge : BridgeState)
    (active : Option OutputTarget) (releasePrevious : Option NotifyReason) :
    List BridgeAction :=
  match active, releasePrevious with
  | some active, some reason => bridge.releaseTarget active reason
  | _, _ => []

def transitionBleTarget (target : HostId)
    (releasePrevious : Option NotifyReason) : BridgeM actions Bool := do
  let bridge := (← get).bridge
  if bridge.hosts.activeTarget = some target then
    return false
  else
    pushActions (bridge.releaseActive (bridge.hosts.activeTarget.map .ble)
      releasePrevious)
    capture
    updateHosts fun hosts => (·, ()) <$> hosts.setActiveTarget target
    pushAction (.activateInput target)
    pushFrom (·.activeHostLeds .single)
    pushAction .persistProfiles
    return true

/-- `select` reports a bad target as an error of the bridge. -/
def selectTarget (target : OutputTarget) : BridgeM actions UInt32 := do
  let (outputTarget, operationId) ← InPlace.lift
    (fun _ => .invalidOutputTarget) ((← get).bridge.outputTarget.select target)
  modifyBridge fun bridge => { bridge with outputTarget := outputTarget }
  return operationId

/-- The neutral reports and LEDs a wired computer gets when it is ready. -/
def BridgeState.wiredReset (bridge : BridgeState)
    (availability : OutputTargetAvailability) : List BridgeAction :=
  if availability = .ready then
    neutralReports .wired .safetyRelease ++
      bridge.usbKeyboardLeds bridge.wiredKeyboardLeds
  else
    []

def activateTarget (operationId : UInt32) :
    OutputTarget → BridgeM actions Unit
  | .wired => do
      modifyBridge fun bridge =>
        { bridge with hosts := bridge.hosts.clearActiveTarget }
      pushAction (.activateWired operationId)
      modifyBridge fun bridge => { bridge with
        outputTarget :=
          bridge.outputTarget.setAvailability bridge.wiredAvailability }
      pushFrom fun bridge => bridge.wiredReset bridge.wiredAvailability
  | .ble hostId => do
      updateHosts fun hosts => (·, ()) <$> hosts.setActiveTarget hostId
      pushAction (.ensureFallback operationId)
      pushAction (.activateInput hostId)
      pushFrom (·.activeHostLeds .dual)
      refreshAvailability .dual

def transitionOutputTarget (target : OutputTarget)
    (releasePrevious : Option NotifyReason) : BridgeM actions Unit := do
  let _ ← InPlace.lift (fun _ => .invalidOutputTarget) target.validate
  let bridge := (← get).bridge
  if bridge.outputTarget.selected = target then
    pushStatus
  else
    pushActions (bridge.releaseActive bridge.outputTarget.active
      releasePrevious)
    capture
    let operationId ← selectTarget target
    activateTarget operationId target
    pushAction .persistProfiles
    pushStatus

def selectOutputTarget (target : OutputTarget) : BridgeM actions Unit :=
  transitionOutputTarget target (some .targetSwitchRelease)

def switchTarget (build : Build) (target : HostId) :
    BridgeM actions Unit :=
  match build with
  | .dual => selectOutputTarget (.ble target)
  | .single => do
      let _ ← transitionBleTarget target (some .targetSwitchRelease)
      pushStatus

def wiredAvailabilityChanged (availability : OutputTargetAvailability) :
    BridgeM actions Unit := do
  modifyBridge fun bridge =>
    { bridge with wiredAvailability := availability }
  InPlace.when ((← get).bridge.outputTarget.selected = .wired) do
    modifyBridge fun bridge => { bridge with
      outputTarget := bridge.outputTarget.setAvailability availability }
    pushFrom (·.wiredReset availability)
  pushStatus

/-- The input of a host that disconnected goes to the next ready one. -/
def fallBack (build : Build) (shouldFallback : Bool) (hostId : HostId) :
    BridgeM actions Unit := do
  let bridge := (← get).bridge
  match build, shouldFallback,
      bridge.hosts.nextReadyTargetAfter (some hostId) .keyboard,
      bridge.nextReadyOutputTarget with
  | .single, true, some target, _ => do
      let _ ← transitionBleTarget target none
      pushStatus
  | .dual, true, _, some target => transitionOutputTarget target none
  | _, _, _, _ => pushStatus

def hostDisconnected (build : Build) (hostId : HostId) :
    BridgeM actions Unit := do
  let bridge := (← get).bridge
  let shouldFallback : Bool := match build with
    | .single => bridge.hosts.activeTarget = some hostId ∧
        bridge.canSend hostId .keyboard
    | .dual => bridge.outputTarget.active = some (.ble hostId)
  modifyBridge fun bridge =>
    { bridge with hosts := bridge.hosts.onDisconnected hostId }
  refreshAvailability build
  fallBack build shouldFallback hostId

def enterPairingMode (hostId : HostId) : BridgeM actions Unit := do
  let previous := (← get).bridge.pairableHost
  modifyBridge fun bridge => { bridge with pairableHost := some hostId }
  pushActions ((previous.filter (· ≠ hostId)).toList.map .rejectPairing)
  pushAction (.allowPairing hostId)
  pushStatus

/-- Withdraws a pairing permission from the host that holds it. -/
def withdrawPairing (hostId : HostId) : BridgeM actions Unit := do
  InPlace.when ((← get).bridge.pairableHost = some hostId) do
    modifyBridge fun bridge => { bridge with pairableHost := none }
    pushAction (.rejectPairing hostId)

def expirePairingMode (hostId : HostId) : BridgeM actions Unit := do
  InPlace.when ((← get).bridge.pairableHost = some hostId) do
    withdrawPairing hostId
    pushStatus

def hostSecurityChanged (build : Build) (hostId : HostId)
    (encrypted bonded : Bool) (bond : Option StoredBond) :
    BridgeM actions Unit := do
  let persist ← updateHosts (·.onSecurityChanged hostId encrypted bonded bond)
  InPlace.when persist (pushAction .persistProfiles)
  InPlace.when bonded (withdrawPairing hostId)
  refreshAvailability build
  pushStatus

def cccdChanged (build : Build) (hostId : HostId) (report : ReportKind)
    (enabled : Bool) : BridgeM actions Unit := do
  let persist ← updateHosts (·.onCccdChanged hostId report enabled)
  InPlace.when persist (pushAction .persistProfiles)
  refreshAvailability build
  pushStatus

def setHostName (hostId : HostId) (name : FixedName) :
    BridgeM actions Unit := do
  let persist ← updateHosts (·.setName hostId name)
  InPlace.when persist (pushAction .persistProfiles)
  pushStatus

/-- The effect of `clear_host` on the host table.  In the dual-board build the
wired computer also forgets the host as its own. -/
def BridgeState.forgetHost (build : Build) (bridge : BridgeState)
    (hostId : HostId) : BridgeState :=
  { bridge with
    hosts := (bridge.hosts.clearHost hostId).1
    wiredBleHost :=
      if build = .dual ∧ (bridge.hosts.clearHost hostId).2 ∧
          bridge.wiredBleHost = some hostId then
        none
      else
        bridge.wiredBleHost }

def clearHost (build : Build) (hostId : HostId) : BridgeM actions Unit := do
  let bridge := (← get).bridge
  let wasActive : Bool := bridge.hosts.activeTarget = some hostId
  let bond := (bridge.hosts.host hostId).bind (·.bond)
  InPlace.when wasActive
    (pushActions (bridge.releaseReports hostId .safetyRelease))
  withdrawPairing hostId
  modifyBridge (·.forgetHost build hostId)
  InPlace.when (bridge.hosts.clearHost hostId).2 do
    pushActions [.clearBond hostId bond, .persistProfiles]
    InPlace.when wasActive (pushFrom (·.usbKeyboardLeds .empty))
    pushStatus

namespace BridgeState

def pruneKeyboard (bridge : BridgeState) : Except InputError BridgeState := do
  let frame ← bridge.input.keyboard.toFrame
  let (keyboard, suppression) ← bridge.input.keyboard.applyFrame frame
    bridge.suppression.keyboard
  return { bridge with
    input := { bridge.input with keyboard := keyboard }
    suppression := { bridge.suppression with keyboard := suppression } }

def detachKeyboard (bridge : BridgeState) (hostId : HostId)
    (previousInput : PhysicalInputState) (reason : NotifyReason) :
    List BridgeAction :=
  notifyIf (bridge.canSend hostId .keyboard &&
      previousInput.keyboard != bridge.input.keyboard) (.ble hostId)
    (.keyboard (Keyboard6KroReport.fromVisibleState
      (bridge.input.keyboard.visibleAgainst
        bridge.suppression.keyboard)).report) reason

def pruneMouseButtons (bridge : BridgeState) : BridgeState :=
  { bridge with
    suppression := { bridge.suppression with
      mouseButtons := bridge.suppression.mouseButtons.intersection
        bridge.input.mouse.buttons } }

def detachMouse (bridge : BridgeState) (hostId : HostId)
    (previousInput : PhysicalInputState) (reason : NotifyReason) :
    List BridgeAction :=
  notifyIf (bridge.canSend hostId .mouse &&
      previousInput.mouse.buttons != bridge.input.mouse.buttons)
    (.ble hostId)
    (.mouse (.fromFrame (bridge.input.mouse.buttons.without
      bridge.suppression.mouseButtons) .neutral)) reason

def pruneConsumerUsage (bridge : BridgeState) : BridgeState :=
  { bridge with
    suppression := { bridge.suppression with
      consumer := pruneConsumer bridge.input.consumer
        bridge.suppression.consumer } }

/-- The consumer report does not look at the suppression. -/
def detachConsumer (bridge : BridgeState) (hostId : HostId)
    (previousInput : PhysicalInputState) (reason : NotifyReason) :
    List BridgeAction :=
  notifyIf (bridge.canSend hostId .consumer &&
      previousInput.consumer.active != bridge.input.consumer.active)
    (.ble hostId)
    (.consumer (consumerReport bridge.input.consumer.active)) reason

end BridgeState

def emitDetachUpdates (hostId : HostId) (previousInput : PhysicalInputState)
    (reason : NotifyReason) : BridgeM actions Unit := do
  let bridge ← InPlace.lift .input (← get).bridge.pruneKeyboard
  modifyBridge fun _ => bridge
  pushFrom (·.detachKeyboard hostId previousInput reason)
  modifyBridge .pruneMouseButtons
  pushFrom (·.detachMouse hostId previousInput reason)
  modifyBridge .pruneConsumerUsage
  pushFrom (·.detachConsumer hostId previousInput reason)

/-- The tail shared by the removal of an interface and the reset of a device:
the input is what the remaining interfaces hold. -/
def adoptAggregate (previousInput : PhysicalInputState) :
    BridgeM actions Unit := do
  modifyBridge fun bridge =>
    { bridge with input := bridge.inputDevices.aggregate }
  match (← get).bridge.hosts.activeTarget with
  | some hostId =>
      emitDetachUpdates hostId previousInput .usbDeviceRemovedRelease
  | none => pure ()

def usbDeviceRemoved (interfaceId : InterfaceId) : BridgeM actions Unit := do
  let previousInput := (← get).bridge.input
  modifyBridge (·.removeUsbHidInterface interfaceId)
  modifyBridge fun bridge => { bridge with
    inputDevices := (bridge.inputDevices.removeInterface interfaceId).1 }
  adoptAggregate previousInput
  pushStatus

def resetInputDevice (deviceId : DeviceId) : BridgeM actions Unit := do
  let bridge := (← get).bridge
  let (inputDevices, removed) := bridge.inputDevices.removeDevice deviceId
  modifyBridge fun bridge => { bridge with inputDevices := inputDevices }
  InPlace.when removed (adoptAggregate bridge.input)

def handleEventInPlace (build : Build) :
    BridgeEvent build → BridgeM actions Unit
  | .inputFrame frame => handleInputFrame build frame
  | .hostConnected hostId => do
      updateHosts fun hosts => (·, ()) <$> hosts.onConnected hostId
      refreshAvailability build
      pushStatus
  | .hostDisconnected hostId => hostDisconnected build hostId
  | .hostSecurityChanged hostId encrypted bonded bond =>
      hostSecurityChanged build hostId encrypted bonded bond
  | .cccdChanged hostId report enabled =>
      cccdChanged build hostId report enabled
  | .usbHidInterfaceConnected interfaceId deviceId keyboardLedSink => do
      let bridge ← InPlace.lift id ((← get).bridge.upsertUsbHidInterface
        ⟨interfaceId, deviceId, keyboardLedSink⟩)
      modifyBridge fun _ => bridge
      pushFrom (·.activeHostLeds build)
  | .hostKeyboardLedChanged hostId leds => do
      updateHosts fun hosts => (·, ()) <$> hosts.onKeyboardLedChanged hostId
        leds
      InPlace.when ((← get).bridge.hosts.activeTarget = some hostId)
        (pushFrom (·.usbKeyboardLeds leds))
  | .wiredKeyboardLedChanged leds => do
      modifyBridge fun bridge => { bridge with wiredKeyboardLeds := leds }
      InPlace.when ((← get).bridge.outputTarget.selected = .wired)
        (pushFrom (·.usbKeyboardLeds leds))
  | .setHostName hostId name => setHostName hostId name
  | .enterPairingMode hostId => enterPairingMode hostId
  | .pairingModeExpired hostId => expirePairingMode hostId
  | .clearHost hostId => clearHost build hostId
  | .switchTarget target => switchTarget build target
  | .selectOutputTarget target => selectOutputTarget target
  | .wiredAvailabilityChanged availability =>
      wiredAvailabilityChanged availability
  | .usbDeviceRemoved interfaceId => usbDeviceRemoved interfaceId
  | .resetInputDevice deviceId => resetInputDevice deviceId

/-- `Bridge::handle_event` works on copies: a failing event changes neither
the bridge nor the caller's vector. -/
def handleEvent (build : Build) (actions : Nat) (bridge : BridgeState)
    (event : BridgeEvent build) :
    Except BridgeError (BridgeState × BoundedVec BridgeAction actions) :=
  match (handleEventInPlace build event).run ⟨bridge, .empty⟩ with
  | .ok () work => .ok (work.bridge, work.out)
  | .error error _ => .error error

def BridgeState.beginWiredPresentationTransition (bridge : BridgeState) :
    Except InputError (BridgeState × UInt32) := do
  let captured ← bridge.captureSuppression
  let (outputTarget, operationId) := captured.outputTarget.beginTransition
  return ({ captured with
    wiredAvailability := .connectedNotReady
    outputTarget := outputTarget }, operationId)

end HidShift
