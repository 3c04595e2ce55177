import HidShift.Runtime.Management

/-! The input handlers of the runtime (`runtime.rs`).  A handler updates the
runtime and the command vector in place; `handleInput` runs one on copies. -/

namespace HidShift

open Lib

variable {capacity : Nat}

section

variable (build : Build) (actions : Nat)

def requestTargetSwitch (target : HostId) (nowMs : UInt64) :
    RuntimeM capacity Unit := do
  clearCommands
  requestTargetSwitchAppend .single actions target nowMs

def selectTargetAppend (target : OutputTarget) : RuntimeM capacity Unit := do
  modifyRuntime fun runtime => { runtime with pendingTargetSwitch := none }
  handleBridgeEventAppend .dual actions (.selectOutputTarget target)

def handleShortcutTargetSwitch (nowMs : UInt64) : RuntimeM capacity Unit := do
  let bridge := (← readRuntime).bridge
  match build, bridge.nextReadyOutputTarget,
      bridge.hosts.nextConnectedTarget with
  | .dual, some target, _ => selectTargetAppend actions target
  | .single, _, some target => requestTargetSwitch actions target nowMs
  | _, _, _ => pure ()

def nextTargetIntent (nowMs : UInt64) : RuntimeM capacity Unit := do
  let bridge := (← readRuntime).bridge
  match build, bridge.nextReadyOutputTarget,
      bridge.hosts.nextConnectedTarget with
  | .dual, some target, _ => do
      clearCommands
      selectTargetAppend actions target
  | .single, _, some target => requestTargetSwitch actions target nowMs
  | _, _, _ => clearCommands

def enterPairingIntent (nowMs : UInt64) : RuntimeM capacity Unit := do
  match (← readRuntime).bridge.hosts.pairingCandidate with
  | none => clearCommands
  | some hostId =>
      modifyRuntime fun runtime => { runtime with
        pairingMode :=
          some ⟨hostId, saturatingAddMs nowMs pairingModeTimeoutMs⟩ }
      handleBridgeEvent build actions (.enterPairingMode hostId)

def clearActiveHostIntent : RuntimeM capacity Unit := do
  match (← readRuntime).bridge.hosts.activeTarget with
  | none => clearCommands
  | some hostId =>
      InPlace.when ((← readRuntime).pairingFor hostId)
        (modifyRuntime fun runtime => { runtime with pairingMode := none })
      handleBridgeEvent build actions (.clearHost hostId)

def BridgeRuntime.configuredAction (runtime : BridgeRuntime) :
    ButtonIntent → UInt8
  | .nextConnectedTarget => runtime.globalSettings.buttonShortAction
  | .enterPairingMode => runtime.globalSettings.buttonLongAction
  | .clearActiveHostBond => runtime.globalSettings.buttonVeryLongAction

def handleButtonIntent (intent : ButtonIntent) (nowMs : UInt64) :
    RuntimeM capacity Unit := do
  match ((← readRuntime).configuredAction intent).toNat with
  | 1 => nextTargetIntent build actions nowMs
  | 2 => enterPairingIntent build actions nowMs
  | 3 => clearActiveHostIntent build actions
  | _ => clearCommands

def tickTargetSwitch (nowMs : UInt64) : RuntimeM capacity Unit := do
  match (← readRuntime).pendingTargetSwitch with
  | none => pure ()
  | some pending =>
      InPlace.when (pending.deadlineMs ≤ nowMs) do
        modifyRuntime fun runtime =>
          { runtime with pendingTargetSwitch := none }
        handleBridgeEventAppend build actions (.switchTarget pending.target)

def tickPairingMode (nowMs : UInt64) : RuntimeM capacity Unit := do
  match (← readRuntime).pairingMode with
  | none => pure ()
  | some pairing =>
      InPlace.when (pairing.deadlineMs ≤ nowMs) do
        modifyRuntime fun runtime => { runtime with pairingMode := none }
        handleBridgeEventAppend build actions
          (.pairingModeExpired pairing.hostId)

def handleTick (nowMs : UInt64) : RuntimeM capacity Unit := do
  clearCommands
  tickTargetSwitch build actions nowMs
  tickPairingMode build actions nowMs

end

section

variable (build : Build) (actions : Nat)

/-- An input frame first goes through the profile of its device. -/
def transformEvent : BridgeEvent build →
    RuntimeM capacity (BridgeEvent build × Bool)
  | .inputFrame frame => do
      let (runtime, frame, triggered) :=
        (← readRuntime).transformInputFrame frame
      modifyRuntime fun _ => runtime
      return (.inputFrame frame, triggered)
  | event => return (event, false)

/-- The wired computer is not ready while its presentation changes. -/
def gateWiredReady {build : Build} (pending : Bool) :
    BridgeEvent build → BridgeEvent build
  | .wiredAvailabilityChanged .ready => .wiredAvailabilityChanged
      (if pending then .connectedNotReady else .ready)
  | event => event

def handleBridgeEventInput (event : BridgeEvent build) :
    RuntimeM capacity Unit := do
  let (event, shortcutTriggered) ← transformEvent build event
  handleBridgeEvent build actions
    (gateWiredReady (← readRuntime).presentationTransitionPending event)
  InPlace.when shortcutTriggered do
    handleShortcutTargetSwitch build actions (← readRuntime).nowMs

def handleBleHostEvent (events : Nat) (hostId : HostId)
    (event : BleHostAdapterEvent) : RuntimeM capacity Unit := do
  clearCommands
  let list ← InPlace.lift .bleHostAdapter
    (bridgeEventsFromBleHostEvent events hostId event)
  handleBridgeEventsAppend build actions list

end

section

variable (build : Build) (actions : Nat)

namespace BridgeRuntime

def freshInterface (interfaceId : InterfaceId) (deviceId : DeviceId)
    (ledOutput : Option KeyboardLedOutputReport) :
    UsbHidInterfaceRuntimeState where
  interfaceId := interfaceId
  deviceId := deviceId
  ledOutput := ledOutput
  vendorId := 0
  productId := 0
  name := .empty
  flags := if ledOutput.isSome then 0x02 else 0
  inputProfileId := none

/-- A known interface is replaced, a new one takes the first free slot. -/
def upsertUsbHidInterface (runtime : BridgeRuntime)
    (interface : UsbHidInterfaceRuntimeState) :
    Except RuntimeError BridgeRuntime :=
  match (SlotTable.slotIndex? UsbHidInterfaceRuntimeState.interfaceId
      runtime.usbInterfaces interface.interfaceId).or
        (SlotTable.freeIndex? runtime.usbInterfaces) with
  | some index => .ok { runtime with
      usbInterfaces := runtime.usbInterfaces.set index (some interface) }
  | none => .error .usbHidInterfaceCapacity

def dropUsbHidInterface (runtime : BridgeRuntime)
    (interfaceId : InterfaceId) : BridgeRuntime :=
  match SlotTable.slotIndex? UsbHidInterfaceRuntimeState.interfaceId
      runtime.usbInterfaces interfaceId with
  | some index => { runtime with
      usbInterfaces := runtime.usbInterfaces.set index none }
  | none => runtime

end BridgeRuntime

def reconcilePresentation : RuntimeM capacity Unit :=
  match build with
  | .single => pure ()
  | .dual => reconcileWiredPresentation

/-- The history gets its entry also when the bridge refuses the interface:
the source records it before it looks at the result. -/
def registerUsbHidInterface (interfaceId : InterfaceId) (deviceId : DeviceId)
    (ledOutput : Option KeyboardLedOutputReport) :
    RuntimeM capacity Unit := do
  let runtime ← readRuntime
  let firstInterfaceForDevice := (runtime.interfacesOf deviceId).isEmpty
  let next ← InPlace.lift id (runtime.upsertUsbHidInterface
    (BridgeRuntime.freshInterface interfaceId deviceId ledOutput))
  modifyRuntime fun _ => next
  let record : RuntimeM capacity Unit :=
    InPlace.when firstInterfaceForDevice
      (modifyRuntime (·.recordHistory 3 deviceId.val 0 0 0))
  try
    handleBridgeEvent build actions
      (.usbHidInterfaceConnected interfaceId deviceId ledOutput.isSome)
  catch error =>
    record
    throw error
  record
  InPlace.when firstInterfaceForDevice (reconcilePresentation build)

/-- The profile of a device that left, when no other interface uses it. -/
def disconnectProfile (profileId : InputProfileId) :
    RuntimeM capacity Unit := do
  InPlace.when ((← readRuntime).usbInterfaces.reduceOption.all
      (·.inputProfileId ≠ some profileId)) do
    modifyRuntime fun runtime => { runtime with
      inputProfiles := runtime.inputProfiles.disconnect profileId }
    InPlace.when (← readRuntime).storageHealth.allowsPersistentMutation
      (pushStorageSnapshot build .lazy)

def forgetSource (deviceId : DeviceId) : RuntimeM capacity Unit :=
  match build with
  | .single => pure ()
  | .dual => modifyRuntime fun runtime => { runtime with
      mirrorCandidates := runtime.mirrorCandidates.clearSource deviceId }

/-- The tail of a removal, for a device that lost its last interface. -/
def finishDeviceRemoval (removed : UsbHidInterfaceRuntimeState) :
    RuntimeM capacity Unit := do
  InPlace.when ((← readRuntime).interfacesOf removed.deviceId).isEmpty do
    match removed.inputProfileId with
    | some profileId => disconnectProfile build profileId
    | none => pure ()
    modifyRuntime (·.recordHistory 4 removed.deviceId.val 0 0 0)
    forgetSource build removed.deviceId
    reconcilePresentation build

def unregisterUsbDevice (interfaceId : InterfaceId) :
    RuntimeM capacity Unit := do
  let removed := (← readRuntime).usbHidInterface interfaceId
  modifyRuntime (·.dropUsbHidInterface interfaceId)
  handleBridgeEvent build actions (.usbDeviceRemoved interfaceId)
  match removed with
  | some removed => finishDeviceRemoval build removed
  | none => pure ()

def BridgeRuntime.describeDevice (runtime : BridgeRuntime)
    (deviceId : DeviceId) (identity : InputIdentity) (name : FixedName)
    (flags : UInt8) (profileId : InputProfileId) : BridgeRuntime :=
  let describe := fun interface : UsbHidInterfaceRuntimeState =>
    if interface.deviceId = deviceId then
      { interface with
        vendorId := identity.vendorId
        productId := identity.productId
        name := name
        flags := interface.flags ||| flags
        inputProfileId := some profileId }
    else
      interface
  { runtime with
    usbInterfaces := runtime.usbInterfaces.map (·.map describe)
    history := updateNewest runtime.history fun last =>
      if last.kind = 3 ∧ last.subject = deviceId.val then
        { last with
          vendorId := identity.vendorId
          productId := identity.productId }
      else
        last }

def usbDeviceMetadataUpdated (deviceId : DeviceId) (identity : InputIdentity)
    (name : FixedName) (flags : UInt8) : RuntimeM capacity Unit := do
  clearCommands
  let runtime ← readRuntime
  let isNewProfile := runtime.inputProfiles.profiles.toList.all
    (·.identity ≠ identity)
  let (inputProfiles, observed) := runtime.inputProfiles.observe identity
  modifyRuntime fun runtime => { runtime with inputProfiles := inputProfiles }
  let profileId ← InPlace.lift (fun _ => .inputProfileCapacity) observed
  modifyRuntime (·.describeDevice deviceId identity name flags profileId)
  InPlace.when (isNewProfile ∧
      (← readRuntime).storageHealth.allowsPersistentMutation)
    (pushStorageSnapshot build .lazy)

end

def saturatingSuccUInt16 (counter : UInt16) : UInt16 :=
  if counter = 0xffff then counter else counter + 1

def saturatingSuccUInt8 (counter : UInt8) : UInt8 :=
  if counter = 0xff then counter else counter + 1

namespace BridgeRuntime

/-- A disconnect just recorded gets its reason, else it is recorded now. -/
def recordDisconnectReason (runtime : BridgeRuntime) (hostId : HostId)
    (reason : UInt8) : BridgeRuntime :=
  let recent := runtime.history.toList.getLast?.any fun last =>
    last.kind = 2 ∧ last.subject = hostId.val
  let recorded := if recent then
      { runtime with history := updateNewest runtime.history fun last =>
          { last with detail := reason } }
    else
      runtime.recordHistory 2 hostId.val reason 0 0
  { recorded with hostLastDisconnectReason :=
      setHostValue recorded.hostLastDisconnectReason hostId reason }

def countNotifyFailure (runtime : BridgeRuntime) : BridgeRuntime :=
  { runtime with diagnostics := { runtime.diagnostics with
      bleNotifyFailureCount :=
        saturatingSuccUInt16 runtime.diagnostics.bleNotifyFailureCount } }

def countNotifyTimeout (runtime : BridgeRuntime) : BridgeRuntime :=
  { runtime with counters := { runtime.counters with
      bleNotifyTimeouts :=
        saturatingSucc runtime.counters.bleNotifyTimeouts } }

def applyDiagnosticsEvent (runtime : BridgeRuntime) :
    RuntimeDiagnosticsEvent → BridgeRuntime
  | .resetReason reason => { runtime with
      diagnostics := { runtime.diagnostics with resetReason := reason } }
  | .brownout => { runtime with
      diagnostics := { runtime.diagnostics with
        brownoutCount :=
          saturatingSuccUInt16 runtime.diagnostics.brownoutCount } }
  | .bleDisconnected hostId reason =>
      ({ runtime with
        diagnostics := { runtime.diagnostics with
          bleDisconnectCount := saturatingSuccUInt16
            runtime.diagnostics.bleDisconnectCount } } :
        BridgeRuntime).recordDisconnectReason hostId reason
  | .bleNotifyFailed =>
      let counted := runtime.countNotifyFailure
      { counted with counters := { counted.counters with
          bleNotifyDropped :=
            saturatingSucc counted.counters.bleNotifyDropped } }
  | .bleNotifyTimedOut criticalRelease =>
      let counted := runtime.countNotifyFailure.countNotifyTimeout
      if criticalRelease then
        { counted with counters := { counted.counters with
            criticalReleaseFailures :=
              saturatingSucc counted.counters.criticalReleaseFailures } }
      else
        counted
  | .bleManagementNotifyTimedOut =>
      runtime.countNotifyFailure.countNotifyTimeout
  | .usbLedWriteTimedOut => { runtime with
      counters := { runtime.counters with
        usbLedWriteTimeouts :=
          saturatingSucc runtime.counters.usbLedWriteTimeouts } }
  | .usbError => { runtime with
      diagnostics := { runtime.diagnostics with
        usbErrorCount :=
          saturatingSuccUInt16 runtime.diagnostics.usbErrorCount } }
  | .flashWrite true => { runtime with
      diagnostics := { runtime.diagnostics with
        flashWriteCount :=
          saturatingSuccUInt8 runtime.diagnostics.flashWriteCount } }
  | .flashWrite false => { runtime with
      diagnostics := { runtime.diagnostics with
        flashFailureCount :=
          saturatingSuccUInt8 runtime.diagnostics.flashFailureCount } }

end BridgeRuntime

section

variable (actions : Nat)

def activateSelectedMirrorCandidate (candidate : MirrorCandidateId) :
    RuntimeM capacity Unit := do
  let runtime ← readRuntime
  InPlace.when (runtime.effectiveMirrorCandidate = some candidate ∧
      runtime.bridge.outputTarget.selected = .wired)
    (beginPresentationTransition (some candidate))

/-- Whether a new registration takes the slot of the selected candidate for
another device. -/
def BridgeRuntime.replacesSelected (runtime : BridgeRuntime)
    (candidate : MirrorCandidateId) (stableId : MirrorStableId) : Bool :=
  runtime.selectedMirrorCandidate = some candidate ∧
    runtime.mirrorStableId candidate ≠ some stableId

/-- After a candidate was registered: the presentations that follow. -/
def presentRegistered (candidate : MirrorCandidateId)
    (selectedCandidateReplaced : Bool) : RuntimeM capacity Unit := do
  activateSelectedMirrorCandidate candidate
  InPlace.when (selectedCandidateReplaced ∧
      (← readRuntime).bridge.outputTarget.selected = .wired)
    (beginPresentationTransition none)

def BridgeRuntime.pendingMatches (runtime : BridgeRuntime)
    (result : ProfileResult) : Bool :=
  runtime.pendingMirrorCandidate.any (·.profileHash = result.profileHash)

/-- A candidate out of range is dropped here without an error. -/
def deviceProfileResult (result : ProfileResult) :
    RuntimeM capacity Unit := do
  clearCommands
  modifyRuntime fun runtime => { runtime with lastProfileResult := some result }
  let runtime ← readRuntime
  InPlace.when (runtime.pendingMatches result) do
    modifyRuntime fun runtime => { runtime with pendingMirrorCandidate := none }
    match runtime.pendingMirrorCandidate, result.status.isStored with
    | some metadata, true =>
        modifyRuntime fun runtime => { runtime with
          mirrorCandidates := (runtime.mirrorCandidates.register
            metadata).getD runtime.mirrorCandidates }
        presentRegistered metadata.candidate
          (runtime.replacesSelected metadata.candidate metadata.stableId)
    | _, _ => pure ()

def mirrorEndpointOut (report : RawEndpointReport) :
    RuntimeM capacity Unit := do
  clearCommands
  modifyRuntime fun runtime =>
    { runtime with lastMirrorEndpointOut := some report }
  match (← readRuntime).activePhysicalMirrorSource with
  | some deviceId => pushCommand (.usbMirrorEndpointOut deviceId report)
  | none => pure ()

/-- The report of a mirrored device goes out raw, any other goes through the
bridge when it is standard. -/
def usbEndpointIn (deviceId : DeviceId) (report : RawEndpointReport)
    (standard : Option InputFrame) : RuntimeM capacity Unit := do
  clearCommands
  if (← readRuntime).activePhysicalMirrorSource = some deviceId then
    pushCommand (.deviceCommand (.rawEndpointIn report))
  else
    match standard with
    | some frame => handleBridgeEventInput .dual actions (.inputFrame frame)
    | none => pure ()

def mirrorControlRequest (request : MirrorControlRequest) :
    RuntimeM capacity Unit := do
  clearCommands
  modifyRuntime fun runtime =>
    { runtime with lastMirrorControlRequest := some request }
  match (← readRuntime).activePhysicalMirrorSource with
  | some deviceId => pushCommand (.usbMirrorControlRequest deviceId request)
  | none => pure ()

namespace BridgeRuntime

/-- The candidate the wired computer is expected to see, none for the
fallback. -/
def expectedTarget (runtime : BridgeRuntime) : Option MirrorCandidateId :=
  if runtime.presentationTransitionPending then
    runtime.transitionMirrorTarget
  else if runtime.bridge.outputTarget.selected = .wired then
    runtime.effectiveMirrorCandidate
  else
    none

def expectedProfileHash (runtime : BridgeRuntime) : Option UInt32 :=
  runtime.expectedTarget.bind runtime.mirrorProfileHash

def presentationMatches (runtime : BridgeRuntime) (state : UsbState) : Bool :=
  match runtime.expectedProfileHash with
  | some hash => !state.fallbackActive && state.activeProfileHash = hash
  | none => state.fallbackActive

end BridgeRuntime

def UsbState.available (state : UsbState) : Bool :=
  state.healthy && state.attached && state.configured

def deviceUnavailable (state : UsbState) : RuntimeM capacity Unit := do
  modifyRuntime fun runtime => { runtime with activeMirrorTarget := none }
  handleBridgeEventAppend .dual actions (.wiredAvailabilityChanged
    (if state.healthy && state.attached then .connectedNotReady
      else .unavailable))

def presentationReached : RuntimeM capacity Unit := do
  modifyRuntime fun runtime => { runtime with
    presentationTransitionPending := false
    transitionMirrorTarget := none
    activeMirrorTarget :=
      if runtime.bridge.outputTarget.selected = .wired then
        runtime.expectedTarget
      else
        none }
  handleBridgeEventAppend .dual actions (.wiredAvailabilityChanged .ready)

/-- The device presents something else: it is told what to present. -/
def presentationMissed : RuntimeM capacity Unit := do
  let expectedProfileHash := (← readRuntime).expectedProfileHash
  modifyRuntime fun runtime => { runtime with
    presentationTransitionPending := true
    transitionMirrorTarget := runtime.expectedTarget
    activeMirrorTarget := none }
  handleBridgeEventAppend .dual actions
    (.wiredAvailabilityChanged .connectedNotReady)
  let operationId :=
    (← readRuntime).bridge.outputTarget.transitionOperationId
  pushCommand (.deviceCommand
    (activatePresentation operationId expectedProfileHash))

def deviceUsbState (state : UsbState) : RuntimeM capacity Unit := do
  clearCommands
  if !state.available then
    deviceUnavailable actions state
  else if (← readRuntime).presentationMatches state then
    presentationReached actions
  else
    presentationMissed actions

def BridgeRuntime.profileStored (runtime : BridgeRuntime)
    (profileHash : UInt32) : Bool :=
  runtime.lastProfileResult.any fun result =>
    result.profileHash = profileHash ∧ result.status.isStored

def registerMirrorCandidate (metadata : MirrorCandidateMetadata) :
    RuntimeM capacity Unit := do
  let runtime ← readRuntime
  if runtime.profileStored metadata.profileHash then
    match runtime.mirrorCandidates.register metadata with
    | none => pure ()
    | some mirrorCandidates =>
        modifyRuntime fun runtime => { runtime with
          mirrorCandidates := mirrorCandidates
          pendingMirrorCandidate := none }
        presentRegistered metadata.candidate
          (runtime.replacesSelected metadata.candidate metadata.stableId)
  else
    modifyRuntime fun runtime =>
      { runtime with pendingMirrorCandidate := some metadata }

def clearMirrorCandidate (candidate : MirrorCandidateId) :
    RuntimeM capacity Unit := do
  let runtime ← readRuntime
  modifyRuntime fun runtime => { runtime with
    mirrorCandidates := (runtime.mirrorCandidates.clear candidate).getD
      runtime.mirrorCandidates
    pendingMirrorCandidate := none }
  InPlace.when (runtime.selectedMirrorCandidate = some candidate ∧
      runtime.bridge.outputTarget.selected = .wired)
    (beginPresentationTransition none)

def mirrorCandidateRegistered (candidate : MirrorCandidateId)
    (stableId : MirrorStableId) (profileHash : Option UInt32)
    (synthetic : Bool) (sourceDevice : Option DeviceId) :
    RuntimeM capacity Unit := do
  clearCommands
  match profileHash with
  | some profileHash =>
      registerMirrorCandidate
        ⟨candidate, stableId, profileHash, synthetic, sourceDevice⟩
  | none => clearMirrorCandidate candidate

def mirrorSourceDisconnected (deviceId : DeviceId) :
    RuntimeM capacity Unit := do
  clearCommands
  modifyRuntime fun runtime => { runtime with
    mirrorCandidates := runtime.mirrorCandidates.clearSource deviceId
    pendingMirrorCandidate := runtime.pendingMirrorCandidate.filter
      (·.sourceDevice ≠ some deviceId) }
  reconcileWiredPresentation

end

section

variable (build : Build)

def StorageState.bootHost (storage : StorageState) : Option HostId :=
  if storage.globalSettings.bootTarget ≠ 0 then
    let requested : HostId := ⟨storage.globalSettings.bootTarget⟩
    if storage.hosts.toList.any (·.hostId = requested) then some requested
    else none
  else if storage.globalSettings.restoreLastTarget then
    storage.lastActiveHost
  else
    none

/-- A table that cannot be restored keeps the hosts before the refused one. -/
def restoreBridge (storage : StorageState) : RuntimeM capacity Unit := do
  let bridge := (← readRuntime).bridge
  match bridge.restoreStorageState build storage with
  | .ok restored =>
      modifyRuntime fun runtime => { runtime with bridge := restored }
  | .error error =>
      modifyRuntime fun runtime => { runtime with
        bridge := { bridge with hosts := bridge.hosts.partlyRestored storage } }
      throw (.bridge error)

def BridgeRuntime.restoreMirrorTarget (runtime : BridgeRuntime)
    (storage : StorageState) : BridgeRuntime :=
  match build with
  | .single => runtime
  | .dual => { runtime with
      mirrorTarget := storage.presentation.mirrorTarget }

def restoreStorageState (storage : StorageState) : RuntimeM capacity Unit := do
  clearCommands
  restoreBridge build { storage with lastActiveHost := storage.bootHost }
  modifyRuntime fun runtime => { runtime.restoreMirrorTarget build storage with
    storageGeneration := storage.generation
    globalSettings := storage.globalSettings
    inputProfiles := storage.inputProfiles
    pairingMode := none }
  pushCommand (.applyEffect (.setLogLevel storage.globalSettings.logLevel))

def hostNameDiscovered (hostId : HostId) (name : FixedName) :
    RuntimeM capacity Unit := do
  clearCommands
  let (hosts, _) ← InPlace.lift (fun error => .bridge (.hostState error))
    ((← readRuntime).bridge.hosts.setDiscoveredName hostId name)
  modifyRuntime fun runtime => { runtime with
    bridge := { runtime.bridge with hosts := hosts } }

end

variable (build : Build) (actions events : Nat)

def BridgeRuntime.observeTick (runtime : BridgeRuntime) (nowMs : UInt64) :
    BridgeRuntime :=
  let ticked := { runtime with nowMs := nowMs }
  { ticked with diagnostics := { ticked.diagnostics with
      uptimeSeconds := ticked.nowSeconds } }

def tick (nowMs : UInt64) : RuntimeM capacity Unit := do
  modifyRuntime (·.observeTick nowMs)
  handleTick build actions nowMs

def answerWith (command : RuntimeCommand) : RuntimeM capacity Unit := do
  clearCommands
  pushCommand command

def updateQuietly (update : BridgeRuntime → BridgeRuntime) :
    RuntimeM capacity Unit := do
  clearCommands
  modifyRuntime update

def handleInputCoreInPlace (input : RuntimeInput build) :
    RuntimeM capacity Unit :=
  match build, input with
  | build, .bridgeEvent event => handleBridgeEventInput build actions event
  | build, .buttonIntent intent nowMs =>
      handleButtonIntent build actions intent nowMs
  | build, .managementRequest destination request nowMs =>
      handleManagementRequest build actions destination request nowMs
  | build, .tick nowMs => tick build actions nowMs
  | build, .bleHostEvent hostId event =>
      handleBleHostEvent build actions events hostId event
  | build, .usbHidInterfaceConnected interfaceId deviceId ledOutput =>
      registerUsbHidInterface build actions interfaceId deviceId ledOutput
  | build, .usbHidInterfaceDisconnected interfaceId =>
      unregisterUsbDevice build actions interfaceId
  | build, .usbDeviceMetadataUpdated deviceId identity name flags =>
      usbDeviceMetadataUpdated build deviceId identity name flags
  | _, .hostNameDiscovered hostId name => hostNameDiscovered hostId name
  | _, .diagnosticsEvent event =>
      updateQuietly (·.applyDiagnosticsEvent event)
  | _, .storageHealthChanged health =>
      updateQuietly fun runtime => { runtime with storageHealth := health }
  | .dual, .deviceCommandRequested command =>
      answerWith (.deviceCommand command)
  | .dual, .deviceProfileResult result => deviceProfileResult result
  | .dual, .mirrorEndpointOut report => mirrorEndpointOut report
  | .dual, .usbEndpointIn deviceId report standard =>
      usbEndpointIn actions deviceId report standard
  | .dual, .mirrorControlRequest request => mirrorControlRequest request
  | .dual, .mirrorControlCompleted response =>
      answerWith (.deviceCommand (.controlResponse response))
  | .dual, .deviceUsbState state => deviceUsbState actions state
  | .dual, .mirrorCandidateRegistered candidate stableId profileHash synthetic
      sourceDevice => mirrorCandidateRegistered candidate stableId profileHash
        synthetic sourceDevice
  | .dual, .mirrorSourceDisconnected deviceId =>
      mirrorSourceDisconnected deviceId
  | build, .restoreStorage storage => restoreStorageState build storage

def BridgeRuntime.usbDevicePresent (runtime : BridgeRuntime) : Bool :=
  runtime.usbInterfaces.any (·.isSome)

def reconcileUsbHostPower : RuntimeM capacity Unit := do
  let runtime ← readRuntime
  let (usbHostPower, changed) := runtime.usbHostPower.update runtime.nowMs
    runtime.usbDevicePresent (runtime.bridge.hasConnectedComputer build)
  modifyRuntime fun runtime => { runtime with usbHostPower := usbHostPower }
  match changed with
  | some state => pushCommand (.setUsbHostBusState state)
  | none => pure ()

def handleInputInPlace (input : RuntimeInput build) :
    RuntimeM capacity Unit := do
  handleInputCoreInPlace build actions events input
  reconcileUsbHostPower build

/-- What a handled input leaves.  On a failure the runtime and the commands of
the caller stay as they were. -/
def BridgeRuntime.handleInput (capacity : Nat) (runtime : BridgeRuntime)
    (input : RuntimeInput build) : Except RuntimeError (RuntimeWork capacity) :=
  match (handleInputInPlace build actions events input).run
      ⟨runtime, .empty, []⟩ with
  | .ok _ after => .ok after
  | .error error _ => .error error

end HidShift
