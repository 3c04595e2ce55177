import HidShift.Runtime.Dispatch

/-! Execution of management commands and the answers to them
(`runtime/management_handler.rs`). -/

namespace HidShift

open Lib

section

variable {capacity : Nat}

def beginWiredPresentationTransition : RuntimeM capacity UInt32 := do
  let (bridge, operationId) ← InPlace.lift (fun error => .bridge (.input error))
    (← readRuntime).bridge.beginWiredPresentationTransition
  modifyRuntime fun runtime => { runtime with bridge := bridge }
  return operationId

def beginPresentationTransition (target : Option MirrorCandidateId) :
    RuntimeM capacity Unit := do
  let operationId ← beginWiredPresentationTransition
  modifyRuntime fun runtime => { runtime with
    presentationTransitionPending := true
    transitionMirrorTarget := target }
  pushCommand (.deviceCommand .releaseAll)
  match target with
  | some candidate =>
      match (← readRuntime).mirrorProfileHash candidate with
      | some profileHash => pushCommand (.deviceCommand
          (.activateMirror ⟨operationId, profileHash⟩))
      | none => throw .mirrorCandidateUnavailable
  | none => pushCommand (.deviceCommand (.activateFallback operationId))

def reconcileWiredPresentation : RuntimeM capacity Unit := do
  let runtime ← readRuntime
  let desired := runtime.effectiveMirrorCandidate
  let current := if runtime.presentationTransitionPending then
      runtime.transitionMirrorTarget
    else
      runtime.activeMirrorTarget
  InPlace.when (runtime.bridge.outputTarget.selected = .wired ∧
      current ≠ desired)
    (beginPresentationTransition desired)

end

namespace GlobalSettings

def value? (settings : GlobalSettings) : SettingId → Option Int32
  | .bootTarget => some (Int32.ofNat settings.bootTarget.toNat)
  | .restoreLastTarget => some (if settings.restoreLastTarget then 1 else 0)
  | .autoReconnect => some (if settings.autoReconnect then 1 else 0)
  | .switchReleaseDelayMs =>
      some (Int32.ofNat settings.switchReleaseDelayMs.toNat)
  | .buttonShortAction => some (Int32.ofNat settings.buttonShortAction.toNat)
  | .buttonLongAction => some (Int32.ofNat settings.buttonLongAction.toNat)
  | .buttonVeryLongAction =>
      some (Int32.ofNat settings.buttonVeryLongAction.toNat)
  | .logLevel => some (Int32.ofNat settings.logLevel.toNat)
  | _ => none

def set? (settings : GlobalSettings) (id : SettingId) (value : Int32) :
    Option GlobalSettings :=
  let byte := value.toUInt32.toUInt8
  match id with
  | .bootTarget => some { settings with bootTarget := byte }
  | .restoreLastTarget =>
      some { settings with restoreLastTarget := value != 0 }
  | .autoReconnect => some { settings with autoReconnect := value != 0 }
  | .switchReleaseDelayMs =>
      some { settings with switchReleaseDelayMs := value.toUInt32.toUInt16 }
  | .buttonShortAction => some { settings with buttonShortAction := byte }
  | .buttonLongAction => some { settings with buttonLongAction := byte }
  | .buttonVeryLongAction =>
      some { settings with buttonVeryLongAction := byte }
  | .logLevel => some { settings with logLevel := byte }
  | _ => none

end GlobalSettings

namespace InputSettings

def value? (settings : InputSettings) : SettingId → Option Int32
  | .keyboardLayout => some (Int32.ofNat settings.keyboardLayout.toNat)
  | .remapFromUsage => some (Int32.ofNat settings.remapFromUsage.toNat)
  | .remapToUsage => some (Int32.ofNat settings.remapToUsage.toNat)
  | .mouseSensitivityPercent =>
      some (Int32.ofNat settings.mouseSensitivityPercent.toNat)
  | .scrollMultiplierPercent =>
      some (Int32.ofNat settings.scrollMultiplierPercent.toNat)
  | .consumerFromUsage => some (Int32.ofNat settings.consumerFromUsage.toNat)
  | .consumerToUsage => some (Int32.ofNat settings.consumerToUsage.toNat)
  | .targetSwitchShortcut =>
      some (Int32.ofNat settings.targetSwitchShortcut.packed.toNat)
  | _ => none

def set? (settings : InputSettings) (id : SettingId) (value : Int32) :
    Option InputSettings :=
  let byte := value.toUInt32.toUInt8
  let word := value.toUInt32.toUInt16
  match id with
  | .keyboardLayout => some { settings with keyboardLayout := byte }
  | .remapFromUsage => some { settings with remapFromUsage := byte }
  | .remapToUsage => some { settings with remapToUsage := byte }
  | .mouseSensitivityPercent =>
      some { settings with mouseSensitivityPercent := word }
  | .scrollMultiplierPercent =>
      some { settings with scrollMultiplierPercent := word }
  | .consumerFromUsage => some { settings with consumerFromUsage := word }
  | .consumerToUsage => some { settings with consumerToUsage := word }
  | .targetSwitchShortcut => (KeyboardShortcut.fromPacked word).map
      fun shortcut => { settings with targetSwitchShortcut := shortcut }
  | _ => none

end InputSettings

namespace BridgeRuntime

variable (runtime : BridgeRuntime)

/-- A setting is only found under a target of its own scope. -/
def settingValue (id : SettingId) (target : SettingTarget) : Option Int32 :=
  if (settingDescriptor id).scope ≠ target.scope then
    none
  else
    match target with
    | .global => runtime.globalSettings.value? id
    | .input profileId => (runtime.inputProfiles.get? profileId).bind
        (·.settings.value? id)

/-- The runtime with the setting, or nothing when it is refused. -/
def setSetting (id : SettingId) (target : SettingTarget) (value : Int32) :
    Option BridgeRuntime :=
  if !validateSettingValue id value || (runtime.settingValue id target).isNone
  then
    none
  else
    match target with
    | .global => (runtime.globalSettings.set? id value).map fun settings =>
        { runtime with globalSettings := settings }
    | .input profileId =>
        ((runtime.inputProfiles.get? profileId).bind
          (·.settings.set? id value)).map fun settings =>
            { runtime with
              inputProfiles := runtime.inputProfiles.update profileId
                fun profile => { profile with settings := settings } }

def managementUsbStatus : ManagementUsbStatus :=
  let interfaces := runtime.usbInterfaces.reduceOption
  let keyboards := interfaces.filter fun interface =>
    interface.flags &&& 0x02 != 0 || interface.ledOutput.isSome
  let byte := fun count : Nat => UInt8.ofNat (min count 255)
  ⟨byte runtime.usbDevices.length, byte interfaces.length,
    byte (keyboards.map (·.deviceId)).eraseDups.length⟩

def managementHostStatus (host : HostRuntimeState) : ManagementHostStatus :=
  ⟨true, host.connected, host.encrypted, BleHostStateMachine.hasBond host⟩

def managementStatus : ManagementStatus where
  activeHost := runtime.bridge.hosts.activeTarget
  pairingHost := runtime.bridge.pairableHost
  hostCount := UInt8.ofNat (min runtime.bridge.hosts.hosts.length 4)
  usb := runtime.managementUsbStatus
  hosts := Vector.ofFn fun index =>
    if index.val < runtime.bridge.hosts.hosts.length then
      ((runtime.bridge.hosts.host ⟨UInt8.ofNat (index.val + 1)⟩).map
        managementHostStatus).getD .empty
    else
      .empty
  storageHealth := runtime.storageHealth

def managementMirrorCandidate (candidate : MirrorCandidateId) :
    Option ManagementMirrorCandidate :=
  (runtime.mirrorCandidates.get candidate).map fun metadata =>
    let selected : Bool := runtime.selectedMirrorCandidate = some candidate
    let active : Bool := runtime.activeMirrorTarget = some candidate ∧
      ¬ runtime.presentationTransitionPending ∧
        runtime.bridge.outputTarget.active = some .wired
    let bit := fun (flag : Bool) (mask : UInt8) => if flag then mask else 0
    { candidate := candidate
      flags := 1 ||| bit selected 2 ||| bit active 4 |||
        bit metadata.synthetic 8
      sourceDevice := metadata.sourceDevice.map (·.val)
      vendorId := metadata.stableId.vendorId
      productId := metadata.stableId.productId
      profileHash := metadata.profileHash
      descriptorHash := metadata.stableId.descriptorHash }

def managementOutputTargetStatus : ManagementOutputTargetStatus where
  selected := runtime.bridge.outputTarget.selected
  active := runtime.bridge.outputTarget.active
  availability := runtime.bridge.outputTarget.availability
  wiredReady := runtime.bridge.wiredAvailability = .ready
  readyBleMask := (List.range
    (min runtime.bridge.hosts.hosts.length 4)).foldl
      (fun (mask : BitVec 8) index =>
        if runtime.bridge.bleTargetReady ⟨UInt8.ofNat (index + 1)⟩ then
          mask ||| (1#8 <<< index)
        else
          mask) 0
  effectivePresentation :=
    if runtime.bridge.outputTarget.active = some .wired ∧
        ¬ runtime.presentationTransitionPending ∧
          runtime.activeMirrorTarget.isSome then
      .mirror
    else
      .fallback
  mirrorConfigured := runtime.mirrorTarget.isSome
  operationId := runtime.bridge.outputTarget.transitionOperationId

def managementHostInfo (hostId : HostId) : Option ManagementHostInfo :=
  (runtime.bridge.hosts.host hostId).map fun host =>
    let discovered := host.name.asBytes.isEmpty
    let name := if discovered then host.discoveredName else host.name
    { hostId := hostId
      status := managementHostStatus host
      name := (ManagementHostName.fromAscii name.asBytes).getD .empty
      nameSource := if discovered then 1 else 2 }

def managementUsbDevice (requestedIndex nameOffset : UInt8) :
    Option ManagementUsbDevice := do
  let deviceId ← runtime.usbDevices[requestedIndex.toNat]?
  let interfaces := runtime.interfacesOf deviceId
  let selected ← interfaces.head?
  let inputProfileId ← selected.inputProfileId
  let name := selected.name.asBytes
  return {
    index := requestedIndex
    deviceId := deviceId.val
    flags := interfaces.foldl (fun flags interface => flags ||| interface.flags)
      (selected.flags ||| 0x01)
    vendorId := selected.vendorId
    productId := selected.productId
    inputProfileId := inputProfileId
    nameLen := UInt8.ofNat (min name.length 255)
    nameOffset := nameOffset
    nameChunk := ⟨(name.drop nameOffset.toNat).take 4,
      List.length_take_le _ _⟩ }

def managementHostTiming (hostId : HostId) : ManagementHostTiming :=
  let index := hostId.val.toNat - 1
  ⟨hostId, runtime.hostLastConnectedSeconds.getD index 0,
    runtime.hostLastDisconnectedSeconds.getD index 0,
    runtime.hostLastDisconnectReason.getD index 0⟩

def managementSchema (build : Build) : ManagementSchema where
  version := settingsSchemaVersion
  settingCount := UInt8.ofNat settingCount
  historyCapacity := UInt8.ofNat runtimeHistoryCapacity
  usbCapacity := UInt8.ofNat (min runtime.usbInterfaces.length 255)
  hash := settingsSchemaHash settingsSchemaVersion settingDescriptors
  firmwareMajor := 0
  firmwareMinor := 1
  firmwarePatch := 0
  capabilities := match build with
    | .single => 0x02
    | .dual => 0x07

/-- A question that was not answered with `Ok` gets the status instead. -/
def answer (result : ManagementResult)
    (payload : Option ManagementResponsePayload) : ManagementResponsePayload :=
  if result = .ok then payload.getD .none else .status runtime.managementStatus

def managementResponsePayload {build : Build}
    (destination : ManagementDestination) (command : ManagementCommand build)
    (result : ManagementResult) : ManagementResponsePayload :=
  match command with
  | .getHostInfo hostId | .setHostName hostId _ => runtime.answer result
      ((runtime.managementHostInfo hostId).map .hostInfo)
  | .getUsbDevice index nameOffset => runtime.answer result
      ((runtime.managementUsbDevice index nameOffset).map .usbDevice)
  | .getDiagnostics => .diagnostics runtime.diagnostics
  | .getHostTiming hostId => runtime.answer result
      (some (.hostTiming (runtime.managementHostTiming hostId)))
  | .getHistory index =>
      (runtime.history.toList.reverse[index.toNat]?.map .history).getD .none
  | .getSchema => .schema (runtime.managementSchema build)
  | .getClientSession => .clientSession (match destination with
      | .ble hostId => some hostId
      | .wiredHid | .debugSerial => none)
  | .getSetting id target | .setSetting id target _ => runtime.answer result
      (some (.setting ⟨id, target, (runtime.settingValue id target).getD 0⟩))
  | .selectOutputTarget _ | .getOutputTargetStatus | .setMirrorTarget _
  | .clearMirrorTarget | .setWiredHostLink _ =>
      .outputTargetStatus runtime.managementOutputTargetStatus
  | .getMirrorCandidate candidate => runtime.answer result
      ((runtime.managementMirrorCandidate candidate).map .mirrorCandidate)
  | .getStatus | .selectHost _ | .startPairing _ | .forgetHost _
  | .cancelPairing => .status runtime.managementStatus

end BridgeRuntime

def validManagementHost (hosts : Nat) (hostId : HostId) : Bool :=
  hostId.val != 0 && hostId.val.toNat ≤ hosts && hostId.val.toNat ≤ 4

def managementCommandRequiresStorage {build : Build} :
    ManagementCommand build → Bool
  | .selectHost _ | .startPairing _ | .forgetHost _ | .setHostName _ _
  | .setSetting _ _ _ | .selectOutputTarget _ | .setMirrorTarget _
  | .clearMirrorTarget | .setWiredHostLink _ => true
  | _ => false

variable {capacity : Nat} (build : Build) (actions : Nat)

def requestTargetSwitchAppend (target : HostId) (nowMs : UInt64) :
    RuntimeM capacity Unit := do
  let delayMs := (← readRuntime).globalSettings.switchReleaseDelayMs
  if delayMs = 0 then
    modifyRuntime fun runtime => { runtime with pendingTargetSwitch := none }
    handleBridgeEventAppend build actions (.switchTarget target)
  else
    modifyRuntime fun runtime => { runtime with
      pendingTargetSwitch :=
        some ⟨target, saturatingAddMs nowMs delayMs.toUInt64⟩ }

/-- Events for the devices of a profile, after its transform was reset. -/
def resetProfileInputs (profileId : InputProfileId) :
    RuntimeM capacity Unit := do
  modifyRuntime fun runtime => { runtime with
    inputProfiles := runtime.inputProfiles.update profileId
      .resetTransformState }
  let devices := ((← readRuntime).usbInterfaces.reduceOption.filter
    (·.inputProfileId = some profileId)).map (·.deviceId)
  handleBridgeEventsAppend build actions
    (devices.eraseDups.map .resetInputDevice)

def withKnownHost (hostId : HostId)
    (program : RuntimeM capacity ManagementResult) :
    RuntimeM capacity ManagementResult := do
  let hosts := (← readRuntime).bridge.hosts
  if !validManagementHost hosts.hosts.length hostId then
    return .invalidHost
  else if (hosts.host hostId).isNone then
    return .hostNotFound
  else
    program

def startPairing (hostId : HostId) (nowMs : UInt64) :
    RuntimeM capacity ManagementResult := do
  let hosts := (← readRuntime).bridge.hosts
  if !validManagementHost hosts.hosts.length hostId then
    return .invalidHost
  else if (hosts.host hostId).any BleHostStateMachine.hasBond then
    return .hostAlreadyBonded
  else
    modifyRuntime fun runtime => { runtime with
      pairingMode :=
        some ⟨hostId, saturatingAddMs nowMs pairingModeTimeoutMs⟩ }
    handleBridgeEventAppend build actions (.enterPairingMode hostId)
    return .ok

def setHostNameCommand (hostId : HostId) (name : ManagementHostName) :
    RuntimeM capacity ManagementResult :=
  withKnownHost hostId do
    match FixedName.fromAscii name.asBytes with
    | some name =>
        handleBridgeEventAppend build actions (.setHostName hostId name)
        return .ok
    | none => return .invalidName

def cancelPairing : RuntimeM capacity ManagementResult := do
  match (← readRuntime).pairingMode with
  | some pairing =>
      modifyRuntime fun runtime => { runtime with pairingMode := none }
      handleBridgeEventAppend build actions (.pairingModeExpired pairing.hostId)
      return .ok
  | none => return .notFound

def setSettingCommand (id : SettingId) (target : SettingTarget)
    (value : Int32) : RuntimeM capacity ManagementResult := do
  let runtime ← readRuntime
  let changed : Bool := runtime.settingValue id target ≠ some value
  match runtime.setSetting id target value with
  | none => return .invalidSetting
  | some next =>
      modifyRuntime fun _ => next
      match changed, target with
      | true, .input profileId => resetProfileInputs build actions profileId
      | _, _ => pure ()
      pushStorageSnapshot build .critical
      InPlace.when (changed ∧ id = .logLevel)
        (pushCommand (.applyEffect (.setLogLevel value.toUInt32.toUInt8)))
      return .ok

def executeDualCommand : ManagementCommand .dual →
    RuntimeM capacity ManagementResult
  | .selectOutputTarget target => do
      let hosts := (← readRuntime).bridge.hosts.hosts.length
      let valid := match target with
        | .wired => true
        | .ble host => validManagementHost hosts host
      match target.validate, valid with
      | .ok _, true =>
          modifyRuntime fun runtime =>
            { runtime with pendingTargetSwitch := none }
          handleBridgeEventAppend .dual actions (.selectOutputTarget target)
          return .ok
      | _, _ => return .invalidHost
  | .getMirrorCandidate candidate => do
      if ((← readRuntime).mirrorCandidates.get candidate).isSome then
        return .ok
      else
        return .notFound
  | .setMirrorTarget candidate => do
      match (← readRuntime).mirrorStableId candidate with
      | none => return .notFound
      | some stableId =>
          modifyRuntime fun runtime =>
            { runtime with mirrorTarget := some stableId }
          pushStorageSnapshot .dual .critical
          let runtime ← readRuntime
          InPlace.when (runtime.bridge.outputTarget.selected = .wired)
            (beginPresentationTransition runtime.effectiveMirrorCandidate)
          return .ok
  | .clearMirrorTarget => do
      modifyRuntime fun runtime => { runtime with mirrorTarget := none }
      pushStorageSnapshot .dual .critical
      InPlace.when ((← readRuntime).bridge.outputTarget.selected = .wired)
        (beginPresentationTransition none)
      return .ok
  | .setWiredHostLink bleHost => do
      let bridge := (← readRuntime).bridge
      let missing := bleHost.any fun host =>
        !validManagementHost bridge.hosts.hosts.length host ||
          (bridge.hosts.host host).isNone
      if missing then
        return .hostNotFound
      else
        InPlace.when (bridge.wiredBleHost ≠ bleHost) do
          modifyRuntime fun runtime => { runtime with
            bridge := { runtime.bridge with wiredBleHost := bleHost } }
          pushStorageSnapshot .dual .critical
        return .ok
  | _ => return .ok

def executeCommand (nowMs : UInt64) (command : ManagementCommand build) :
    RuntimeM capacity ManagementResult :=
  match build, command with
  | build, .selectHost hostId => withKnownHost hostId do
      requestTargetSwitchAppend build actions hostId nowMs
      return .ok
  | build, .startPairing hostId => startPairing build actions hostId nowMs
  | build, .forgetHost hostId => withKnownHost hostId do
      handleBridgeEventAppend build actions (.clearHost hostId)
      return .ok
  | _, .getHostInfo hostId => withKnownHost hostId (return .ok)
  | build, .setHostName hostId name =>
      setHostNameCommand build actions hostId name
  | build, .cancelPairing => cancelPairing build actions
  | _, .getUsbDevice index _ => do
      if ((← readRuntime).managementUsbDevice index 0).isSome then
        return .ok
      else
        return .notFound
  | _, .getHostTiming hostId => do
      if validManagementHost (← readRuntime).bridge.hosts.hosts.length hostId
      then return .ok
      else return .invalidHost
  | _, .getSetting id target => do
      if ((← readRuntime).settingValue id target).isSome then
        return .ok
      else
        return .invalidSetting
  | build, .setSetting id target value =>
      setSettingCommand build actions id target value
  | .dual, command => executeDualCommand actions command
  | .single, _ => return .ok

def executeManagementCommand (nowMs : UInt64)
    (command : ManagementCommand build) :
    RuntimeM capacity ManagementResult := do
  if managementCommandRequiresStorage command &&
      !(← readRuntime).storageHealth.allowsPersistentMutation then
    return .unavailable
  else
    executeCommand build actions nowMs command

def handleManagementRequest (destination : ManagementDestination)
    (request : ManagementRequest build) (nowMs : UInt64) :
    RuntimeM capacity Unit := do
  clearCommands
  let result ← executeManagementCommand build actions nowMs request.command
  let payload := (← readRuntime).managementResponsePayload destination
    request.command result
  pushCommand (.managementResponse destination
    ⟨request.requestId, result, payload⟩)

end HidShift
