import HidShift.Runtime.State

/-! How the runtime passes events to the bridge and turns the actions of the
bridge into commands (`runtime.rs`). -/

namespace HidShift

open Lib

/-- What a handler works on.  `emitted` is not part of the program: it logs
the actions of every bridge event that succeeded, for the proofs. -/
structure RuntimeWork (capacity : Nat) where
  runtime : BridgeRuntime
  commands : BoundedVec RuntimeCommand capacity
  emitted : List BridgeAction

abbrev RuntimeM (capacity : Nat) := InPlace RuntimeError (RuntimeWork capacity)

variable {capacity : Nat}

def modifyRuntime (update : BridgeRuntime → BridgeRuntime) :
    RuntimeM capacity Unit :=
  modify fun work => { work with runtime := update work.runtime }

def readRuntime : RuntimeM capacity BridgeRuntime :=
  RuntimeWork.runtime <$> get

def clearCommands : RuntimeM capacity Unit :=
  modify fun work => { work with commands := .empty }

def pushCommand (command : RuntimeCommand) : RuntimeM capacity Unit := do
  let work ← get
  match work.commands.push? command with
  | some commands => set { work with commands := commands }
  | none => throw .commandCapacity

section

variable {α : Type} {size : Nat}

def pushRing (ring : BoundedVec α size) (entry : α) : BoundedVec α size :=
  ⟨(ring.toList ++ [entry]).drop ((ring.toList ++ [entry]).length - size), by
    rw [List.length_drop]
    omega⟩

def updateNewest (ring : BoundedVec α size) (update : α → α) :
    BoundedVec α size :=
  ⟨ring.toList.modify (ring.toList.length - 1) update, by
    rw [List.length_modify]
    exact ring.length_le⟩

end

/-- `get_mut` at the slot of a host; host numbers start at 1. -/
def setHostValue {α : Type} (values : List α) (hostId : HostId) (value : α) :
    List α :=
  if hostId.val = 0 then values else values.set (hostId.val.toNat - 1) value

namespace BridgeRuntime

def recordHistory (runtime : BridgeRuntime) (kind subject detail : UInt8)
    (vendorId productId : UInt16) : BridgeRuntime :=
  { runtime with
    history := pushRing runtime.history
      ⟨kind, runtime.nextHistorySequence, runtime.nowSeconds, subject, detail,
        vendorId, productId⟩
    nextHistorySequence := runtime.nextHistorySequence + 1 }

def pairingFor (runtime : BridgeRuntime) (hostId : HostId) : Bool :=
  runtime.pairingMode.map (·.hostId) = some hostId

def observeHistory {build : Build} (runtime : BridgeRuntime) :
    BridgeEvent build → BridgeRuntime
  | .hostConnected hostId =>
      ({ runtime with
        hostLastConnectedSeconds := setHostValue
          runtime.hostLastConnectedSeconds hostId runtime.nowSeconds } :
        BridgeRuntime).recordHistory 1 hostId.val 0 0 0
  | .hostDisconnected hostId =>
      ({ runtime with
        hostLastDisconnectedSeconds := setHostValue
          runtime.hostLastDisconnectedSeconds hostId runtime.nowSeconds } :
        BridgeRuntime).recordHistory 2 hostId.val 0 0 0
  | .switchTarget target => runtime.recordHistory 5 target.val 0 0 0
  | .enterPairingMode hostId => runtime.recordHistory 6 hostId.val 0 0 0
  | _ => runtime

def observePairing {build : Build} (runtime : BridgeRuntime) :
    BridgeEvent build → BridgeRuntime
  | .enterPairingMode hostId =>
      if runtime.pairingFor hostId then runtime
      else { runtime with
        pairingMode := some ⟨hostId, (runtime.pairingMode.map
          (·.deadlineMs)).getD pairingModeTimeoutMs⟩ }
  | .pairingModeExpired hostId | .clearHost hostId
  | .hostSecurityChanged hostId _ true _ =>
      if runtime.pairingFor hostId then { runtime with pairingMode := none }
      else runtime
  | _ => runtime

def observeBridgeEvent {build : Build} (runtime : BridgeRuntime)
    (event : BridgeEvent build) : BridgeRuntime :=
  (runtime.observeHistory event).observePairing event

end BridgeRuntime

def storagePersistPriorityForEvent {build : Build} :
    BridgeEvent build → Option StoragePersistPriority
  | .hostSecurityChanged .. | .clearHost _ | .setHostName .. => some .critical
  | .cccdChanged .. => some .normal
  | .hostDisconnected _ | .switchTarget _ => some .lazy
  | _ => none

def pushStorageSnapshot (build : Build) (priority : StoragePersistPriority) :
    RuntimeM capacity Unit := do
  if (← readRuntime).storageHealth.allowsPersistentMutation then
    modifyRuntime fun runtime =>
      { runtime with storageGeneration := runtime.storageGeneration + 1 }
    let state ← InPlace.lift .storage ((← readRuntime).storageState build)
    pushCommand (.persistStorage state priority)
  else
    throw .storageUnavailable

def BridgeRuntime.statusSnapshot (runtime : BridgeRuntime)
    (status : BridgeStatus) : StatusSnapshot where
  sequence := runtime.statusSequence
  activeHost := status.activeTarget
  connectedHosts := runtime.bridge.hosts.hosts.reduceOption.foldl
    (fun (mask : BitVec 8) (host : HostRuntimeState) =>
      if host.connected ∧ 1 ≤ host.hostId.val ∧ host.hostId.val ≤ 8 then
        mask ||| (1#8 <<< (host.hostId.val.toNat - 1))
      else
        mask) 0
  pairingHost := status.pairableHost
  usbInterfaceCount := UInt8.ofNat runtime.usbInterfaces.reduceOption.length
  quiescing := false
  bridgeStats := runtime.bridge.stats
  runtimeCounters := runtime.counters

def nextStatusSnapshot (status : BridgeStatus) :
    RuntimeM capacity StatusSnapshot := do
  modifyRuntime fun runtime =>
    { runtime with statusSequence := runtime.statusSequence + 1 }
  return (← readRuntime).statusSnapshot status

def activatePresentation (operationId : UInt32) :
    Option UInt32 → DeviceTaskCommand
  | some profileHash => .activateMirror ⟨operationId, profileHash⟩
  | none => .activateFallback operationId

def dispatchKeyboardLeds (interfaceId : InterfaceId) (deviceId : DeviceId)
    (leds : KeyboardLedState) : RuntimeM capacity Unit := do
  let ledOutput := ((← readRuntime).usbHidInterface interfaceId).bind
    (·.ledOutput)
  match ledOutput with
  | none => throw (.usbHidInterfaceNotRegistered interfaceId)
  | some ledOutput =>
      let bytes ← InPlace.lift .usbLed (ledOutput.build leds)
      pushCommand (.usbKeyboardLedWrite interfaceId deviceId bytes)

/-- A report for the wired computer.  The single-board build has none, and a
presentation change drops it. -/
def dispatchWiredReport (build : Build) (report : StandardHidReport)
    (reason : NotifyReason) : RuntimeM capacity Unit :=
  match build with
  | .single => throw .wiredFeatureDisabled
  | .dual => do
      if (← readRuntime).presentationTransitionPending then
        pure ()
      else
        pushCommand (.deviceCommand (.standardReport report reason))

def dispatchActivateWired (operationId : UInt32) :
    RuntimeM capacity Unit := do
  let runtime ← readRuntime
  let target := runtime.effectiveMirrorCandidate
  modifyRuntime fun runtime => { runtime with
    presentationTransitionPending := true
    transitionMirrorTarget := target
    bridge := runtime.bridge.holdWiredPresentationTransition }
  pushCommand (.deviceCommand (activatePresentation operationId
    (target.bind runtime.mirrorProfileHash)))

def dispatchEnsureFallback (operationId : UInt32) :
    RuntimeM capacity Unit := do
  modifyRuntime fun runtime => { runtime with
    presentationTransitionPending := true
    transitionMirrorTarget := none
    activeMirrorTarget := none }
  pushCommand (.deviceCommand (.activateFallback operationId))

def dispatchStatus (status : BridgeStatus) : RuntimeM capacity Unit := do
  InPlace.when (status.pairableHost = none)
    (modifyRuntime fun runtime => { runtime with pairingMode := none })
  let snapshot ← nextStatusSnapshot status
  pushCommand (.statusChanged snapshot)

def dispatchBridgeAction (build : Build)
    (persistPriority : Option StoragePersistPriority) :
    BridgeAction → RuntimeM capacity Unit
  | .notify (.ble hostId) report reason =>
      pushCommand (.bleCommand (.notify hostId report reason))
  | .notify .wired report reason => dispatchWiredReport build report reason
  | .allowPairing hostId => pushCommand (.bleCommand (.allowPairing hostId))
  | .rejectPairing hostId => pushCommand (.bleCommand (.rejectPairing hostId))
  | .clearBond hostId bond =>
      pushCommand (.bleCommand (.clearBond hostId bond))
  | .activateInput hostId => pushCommand (.bleCommand (.activateInput hostId))
  | .activateWired operationId => dispatchActivateWired operationId
  | .ensureFallback operationId => dispatchEnsureFallback operationId
  | .usbSetKeyboardLeds interfaceId deviceId leds =>
      dispatchKeyboardLeds interfaceId deviceId leds
  | .persistProfiles =>
      pushStorageSnapshot build (persistPriority.getD .normal)
  | .statusChanged status => dispatchStatus status

def dispatchBridgeActions (build : Build)
    (persistPriority : Option StoragePersistPriority) :
    List BridgeAction → RuntimeM capacity Unit
  | [] => pure ()
  | action :: rest => do
      dispatchBridgeAction build persistPriority action
      dispatchBridgeActions build persistPriority rest

/-- `self.bridge.handle_event_in_place(event, &mut actions)?` with a fresh
action vector. -/
def callBridge (build : Build) (actions : Nat) (event : BridgeEvent build) :
    RuntimeM capacity (List BridgeAction) := do
  let work ← get
  match (handleEventInPlace build event).run
      ⟨work.runtime.bridge, (.empty : BoundedVec BridgeAction actions)⟩ with
  | .ok _ after =>
      set { work with
        runtime := { work.runtime with bridge := after.bridge }
        emitted := work.emitted ++ after.out.toList }
      return after.out.toList
  | .error error after =>
      set { work with
        runtime := { work.runtime with bridge := after.bridge } }
      throw (.bridge error)

def handleBridgeEventAppend (build : Build) (actions : Nat)
    (event : BridgeEvent build) : RuntimeM capacity Unit := do
  modifyRuntime (·.observeBridgeEvent event)
  let emitted ← callBridge build actions event
  dispatchBridgeActions build (storagePersistPriorityForEvent event) emitted

/-- `handle_bridge_event` and `handle_event`. -/
def handleBridgeEvent (build : Build) (actions : Nat)
    (event : BridgeEvent build) : RuntimeM capacity Unit := do
  clearCommands
  handleBridgeEventAppend build actions event

/-- The loops that apply several events. -/
def handleBridgeEventsAppend (build : Build) (actions : Nat) :
    List (BridgeEvent build) → RuntimeM capacity Unit
  | [] => pure ()
  | event :: rest => do
      handleBridgeEventAppend build actions event
      handleBridgeEventsAppend build actions rest

end HidShift
