import HidShift.Bridge.Handle

/-! What the bridge stores of itself and takes back at boot
(`bridge/host_state.rs`, `bridge/mod.rs`). -/

namespace HidShift

open Lib

namespace BleHostStateMachine

/-- One round of the loop of `restore`. -/
def restoreHost (machine : BleHostStateMachine) (stored : StoredHostProfile) :
    Except HostStateError BleHostStateMachine := do
  let (index, host) ← machine.upsertHost stored.hostId
  return machine.storeHost index { host with
    bonded := stored.bonded
    connected := false
    encrypted := false
    storedReportReady := ⟨stored.keyboardCccdEnabled, stored.mouseCccdEnabled,
      stored.consumerCccdEnabled, stored.keyboardOutputCccdEnabled⟩
    sessionReportReady := .default
    keyboardLeds := none
    name := stored.name
    discoveredName := .empty
    bond := stored.bond }

def restore (machine : BleHostStateMachine) (storage : StorageState) :
    Except HostStateError BleHostStateMachine :=
  storage.hosts.toList.foldlM restoreHost
    ⟨storage.lastActiveHost, List.replicate machine.hosts.length none⟩

/-- The loop of `restore` up to the first host it refuses. -/
def restoreUntilRefused (machine : BleHostStateMachine) :
    List StoredHostProfile → BleHostStateMachine
  | [] => machine
  | stored :: rest =>
      match machine.restoreHost stored with
      | .ok next => next.restoreUntilRefused rest
      | .error _ => machine

/-- What a `restore` that fails leaves behind. -/
def partlyRestored (machine : BleHostStateMachine) (storage : StorageState) :
    BleHostStateMachine :=
  restoreUntilRefused
    ⟨storage.lastActiveHost, List.replicate machine.hosts.length none⟩
    storage.hosts.toList

def storedHost (host : HostRuntimeState) : StoredHostProfile where
  hostId := host.hostId
  bonded := host.bonded
  keyboardCccdEnabled := host.storedReportReady.keyboard
  mouseCccdEnabled := host.storedReportReady.mouse
  consumerCccdEnabled := host.storedReportReady.consumer
  keyboardOutputCccdEnabled := host.storedReportReady.keyboardOutput
  name := host.name
  bond := host.bond

def storageState (machine : BleHostStateMachine) (generation : UInt32) :
    Except StorageError StorageState :=
  match (BoundedVec.empty : BoundedVec StoredHostProfile storedHostsMax).extend?
      (machine.hosts.reduceOption.map storedHost) with
  | none => .error .hostCapacity
  | some hosts =>
      .ok { StorageState.new generation with
        hosts := hosts
        lastActiveHost := machine.activeTarget.filter fun active =>
          hosts.toList.any (·.hostId = active) }

def setDiscoveredName (machine : BleHostStateMachine) (hostId : HostId)
    (name : FixedName) : Except HostStateError (BleHostStateMachine × Bool) :=
  do
  let (index, host) ← machine.upsertHost hostId
  return (machine.storeHost index { host with discoveredName := name },
    host.discoveredName != name)

end BleHostStateMachine

def StoredOutputTarget.asOutputTarget : StoredOutputTarget → OutputTarget
  | .wired => .wired
  | .ble slot => .ble ⟨slot.get⟩

def StorageState.restoredTarget (storage : StorageState) : OutputTarget :=
  match storage.presentation.outputTarget, storage.lastActiveHost with
  | .wired, some hostId => .ble hostId
  | stored, _ => stored.asOutputTarget

namespace BridgeState

/-- The output target after a restore, in the build that has one. -/
def restoreTarget (bridge : BridgeState) (storage : StorageState) :
    BridgeState :=
  { bridge with
    outputTarget :=
      { OutputTargetState.new with selected := storage.restoredTarget }
    wiredBleHost := storage.presentation.wiredBleHost.map fun slot =>
      ⟨slot.get⟩
    hosts := if storage.restoredTarget = .wired then
        bridge.hosts.clearActiveTarget
      else
        bridge.hosts }

def restoreStorageState (build : Build) (bridge : BridgeState)
    (storage : StorageState) : Except BridgeError BridgeState :=
  match bridge.hosts.restore storage with
  | .error error => .error (.hostState error)
  | .ok hosts =>
      let restored := { bridge with hosts := hosts, pairableHost := none }
      match build with
      | .single => .ok restored
      | .dual => .ok (restored.restoreTarget storage)

/-- The stored form of a host number, or an error outside the slots. -/
def storedSlot (hostId : HostId) : Except StorageError HostSlot :=
  match hostId.validated with
  | .ok slot => .ok slot
  | .error _ => .error .invalidHostId

def storedTarget : OutputTarget → Except StorageError StoredOutputTarget
  | .wired => .ok .wired
  | .ble hostId => .ble <$> storedSlot hostId

/-- The mirror target is kept beside the bridge; no event reads it. -/
def storageState (build : Build) (bridge : BridgeState)
    (mirrorTarget : Option MirrorStableId) (generation : UInt32) :
    Except StorageError StorageState := do
  let storage ← bridge.hosts.storageState generation
  match build with
  | .single => return storage
  | .dual =>
      let outputTarget ← storedTarget bridge.outputTarget.selected
      let wiredBleHost ← bridge.wiredBleHost.mapM storedSlot
      return { storage with
        presentation := ⟨outputTarget, wiredBleHost, mirrorTarget⟩ }

end BridgeState

end HidShift
