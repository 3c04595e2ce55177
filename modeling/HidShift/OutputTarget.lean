import HidShift.Ids
import HidShift.Lib.BoundedVec

/-! Output targets and their selection (`output_target.rs`). -/

namespace HidShift

/-- The firmware is built with or without the feature `dual-s3-wired`. -/
inductive Build
  | single
  | dual
deriving DecidableEq, Repr

inductive OutputTarget
  | wired
  | ble (hostId : HostId)
deriving DecidableEq, Repr

inductive OutputTargetError
  | invalidBleHost
deriving DecidableEq

def OutputTarget.validate : OutputTarget → Except OutputTargetError OutputTarget
  | .wired => .ok .wired
  | .ble host =>
      if 1 ≤ host.val ∧ host.val.toNat ≤ hostSlotCount then
        .ok (.ble host)
      else
        .error .invalidBleHost

def bleHostReady (readyBleMask : BitVec 8) (host : HostId) : Bool :=
  1 ≤ host.val && host.val.toNat ≤ hostSlotCount &&
    readyBleMask.getLsbD (host.val.toNat - 1)

/-- The computer at one position of the cycle: position 0 is the wired
computer, which falls back to its own BLE host. -/
def computerAt (wiredReady : Bool) (readyBleMask : BitVec 8)
    (wiredBleHost : Option HostId) (index : Nat) : Option OutputTarget :=
  if index = 0 then
    if wiredReady then
      some .wired
    else
      match wiredBleHost with
      | some host =>
          if bleHostReady readyBleMask host then some (.ble host) else none
      | none => none
  else
    let host : HostId := ⟨index.toUInt8⟩
    if some host ≠ wiredBleHost ∧ bleHostReady readyBleMask host then
      some (.ble host)
    else
      none

/-- The next ready computer after the current logical selection. -/
def nextReadyComputerTarget (selected : OutputTarget) (wiredReady : Bool)
    (readyBleMask : BitVec 8) (wiredBleHost : Option HostId) :
    Option OutputTarget :=
  let selectedIndex := match selected with
    | .wired => 0
    | .ble host =>
        if some host = wiredBleHost then 0
        else min host.val.toNat hostSlotCount
  (List.range' 1 hostSlotCount).findSome? fun offset =>
    computerAt wiredReady readyBleMask wiredBleHost
      ((selectedIndex + offset) % (hostSlotCount + 1))

inductive OutputTargetAvailability
  | ready
  | connectedNotReady
  | unavailable
deriving DecidableEq, Repr

inductive BleTargetReadinessPolicy
  | keyboardRequired
  | allStandardReports
  | anyReport
deriving DecidableEq

def BleTargetReadinessPolicy.isReady (policy : BleTargetReadinessPolicy)
    (keyboard mouse consumer : Bool) : Bool :=
  match policy with
  | .keyboardRequired => keyboard
  | .allStandardReports => keyboard && mouse && consumer
  | .anyReport => keyboard || mouse || consumer

def bleTargetReadinessPolicy : BleTargetReadinessPolicy := .keyboardRequired

structure OutputTargetState where
  selected : OutputTarget
  active : Option OutputTarget
  availability : OutputTargetAvailability
  transitionOperationId : UInt32
deriving DecidableEq

namespace OutputTargetState

def new : OutputTargetState := ⟨.wired, none, .unavailable, 0⟩

def select (state : OutputTargetState) (target : OutputTarget) :
    Except OutputTargetError (OutputTargetState × UInt32) := do
  let target ← target.validate
  let operationId := state.transitionOperationId + 1
  return (⟨target, none, .unavailable, operationId⟩, operationId)

def setAvailability (state : OutputTargetState)
    (availability : OutputTargetAvailability) : OutputTargetState :=
  { state with
    availability := availability
    active := match availability with
      | .ready => some state.selected
      | .connectedNotReady | .unavailable => none }

def beginTransition (state : OutputTargetState) :
    OutputTargetState × UInt32 :=
  let operationId := state.transitionOperationId + 1
  ({ state with
      active := none
      availability := .connectedNotReady
      transitionOperationId := operationId }, operationId)

end OutputTargetState

inductive StoredOutputTarget
  | wired
  | ble (slot : HostSlot)
deriving DecidableEq

def mirrorPortPathMaxLen : Nat := 8

inductive MirrorStableIdError
  | missingPhysicalLocation
  | portPathTooLong
deriving DecidableEq

/-- A device is told apart by its serial or by the port it hangs on.  Bytes
of the stored path past its length are zero. -/
structure MirrorStableId where
  vendorId : UInt16
  productId : UInt16
  serialHash : Option UInt32
  descriptorHash : UInt32
  portPath : Lib.BoundedVec UInt8 mirrorPortPathMaxLen
  located : serialHash ≠ none ∨ portPath.toList ≠ []
deriving DecidableEq

namespace MirrorStableId

def new (vendorId productId : UInt16) (serialHash : Option UInt32)
    (descriptorHash : UInt32) (portPath : List UInt8) :
    Except MirrorStableIdError MirrorStableId :=
  if fits : portPath.length ≤ mirrorPortPathMaxLen then
    if located : serialHash ≠ none ∨ portPath ≠ [] then
      .ok ⟨vendorId, productId, serialHash, descriptorHash,
        ⟨portPath, fits⟩, located⟩
    else
      .error .missingPhysicalLocation
  else
    .error .portPathTooLong

def portPathLen (identity : MirrorStableId) : UInt8 :=
  UInt8.ofNat identity.portPath.toList.length

def portPathBytes (identity : MirrorStableId) : List UInt8 :=
  identity.portPath.toList ++
    List.replicate (mirrorPortPathMaxLen - identity.portPath.toList.length) 0

end MirrorStableId

structure StoredPresentationConfig where
  outputTarget : StoredOutputTarget
  wiredBleHost : Option HostSlot
  mirrorTarget : Option MirrorStableId
deriving DecidableEq

def StoredPresentationConfig.default : StoredPresentationConfig :=
  ⟨.wired, none, none⟩

end HidShift
