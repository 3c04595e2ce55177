import HidShift.Bridge.State

/-! Commands of the runtime to the BLE task (`runtime/command.rs`) and the
gate that keeps stale input from a host (`ble_connection.rs`). -/

namespace HidShift

/-- The source has two enumerations with the same three reports. -/
abbrev BleHidReport := StandardHidReport

inductive CommandClass
  | critical
  | realtime
  | bestEffort
deriving DecidableEq

inductive BleCommandLane
  | control
  | notify
deriving Repr

/-- The payloads of the two management commands are not kept here: neither
the lanes nor the gate read them. -/
inductive BleTaskCommand
  | notify (hostId : HostId) (report : BleHidReport) (reason : NotifyReason)
  | allowPairing (hostId : HostId)
  | rejectPairing (hostId : HostId)
  | clearBond (hostId : HostId) (bond : Option StoredBond)
  | activateInput (hostId : HostId)
  | managementResponse (hostId : HostId)
  | managementEvent (hostId : HostId)
deriving DecidableEq

namespace BleTaskCommand

def lane : BleTaskCommand → BleCommandLane
  | .notify _ _ .input => .notify
  | .notify _ _ _ => .control
  | .allowPairing _ | .rejectPairing _ | .clearBond _ _ | .activateInput _
  | .managementResponse _ | .managementEvent _ => .control

def commandClass : BleTaskCommand → CommandClass
  | .notify _ _ reason =>
      match reason with
      | .input => .realtime
      | .inputEdge | .inputRelease | .targetSwitchRelease
      | .usbDeviceRemovedRelease | .safetyRelease => .critical
  | .allowPairing _ | .rejectPairing _ | .clearBond _ _ | .activateInput _
  | .managementResponse _ => .critical
  | .managementEvent _ => .bestEffort

end BleTaskCommand

/-- Index of a host in a table of `hosts` slots; host numbers start at 1. -/
def hostIndex (hosts : Nat) (hostId : HostId) : Option (Fin hosts) :=
  if hostId.val = 0 then
    none
  else if inTable : hostId.val.toNat - 1 < hosts then
    some ⟨hostId.val.toNat - 1, inTable⟩
  else
    none

theorem hostIndex_injective (leftIndex : hostIndex hosts left = some index)
    (rightIndex : hostIndex hosts right = some index) : left = right := by
  unfold hostIndex at leftIndex rightIndex
  split at leftIndex <;> split at rightIndex <;> try contradiction
  rename_i leftNonzero rightNonzero
  split at leftIndex <;> split at rightIndex <;> try contradiction
  have leftValue := Fin.val_eq_of_eq (Option.some.inj leftIndex)
  have rightValue := Fin.val_eq_of_eq (Option.some.inj rightIndex)
  have leftPositive : left.val.toNat ≠ 0 := fun zero =>
    leftNonzero (UInt8.toNat_inj.mp zero)
  have rightPositive : right.val.toNat ≠ 0 := fun zero =>
    rightNonzero (UInt8.toNat_inj.mp zero)
  simp only at leftValue rightValue
  cases left
  cases right
  exact congrArg HostId.mk (UInt8.toNat_inj.mp (by simp only at *; omega))

structure BleInputGate (hosts : Nat) where
  blocked : Fin hosts → Bool

namespace BleInputGate

variable {hosts : Nat}

def new : BleInputGate hosts := ⟨fun _ => false⟩

def set (gate : BleInputGate hosts) (hostId : HostId) (value : Bool) :
    BleInputGate hosts :=
  match hostIndex hosts hostId with
  | some index => ⟨Function.update gate.blocked index value⟩
  | none => gate

def block (gate : BleInputGate hosts) (hostId : HostId) :
    BleInputGate hosts :=
  gate.set hostId true

def activate (gate : BleInputGate hosts) (hostId : HostId) :
    BleInputGate hosts :=
  gate.set hostId false

def shouldDropInput (gate : BleInputGate hosts) (hostId : HostId) : Bool :=
  match hostIndex hosts hostId with
  | some index => gate.blocked index
  | none => true

section

variable (gate : BleInputGate hosts)

theorem shouldDropInput_set_other (value : Bool) (different : other ≠ hostId) :
    (gate.set hostId value).shouldDropInput other =
      gate.shouldDropInput other := by
  simp only [set]
  cases written : hostIndex hosts hostId with
  | none => rfl
  | some index =>
      simp only [shouldDropInput]
      cases read : hostIndex hosts other with
      | none => rfl
      | some otherIndex =>
          have apart : otherIndex ≠ index := by
            rintro rfl
            exact different (hostIndex_injective read written)
          exact Function.update_of_ne apart _ _

theorem shouldDropInput_block (hostId other : HostId) :
    (gate.block hostId).shouldDropInput other =
      (decide (other = hostId) || gate.shouldDropInput other) := by
  by_cases same : other = hostId
  · subst same
    simp only [decide_true, Bool.true_or, block, set, shouldDropInput]
    cases hostIndex hosts other with
    | none => rfl
    | some index => exact Function.update_self ..
  · rw [decide_eq_false same, Bool.false_or]
    exact shouldDropInput_set_other gate true same

theorem shouldDropInput_activate_other (different : other ≠ hostId) :
    (gate.activate hostId).shouldDropInput other = gate.shouldDropInput other :=
  shouldDropInput_set_other gate false different

theorem shouldDropInput_activate_of_open
    (isOpen : gate.shouldDropInput hostId = false) :
    (gate.activate hostId).shouldDropInput hostId = false := by
  simp only [shouldDropInput, activate, set] at isOpen ⊢
  cases index : hostIndex hosts hostId with
  | none =>
      rw [index] at isOpen
      exact isOpen
  | some index => exact Function.update_self ..

end

end BleInputGate

end HidShift
