import Mathlib.Logic.Basic

/-! Identifiers of hosts, USB devices and HID interfaces (`ids.rs`). -/

namespace HidShift

structure HostId where
  val : UInt8
deriving DecidableEq, Repr

def hostSlotMin : UInt8 := 1

def hostSlotMax : UInt8 := 4

def hostSlotCount : Nat := 4

structure InvalidHostSlot where
  val : UInt8
deriving DecidableEq

structure HostSlot where
  get : UInt8
  inRange : hostSlotMin ≤ get ∧ get ≤ hostSlotMax
deriving DecidableEq

def HostSlot.tryFrom (value : UInt8) : Except InvalidHostSlot HostSlot :=
  if inRange : hostSlotMin ≤ value ∧ value ≤ hostSlotMax then
    .ok ⟨value, inRange⟩
  else
    .error ⟨value⟩

def HostId.validated (hostId : HostId) : Except InvalidHostSlot HostSlot :=
  HostSlot.tryFrom hostId.val

structure DeviceId where
  val : UInt8
deriving DecidableEq, Repr

structure InterfaceId where
  val : UInt8
deriving DecidableEq, Repr

end HidShift
