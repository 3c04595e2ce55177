import HidShift.Settings

/-! Input profiles and their registry (`domain/input_profile.rs`), as far as
the stored configuration needs them. -/

namespace HidShift

open Lib

def inputProfileCapacity : Nat := 8

structure InputProfileId where
  get : UInt8
  inRange : 1 ≤ get ∧ get.toNat ≤ inputProfileCapacity
deriving DecidableEq

def InputProfileId.new (value : UInt8) : Option InputProfileId :=
  if inRange : 1 ≤ value ∧ value.toNat ≤ inputProfileCapacity then
    some ⟨value, inRange⟩
  else
    none

structure InputIdentity where
  vendorId : UInt16
  productId : UInt16
  instanceHash : UInt64
deriving DecidableEq

structure MouseScaleRemainders where
  x : Int32
  y : Int32
  wheel : Int32
  pan : Int32
deriving DecidableEq

def MouseScaleRemainders.zero : MouseScaleRemainders := ⟨0, 0, 0, 0⟩

structure InputProfile where
  id : InputProfileId
  identity : InputIdentity
  connected : Bool
  lastSeen : UInt64
  settings : InputSettings
  mouseRemainders : MouseScaleRemainders
  shortcutArmed : Bool
deriving DecidableEq

def InputProfile.restored (id : InputProfileId) (identity : InputIdentity)
    (lastSeen : UInt64) (settings : InputSettings) : InputProfile where
  id := id
  identity := identity
  connected := false
  lastSeen := lastSeen
  settings := settings
  mouseRemainders := .zero
  shortcutArmed := true

inductive InputProfileError
  | registryFullWithConnectedProfiles
  | unknownProfile
  | duplicateProfileId
  | duplicateIdentity
deriving Repr

structure InputProfileRegistry where
  profiles : BoundedVec InputProfile inputProfileCapacity
  nextSequence : UInt64
deriving DecidableEq

namespace InputProfileRegistry

def new : InputProfileRegistry := ⟨.empty, 1⟩

def restore (registry : InputProfileRegistry) (profile : InputProfile) :
    Except InputProfileError InputProfileRegistry :=
  if registry.profiles.toList.any fun item => item.id = profile.id then
    .error .duplicateProfileId
  else if registry.profiles.toList.any fun item =>
      item.identity = profile.identity then
    .error .duplicateIdentity
  else
    match registry.profiles.push? profile with
    | none => .error .registryFullWithConnectedProfiles
    | some profiles =>
        .ok ⟨profiles, max registry.nextSequence (profile.lastSeen + 1)⟩

theorem restore_ok {registry next : InputProfileRegistry}
    {profile : InputProfile}
    (restored : registry.restore profile = .ok next) :
    next.profiles.toList = registry.profiles.toList ++ [profile] ∧
      next.nextSequence = max registry.nextSequence (profile.lastSeen + 1) := by
  unfold restore at restored
  split at restored
  · cases restored
  · split at restored
    · cases restored
    · split at restored
      · cases restored
      · rename_i pushed
        cases restored
        exact ⟨BoundedVec.push?_eq_some.mp pushed, rfl⟩

end InputProfileRegistry

end HidShift
