import HidShift.InputProfile
import HidShift.OutputTarget

/-! The stored configuration and its checks (`storage.rs`). -/

namespace HidShift

open Lib

def maxHostNameLen : Nat := 32

structure FixedName where
  len : UInt8
  bytes : Vector UInt8 32
  fits : len.toNat ≤ maxHostNameLen
deriving DecidableEq

def FixedName.empty : FixedName := ⟨0, Vector.replicate 32 0, by decide⟩

/-- Address type used when programming a controller accept list. -/
inductive StoredAddressKind
  | publicAddress
  | randomAddress
deriving DecidableEq, Repr

inductive StoredSecurityLevel
  | noEncryption
  | encrypted
  | encryptedAuthenticated
deriving DecidableEq, Repr

structure StoredBond where
  peerAddress : Vector UInt8 6
  peerAddressKind : StoredAddressKind
  peerIrk : Option (Vector UInt8 16)
  ltk : Vector UInt8 16
  isBonded : Bool
  securityLevel : StoredSecurityLevel
deriving DecidableEq

def storedHostsMax : Nat := hostSlotCount

structure StoredHostProfile where
  hostId : HostId
  bonded : Bool
  keyboardCccdEnabled : Bool
  mouseCccdEnabled : Bool
  consumerCccdEnabled : Bool
  keyboardOutputCccdEnabled : Bool
  name : FixedName
  bond : Option StoredBond
deriving DecidableEq

inductive StorageError
  | hostCapacity
  | invalidHostId
  | invalidOutputTarget
  | duplicateHostId
  | activeHostMissing
  | imageTooShort
  | invalidMagic
  | unsupportedVersion
  | invalidLength
  | crcMismatch
  | hostCountTooLarge
  | invalidName
  | flashLayout
  | flashRead
  | flashErase
  | flashWrite
  | flashVerify
  | unavailable
deriving DecidableEq, Repr

inductive StoragePersistPriority
  | critical
  | normal
  | lazy
deriving DecidableEq, Repr

namespace StoragePersistPriority

def rank : StoragePersistPriority → Nat
  | .lazy => 0
  | .normal => 1
  | .critical => 2

def max (left right : StoragePersistPriority) : StoragePersistPriority :=
  if left.rank ≤ right.rank then right else left

end StoragePersistPriority

/-- The field `presentation` exists in the dual build only; the single build
neither writes nor reads it. -/
structure StorageState where
  generation : UInt32
  lastActiveHost : Option HostId
  globalSettings : GlobalSettings
  inputProfiles : InputProfileRegistry
  presentation : StoredPresentationConfig
  hosts : BoundedVec StoredHostProfile storedHostsMax
deriving DecidableEq

namespace StorageState

def new (generation : UInt32) : StorageState where
  generation := generation
  lastActiveHost := none
  globalSettings := .default
  inputProfiles := .new
  presentation := .default
  hosts := .empty

/-- The loop of `validate`; `seen` lists the host slots met so far. -/
def validateHosts : List StoredHostProfile → List UInt8 →
    Except StorageError Unit
  | [], _ => .ok ()
  | host :: rest, seen =>
      if host.hostId.val = 0 then .error .invalidHostId
      else if storedHostsMax ≤ host.hostId.val.toNat - 1 then
        .error .invalidHostId
      else if host.hostId.val ∈ seen then .error .duplicateHostId
      else validateHosts rest (host.hostId.val :: seen)

def validateActiveHost (state : StorageState) : Except StorageError Unit :=
  match state.lastActiveHost with
  | none => .ok ()
  | some activeHost =>
      if state.hosts.toList.any fun host => host.hostId = activeHost then
        .ok ()
      else
        .error .activeHostMissing

def validate (state : StorageState) : Except StorageError Unit := do
  validateHosts state.hosts.toList []
  state.validateActiveHost

end StorageState

namespace KeyboardShortcut

/-- A shortcut without a key is off, whatever its modifiers. -/
def durable (shortcut : KeyboardShortcut) : KeyboardShortcut :=
  if shortcut.key.val = 0 then disabled else shortcut

end KeyboardShortcut

def InputSettings.durable (settings : InputSettings) : InputSettings :=
  { settings with
    targetSwitchShortcut := settings.targetSwitchShortcut.durable }

def InputProfile.durable (profile : InputProfile) : InputProfile :=
  { profile with
    connected := false
    settings := profile.settings.durable
    mouseRemainders := .zero
    shortcutArmed := true }

/-- The sequence counter restarts past every profile's last use. -/
def InputProfileRegistry.durable (registry : InputProfileRegistry) :
    InputProfileRegistry where
  profiles :=
    ⟨registry.profiles.toList.map InputProfile.durable, by
      rw [List.length_map]
      exact registry.profiles.length_le⟩
  nextSequence :=
    registry.profiles.toList.foldl
      (fun sequence profile => max sequence (profile.lastSeen + 1)) 1

def StoredPresentationConfig.durable (build : Build)
    (presentation : StoredPresentationConfig) : StoredPresentationConfig :=
  match build with
  | .single => .default
  | .dual => presentation

def StorageState.durable (build : Build) (state : StorageState) :
    StorageState :=
  { state with
    inputProfiles := state.inputProfiles.durable
    presentation := state.presentation.durable build }

end HidShift
