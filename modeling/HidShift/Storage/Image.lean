import HidShift.Lib.Bytes
import HidShift.Lib.InPlace
import HidShift.Storage.State

/-! The 1024-byte storage image (`encode_storage_image`,
`decode_storage_image`).  Encoders give the bytes of their whole field, zero
fill included; offsets are those of the source. -/

namespace HidShift

open Lib

def storageMagic : List UInt8 := [0x45, 0x33, 0x32, 0x42]

def storageSchemaVersion : UInt16 := 1

def storageImageLen : Nat := 1024

def storageHeaderLen : Nat := 16

def storageBodyPrefixLen : Nat := 352

def storedInputProfileLen : Nat := 36

def storedHostRecordLen : Nat := 88

def storedBondLen : Nat := 48

def boolByte (value : Bool) : UInt8 := if value then 1 else 0

def writeU16 (value : UInt16) : List UInt8 := leBytes 2 value.toNat

def writeU32 (value : UInt32) : List UInt8 := leBytes 4 value.toNat

def writeU64 (value : UInt64) : List UInt8 := leBytes 8 value.toNat

def readU16 (bytes : List UInt8) : UInt16 := UInt16.ofNat (leValue bytes)

def readU32 (bytes : List UInt8) : UInt32 := UInt32.ofNat (leValue bytes)

def readU64 (bytes : List UInt8) : UInt64 := UInt64.ofNat (leValue bytes)

def byteAt (bytes : List UInt8) (index : Nat) : UInt8 := bytes.getD index 0

/-- `copy_from_slice` into a fixed array. -/
def readArray (size : Nat) (bytes : List UInt8) : Vector UInt8 size :=
  Vector.ofFn fun index => byteAt bytes index

def encodeGlobalSettings (settings : GlobalSettings) : List UInt8 :=
  [settings.bootTarget, boolByte settings.restoreLastTarget,
    boolByte settings.autoReconnect] ++
    writeU16 settings.switchReleaseDelayMs ++
      [settings.buttonShortAction, settings.buttonLongAction,
        settings.buttonVeryLongAction, settings.logLevel, 0, 0, 0]

def decodeGlobalSettings (bytes : List UInt8) :
    Except StorageError GlobalSettings :=
  let settings : GlobalSettings :=
    { bootTarget := byteAt bytes 0
      restoreLastTarget := byteAt bytes 1 ≠ 0
      autoReconnect := byteAt bytes 2 ≠ 0
      switchReleaseDelayMs := readU16 (slice bytes 3 2)
      buttonShortAction := byteAt bytes 5
      buttonLongAction := byteAt bytes 6
      buttonVeryLongAction := byteAt bytes 7
      logLevel := byteAt bytes 8 }
  if settings.bootTarget > 4 ∨ settings.switchReleaseDelayMs > 1000 ∨
      settings.buttonShortAction > 3 ∨ settings.buttonLongAction > 3 ∨
        settings.buttonVeryLongAction > 3 ∨ settings.logLevel > 4 then
    .error .invalidLength
  else
    .ok settings

def encodeOutputTarget : StoredOutputTarget → List UInt8
  | .wired => [0]
  | .ble slot => [slot.get]

def decodeOutputTarget (bytes : List UInt8) :
    Except StorageError StoredOutputTarget :=
  if byteAt bytes 0 = 0 then .ok .wired
  else
    match HostSlot.tryFrom (byteAt bytes 0) with
    | .ok slot => .ok (.ble slot)
    | .error _ => .error .invalidOutputTarget

def encodeWiredBleHost : Option HostSlot → List UInt8
  | none => [0]
  | some slot => [slot.get]

def decodeWiredBleHost (bytes : List UInt8) :
    Except StorageError (Option HostSlot) :=
  if byteAt bytes 0 = 0 then .ok none
  else
    match HostSlot.tryFrom (byteAt bytes 0) with
    | .ok slot => .ok (some slot)
    | .error _ => .error .invalidOutputTarget

def encodeMirrorTarget : Option MirrorStableId → List UInt8
  | none => List.replicate 24 0
  | some identity =>
      [(1 : UInt8) ||| (boolByte identity.serialHash.isSome <<< 1),
        identity.portPathLen] ++
        writeU16 identity.vendorId ++ writeU16 identity.productId ++
          writeU32 (identity.serialHash.getD 0) ++
            writeU32 identity.descriptorHash ++
              (identity.portPathBytes ++ [0, 0])

def decodeMirrorTarget (bytes : List UInt8) :
    Except StorageError (Option MirrorStableId) :=
  if byteAt bytes 0 &&& 1 = 0 then .ok none
  else
    let pathLen := (byteAt bytes 1).toNat
    if mirrorPortPathMaxLen < pathLen then .error .invalidOutputTarget
    else
      let serialHash :=
        if byteAt bytes 0 &&& 2 ≠ 0 then some (readU32 (slice bytes 6 4))
        else none
      match MirrorStableId.new (readU16 (slice bytes 2 2))
          (readU16 (slice bytes 4 2)) serialHash
          (readU32 (slice bytes 10 4)) (slice bytes 14 pathLen) with
      | .ok identity => .ok (some identity)
      | .error _ => .error .invalidOutputTarget

def encodePresentation (build : Build)
    (presentation : StoredPresentationConfig) (image : List UInt8) :
    List UInt8 :=
  match build with
  | .single => image
  | .dual =>
      let image :=
        overwrite image 32 (encodeOutputTarget presentation.outputTarget)
      let image :=
        overwrite image 33 (encodeWiredBleHost presentation.wiredBleHost)
      overwrite image 40 (encodeMirrorTarget presentation.mirrorTarget)

def decodePresentation (build : Build) (image : List UInt8) :
    Except StorageError StoredPresentationConfig :=
  match build with
  | .single => .ok .default
  | .dual => do
      let outputTarget ← decodeOutputTarget (slice image 32 1)
      let wiredBleHost ← decodeWiredBleHost (slice image 33 1)
      let mirrorTarget ← decodeMirrorTarget (slice image 40 24)
      return ⟨outputTarget, wiredBleHost, mirrorTarget⟩

def encodeInputSettings (settings : InputSettings) : List UInt8 :=
  [settings.keyboardLayout, settings.remapFromUsage, settings.remapToUsage,
    0] ++
    writeU16 settings.mouseSensitivityPercent ++
      writeU16 settings.scrollMultiplierPercent ++
        writeU16 settings.consumerFromUsage ++ writeU16 settings.consumerToUsage

def decodeInputSettings (bytes : List UInt8) :
    Except StorageError InputSettings :=
  let settings : InputSettings :=
    { keyboardLayout := byteAt bytes 0
      remapFromUsage := byteAt bytes 1
      remapToUsage := byteAt bytes 2
      mouseSensitivityPercent := readU16 (slice bytes 4 2)
      scrollMultiplierPercent := readU16 (slice bytes 6 2)
      consumerFromUsage := readU16 (slice bytes 8 2)
      consumerToUsage := readU16 (slice bytes 10 2)
      targetSwitchShortcut := .disabled }
  if settings.keyboardLayout > 2 ∨
      ¬ (10 ≤ settings.mouseSensitivityPercent ∧
        settings.mouseSensitivityPercent ≤ 400) ∨
      ¬ (10 ≤ settings.scrollMultiplierPercent ∧
        settings.scrollMultiplierPercent ≤ 400) ∨
      settings.consumerFromUsage > 1023 ∨ settings.consumerToUsage > 1023 then
    .error .invalidLength
  else
    .ok settings

def encodeInputProfile (profile : InputProfile) : List UInt8 :=
  [profile.id.get, 0] ++ writeU16 profile.identity.vendorId ++
    writeU16 profile.identity.productId ++
      writeU64 profile.identity.instanceHash ++
        writeU64 profile.lastSeen ++
          writeU16 profile.settings.targetSwitchShortcut.packed ++
            encodeInputSettings profile.settings

def decodeInputProfile (bytes : List UInt8) :
    Except StorageError InputProfile :=
  match InputProfileId.new (byteAt bytes 0) with
  | none => .error .invalidLength
  | some id => do
      let settings ← decodeInputSettings (slice bytes 24 12)
      match KeyboardShortcut.fromPacked (readU16 (slice bytes 22 2)) with
      | none => .error .invalidLength
      | some shortcut =>
          .ok (.restored id
            ⟨readU16 (slice bytes 2 2), readU16 (slice bytes 4 2),
              readU64 (slice bytes 6 8)⟩
            (readU64 (slice bytes 14 8))
            { settings with targetSwitchShortcut := shortcut })

def StoredSecurityLevel.toByte : StoredSecurityLevel → UInt8
  | .noEncryption => 0
  | .encrypted => 1
  | .encryptedAuthenticated => 2

def StoredSecurityLevel.ofByte? (byte : UInt8) : Option StoredSecurityLevel :=
  if byte = 0 then some .noEncryption
  else if byte = 1 then some .encrypted
  else if byte = 2 then some .encryptedAuthenticated
  else none

def StoredAddressKind.toByte : StoredAddressKind → UInt8
  | .publicAddress => 0
  | .randomAddress => 1

def StoredAddressKind.ofByte? (byte : UInt8) : Option StoredAddressKind :=
  if byte = 0 then some .publicAddress
  else if byte = 1 then some .randomAddress
  else none

def encodeBond : Option StoredBond → List UInt8
  | none => List.replicate storedBondLen 0
  | some bond =>
      [1] ++ (bond.peerAddress.toList ++ ([boolByte bond.peerIrk.isSome] ++
        ((bond.peerIrk.getD (Vector.replicate 16 0)).toList ++
          (bond.ltk.toList ++
            [boolByte bond.isBonded, bond.securityLevel.toByte,
              bond.peerAddressKind.toByte, 0, 0, 0, 0, 0]))))

def decodeBond (record : List UInt8) :
    Except StorageError (Option StoredBond) :=
  if byteAt record 0 = 0 then .ok none
  else
    match StoredSecurityLevel.ofByte? (byteAt record 41),
        StoredAddressKind.ofByte? (byteAt record 42) with
    | some securityLevel, some peerAddressKind =>
        .ok (some
          { peerAddress := readArray 6 (slice record 1 6)
            peerAddressKind
            peerIrk :=
              if byteAt record 7 = 0 then none
              else some (readArray 16 (slice record 8 16))
            ltk := readArray 16 (slice record 24 16)
            isBonded := byteAt record 40 ≠ 0
            securityLevel })
    | _, _ => .error .invalidLength

def encodeHostRecord (host : StoredHostProfile) : List UInt8 :=
  [host.hostId.val, boolByte host.bonded, boolByte host.keyboardCccdEnabled,
    boolByte host.mouseCccdEnabled, boolByte host.consumerCccdEnabled,
    boolByte host.keyboardOutputCccdEnabled, host.name.len, 0] ++
    (host.name.bytes.toList ++ encodeBond host.bond)

def decodeHostRecord (record : List UInt8) :
    Except StorageError StoredHostProfile :=
  if fits : (byteAt record 6).toNat ≤ maxHostNameLen then do
    let bond ← decodeBond (slice record 40 storedBondLen)
    return {
      hostId := ⟨byteAt record 0⟩
      bonded := byteAt record 1 ≠ 0
      keyboardCccdEnabled := byteAt record 2 ≠ 0
      mouseCccdEnabled := byteAt record 3 ≠ 0
      consumerCccdEnabled := byteAt record 4 ≠ 0
      keyboardOutputCccdEnabled := byteAt record 5 ≠ 0
      name := ⟨byteAt record 6, readArray 32 (slice record 8 32), fits⟩
      bond }
  else
    .error .invalidName

def storageBodyLen (hostCount : Nat) : Nat :=
  storageBodyPrefixLen + hostCount * storedHostRecordLen

def bodyLenIsValid (bodyLen : Nat) : Bool :=
  storageBodyPrefixLen ≤ bodyLen ∧ bodyLen ≤ storageBodyLen storedHostsMax ∧
    storageHeaderLen + bodyLen ≤ storageImageLen

def crcBit (crc : UInt32) : UInt32 :=
  (crc >>> 1) ^^^ (0xedb88320 &&& (0 - (crc &&& 1)))

def crcByte (crc : UInt32) (byte : UInt8) : UInt32 :=
  Nat.iterate crcBit 8 (crc ^^^ byte.toUInt32)

def crc32WithoutHeaderCrc (image : List UInt8) : UInt32 :=
  ~~~ image.zipIdx.foldl
    (fun crc entry =>
      if 12 ≤ entry.2 ∧ entry.2 < 16 then crc else crcByte crc entry.1)
    0xffffffff

def prefixImage (state : StorageState) : List UInt8 :=
  let image := List.replicate storageImageLen 0
  let image := overwrite image 0 storageMagic
  let image := overwrite image 4 (writeU16 storageSchemaVersion)
  let image := overwrite image 6
    (writeU16 (UInt16.ofNat (storageBodyLen state.hosts.toList.length)))
  let image := overwrite image 8 (writeU32 state.generation)
  let image := overwrite image 16
    [UInt8.ofNat state.hosts.toList.length,
      (state.lastActiveHost.map HostId.val).getD 0xff]
  let image := overwrite image 18 (encodeGlobalSettings state.globalSettings)
  overwrite image 30 [UInt8.ofNat state.inputProfiles.profiles.toList.length]

def uncheckedImage (build : Build) (state : StorageState) : List UInt8 :=
  let image := encodePresentation build state.presentation (prefixImage state)
  let image := overwriteRecords 64 storedInputProfileLen
    (state.inputProfiles.profiles.toList.map encodeInputProfile) 0 image
  overwriteRecords (storageHeaderLen + storageBodyPrefixLen)
    storedHostRecordLen (state.hosts.toList.map encodeHostRecord) 0 image

def imageOf (build : Build) (state : StorageState) : List UInt8 :=
  let image := uncheckedImage build state
  let bodyLen := storageBodyLen state.hosts.toList.length
  overwrite image 12
    (writeU32 (crc32WithoutHeaderCrc (image.take (storageHeaderLen + bodyLen))))

def encodeStorageImage (build : Build) (state : StorageState) :
    Except StorageError (List UInt8) := do
  state.validate
  return imageOf build state

theorem encodeStorageImage_valid (build : Build)
    (valid : state.validate = .ok ()) :
    encodeStorageImage build state = .ok (imageOf build state) := by
  rw [encodeStorageImage, valid]
  rfl

def restoreProfileRecord (registry : InputProfileRegistry)
    (record : List UInt8) : Except StorageError InputProfileRegistry := do
  let profile ← decodeInputProfile record
  match registry.restore profile with
  | .ok registry => return registry
  | .error _ => throw .invalidLength

def pushHostRecord (hosts : BoundedVec StoredHostProfile storedHostsMax)
    (record : List UInt8) :
    Except StorageError (BoundedVec StoredHostProfile storedHostsMax) := do
  let host ← decodeHostRecord record
  match hosts.push? host with
  | some hosts => return hosts
  | none => throw .hostCapacity

/-- The checks on the header, giving the number of host records. -/
def decodeHeader (image : List UInt8) : Except StorageError Nat := do
  require (storageImageLen ≤ image.length) .imageTooShort
  require (slice image 0 4 = storageMagic) .invalidMagic
  require (readU16 (slice image 4 2) = storageSchemaVersion)
    .unsupportedVersion
  let bodyLen := (readU16 (slice image 6 2)).toNat
  require (bodyLenIsValid bodyLen) .invalidLength
  require (readU32 (slice image 12 4) =
      crc32WithoutHeaderCrc (image.take (storageHeaderLen + bodyLen)))
    .crcMismatch
  let hostCount := (byteAt image 16).toNat
  require (hostCount ≤ storedHostsMax) .hostCountTooLarge
  require (storageBodyLen hostCount = bodyLen) .invalidLength
  return hostCount

@[irreducible] def decodeStorageImage (build : Build) (image : List UInt8) :
    Except StorageError StorageState := do
  let hostCount ← decodeHeader image
  let globalSettings ← decodeGlobalSettings (slice image 18 12)
  let inputProfileCount := (byteAt image 30).toNat
  require (inputProfileCount ≤ inputProfileCapacity) .invalidLength
  let presentation ← decodePresentation build image
  let inputProfiles ←
    (records image 64 storedInputProfileLen inputProfileCount).foldlM
      restoreProfileRecord .new
  let hosts ←
    (records image (storageHeaderLen + storageBodyPrefixLen)
      storedHostRecordLen hostCount).foldlM pushHostRecord .empty
  let state : StorageState :=
    { generation := readU32 (slice image 8 4)
      lastActiveHost :=
        if byteAt image 17 = 0xff then none else some ⟨byteAt image 17⟩
      globalSettings
      inputProfiles
      presentation
      hosts }
  state.validate
  return state

end HidShift
