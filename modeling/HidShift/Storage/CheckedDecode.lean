import HidShift.Lib.Checked
import HidShift.Storage.ImageLayout

namespace HidShift

open Lib
open Lib.Checked

abbrev StorageReader (α : Type) := Checked StorageError α

/-- `read_u16(&bytes[start..stop])` -/
def u16At (bytes : List UInt8) (start stop : Nat) : StorageReader UInt16 := do
  let field ← sliced bytes start stop
  return readU16 (← firstBytes 2 field)

def u32At (bytes : List UInt8) (start stop : Nat) : StorageReader UInt32 := do
  let field ← sliced bytes start stop
  return readU32 (← firstBytes 4 field)

def u64At (bytes : List UInt8) (start stop : Nat) : StorageReader UInt64 := do
  let field ← sliced bytes start stop
  return readU64 (← firstBytes 8 field)

/-- `copy_from_slice(&bytes[start..stop])` into an array. -/
def arrayAt (size : Nat) (bytes : List UInt8) (start stop : Nat) :
    StorageReader (Vector UInt8 size) := do
  let field ← sliced bytes start stop
  return readArray size (← copied size field)

section

variable {bytes : List UInt8} {α : Type} {rest : Except StorageError α}

theorem yields_byteAt (inRange : index < bytes.length)
    (restYields : Yields (next (byteAt bytes index)) rest) :
    Yields (indexed bytes index >>= next) rest :=
  yields_indexed inRange restYields

theorem yields_u16At (inRange : start + 2 ≤ bytes.length)
    (restYields : Yields (next (readU16 (slice bytes start 2))) rest) :
    Yields (u16At bytes start (start + 2) >>= next) rest := by
  rw [u16At, bind_assoc]
  apply yields_sliced ⟨Nat.le_add_right .., inRange⟩
  rw [Nat.add_sub_cancel_left, bind_assoc]
  exact yields_firstBytes (length_slice inRange) restYields

theorem yields_u32At (inRange : start + 4 ≤ bytes.length)
    (restYields : Yields (next (readU32 (slice bytes start 4))) rest) :
    Yields (u32At bytes start (start + 4) >>= next) rest := by
  rw [u32At, bind_assoc]
  apply yields_sliced ⟨Nat.le_add_right .., inRange⟩
  rw [Nat.add_sub_cancel_left, bind_assoc]
  exact yields_firstBytes (length_slice inRange) restYields

theorem yields_u64At (inRange : start + 8 ≤ bytes.length)
    (restYields : Yields (next (readU64 (slice bytes start 8))) rest) :
    Yields (u64At bytes start (start + 8) >>= next) rest := by
  rw [u64At, bind_assoc]
  apply yields_sliced ⟨Nat.le_add_right .., inRange⟩
  rw [Nat.add_sub_cancel_left, bind_assoc]
  exact yields_firstBytes (length_slice inRange) restYields

theorem yields_arrayAt (inRange : start + size ≤ bytes.length)
    (restYields : Yields (next (readArray size (slice bytes start size)))
      rest) :
    Yields (arrayAt size bytes start (start + size) >>= next) rest := by
  rw [arrayAt, bind_assoc]
  apply yields_sliced ⟨Nat.le_add_right .., inRange⟩
  rw [Nat.add_sub_cancel_left, bind_assoc]
  exact yields_copied (length_slice inRange) restYields

end

def decodeGlobalSettingsChecked (bytes : List UInt8) :
    StorageReader GlobalSettings := do
  let bootTarget ← indexed bytes 0
  let restoreLastTarget ← indexed bytes 1
  let autoReconnect ← indexed bytes 2
  let switchReleaseDelayMs ← u16At bytes 3 5
  let buttonShortAction ← indexed bytes 5
  let buttonLongAction ← indexed bytes 6
  let buttonVeryLongAction ← indexed bytes 7
  let logLevel ← indexed bytes 8
  let settings : GlobalSettings :=
    { bootTarget
      restoreLastTarget := restoreLastTarget ≠ 0
      autoReconnect := autoReconnect ≠ 0
      switchReleaseDelayMs
      buttonShortAction
      buttonLongAction
      buttonVeryLongAction
      logLevel }
  if settings.bootTarget > 4 ∨ settings.switchReleaseDelayMs > 1000 ∨
      settings.buttonShortAction > 3 ∨ settings.buttonLongAction > 3 ∨
        settings.buttonVeryLongAction > 3 ∨ settings.logLevel > 4 then
    throw .invalidLength
  else
    return settings

theorem yields_decodeGlobalSettings (sized : bytes.length = 12) :
    Yields (decodeGlobalSettingsChecked bytes)
      (decodeGlobalSettings bytes) := by
  rw [decodeGlobalSettingsChecked]
  apply yields_byteAt (by omega)
  apply yields_byteAt (by omega)
  apply yields_byteAt (by omega)
  apply yields_u16At (by omega)
  apply yields_byteAt (by omega)
  apply yields_byteAt (by omega)
  apply yields_byteAt (by omega)
  apply yields_byteAt (by omega)
  exact yields_ite (fun _ => yields_throw _) fun _ => yields_pure _

def decodeOutputTargetChecked (bytes : List UInt8) :
    StorageReader StoredOutputTarget := do
  let slot ← indexed bytes 0
  if slot = 0 then return .wired
  else
    match HostSlot.tryFrom slot with
    | .ok slot => return .ble slot
    | .error _ => throw .invalidOutputTarget

theorem yields_decodeOutputTarget (sized : bytes.length = 1) :
    Yields (decodeOutputTargetChecked bytes) (decodeOutputTarget bytes) := by
  rw [decodeOutputTargetChecked]
  apply yields_byteAt (by omega)
  apply yields_ite (fun _ => yields_pure _)
  intro _
  cases HostSlot.tryFrom (byteAt bytes 0) with
  | ok slot => exact yields_pure _
  | error error => exact yields_throw _

def decodeWiredBleHostChecked (bytes : List UInt8) :
    StorageReader (Option HostSlot) := do
  let slot ← indexed bytes 0
  if slot = 0 then return none
  else
    match HostSlot.tryFrom slot with
    | .ok slot => return some slot
    | .error _ => throw .invalidOutputTarget

theorem yields_decodeWiredBleHost (sized : bytes.length = 1) :
    Yields (decodeWiredBleHostChecked bytes) (decodeWiredBleHost bytes) := by
  rw [decodeWiredBleHostChecked]
  apply yields_byteAt (by omega)
  apply yields_ite (fun _ => yields_pure _)
  intro _
  cases HostSlot.tryFrom (byteAt bytes 0) with
  | ok slot => exact yields_pure _
  | error error => exact yields_throw _

def serialHashChecked (bytes : List UInt8) :
    StorageReader (Option UInt32) := do
  let flags ← indexed bytes 0
  if flags &&& 2 ≠ 0 then
    return some (← u32At bytes 6 10)
  else
    return none

def decodeMirrorTargetChecked (bytes : List UInt8) :
    StorageReader (Option MirrorStableId) := do
  let flags ← indexed bytes 0
  if flags &&& 1 = 0 then return none
  else
    let pathLen := (← indexed bytes 1).toNat
    if mirrorPortPathMaxLen < pathLen then throw .invalidOutputTarget
    else
      let serialHash ← serialHashChecked bytes
      let vendorId ← u16At bytes 2 4
      let productId ← u16At bytes 4 6
      let descriptorHash ← u32At bytes 10 14
      let portPath ← sliced bytes 14 (14 + pathLen)
      match MirrorStableId.new vendorId productId serialHash descriptorHash
          portPath with
      | .ok identity => return some identity
      | .error _ => throw .invalidOutputTarget

theorem yields_decodeMirrorTarget (sized : bytes.length = 24) :
    Yields (decodeMirrorTargetChecked bytes) (decodeMirrorTarget bytes) := by
  have serial : Yields (serialHashChecked bytes)
      (.ok (if byteAt bytes 0 &&& 2 ≠ 0 then
        some (readU32 (slice bytes 6 4)) else none)) := by
    rw [serialHashChecked]
    apply yields_byteAt (by omega)
    by_cases present : byteAt bytes 0 &&& 2 ≠ 0
    · rw [if_pos present, if_pos present]
      exact yields_u32At (by omega) (yields_pure _)
    · rw [if_neg present, if_neg present]
      exact yields_pure _
  rw [decodeMirrorTargetChecked]
  apply yields_byteAt (by omega)
  apply yields_ite (fun _ => yields_pure _)
  intro _
  apply yields_byteAt (by omega)
  apply yields_ite (fun _ => yields_throw _)
  intro fits
  have short : (byteAt bytes 1).toNat ≤ 8 := Nat.not_lt.mp fits
  apply yields_then serial
  apply yields_u16At (by omega)
  apply yields_u16At (by omega)
  apply yields_u32At (by omega)
  apply yields_sliced (by omega)
  rw [Nat.add_sub_cancel_left]
  dsimp only
  cases MirrorStableId.new (readU16 (slice bytes 2 2))
      (readU16 (slice bytes 4 2)) _ (readU32 (slice bytes 10 4))
      (slice bytes 14 (byteAt bytes 1).toNat) with
  | ok identity => exact yields_pure _
  | error error => exact yields_throw _

def decodePresentationChecked (build : Build) (image : List UInt8) :
    StorageReader StoredPresentationConfig :=
  match build with
  | .single => return .default
  | .dual => do
      let outputTarget ← decodeOutputTargetChecked (← sliced image 32 33)
      let wiredBleHost ← decodeWiredBleHostChecked (← sliced image 33 34)
      let mirrorTarget ← decodeMirrorTargetChecked (← sliced image 40 64)
      return ⟨outputTarget, wiredBleHost, mirrorTarget⟩

theorem yields_decodePresentation (build : Build)
    (long : storageImageLen ≤ image.length) :
    Yields (decodePresentationChecked build image)
      (decodePresentation build image) := by
  have room : 1024 ≤ image.length := long
  cases build with
  | single => exact yields_pure _
  | dual =>
      unfold decodePresentationChecked decodePresentation
      apply yields_sliced (by omega)
      refine yields_bind
        (yields_decodeOutputTarget (length_slice (by omega))) ?_
      intro outputTarget _
      apply yields_sliced (by omega)
      refine yields_bind
        (yields_decodeWiredBleHost (length_slice (by omega))) ?_
      intro wiredBleHost _
      apply yields_sliced (by omega)
      refine yields_bind
        (yields_decodeMirrorTarget (length_slice (by omega))) ?_
      intro mirrorTarget _
      exact yields_pure _

def decodeInputSettingsChecked (bytes : List UInt8) :
    StorageReader InputSettings := do
  let keyboardLayout ← indexed bytes 0
  let remapFromUsage ← indexed bytes 1
  let remapToUsage ← indexed bytes 2
  let mouseSensitivityPercent ← u16At bytes 4 6
  let scrollMultiplierPercent ← u16At bytes 6 8
  let consumerFromUsage ← u16At bytes 8 10
  let consumerToUsage ← u16At bytes 10 12
  let settings : InputSettings :=
    { keyboardLayout
      remapFromUsage
      remapToUsage
      mouseSensitivityPercent
      scrollMultiplierPercent
      consumerFromUsage
      consumerToUsage
      targetSwitchShortcut := .disabled }
  if settings.keyboardLayout > 2 ∨
      ¬ (10 ≤ settings.mouseSensitivityPercent ∧
        settings.mouseSensitivityPercent ≤ 400) ∨
      ¬ (10 ≤ settings.scrollMultiplierPercent ∧
        settings.scrollMultiplierPercent ≤ 400) ∨
      settings.consumerFromUsage > 1023 ∨ settings.consumerToUsage > 1023 then
    throw .invalidLength
  else
    return settings

theorem yields_decodeInputSettings (sized : bytes.length = 12) :
    Yields (decodeInputSettingsChecked bytes) (decodeInputSettings bytes) := by
  rw [decodeInputSettingsChecked]
  apply yields_byteAt (by omega)
  apply yields_byteAt (by omega)
  apply yields_byteAt (by omega)
  apply yields_u16At (by omega)
  apply yields_u16At (by omega)
  apply yields_u16At (by omega)
  apply yields_u16At (by omega)
  exact yields_ite (fun _ => yields_throw _) fun _ => yields_pure _

def decodeInputProfileChecked (bytes : List UInt8) :
    StorageReader InputProfile := do
  match InputProfileId.new (← indexed bytes 0) with
  | none => throw .invalidLength
  | some id =>
      let vendorId ← u16At bytes 2 4
      let productId ← u16At bytes 4 6
      let instanceHash ← u64At bytes 6 14
      let lastSeen ← u64At bytes 14 22
      let settings ← decodeInputSettingsChecked (← sliced bytes 24 36)
      match KeyboardShortcut.fromPacked (← u16At bytes 22 24) with
      | none => throw .invalidLength
      | some shortcut =>
          return .restored id ⟨vendorId, productId, instanceHash⟩ lastSeen
            { settings with targetSwitchShortcut := shortcut }

theorem yields_decodeInputProfile
    (sized : bytes.length = storedInputProfileLen) :
    Yields (decodeInputProfileChecked bytes) (decodeInputProfile bytes) := by
  have room : bytes.length = 36 := sized
  rw [decodeInputProfileChecked]
  unfold decodeInputProfile
  apply yields_byteAt (by omega)
  cases InputProfileId.new (byteAt bytes 0) with
  | none => exact yields_throw _
  | some id =>
      apply yields_u16At (by omega)
      apply yields_u16At (by omega)
      apply yields_u64At (by omega)
      apply yields_u64At (by omega)
      apply yields_sliced (by omega)
      refine yields_bind
        (yields_decodeInputSettings (length_slice (by omega))) ?_
      intro settings _
      apply yields_u16At (by omega)
      cases KeyboardShortcut.fromPacked (readU16 (slice bytes 22 2)) with
      | none => exact yields_throw _
      | some shortcut => exact yields_pure _

def peerIrkChecked (record : List UInt8) :
    StorageReader (Option (Vector UInt8 16)) := do
  if (← indexed record 7) = 0 then return none
  else return some (← arrayAt 16 record 8 24)

def decodeBondChecked (record : List UInt8) :
    StorageReader (Option StoredBond) := do
  if (record.head?.getD 0) = 0 then return none
  else
    match StoredSecurityLevel.ofByte? (← indexed record 41) with
    | none => throw .invalidLength
    | some securityLevel =>
        match StoredAddressKind.ofByte? (← indexed record 42) with
        | none => throw .invalidLength
        | some peerAddressKind =>
            let peerAddress ← arrayAt 6 record 1 7
            let peerIrk ← peerIrkChecked record
            let ltk ← arrayAt 16 record 24 40
            let isBonded ← indexed record 40
            return some
              { peerAddress
                peerAddressKind
                peerIrk
                ltk
                isBonded := isBonded ≠ 0
                securityLevel }

theorem yields_decodeBond (sized : record.length = storedBondLen) :
    Yields (decodeBondChecked record) (decodeBond record) := by
  have room : record.length = 48 := sized
  have first : record.head?.getD 0 = byteAt record 0 := by
    cases record <;> rfl
  have irk : Yields (peerIrkChecked record)
      (.ok (if byteAt record 7 = 0 then none
        else some (readArray 16 (slice record 8 16)))) := by
    rw [peerIrkChecked]
    apply yields_byteAt (by omega)
    by_cases absent : byteAt record 7 = 0
    · rw [if_pos absent, if_pos absent]
      exact yields_pure _
    · rw [if_neg absent, if_neg absent]
      exact yields_arrayAt (by omega) (yields_pure _)
  rw [decodeBondChecked, first]
  unfold decodeBond
  apply yields_ite (fun _ => yields_pure _)
  intro _
  apply yields_byteAt (by omega)
  cases StoredSecurityLevel.ofByte? (byteAt record 41) with
  | none => exact yields_throw _
  | some securityLevel =>
      apply yields_byteAt (by omega)
      cases StoredAddressKind.ofByte? (byteAt record 42) with
      | none => exact yields_throw _
      | some peerAddressKind =>
          apply yields_arrayAt (by omega)
          apply yields_then irk
          apply yields_arrayAt (by omega)
          apply yields_byteAt (by omega)
          exact yields_pure _

def decodeHostRecordChecked (record : List UInt8) :
    StorageReader StoredHostProfile := do
  let nameLen ← indexed record 6
  if fits : nameLen.toNat ≤ maxHostNameLen then
    let name ← arrayAt 32 record 8 40
    let hostId ← indexed record 0
    let bonded ← indexed record 1
    let keyboardCccdEnabled ← indexed record 2
    let mouseCccdEnabled ← indexed record 3
    let consumerCccdEnabled ← indexed record 4
    let keyboardOutputCccdEnabled ← indexed record 5
    let bond ← decodeBondChecked (← sliced record 40 (40 + storedBondLen))
    return {
      hostId := ⟨hostId⟩
      bonded := bonded ≠ 0
      keyboardCccdEnabled := keyboardCccdEnabled ≠ 0
      mouseCccdEnabled := mouseCccdEnabled ≠ 0
      consumerCccdEnabled := consumerCccdEnabled ≠ 0
      keyboardOutputCccdEnabled := keyboardOutputCccdEnabled ≠ 0
      name := ⟨nameLen, name, fits⟩
      bond }
  else
    throw .invalidName

theorem yields_decodeHostRecord (sized : record.length = storedHostRecordLen) :
    Yields (decodeHostRecordChecked record) (decodeHostRecord record) := by
  have room : record.length = 88 := sized
  rw [decodeHostRecordChecked]
  unfold decodeHostRecord
  apply yields_byteAt (by omega)
  by_cases fits : (byteAt record 6).toNat ≤ maxHostNameLen
  · rw [dif_pos fits, dif_pos fits]
    apply yields_arrayAt (by omega)
    apply yields_byteAt (by omega)
    apply yields_byteAt (by omega)
    apply yields_byteAt (by omega)
    apply yields_byteAt (by omega)
    apply yields_byteAt (by omega)
    apply yields_byteAt (by omega)
    apply yields_sliced (by simp only [storedBondLen]; omega)
    rw [Nat.add_sub_cancel_left]
    refine yields_bind (yields_decodeBond
      (length_slice (by simp only [storedBondLen]; omega))) ?_
    intro bond _
    exact yields_pure _
  · rw [dif_neg fits, dif_neg fits]
    exact yields_throw _

def decodeHeaderChecked (image : List UInt8) : StorageReader Nat := do
  result (require (storageImageLen ≤ image.length) .imageTooShort)
  let magic ← sliced image 0 4
  result (require (magic = storageMagic) .invalidMagic)
  let version ← u16At image 4 6
  result (require (version = storageSchemaVersion) .unsupportedVersion)
  let bodyLen := (← u16At image 6 8).toNat
  result (require (bodyLenIsValid bodyLen) .invalidLength)
  let expectedCrc32 ← u32At image 12 16
  let covered ← sliced image 0 (storageHeaderLen + bodyLen)
  result (require (expectedCrc32 = crc32WithoutHeaderCrc covered) .crcMismatch)
  let hostCount := (← indexed image 16).toNat
  result (require (hostCount ≤ storedHostsMax) .hostCountTooLarge)
  result (require (storageBodyLen hostCount = bodyLen) .invalidLength)
  return hostCount

theorem yields_decodeHeader (image : List UInt8) :
    Yields (decodeHeaderChecked image) (decodeHeader image) := by
  rw [decodeHeaderChecked, decodeHeader]
  refine yields_bind (yields_result _) ?_
  intro _ enough
  have room : 1024 ≤ image.length := require_eq_ok.mp enough
  apply yields_sliced (by omega)
  refine yields_bind (yields_result _) ?_
  intro _ _
  apply yields_u16At (by omega)
  refine yields_bind (yields_result _) ?_
  intro _ _
  apply yields_u16At (by omega)
  refine yields_bind (yields_result _) ?_
  intro _ valid
  have bodyFits : storageHeaderLen + (readU16 (slice image 6 2)).toNat ≤
      1024 := (of_decide_eq_true (require_eq_ok.mp valid)).2.2
  apply yields_u32At (by omega)
  apply yields_sliced (by omega)
  refine yields_bind (yields_result _) ?_
  intro _ _
  apply yields_byteAt (by omega)
  refine yields_bind (yields_result _) ?_
  intro _ _
  refine yields_bind (yields_result _) ?_
  intro _ _
  exact yields_pure _

theorem decodeHeader_ok (header : decodeHeader image = .ok hostCount) :
    storageImageLen ≤ image.length ∧ hostCount ≤ storedHostsMax := by
  obtain ⟨_, enough, header⟩ := bind_eq_ok.mp header
  obtain ⟨_, _, header⟩ := bind_eq_ok.mp header
  obtain ⟨_, _, header⟩ := bind_eq_ok.mp header
  obtain ⟨_, _, header⟩ := bind_eq_ok.mp header
  obtain ⟨_, _, header⟩ := bind_eq_ok.mp header
  obtain ⟨_, few, header⟩ := bind_eq_ok.mp header
  obtain ⟨_, _, header⟩ := bind_eq_ok.mp header
  cases header
  exact ⟨require_eq_ok.mp enough, require_eq_ok.mp few⟩

def restoreProfileAt (image : List UInt8) (registry : InputProfileRegistry)
    (index : Nat) : StorageReader InputProfileRegistry := do
  let offset := 64 + index * storedInputProfileLen
  let profile ← decodeInputProfileChecked
    (← sliced image offset (offset + storedInputProfileLen))
  match registry.restore profile with
  | .ok registry => return registry
  | .error _ => throw .invalidLength

def pushHostAt (image : List UInt8)
    (hosts : BoundedVec StoredHostProfile storedHostsMax) (index : Nat) :
    StorageReader (BoundedVec StoredHostProfile storedHostsMax) := do
  let offset :=
    storageHeaderLen + storageBodyPrefixLen + index * storedHostRecordLen
  let host ← decodeHostRecordChecked
    (← sliced image offset (offset + storedHostRecordLen))
  match hosts.push? host with
  | some hosts => return hosts
  | none => throw .hostCapacity

@[irreducible] def decodeStorageImageChecked (build : Build)
    (image : List UInt8) : StorageReader StorageState := do
  let hostCount ← decodeHeaderChecked image
  let generation ← u32At image 8 12
  let activeHost ← indexed image 17
  let globalSettings ← decodeGlobalSettingsChecked (← sliced image 18 30)
  let inputProfileCount := (← indexed image 30).toNat
  result (require (inputProfileCount ≤ inputProfileCapacity) .invalidLength)
  let presentation ← decodePresentationChecked build image
  let inputProfiles ←
    (List.range inputProfileCount).foldlM (restoreProfileAt image) .new
  let hosts ← (List.range hostCount).foldlM (pushHostAt image) .empty
  let state : StorageState :=
    { generation
      lastActiveHost := if activeHost = 0xff then none else some ⟨activeHost⟩
      globalSettings
      inputProfiles
      presentation
      hosts }
  result state.validate
  return state

section

variable {image : List UInt8} (long : storageImageLen ≤ image.length)

include long

theorem yields_restoreProfileAt (registry : InputProfileRegistry)
    (inRange : index < inputProfileCapacity) :
    Yields (restoreProfileAt image registry index)
      (restoreProfileRecord registry
        (slice image (64 + index * storedInputProfileLen)
          storedInputProfileLen)) := by
  have room : 1024 ≤ image.length := long
  have few : index < 8 := inRange
  have fits : 64 + index * storedInputProfileLen + storedInputProfileLen ≤
      image.length := by
    simp only [storedInputProfileLen]
    omega
  rw [restoreProfileAt, restoreProfileRecord]
  apply yields_sliced ⟨Nat.le_add_right .., fits⟩
  rw [Nat.add_sub_cancel_left]
  refine yields_bind (yields_decodeInputProfile (length_slice fits)) ?_
  intro profile _
  cases registry.restore profile with
  | ok next => exact yields_pure _
  | error error => exact yields_throw _

theorem yields_pushHostAt (hosts : BoundedVec StoredHostProfile storedHostsMax)
    (inRange : index < storedHostsMax) :
    Yields (pushHostAt image hosts index)
      (pushHostRecord hosts
        (slice image
          (storageHeaderLen + storageBodyPrefixLen +
            index * storedHostRecordLen)
          storedHostRecordLen)) := by
  have room : 1024 ≤ image.length := long
  have few : index < 4 := inRange
  have fits : storageHeaderLen + storageBodyPrefixLen +
      index * storedHostRecordLen + storedHostRecordLen ≤ image.length := by
    simp only [storageHeaderLen, storageBodyPrefixLen, storedHostRecordLen]
    omega
  rw [pushHostAt, pushHostRecord]
  apply yields_sliced ⟨Nat.le_add_right .., fits⟩
  rw [Nat.add_sub_cancel_left]
  refine yields_bind (yields_decodeHostRecord (length_slice fits)) ?_
  intro host _
  cases hosts.push? host with
  | some next => exact yields_pure _
  | none => exact yields_throw _

end

theorem yields_decodeStorageImage (build : Build) (image : List UInt8) :
    Yields (decodeStorageImageChecked build image)
      (decodeStorageImage build image) := by
  unfold decodeStorageImageChecked decodeStorageImage
  refine yields_bind (yields_decodeHeader image) ?_
  intro hostCount header
  obtain ⟨long, fewHosts⟩ := decodeHeader_ok header
  have room : 1024 ≤ image.length := long
  apply yields_u32At (by omega)
  apply yields_byteAt (by omega)
  apply yields_sliced (by omega)
  refine yields_bind (yields_decodeGlobalSettings (length_slice (by omega))) ?_
  intro globalSettings _
  apply yields_byteAt (by omega)
  refine yields_bind (yields_result _) ?_
  intro _ enough
  have fewProfiles := require_eq_ok.mp enough
  refine yields_bind (yields_decodePresentation build long) ?_
  intro presentation _
  rw [records, List.foldlM_map, records, List.foldlM_map]
  refine yields_bind (yields_foldlM _ ?_) ?_
  · intro registry index member
    exact yields_restoreProfileAt long registry
      (Nat.lt_of_lt_of_le (List.mem_range.mp member) fewProfiles)
  · intro inputProfiles _
    refine yields_bind (yields_foldlM _ ?_) ?_
    · intro hosts index member
      exact yields_pushHostAt long hosts
        (Nat.lt_of_lt_of_le (List.mem_range.mp member) fewHosts)
    · intro hosts _
      refine yields_bind (yields_result _) ?_
      intro _ _
      exact yields_pure _

theorem decodeStorageImage_valid
    (decoded : decodeStorageImage build image = .ok state) :
    state.validate = .ok () := by
  unfold decodeStorageImage at decoded
  obtain ⟨_, _, decoded⟩ := bind_eq_ok.mp decoded
  obtain ⟨_, _, decoded⟩ := bind_eq_ok.mp decoded
  obtain ⟨_, _, decoded⟩ := bind_eq_ok.mp decoded
  obtain ⟨_, _, decoded⟩ := bind_eq_ok.mp decoded
  obtain ⟨_, _, decoded⟩ := bind_eq_ok.mp decoded
  obtain ⟨_, _, decoded⟩ := bind_eq_ok.mp decoded
  obtain ⟨_, valid, decoded⟩ := bind_eq_ok.mp decoded
  cases decoded
  exact valid

end HidShift
