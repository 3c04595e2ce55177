import HidShift.Storage.Image

namespace HidShift

open Lib

@[simp] theorem readU16_writeU16 (value : UInt16) :
    readU16 (writeU16 value) = value := by
  rw [readU16, writeU16, leValue_leBytes value.toNat_lt, UInt16.ofNat_toNat]

@[simp] theorem readU32_writeU32 (value : UInt32) :
    readU32 (writeU32 value) = value := by
  rw [readU32, writeU32, leValue_leBytes value.toNat_lt, UInt32.ofNat_toNat]

@[simp] theorem readU64_writeU64 (value : UInt64) :
    readU64 (writeU64 value) = value := by
  rw [readU64, writeU64, leValue_leBytes value.toNat_lt, UInt64.ofNat_toNat]

@[simp] theorem length_writeU16 (value : UInt16) :
    (writeU16 value).length = 2 := length_leBytes 2 _

@[simp] theorem length_writeU32 (value : UInt32) :
    (writeU32 value).length = 4 := length_leBytes 4 _

variable {bytes : List UInt8}

theorem writeU16_readU16 (two : bytes.length = 2) :
    writeU16 (readU16 bytes) = bytes := by
  have small := leValue_lt bytes
  have whole := leBytes_leValue bytes
  rw [two] at small whole
  rw [writeU16, readU16, UInt16.toNat_ofNat_of_lt' small, whole]

theorem writeU32_readU32 (four : bytes.length = 4) :
    writeU32 (readU32 bytes) = bytes := by
  have small := leValue_lt bytes
  have whole := leBytes_leValue bytes
  rw [four] at small whole
  rw [writeU32, readU32, UInt32.toNat_ofNat_of_lt' small, whole]

theorem writeU16_inj (same : writeU16 value = writeU16 other) :
    value = other := by
  rw [← readU16_writeU16 value, same, readU16_writeU16]

theorem writeU32_inj (same : writeU32 value = writeU32 other) :
    value = other := by
  rw [← readU32_writeU32 value, same, readU32_writeU32]

theorem toList_readArray (sized : bytes.length = size) :
    (readArray size bytes).toList = bytes := by
  apply List.ext_getElem
  · rw [Vector.length_toList, sized]
  · intro index inArray inBytes
    simp only [readArray, Vector.getElem_toList, Vector.getElem_ofFn]
    rw [byteAt, List.getD_eq_getElem?_getD, List.getElem?_eq_getElem inBytes]
    rfl

@[simp] theorem boolByte_ne_zero (value : Bool) :
    decide (boolByte value ≠ 0) = value := by
  cases value <;> decide

theorem byteAt_slice (bytes : List UInt8) (offset size index : Nat)
    (inside : index < size) :
    byteAt (slice bytes offset size) index = byteAt bytes (offset + index) := by
  rw [byteAt, byteAt, List.getD_eq_getElem?_getD, List.getD_eq_getElem?_getD,
    getElem?_slice, if_pos inside]

@[simp] theorem readArray_toList (array : Vector UInt8 size) :
    readArray size array.toList = array := by
  apply Vector.ext
  intro index inside
  rw [readArray, Vector.getElem_ofFn, byteAt, List.getD_eq_getElem?_getD,
    List.getElem?_eq_getElem (by rw [Vector.length_toList]; exact inside)]
  rfl

/-- The ranges `decode_global_settings` accepts. -/
def GlobalSettings.Storable (settings : GlobalSettings) : Prop :=
  ¬ (settings.bootTarget > 4 ∨ settings.switchReleaseDelayMs > 1000 ∨
    settings.buttonShortAction > 3 ∨ settings.buttonLongAction > 3 ∨
      settings.buttonVeryLongAction > 3 ∨ settings.logLevel > 4)

theorem decodeGlobalSettings_encode :
    decodeGlobalSettings (encodeGlobalSettings settings) = .ok decoded ↔
      settings.Storable ∧ settings = decoded := by
  have delay : slice (encodeGlobalSettings settings) 3 2 =
      writeU16 settings.switchReleaseDelayMs := rfl
  have read : decodeGlobalSettings (encodeGlobalSettings settings) =
      if settings.bootTarget > 4 ∨ settings.switchReleaseDelayMs > 1000 ∨
          settings.buttonShortAction > 3 ∨ settings.buttonLongAction > 3 ∨
            settings.buttonVeryLongAction > 3 ∨ settings.logLevel > 4 then
        .error .invalidLength
      else
        .ok settings := by
    simp only [decodeGlobalSettings]
    rw [delay, readU16_writeU16]
    change (if _ then _ else Except.ok
      { settings with
        restoreLastTarget := decide (boolByte settings.restoreLastTarget ≠ 0)
        autoReconnect := decide (boolByte settings.autoReconnect ≠ 0) }) = _
    rw [boolByte_ne_zero, boolByte_ne_zero]
    rfl
  rw [read, GlobalSettings.Storable]
  split <;> simp [*]

theorem toNat_packed (shortcut : KeyboardShortcut) :
    shortcut.packed.toNat =
      shortcut.key.val.toNat + 256 * shortcut.modifiers.toNat := by
  have key := shortcut.key.val.toNat_lt
  have modifiers := shortcut.modifiers.isLt
  rw [KeyboardShortcut.packed, UInt16.toNat_add, UInt16.toNat_mul]
  change (shortcut.key.val.toNat +
    (256 * shortcut.modifiers.toNat) % 65536) % 65536 = _
  omega

/-- The shortcuts `from_packed` accepts. -/
def KeyboardShortcut.Storable (shortcut : KeyboardShortcut) : Prop :=
  ¬ (0xe0 ≤ shortcut.key.val ∧ shortcut.key.val ≤ 0xe7)

theorem fromPacked_packed {shortcut : KeyboardShortcut} :
    KeyboardShortcut.fromPacked shortcut.packed = some decoded ↔
      shortcut.Storable ∧ shortcut.durable = decoded := by
  have packed := toNat_packed shortcut
  have keyBound := shortcut.key.val.toNat_lt
  have modifierBound := shortcut.modifiers.isLt
  have key : shortcut.packed.toUInt8 = shortcut.key.val := by
    apply UInt8.toNat_inj.mp
    rw [UInt16.toNat_toUInt8, packed]
    omega
  have modifiers :
      (shortcut.packed >>> 8).toUInt8.toBitVec = shortcut.modifiers := by
    apply BitVec.eq_of_toNat_eq
    change (shortcut.packed >>> 8).toUInt8.toNat = _
    rw [UInt16.toNat_toUInt8, UInt16.toNat_shiftRight, packed]
    change (_ >>> 8) % 256 = _
    rw [Nat.shiftRight_eq_div_pow]
    omega
  rw [KeyboardShortcut.fromPacked, key, modifiers]
  unfold KeyboardShortcut.new KeyboardShortcut.durable
    KeyboardShortcut.Storable
  by_cases off : shortcut.key.val = 0
  · simp [off]
  · simp only [off, if_false, false_or]
    split <;> simp [*]

/-- The ranges `decode_input_settings` accepts. -/
def InputSettings.InRange (settings : InputSettings) : Prop :=
  ¬ (settings.keyboardLayout > 2 ∨
    ¬ (10 ≤ settings.mouseSensitivityPercent ∧
      settings.mouseSensitivityPercent ≤ 400) ∨
    ¬ (10 ≤ settings.scrollMultiplierPercent ∧
      settings.scrollMultiplierPercent ≤ 400) ∨
    settings.consumerFromUsage > 1023 ∨ settings.consumerToUsage > 1023)

theorem decodeInputSettings_encode :
    decodeInputSettings (encodeInputSettings settings) = .ok decoded ↔
      settings.InRange ∧
        { settings with targetSwitchShortcut := .disabled } = decoded := by
  have mouse : slice (encodeInputSettings settings) 4 2 =
      writeU16 settings.mouseSensitivityPercent := rfl
  have scroll : slice (encodeInputSettings settings) 6 2 =
      writeU16 settings.scrollMultiplierPercent := rfl
  have consumerFrom : slice (encodeInputSettings settings) 8 2 =
      writeU16 settings.consumerFromUsage := rfl
  have consumerTo : slice (encodeInputSettings settings) 10 2 =
      writeU16 settings.consumerToUsage := rfl
  simp only [decodeInputSettings]
  rw [mouse, scroll, consumerFrom, consumerTo]
  simp only [readU16_writeU16]
  rw [InputSettings.InRange]
  change (if _ then _ else Except.ok
    { settings with targetSwitchShortcut := .disabled }) = _ ↔ _
  split
  · rename_i outside
    constructor
    · intro impossible
      cases impossible
    · intro inside
      exact absurd outside inside.1
  · rename_i inside
    rw [Except.ok.injEq]
    exact ⟨fun same => ⟨inside, same⟩, And.right⟩

def InputSettings.Storable (settings : InputSettings) : Prop :=
  settings.InRange ∧ settings.targetSwitchShortcut.Storable

@[simp] theorem length_encodeInputProfile (profile : InputProfile) :
    (encodeInputProfile profile).length = storedInputProfileLen := rfl

theorem decodeInputProfile_encode :
    decodeInputProfile (encodeInputProfile profile) = .ok decoded ↔
      profile.settings.Storable ∧ profile.durable = decoded := by
  have id : InputProfileId.new (byteAt (encodeInputProfile profile) 0) =
      some profile.id := dif_pos profile.id.inRange
  have vendor : slice (encodeInputProfile profile) 2 2 =
      writeU16 profile.identity.vendorId := rfl
  have product : slice (encodeInputProfile profile) 4 2 =
      writeU16 profile.identity.productId := rfl
  have instanceHash : slice (encodeInputProfile profile) 6 8 =
      writeU64 profile.identity.instanceHash := rfl
  have lastSeen : slice (encodeInputProfile profile) 14 8 =
      writeU64 profile.lastSeen := rfl
  have shortcut : slice (encodeInputProfile profile) 22 2 =
      writeU16 profile.settings.targetSwitchShortcut.packed := rfl
  have settings : slice (encodeInputProfile profile) 24 12 =
      encodeInputSettings profile.settings := rfl
  simp only [decodeInputProfile]
  rw [id, vendor, product, instanceHash, lastSeen, shortcut, settings]
  simp only [readU16_writeU16, readU64_writeU64]
  rw [bind_eq_ok]
  constructor
  · rintro ⟨decodedSettings, settingsRead, rest⟩
    obtain ⟨inRange, rfl⟩ := decodeInputSettings_encode.mp settingsRead
    split at rest
    · cases rest
    · rename_i decodedShortcut shortcutRead
      obtain ⟨storable, rfl⟩ := fromPacked_packed.mp shortcutRead
      cases rest
      exact ⟨⟨inRange, storable⟩, rfl⟩
  · rintro ⟨⟨inRange, storable⟩, rfl⟩
    refine ⟨_, decodeInputSettings_encode.mpr ⟨inRange, rfl⟩, ?_⟩
    rw [fromPacked_packed.mpr ⟨storable, rfl⟩]
    rfl

theorem length_encodeBond (bond : Option StoredBond) :
    (encodeBond bond).length = storedBondLen := by
  cases bond with
  | none => exact List.length_replicate
  | some bond =>
      simp only [encodeBond, List.length_append, Vector.length_toList,
        List.length_cons, List.length_nil]
      rfl

theorem decodeBond_encode (bond : Option StoredBond) :
    decodeBond (encodeBond bond) = .ok bond := by
  cases bond with
  | none => rfl
  | some bond =>
      have single : ∀ {byte : UInt8}, [byte].length = 1 := rfl
      have address := bond.peerAddress.length_toList
      have irk := (bond.peerIrk.getD (Vector.replicate 16 0)).length_toList
      have ltk := bond.ltk.length_toList
      have addressRead : slice (encodeBond (some bond)) (1 + 0) 6 =
          bond.peerAddress.toList := by
        rw [encodeBond, slice_skip single, slice_front address]
      have irkFlagRead :
          byteAt (slice (encodeBond (some bond)) (1 + (6 + 0)) 1) 0 =
            boolByte bond.peerIrk.isSome := by
        rw [encodeBond, slice_skip single, slice_skip address, slice_front single]
        rfl
      have irkRead : slice (encodeBond (some bond)) (1 + (6 + (1 + 0))) 16 =
          (bond.peerIrk.getD (Vector.replicate 16 0)).toList := by
        rw [encodeBond, slice_skip single, slice_skip address,
          slice_skip single, slice_front irk]
      have ltkRead :
          slice (encodeBond (some bond)) (1 + (6 + (1 + (16 + 0)))) 16 =
            bond.ltk.toList := by
        rw [encodeBond, slice_skip single, slice_skip address,
          slice_skip single, slice_skip irk, slice_front ltk]
      have tailRead :
          slice (encodeBond (some bond)) (1 + (6 + (1 + (16 + (16 + 0))))) 8 =
            [boolByte bond.isBonded, bond.securityLevel.toByte,
              bond.peerAddressKind.toByte, 0, 0, 0, 0, 0] := by
        rw [encodeBond, slice_skip single, slice_skip address,
          slice_skip single, slice_skip irk, slice_skip ltk, slice_whole]
        rfl
      have level : StoredSecurityLevel.ofByte?
          (byteAt (encodeBond (some bond)) (40 + 1)) =
            some bond.securityLevel := by
        rw [← byteAt_slice _ 40 8 1 (by decide), tailRead]
        cases bond.securityLevel <;> rfl
      have kind : StoredAddressKind.ofByte?
          (byteAt (encodeBond (some bond)) (40 + 2)) =
            some bond.peerAddressKind := by
        rw [← byteAt_slice _ 40 8 2 (by decide), tailRead]
        cases bond.peerAddressKind <;> rfl
      have bonded : decide (byteAt (encodeBond (some bond)) (40 + 0) ≠ 0) =
          bond.isBonded := by
        rw [← byteAt_slice _ 40 8 0 (by decide), tailRead]
        exact boolByte_ne_zero bond.isBonded
      have irkChoice : (if byteAt (encodeBond (some bond)) (7 + 0) = 0 then none
          else some (readArray 16 (slice (encodeBond (some bond)) 8 16))) =
            bond.peerIrk := by
        rw [← byteAt_slice _ 7 1 0 (by decide), irkFlagRead, irkRead,
          readArray_toList]
        cases bond.peerIrk <;> rfl
      have present : ¬ byteAt (encodeBond (some bond)) 0 = 0 :=
        show ¬ (1 : UInt8) = 0 by decide
      simp only [decodeBond]
      rw [if_neg present, level, kind]
      dsimp only
      rw [irkChoice, bonded, addressRead, ltkRead, readArray_toList,
        readArray_toList]

theorem decodeHostRecord_encode (host : StoredHostProfile) :
    decodeHostRecord (encodeHostRecord host) = .ok host := by
  have nameRead : slice (encodeHostRecord host) (8 + 0) 32 =
      host.name.bytes.toList := by
    rw [encodeHostRecord, slice_skip, slice_front host.name.bytes.length_toList]
    rfl
  have bondRead :
      slice (encodeHostRecord host) (8 + (32 + 0)) storedBondLen =
        encodeBond host.bond := by
    rw [encodeHostRecord, slice_skip, slice_skip host.name.bytes.length_toList,
      slice_whole (length_encodeBond host.bond)]
    rfl
  have fits : (byteAt (encodeHostRecord host) 6).toNat ≤ maxHostNameLen :=
    host.name.fits
  simp only [decodeHostRecord]
  rw [dif_pos fits, bondRead, decodeBond_encode]
  change Except.ok
    { host with
      bonded := decide (boolByte host.bonded ≠ 0)
      keyboardCccdEnabled := decide (boolByte host.keyboardCccdEnabled ≠ 0)
      mouseCccdEnabled := decide (boolByte host.mouseCccdEnabled ≠ 0)
      consumerCccdEnabled := decide (boolByte host.consumerCccdEnabled ≠ 0)
      keyboardOutputCccdEnabled :=
        decide (boolByte host.keyboardOutputCccdEnabled ≠ 0)
      name :=
        ⟨host.name.len, readArray 32 (slice (encodeHostRecord host) (8 + 0) 32),
          host.name.fits⟩ } = _
  simp only [boolByte_ne_zero, nameRead, readArray_toList]

theorem length_encodeHostRecord (host : StoredHostProfile) :
    (encodeHostRecord host).length = storedHostRecordLen := by
  rw [encodeHostRecord, List.length_append, List.length_append,
    Vector.length_toList, length_encodeBond]
  rfl

theorem tryFrom_slot (slot : HostSlot) :
    HostSlot.tryFrom slot.get = .ok slot := dif_pos slot.inRange

theorem slot_ne_zero (slot : HostSlot) : slot.get ≠ 0 := by
  intro zero
  have inRange := slot.inRange.1
  rw [zero] at inRange
  revert inRange
  decide

theorem decodeOutputTarget_encode (target : StoredOutputTarget) :
    decodeOutputTarget (encodeOutputTarget target) = .ok target := by
  cases target with
  | wired => rfl
  | ble slot =>
      have read : byteAt (encodeOutputTarget (.ble slot)) 0 = slot.get := rfl
      rw [decodeOutputTarget, read, if_neg (slot_ne_zero slot), tryFrom_slot]

theorem decodeWiredBleHost_encode (host : Option HostSlot) :
    decodeWiredBleHost (encodeWiredBleHost host) = .ok host := by
  cases host with
  | none => rfl
  | some slot =>
      have read : byteAt (encodeWiredBleHost (some slot)) 0 = slot.get := rfl
      rw [decodeWiredBleHost, read, if_neg (slot_ne_zero slot), tryFrom_slot]

theorem length_encodeMirrorTarget (target : Option MirrorStableId) :
    (encodeMirrorTarget target).length = 24 := by
  cases target with
  | none => rfl
  | some identity =>
      have fits := identity.portPath.length_le
      unfold mirrorPortPathMaxLen at fits
      simp only [encodeMirrorTarget, MirrorStableId.portPathBytes,
        List.length_append, List.length_cons, List.length_nil,
        List.length_replicate, length_writeU16, length_writeU32,
        mirrorPortPathMaxLen]
      omega

theorem mirrorFlags (hasSerial : Bool) :
    ((1 : UInt8) ||| (boolByte hasSerial <<< 1)) &&& 1 ≠ 0 ∧
      (((1 : UInt8) ||| (boolByte hasSerial <<< 1)) &&& 2 ≠ 0 ↔
        hasSerial = true) := by
  cases hasSerial <;> decide

theorem decodeMirrorTarget_encode (target : Option MirrorStableId) :
    decodeMirrorTarget (encodeMirrorTarget target) = .ok target := by
  cases target with
  | none => rfl
  | some identity =>
      have fits := identity.portPath.length_le
      have flags : byteAt (encodeMirrorTarget (some identity)) 0 =
          (1 : UInt8) ||| (boolByte identity.serialHash.isSome <<< 1) := rfl
      obtain ⟨present, serialFlag⟩ :=
        mirrorFlags identity.serialHash.isSome
      have vendor : slice (encodeMirrorTarget (some identity)) 2 2 =
          writeU16 identity.vendorId := rfl
      have product : slice (encodeMirrorTarget (some identity)) 4 2 =
          writeU16 identity.productId := rfl
      have serial : slice (encodeMirrorTarget (some identity)) 6 4 =
          writeU32 (identity.serialHash.getD 0) := rfl
      have serialChoice :
          (if ((1 : UInt8) |||
              (boolByte identity.serialHash.isSome <<< 1)) &&& 2 ≠ 0 then
            some (identity.serialHash.getD 0)
          else none) = identity.serialHash := by
        simp only [serialFlag]
        cases identity.serialHash <;> rfl
      have descriptor : slice (encodeMirrorTarget (some identity)) 10 4 =
          writeU32 identity.descriptorHash := rfl
      have pathLen : (byteAt (encodeMirrorTarget (some identity)) 1).toNat =
          identity.portPath.toList.length := by
        change (UInt8.ofNat identity.portPath.toList.length).toNat = _
        unfold mirrorPortPathMaxLen at fits
        rw [UInt8.toNat_ofNat']
        omega
      have path : slice (encodeMirrorTarget (some identity)) (14 + 0)
          identity.portPath.toList.length = identity.portPath.toList := by
        rw [encodeMirrorTarget, slice_skip, MirrorStableId.portPathBytes,
          List.append_assoc, slice_front rfl]
        rfl
      unfold decodeMirrorTarget
      rw [flags, if_neg present, pathLen]
      dsimp only
      rw [if_neg (Nat.not_lt.mpr fits), vendor, product, serial, descriptor,
        path]
      simp only [readU16_writeU16, readU32_writeU32]
      rw [serialChoice, MirrorStableId.new, dif_pos fits,
        dif_pos identity.located]

theorem length_encodeOutputTarget (target : StoredOutputTarget) :
    (encodeOutputTarget target).length = 1 := by
  cases target <;> rfl

theorem length_encodeWiredBleHost (host : Option HostSlot) :
    (encodeWiredBleHost host).length = 1 := by
  cases host <;> rfl

section

variable (build : Build) (presentation : StoredPresentationConfig)

@[simp] theorem length_encodePresentation (image : List UInt8) :
    (encodePresentation build presentation image).length = image.length := by
  cases build with
  | single => rfl
  | dual =>
      simp only [encodePresentation, length_overwrite]

theorem slice_encodePresentation (apart : start + size ≤ 32 ∨ 64 ≤ start) :
    slice (encodePresentation build presentation image) start size =
      slice image start size := by
  cases build with
  | single => rfl
  | dual =>
      have target := length_encodeOutputTarget presentation.outputTarget
      have host := length_encodeWiredBleHost presentation.wiredBleHost
      have mirror := length_encodeMirrorTarget presentation.mirrorTarget
      simp only [encodePresentation]
      rw [slice_overwrite_disjoint (by omega),
        slice_overwrite_disjoint (by omega),
        slice_overwrite_disjoint (by omega)]

theorem decodePresentation_encode (long : 64 ≤ image.length)
    (same : ∀ start size, 32 ≤ start → start + size ≤ 64 →
      slice full start size =
        slice (encodePresentation build presentation image) start size) :
    decodePresentation build full = .ok (presentation.durable build) := by
  cases build with
  | single => rfl
  | dual =>
      have target := length_encodeOutputTarget presentation.outputTarget
      have host := length_encodeWiredBleHost presentation.wiredBleHost
      have mirror := length_encodeMirrorTarget presentation.mirrorTarget
      unfold decodePresentation
      dsimp only
      rw [same 32 1 (by decide) (by decide), same 33 1 (by decide) (by decide),
        same 40 24 (by decide) (by decide)]
      simp only [encodePresentation]
      rw [slice_overwrite_disjoint (by omega),
        slice_overwrite_disjoint (by omega),
        slice_overwrite_same target (by omega),
        slice_overwrite_disjoint (by omega),
        slice_overwrite_same host (by rw [length_overwrite]; omega),
        slice_overwrite_same mirror (by simp only [length_overwrite]; omega),
        decodeOutputTarget_encode, decodeWiredBleHost_encode,
        decodeMirrorTarget_encode]
      rfl

end

end HidShift
