import HidShift.Storage.ImageRoundTrip

namespace HidShift

open Lib

theorem crcFold_skip {left right : List UInt8} (crc : UInt32)
    (sameLength : left.length = right.length)
    (agree : ∀ index, ¬ (12 ≤ start + index ∧ start + index < 16) →
      left[index]? = right[index]?) :
    (left.zipIdx start).foldl (fun crc entry =>
        if 12 ≤ entry.2 ∧ entry.2 < 16 then crc else crcByte crc entry.1) crc =
      (right.zipIdx start).foldl (fun crc entry =>
        if 12 ≤ entry.2 ∧ entry.2 < 16 then crc
        else crcByte crc entry.1) crc := by
  induction left generalizing right start crc with
  | nil => rw [List.length_eq_zero_iff.mp sameLength.symm]
  | cons byte left ih =>
      cases right with
      | nil => cases sameLength
      | cons other right =>
          have tailAgree : ∀ index,
              ¬ (12 ≤ start + 1 + index ∧ start + 1 + index < 16) →
                left[index]? = right[index]? := by
            intro index outside
            have := agree (index + 1) (by omega)
            rwa [List.getElem?_cons_succ, List.getElem?_cons_succ] at this
          have tail := fun crc => ih crc (Nat.succ.inj sameLength) tailAgree
          rw [List.zipIdx_cons, List.zipIdx_cons, List.foldl_cons,
            List.foldl_cons]
          dsimp only
          split
          · exact tail crc
          · rename_i outside
            have same := agree 0 outside
            rw [List.getElem?_cons_zero, List.getElem?_cons_zero,
              Option.some.injEq] at same
            rw [same]
            exact tail _

theorem crc32_overwrite_crc (image : List UInt8) {field : List UInt8}
    (four : field.length = 4) :
    crc32WithoutHeaderCrc (overwrite image 12 field) =
      crc32WithoutHeaderCrc image := by
  rw [crc32WithoutHeaderCrc, crc32WithoutHeaderCrc]
  refine congrArg _ (crcFold_skip _ (length_overwrite ..) ?_)
  intro index outside
  rw [getElem?_overwrite]
  cases image[index]? with
  | none => rfl
  | some old =>
      rw [Option.map_some]
      split
      · rw [List.getD_eq_getElem?_getD, List.getElem?_eq_none (by omega)]
        rfl
      · rfl

variable (build : Build) (state : StorageState)

@[simp] theorem length_prefixImage :
    (prefixImage state).length = storageImageLen := by
  simp only [prefixImage, length_overwrite, List.length_replicate]

@[simp] theorem length_uncheckedImage :
    (uncheckedImage build state).length = storageImageLen := by
  simp only [uncheckedImage, length_overwriteRecords,
    length_encodePresentation, length_prefixImage]

@[simp] theorem length_imageOf :
    (imageOf build state).length = storageImageLen := by
  simp only [imageOf, length_overwrite, length_uncheckedImage]

theorem sized_profiles : ∀ record ∈
    state.inputProfiles.profiles.toList.map encodeInputProfile,
      record.length = storedInputProfileLen := by
  intro record member
  obtain ⟨profile, -, rfl⟩ := List.mem_map.mp member
  exact length_encodeInputProfile profile

theorem sized_hosts : ∀ record ∈ state.hosts.toList.map encodeHostRecord,
    record.length = storedHostRecordLen := by
  intro record member
  obtain ⟨host, -, rfl⟩ := List.mem_map.mp member
  exact length_encodeHostRecord host

theorem hosts_le : state.hosts.toList.length ≤ 4 := state.hosts.length_le

theorem profiles_le : state.inputProfiles.profiles.toList.length ≤ 8 :=
  state.inputProfiles.profiles.length_le

theorem slice_imageOf (apart : start + size ≤ 12 ∨ 16 ≤ start) :
    slice (imageOf build state) start size =
      slice (uncheckedImage build state) start size := by
  rw [imageOf, slice_overwrite_disjoint]
  rw [length_writeU32]
  omega

theorem slice_uncheckedImage (below : start + size ≤ 64) :
    slice (uncheckedImage build state) start size =
      slice (encodePresentation build state.presentation (prefixImage state))
        start size := by
  rw [uncheckedImage, slice_overwriteRecords_disjoint (sized_hosts state),
    slice_overwriteRecords_disjoint (sized_profiles state)]
  · omega
  · simp only [storageHeaderLen, storageBodyPrefixLen]
    omega

theorem slice_imageOf_front (below : start + size ≤ 32)
    (apart : start + size ≤ 12 ∨ 16 ≤ start) :
    slice (imageOf build state) start size =
      slice (prefixImage state) start size := by
  rw [slice_imageOf build state apart,
    slice_uncheckedImage build state (by omega),
    slice_encodePresentation build state.presentation (.inl below)]

theorem records_profiles :
    records (imageOf build state) 64 storedInputProfileLen
        state.inputProfiles.profiles.toList.length =
      state.inputProfiles.profiles.toList.map encodeInputProfile := by
  have few := profiles_le state
  have written : records
      (overwriteRecords 64 storedInputProfileLen
        (state.inputProfiles.profiles.toList.map encodeInputProfile) 0
        (encodePresentation build state.presentation (prefixImage state)))
      64 storedInputProfileLen
        (state.inputProfiles.profiles.toList.map encodeInputProfile).length =
      state.inputProfiles.profiles.toList.map encodeInputProfile := by
    apply records_overwriteRecords (sized_profiles state)
    rw [List.length_map, length_encodePresentation, length_prefixImage]
    simp only [storedInputProfileLen, storageImageLen]
    omega
  rw [List.length_map] at written
  refine Eq.trans (records_congr fun index inside => ?_) written
  rw [slice_imageOf build state (by omega), uncheckedImage,
    slice_overwriteRecords_disjoint (sized_hosts state)]
  simp only [storedInputProfileLen, storageHeaderLen, storageBodyPrefixLen]
  omega

theorem records_hosts :
    records (imageOf build state) (storageHeaderLen + storageBodyPrefixLen)
        storedHostRecordLen state.hosts.toList.length =
      state.hosts.toList.map encodeHostRecord := by
  have few := hosts_le state
  have written : records (uncheckedImage build state)
      (storageHeaderLen + storageBodyPrefixLen) storedHostRecordLen
        (state.hosts.toList.map encodeHostRecord).length =
      state.hosts.toList.map encodeHostRecord := by
    apply records_overwriteRecords (sized_hosts state)
    rw [List.length_map, length_overwriteRecords, length_encodePresentation,
      length_prefixImage]
    unfold storageHeaderLen storageBodyPrefixLen storedHostRecordLen
      storageImageLen
    omega
  rw [List.length_map] at written
  refine Eq.trans (records_congr fun index inside => ?_) written
  rw [slice_imageOf]
  simp only [storageHeaderLen, storageBodyPrefixLen]
  omega

theorem length_encodeGlobalSettings (settings : GlobalSettings) :
    (encodeGlobalSettings settings).length = 12 := rfl

theorem prefixImage_fields :
    slice (prefixImage state) 0 4 = storageMagic ∧
      slice (prefixImage state) 4 2 = writeU16 storageSchemaVersion ∧
      slice (prefixImage state) 6 2 =
        writeU16 (UInt16.ofNat (storageBodyLen state.hosts.toList.length)) ∧
      slice (prefixImage state) 8 4 = writeU32 state.generation ∧
      slice (prefixImage state) 16 2 =
        [UInt8.ofNat state.hosts.toList.length,
          (state.lastActiveHost.map HostId.val).getD 0xff] ∧
      slice (prefixImage state) 18 12 =
        encodeGlobalSettings state.globalSettings ∧
      slice (prefixImage state) 30 1 =
        [UInt8.ofNat state.inputProfiles.profiles.toList.length] := by
  have settings := length_encodeGlobalSettings state.globalSettings
  refine ⟨?_, ?_, ?_, ?_, ?_, ?_, ?_⟩ <;>
  simp (disch := simp [-List.reduceReplicate, storageMagic, storageImageLen,
    settings]) only [prefixImage, slice_overwrite_disjoint, slice_overwrite_same]

theorem take_overwrite (offset count : Nat) :
    (overwrite image offset field).take count =
      overwrite (image.take count) offset field := by
  refine List.ext_getElem? fun index => ?_
  rw [List.getElem?_take, getElem?_overwrite, getElem?_overwrite,
    List.getElem?_take]
  split <;> rfl

theorem bodyLen_read :
    (UInt16.ofNat (storageBodyLen state.hosts.toList.length)).toNat =
      storageBodyLen state.hosts.toList.length := by
  have few := hosts_le state
  rw [UInt16.toNat_ofNat']
  simp only [storageBodyLen, storageBodyPrefixLen, storedHostRecordLen]
  omega

theorem bodyLen_valid :
    bodyLenIsValid (storageBodyLen state.hosts.toList.length) = true := by
  have few := hosts_le state
  unfold bodyLenIsValid storageBodyLen storageBodyPrefixLen
    storedHostRecordLen storageHeaderLen storageImageLen storedHostsMax
    hostSlotCount
  rw [decide_eq_true_iff]
  omega

theorem hostCount_read :
    (byteAt (imageOf build state) 16).toNat =
      state.hosts.toList.length := by
  have few := hosts_le state
  obtain ⟨-, -, -, -, counts, -⟩ := prefixImage_fields state
  rw [show byteAt (imageOf build state) 16 =
      byteAt (slice (imageOf build state) 16 2) 0 from
        (byteAt_slice _ 16 2 0 (by decide)).symm,
    slice_imageOf_front build state (by decide) (by decide), counts]
  change (UInt8.ofNat state.hosts.toList.length).toNat = _
  rw [UInt8.toNat_ofNat']
  omega

theorem crc_read :
    readU32 (slice (imageOf build state) 12 4) =
      crc32WithoutHeaderCrc ((imageOf build state).take
        (storageHeaderLen + storageBodyLen state.hosts.toList.length)) := by
  rw [imageOf, take_overwrite,
    crc32_overwrite_crc _ (length_writeU32 _), slice_overwrite_same
      (length_writeU32 _) (by rw [length_uncheckedImage]; decide),
    readU32_writeU32]

theorem decodeHeader_imageOf :
    decodeHeader (imageOf build state) = .ok state.hosts.toList.length := by
  have few := state.hosts.length_le
  obtain ⟨magic, version, bodyLen, -⟩ := prefixImage_fields state
  have magicRead : slice (imageOf build state) 0 4 = storageMagic :=
    (slice_imageOf_front build state (by decide) (by decide)).trans magic
  have versionRead : readU16 (slice (imageOf build state) 4 2) =
      storageSchemaVersion := by
    rw [slice_imageOf_front build state (by decide) (by decide), version,
      readU16_writeU16]
  have bodyLenRead : (readU16 (slice (imageOf build state) 6 2)).toNat =
      storageBodyLen state.hosts.toList.length := by
    rw [slice_imageOf_front build state (by decide) (by decide), bodyLen,
      readU16_writeU16, bodyLen_read]
  simp only [decodeHeader]
  simp only [bodyLenRead, hostCount_read]
  rw [require_pos (length_imageOf build state).ge, require_pos magicRead,
    require_pos versionRead, require_pos (bodyLen_valid state),
    require_pos (crc_read build state), require_pos few, require_pos trivial]
  rfl

theorem restoreProfileRecord_encode
    (restored : restoreProfileRecord registry (encodeInputProfile profile) =
      .ok next) :
    next.profiles.toList = registry.profiles.toList ++ [profile.durable] ∧
      next.nextSequence = max registry.nextSequence (profile.lastSeen + 1) := by
  obtain ⟨decoded, read, rest⟩ := bind_eq_ok.mp restored
  obtain ⟨-, rfl⟩ := decodeInputProfile_encode.mp read
  split at rest
  · rename_i after kept
    cases rest
    exact InputProfileRegistry.restore_ok kept
  · cases rest

theorem restoreProfiles_encode {registry next : InputProfileRegistry}
    {profiles : List InputProfile}
    (restored : (profiles.map encodeInputProfile).foldlM restoreProfileRecord
      registry = .ok next) :
    next.profiles.toList =
        registry.profiles.toList ++ profiles.map InputProfile.durable ∧
      next.nextSequence = profiles.foldl
        (fun sequence profile => max sequence (profile.lastSeen + 1))
        registry.nextSequence := by
  induction profiles generalizing registry with
  | nil =>
      cases restored
      exact ⟨(List.append_nil _).symm, rfl⟩
  | cons profile rest ih =>
      rw [List.map_cons, List.foldlM_cons] at restored
      obtain ⟨middle, first, later⟩ := bind_eq_ok.mp restored
      obtain ⟨profilesFirst, sequenceFirst⟩ :=
        restoreProfileRecord_encode first
      obtain ⟨profilesRest, sequenceRest⟩ := ih later
      refine ⟨?_, ?_⟩
      · rw [profilesRest, profilesFirst, List.map_cons, List.append_assoc]
        rfl
      · rw [sequenceRest, sequenceFirst, List.foldl_cons]

theorem restoreRegistry_encode {registry : InputProfileRegistry}
    (restored : (registry.profiles.toList.map encodeInputProfile).foldlM
      restoreProfileRecord .new = .ok next) :
    next = registry.durable := by
  obtain ⟨profiles, sequence⟩ := restoreProfiles_encode restored
  cases next with
  | mk nextProfiles nextSequence =>
      refine congrArg₂ InputProfileRegistry.mk (BoundedVec.ext ?_) sequence
      exact profiles

theorem pushHosts_encode {hosts full :
      BoundedVec StoredHostProfile storedHostsMax}
    {rest : List StoredHostProfile}
    (split : hosts.toList ++ rest = full.toList) :
    (rest.map encodeHostRecord).foldlM pushHostRecord hosts = .ok full := by
  induction rest generalizing hosts with
  | nil =>
      rw [List.append_nil] at split
      exact congrArg Except.ok (BoundedVec.ext split)
  | cons host rest ih =>
      rw [List.map_cons, List.foldlM_cons]
      have fits : (hosts.toList ++ [host]).length ≤ storedHostsMax := by
        have bound := full.length_le
        rw [← split, List.length_append, List.length_cons] at bound
        rw [List.length_append, List.length_singleton]
        omega
      have pushed : hosts.push? host = some ⟨hosts.toList ++ [host], fits⟩ :=
        BoundedVec.push?_eq_some.mpr rfl
      refine bind_eq_ok.mpr ⟨⟨hosts.toList ++ [host], fits⟩, ?_, ?_⟩
      · simp only [pushHostRecord]
        refine bind_eq_ok.mpr ⟨host, decodeHostRecord_encode host, ?_⟩
        simp only [pushed]
        rfl
      · apply ih
        rw [List.append_assoc]
        exact split

theorem validateHosts_ids
    (valid : StorageState.validateHosts hosts seen = .ok ()) :
    ∀ host ∈ hosts, host.hostId.val ≠ 0 ∧
      host.hostId.val.toNat ≤ storedHostsMax := by
  induction hosts generalizing seen with
  | nil =>
      intro host member
      cases member
  | cons head rest ih =>
      unfold StorageState.validateHosts at valid
      split at valid
      · cases valid
      · rename_i nonzero
        split at valid
        · cases valid
        · rename_i inRange
          split at valid
          · cases valid
          · intro host member
            rcases List.mem_cons.mp member with rfl | later
            · exact ⟨nonzero, by omega⟩
            · exact ih valid host later

theorem lastActiveHost_read (valid : state.validate = .ok ()) :
    (if (state.lastActiveHost.map HostId.val).getD 0xff = 0xff then none
      else some ⟨(state.lastActiveHost.map HostId.val).getD 0xff⟩) =
      state.lastActiveHost := by
  obtain ⟨⟨⟩, hosts, active⟩ := bind_eq_ok.mp valid
  unfold StorageState.validateActiveHost at active
  cases lastActive : state.lastActiveHost with
  | none => rfl
  | some activeHost =>
      rw [lastActive] at active
      dsimp only at active
      split at active
      · rename_i known
        obtain ⟨host, member, same⟩ := List.any_eq_true.mp known
        have bound := (validateHosts_ids hosts host member).2
        rw [of_decide_eq_true same] at bound
        rw [Option.map_some, Option.getD_some, if_neg]
        intro none_byte
        rw [none_byte] at bound
        revert bound
        decide
      · cases active

theorem profileCount_read :
    (byteAt (imageOf build state) 30).toNat =
      state.inputProfiles.profiles.toList.length := by
  have few := profiles_le state
  obtain ⟨-, -, -, -, -, -, count⟩ := prefixImage_fields state
  rw [show byteAt (imageOf build state) 30 =
      byteAt (slice (imageOf build state) 30 1) 0 from
        (byteAt_slice _ 30 1 0 (by decide)).symm,
    slice_imageOf_front build state (by decide) (by decide), count]
  change (UInt8.ofNat state.inputProfiles.profiles.toList.length).toNat = _
  rw [UInt8.toNat_ofNat']
  omega

theorem activeByte_read :
    byteAt (imageOf build state) 17 =
      (state.lastActiveHost.map HostId.val).getD 0xff := by
  obtain ⟨-, -, -, -, counts, -⟩ := prefixImage_fields state
  rw [show byteAt (imageOf build state) 17 =
      byteAt (slice (imageOf build state) 16 2) 1 from
        (byteAt_slice _ 16 2 1 (by decide)).symm,
    slice_imageOf_front build state (by decide) (by decide), counts]
  rfl

theorem decodeStorageImage_imageOf (valid : state.validate = .ok ()) :
    decodeStorageImage build (imageOf build state) = (do
      let globalSettings ←
        decodeGlobalSettings (encodeGlobalSettings state.globalSettings)
      let inputProfiles ←
        (state.inputProfiles.profiles.toList.map encodeInputProfile).foldlM
          restoreProfileRecord .new
      return { state with
        globalSettings
        inputProfiles
        presentation := state.presentation.durable build }) := by
  obtain ⟨-, -, -, generation, -, settings, -⟩ := prefixImage_fields state
  have generationRead : readU32 (slice (imageOf build state) 8 4) =
      state.generation := by
    rw [slice_imageOf_front build state (by decide) (by decide), generation,
      readU32_writeU32]
  have settingsRead : slice (imageOf build state) 18 12 =
      encodeGlobalSettings state.globalSettings :=
    (slice_imageOf_front build state (by decide) (by decide)).trans settings
  have long : 64 ≤ (prefixImage state).length := by
    rw [length_prefixImage]
    decide
  have presentationRead : decodePresentation build (imageOf build state) =
      .ok (state.presentation.durable build) := by
    apply decodePresentation_encode build state.presentation long
    intro start size above below
    rw [slice_imageOf build state (by omega),
      slice_uncheckedImage build state below]
  have hostsRead : (state.hosts.toList.map encodeHostRecord).foldlM
      pushHostRecord .empty = .ok state.hosts :=
    pushHosts_encode (List.nil_append _)
  have validAgain : ∀ globalSettings inputProfiles,
      StorageState.validate { state with
        globalSettings
        inputProfiles
        presentation := state.presentation.durable build } = .ok () :=
    fun _ _ => valid
  simp only [decodeStorageImage]
  simp only [decodeHeader_imageOf, settingsRead, generationRead,
    activeByte_read, lastActiveHost_read state valid, profileCount_read,
    require_pos state.inputProfiles.profiles.length_le, presentationRead,
    records_profiles, records_hosts, hostsRead, ok_bind, validAgain]

theorem decoded_eq_durable (valid : state.validate = .ok ())
    (read : decodeStorageImage build (imageOf build state) = .ok decoded) :
    decoded = state.durable build := by
  rw [decodeStorageImage_imageOf build state valid] at read
  obtain ⟨globalSettings, settingsRead, rest⟩ := bind_eq_ok.mp read
  obtain ⟨inputProfiles, profilesRead, result⟩ := bind_eq_ok.mp rest
  obtain ⟨-, rfl⟩ := decodeGlobalSettings_encode.mp settingsRead
  cases restoreRegistry_encode profilesRead
  cases result
  rfl

end HidShift
