import HidShift.Management.RequestRoundTrip

namespace HidShift

open Lib InPlace

theorem StorageHealth.fromByte_toByte (health : StorageHealth) :
    fromByte health.toByte = some health := by
  cases health <;> rfl

theorem ManagementResult.fromByte_toByte (result : ManagementResult) :
    fromByte result.toByte = some result := by
  cases result <;> rfl

theorem availabilityFromByte_byte (availability : OutputTargetAvailability) :
    availabilityFromByte (availabilityByte availability) =
      some availability := by
  cases availability <;> rfl

theorem ManagementUsbPresentationKind.fromByte_toByte
    (kind : ManagementUsbPresentationKind) :
    fromByte kind.toByte = some kind := by
  cases kind <;> rfl

theorem decodeBool_boolByte (flag : Bool) :
    decodeBool (boolByte flag) = some flag := by
  cases flag <;> rfl

theorem ManagementHostStatus.fromBits_bits (status : ManagementHostStatus) :
    fromBits status.bits = status := by
  obtain ⟨known, connected, encrypted, bonded⟩ := status
  revert known connected encrypted bonded
  decide

theorem decodeOptionalHost_optionHostId (named : host ≠ some ⟨0⟩) :
    decodeOptionalHost (optionHostId host) = host := by
  cases host with
  | none => rfl
  | some host =>
      apply if_neg
      intro zero
      exact named (congrArg (fun value => some (HostId.mk value)) zero)

theorem sharedByte_parts (status : ManagementHostStatus) {source : UInt8}
    (small : source = 1 ∨ source = 2) :
    ManagementHostStatus.fromBits
        (status.bits ||| ((source &&& 3) <<< 4)) = status ∧
      ((status.bits ||| ((source &&& 3) <<< 4)) >>> 4) &&& 3 = source := by
  obtain ⟨known, connected, encrypted, bonded⟩ := status
  rcases small with rfl | rfl
  · revert known connected encrypted bonded
    decide
  · revert known connected encrypted bonded
    decide

namespace ManagementResponse

/-- The single-board build knows no payload of the wired output. -/
def decodePayloadOf (build : Build) (bytes : List UInt8) :
    Except ManagementProtocolError ManagementResponsePayload :=
  match build with
  | .dual => decodePayload bytes
  | .single =>
      if byteAt bytes 3 = 9 ∨ byteAt bytes 3 = 10 then .error .invalidArgument
      else decodePayload bytes

def decodeOf (build : Build) (bytes : List UInt8) :
    Except ManagementProtocolError ManagementResponse := do
  require (bytes.length = managementResponseLen) .invalidLength
  require (byteAt bytes 0 = managementProtocolVersion) .unsupportedVersion
  let result ← orInvalidArgument (ManagementResult.fromByte (byteAt bytes 2))
  let payload ← decodePayloadOf build bytes
  return ⟨byteAt bytes 1, result, payload⟩

end ManagementResponse

theorem ManagementOutputTarget.length_encode (target : ManagementOutputTarget) :
    (ManagementOutputTarget.encode target).length = 2 := by
  cases target <;> rfl

def activeTargetBytes (active : Option ManagementOutputTarget) : List UInt8 :=
  active.elim [0xff, 0] ManagementOutputTarget.encode

theorem length_activeTargetBytes (active : Option ManagementOutputTarget) :
    (activeTargetBytes active).length = 2 := by
  cases active with
  | none => rfl
  | some target => exact ManagementOutputTarget.length_encode target

theorem ManagementResponsePayload.encode_short
    (payload : ManagementResponsePayload) : payload.encode.2.2.length ≤ 15 := by
  cases payload with
  | status report =>
      have hosts : report.hosts.toList.length = 4 := Vector.length_toList
      simp [encode, hosts]
  | hostInfo info =>
      have name : info.name.bytes.toList.length = 12 := Vector.length_toList
      simp only [encode, ManagementHostName.encode, List.length_append,
        List.length_cons, List.length_nil, name]
      omega
  | usbDevice device =>
      have short := device.nameChunk.length_le
      simp [encode, padTo]
      omega
  | setting entry => simp [encode, ManagementRequest.length_encodeSettingTarget]
  | outputTargetStatus target =>
      have active := length_activeTargetBytes target.active
      rw [activeTargetBytes] at active
      simp [encode, ManagementOutputTarget.length_encode, active]
  | _ => simp [encode]

namespace ManagementResponse

variable {response : ManagementResponse}

theorem length_encode (response : ManagementResponse) :
    response.encode.length = managementResponseLen := by
  have short := response.payload.encode_short
  unfold encode padTo
  generalize response.payload.encode = parts at short ⊢
  obtain ⟨kind, length, payload⟩ := parts
  simp only [List.length_append, List.length_cons, List.length_nil,
    List.length_replicate, managementResponseLen] at short ⊢
  omega

theorem decodeOf_encode
    (payload : decodePayloadOf build response.encode = decoded) :
    decodeOf build response.encode =
      (decoded >>= fun payload =>
        .ok ⟨response.requestId, response.result, payload⟩) := by
  have version : byteAt response.encode 0 = managementProtocolVersion := rfl
  have result : byteAt response.encode 2 = response.result.toByte := rfl
  rw [decodeOf, require_pos response.length_encode, require_pos version,
    payload, result, ManagementResult.fromByte_toByte]
  rfl

variable {requestId : UInt8} {result : ManagementResult}

theorem decodeDiagnostics_encode (counters : ManagementDiagnostics) :
    decodeDiagnostics (encode ⟨requestId, result, .diagnostics counters⟩) =
      counters := by
  have read : decodeDiagnostics
      (encode ⟨requestId, result, .diagnostics counters⟩) =
      ⟨readU32 (writeU32 counters.uptimeSeconds), counters.resetReason,
        readU16 (writeU16 counters.brownoutCount),
        readU16 (writeU16 counters.bleDisconnectCount),
        readU16 (writeU16 counters.bleNotifyFailureCount),
        readU16 (writeU16 counters.usbErrorCount), counters.flashWriteCount,
        counters.flashFailureCount⟩ := rfl
  rw [read]
  simp

theorem decodeHistory_encode (event : ManagementHistoryEvent) :
    decodeHistory (encode ⟨requestId, result, .history event⟩) = event := by
  have read : decodeHistory (encode ⟨requestId, result, .history event⟩) =
      ⟨event.kind, readU16 (writeU16 event.sequence),
        readU32 (writeU32 event.timestampSeconds), event.subject,
        event.detail, readU16 (writeU16 event.vendorId),
        readU16 (writeU16 event.productId)⟩ := rfl
  rw [read]
  simp

theorem decodeSchema_encode (layout : ManagementSchema) :
    decodeSchema (encode ⟨requestId, result, .schema layout⟩) = layout := by
  have read : decodeSchema (encode ⟨requestId, result, .schema layout⟩) =
      ⟨readU16 (writeU16 layout.version), layout.settingCount,
        layout.historyCapacity, layout.usbCapacity,
        readU32 (writeU32 layout.hash), layout.firmwareMajor,
        layout.firmwareMinor, layout.firmwarePatch, layout.capabilities⟩ := rfl
  rw [read]
  simp

theorem decodeHostTiming_encode (timing : ManagementHostTiming) :
    decodeHostTiming (encode ⟨requestId, result, .hostTiming timing⟩) =
      timing := by
  have read : decodeHostTiming
      (encode ⟨requestId, result, .hostTiming timing⟩) =
      ⟨timing.hostId, readU32 (writeU32 timing.lastConnectedSeconds),
        readU32 (writeU32 timing.lastDisconnectedSeconds),
        timing.lastDisconnectReason⟩ := rfl
  rw [read]
  simp

theorem decodeSetting_encode (entry : ManagementSetting) :
    decodeSetting (encode ⟨requestId, result, .setting entry⟩) = .ok entry := by
  obtain ⟨id, target, value⟩ := entry
  generalize packet : encode ⟨requestId, result, .setting ⟨id, target, value⟩⟩ =
    bytes
  have wireId : slice bytes 5 2 = writeU16 id.wireId := by
    rw [← packet]
    rfl
  have setting : decodeSettingTarget (byteAt bytes 7) (byteAt bytes 8) =
      .ok target := by
    rw [← decodeSettingTarget_encode target, ← packet]
    cases target <;> rfl
  have number : slice bytes 9 4 = writeU32 value.toUInt32 := by
    rw [← packet]
    cases target <;> rfl
  rw [decodeSetting, wireId, readU16_writeU16, SettingId.fromU16_wireId,
    setting, number, readU32_writeU32]
  rfl

theorem four_listed {α : Type} (values : Vector α 4) :
    ∃ first second third fourth,
      values.toList = [first, second, third, fourth] := by
  have sized : values.toList.length = 4 := Vector.length_toList
  generalize values.toList = listed at sized
  rcases listed with _ | ⟨first, _ | ⟨second, _ | ⟨third, _ | ⟨fourth, rest⟩⟩⟩⟩
  · cases sized
  · cases sized
  · cases sized
  · cases sized
  · have none : rest.length = 0 := by
      simp only [List.length_cons] at sized
      omega
    obtain rfl := List.length_eq_zero_iff.mp none
    exact ⟨first, second, third, fourth, rfl⟩

theorem fromBits_readArray (hosts : Vector ManagementHostStatus 4) :
    (readArray 4 (hosts.toList.map (·.bits))).map
      ManagementHostStatus.fromBits = hosts := by
  have listed : hosts.toList.map (·.bits) =
      (hosts.map ManagementHostStatus.bits).toList :=
    Vector.toList_map.symm
  have inverse : ManagementHostStatus.fromBits ∘ ManagementHostStatus.bits =
      id := funext ManagementHostStatus.fromBits_bits
  rw [listed, readArray_toList, Vector.map_map, inverse, Vector.map_id]

theorem decodeStatus_encode {report : ManagementStatus}
    (active : report.activeHost ≠ some ⟨0⟩)
    (pairing : report.pairingHost ≠ some ⟨0⟩) (few : report.hostCount ≤ 4) :
    decodeStatus (encode ⟨requestId, result, .status report⟩) = .ok report := by
  obtain ⟨activeHost, pairingHost, hostCount, usb, hosts, health⟩ := report
  generalize packet : encode ⟨requestId, result, .status
    ⟨activeHost, pairingHost, hostCount, usb, hosts, health⟩⟩ = bytes
  obtain ⟨first, second, third, fourth, listed⟩ := four_listed hosts
  simp only [encode, ManagementResponsePayload.encode, listed] at packet
  have statuses : slice bytes 11 4 = hosts.toList.map (·.bits) := by
    rw [← packet, listed]
    rfl
  have healthByte : byteAt bytes 15 = health.toByte := by
    rw [← packet]
    rfl
  have count : byteAt bytes 7 = hostCount := by
    rw [← packet]
    rfl
  have activeByte : byteAt bytes 5 = optionHostId activeHost := by
    rw [← packet]
    rfl
  have pairingByte : byteAt bytes 6 = optionHostId pairingHost := by
    rw [← packet]
    rfl
  have usbBytes : (⟨byteAt bytes 8, byteAt bytes 9, byteAt bytes 10⟩ :
      ManagementUsbStatus) = usb := by
    rw [← packet]
    rfl
  rw [decodeStatus, count, require_pos few, healthByte,
    StorageHealth.fromByte_toByte, activeByte, pairingByte,
    decodeOptionalHost_optionHostId active,
    decodeOptionalHost_optionHostId pairing, usbBytes, statuses,
    fromBits_readArray]
  rfl

theorem decodeHostInfo_encode {info : ManagementHostInfo}
    (source : info.nameSource = 1 ∨ info.nameSource = 2) :
    decodeHostInfo (encode ⟨requestId, result, .hostInfo info⟩) = .ok info := by
  obtain ⟨hostId, status, name, nameSource⟩ := info
  generalize packet : encode ⟨requestId, result, .hostInfo
    ⟨hostId, status, name, nameSource⟩⟩ = bytes
  obtain ⟨sameStatus, sameSource⟩ := sharedByte_parts status source
  have sized : name.bytes.toList.length = 12 := Vector.length_toList
  have parts : bytes = [managementProtocolVersion, requestId, result.toByte, 2,
      15, hostId.val, status.bits ||| ((nameSource &&& 3) <<< 4),
      name.len] ++ name.bytes.toList := by
    rw [← packet]
    simp [encode, ManagementResponsePayload.encode, ManagementHostName.encode,
      padTo, sized, managementResponseLen]
  have text : slice bytes 8 12 = name.bytes.toList := by
    rw [parts, slice_skip_front (by rfl), slice_whole sized]
  have length : byteAt bytes 7 = name.len := by
    rw [parts]
    rfl
  have shared : byteAt bytes 6 =
      status.bits ||| ((nameSource &&& 3) <<< 4) := by
    rw [parts]
    rfl
  have host : byteAt bytes 5 = hostId.val := by
    rw [parts]
    rfl
  rw [decodeHostInfo, length, text, name.fromParts_encode, shared, host,
    sameStatus, sameSource]
  rfl

theorem decodeUsbDevice_chunk (device : ManagementUsbDevice) :
    decodeUsbDevice (encode ⟨requestId, result, .usbDevice device⟩) =
      if min 255 (device.nameOffset.toNat + device.nameChunk.toList.length) ≤
          device.nameLen.toNat then .ok device
      else .error .invalidArgument := by
  obtain ⟨index, deviceId, flags, vendorId, productId, inputProfileId, nameLen,
    nameOffset, chunk⟩ := device
  generalize packet : encode ⟨requestId, result, .usbDevice ⟨index, deviceId,
    flags, vendorId, productId, inputProfileId, nameLen, nameOffset, chunk⟩⟩ =
      bytes
  have short := chunk.length_le
  have length : (UInt8.ofNat chunk.toList.length).toNat =
      chunk.toList.length := UInt8.toNat_ofNat_of_lt' (by
        rw [UInt8.size]
        omega)
  have announced : byteAt bytes 14 = UInt8.ofNat chunk.toList.length := by
    rw [← packet]
    rfl
  have held : slice bytes 16 chunk.toList.length = chunk.toList := by
    rw [← packet, slice]
    change ((chunk.toList ++ List.replicate (4 - chunk.toList.length) 0) ++
      List.replicate _ 0).take chunk.toList.length = _
    rw [List.append_assoc, List.take_left]
  have vendor : slice bytes 8 2 = writeU16 vendorId := by
    rw [← packet]
    rfl
  have product : slice bytes 10 2 = writeU16 productId := by
    rw [← packet]
    rfl
  have profile : byteAt bytes 15 = inputProfileId.get := by
    rw [← packet]
    rfl
  have nameBytes : byteAt bytes 12 = nameLen ∧ byteAt bytes 13 = nameOffset := by
    rw [← packet]
    exact ⟨rfl, rfl⟩
  have front : byteAt bytes 5 = index ∧ byteAt bytes 6 = deviceId ∧
      byteAt bytes 7 = flags := by
    rw [← packet]
    exact ⟨rfl, rfl, rfl⟩
  obtain ⟨nameLenByte, nameOffsetByte⟩ := nameBytes
  obtain ⟨indexByte, deviceByte, flagsByte⟩ := front
  unfold decodeUsbDevice
  simp only [announced, length, held, nameLenByte, nameOffsetByte, vendor,
    product, profile, indexByte, deviceByte, flagsByte, readU16_writeU16,
    InputProfileId.new_get, dif_pos short]
  by_cases inside : min 255 (nameOffset.toNat + chunk.toList.length) ≤
      nameLen.toNat
  · rw [require_pos ⟨short, inside⟩, if_pos inside]
    rfl
  · rw [if_neg inside, require, if_neg (fun both : _ ∧ _ => inside both.2)]
    rfl

theorem decodeOutputTargetStatus_encode
    (selected : ManagementOutputTarget.Accepted target.selected)
    (active : ∀ found, target.active = some found →
      ManagementOutputTarget.Accepted found)
    (mask : target.readyBleMask &&& 0x0f = target.readyBleMask) :
    decodeOutputTargetStatus
        (encode ⟨requestId, result, .outputTargetStatus target⟩) =
      .ok target := by
  obtain ⟨selectedTarget, activeTarget, availability, wiredReady, readyBleMask,
    effectivePresentation, mirrorConfigured, operationId⟩ := target
  generalize packet : encode ⟨requestId, result, .outputTargetStatus
    ⟨selectedTarget, activeTarget, availability, wiredReady, readyBleMask,
      effectivePresentation, mirrorConfigured, operationId⟩⟩ = bytes
  have chosen : ManagementOutputTarget.decode (byteAt bytes 5)
      (byteAt bytes 6) = .ok selectedTarget := by
    rw [← ManagementOutputTarget.decode_encode selected, ← packet]
    cases selectedTarget <;> rfl
  have reached : decodeActiveTarget (byteAt bytes 7) (byteAt bytes 8) =
      .ok activeTarget := by
    rw [← packet]
    cases activeTarget with
    | none => cases selectedTarget <;> rfl
    | some found =>
        have decoded := ManagementOutputTarget.decode_encode (active found rfl)
        have parts : byteAt bytes 7 =
              byteAt (ManagementOutputTarget.encode found) 0 ∧
            byteAt bytes 8 =
              byteAt (ManagementOutputTarget.encode found) 1 := by
          rw [← packet]
          cases selectedTarget <;> cases found <;> exact ⟨rfl, rfl⟩
        have kind : byteAt (ManagementOutputTarget.encode found) 0 ≠ 0xff := by
          cases found with
          | wired => decide
          | ble host => exact (by decide : (1 : UInt8) ≠ 0xff)
        rw [packet, parts.1, parts.2, decodeActiveTarget, if_neg kind, decoded]
        rfl
  have rest : byteAt bytes 9 = availabilityByte availability ∧
      byteAt bytes 10 = boolByte wiredReady ∧
      byteAt bytes 11 = .ofBitVec readyBleMask ∧
      byteAt bytes 12 = effectivePresentation.toByte ∧
      byteAt bytes 13 = boolByte mirrorConfigured ∧
      slice bytes 14 4 = writeU32 operationId := by
    rw [← packet]
    rcases selectedTarget with _ | _ <;>
      rcases activeTarget with _ | (_ | _) <;>
        exact ⟨rfl, rfl, rfl, rfl, rfl, rfl⟩
  obtain ⟨availabilityRead, ready, ble, presentation, mirror, operation⟩ := rest
  rw [decodeOutputTargetStatus, chosen, reached, availabilityRead,
    availabilityFromByte_byte, ready, decodeBool_boolByte, presentation,
    ManagementUsbPresentationKind.fromByte_toByte, mirror, decodeBool_boolByte,
    operation, readU32_writeU32, ble]
  have bits : (UInt8.ofBitVec readyBleMask &&& 0x0f).toBitVec =
      readyBleMask := mask
  rw [bits]
  rfl

theorem decodeMirrorCandidate_encode
    (named : candidate.sourceDevice ≠ some 0xff) :
    decodeMirrorCandidate
        (encode ⟨requestId, result, .mirrorCandidate candidate⟩) =
      candidate := by
  obtain ⟨id, flags, sourceDevice, vendorId, productId, profileHash,
    descriptorHash⟩ := candidate
  have read : decodeMirrorCandidate (encode ⟨requestId, result,
      .mirrorCandidate ⟨id, flags, sourceDevice, vendorId, productId,
        profileHash, descriptorHash⟩⟩) =
      ⟨id, flags, if sourceDevice.getD 0xff ≠ 0xff then
          some (sourceDevice.getD 0xff) else none,
        readU16 (writeU16 vendorId), readU16 (writeU16 productId),
        readU32 (writeU32 profileHash),
        readU32 (writeU32 descriptorHash)⟩ := rfl
  have source : (if sourceDevice.getD 0xff ≠ 0xff then
      some (sourceDevice.getD 0xff) else none) = sourceDevice := by
    cases sourceDevice with
    | none => rfl
    | some device =>
        apply if_pos
        intro last
        exact named (congrArg some last)
  rw [read, source]
  simp

end ManagementResponse

def ManagementResponsePayload.Accepted (build : Build) :
    ManagementResponsePayload → Prop
  | .status report => report.activeHost ≠ some ⟨0⟩ ∧
      report.pairingHost ≠ some ⟨0⟩ ∧ report.hostCount ≤ 4
  | .hostInfo info => info.nameSource = 1 ∨ info.nameSource = 2
  | .usbDevice device =>
      min 255 (device.nameOffset.toNat + device.nameChunk.toList.length) ≤
        device.nameLen.toNat
  | .clientSession hostId => hostId ≠ some ⟨0⟩
  | .outputTargetStatus target => build = .dual ∧
      ManagementOutputTarget.Accepted target.selected ∧
      (∀ found, target.active = some found →
        ManagementOutputTarget.Accepted found) ∧
      target.readyBleMask &&& 0x0f = target.readyBleMask
  | .mirrorCandidate candidate =>
      build = .dual ∧ candidate.sourceDevice ≠ some 0xff
  | _ => True

namespace ManagementResponse

theorem payload_of_field {α : Type} {build : Build} {bytes : List UInt8}
    {decoder : Except ManagementProtocolError α} {value : α}
    {payload : α → ManagementResponsePayload}
    (decoded : decoder = .ok value)
    (read : decodePayloadOf build bytes = payload <$> decoder) :
    decodePayloadOf build bytes = .ok (payload value) := by
  rw [read, decoded]
  rfl

theorem decodePayload_encode {build : Build} {response : ManagementResponse}
    (accepted : response.payload.Accepted build) :
    decodePayloadOf build response.encode = .ok response.payload := by
  obtain ⟨requestId, result, payload⟩ := response
  cases payload with
  | none => cases build <;> rfl
  | status report =>
      obtain ⟨active, pairing, few⟩ := accepted
      apply payload_of_field (decodeStatus_encode active pairing few)
      cases build <;> rfl
  | hostInfo info =>
      apply payload_of_field (decodeHostInfo_encode accepted)
      cases build <;> rfl
  | usbDevice device =>
      have decoded := (@decodeUsbDevice_chunk requestId result device).trans
        (if_pos accepted)
      apply payload_of_field decoded
      cases build <;> rfl
  | diagnostics counters =>
      have decoded := @decodeDiagnostics_encode requestId result counters
      apply payload_of_field (congrArg Except.ok decoded)
      cases build <;> rfl
  | history event =>
      have decoded := @decodeHistory_encode requestId result event
      apply payload_of_field (congrArg Except.ok decoded)
      cases build <;> rfl
  | schema layout =>
      have decoded := @decodeSchema_encode requestId result layout
      apply payload_of_field (congrArg Except.ok decoded)
      cases build <;> rfl
  | setting entry =>
      apply payload_of_field (decodeSetting_encode entry)
      cases build <;> rfl
  | hostTiming timing =>
      have decoded := @decodeHostTiming_encode requestId result timing
      apply payload_of_field (congrArg Except.ok decoded)
      cases build <;> rfl
  | clientSession hostId =>
      apply payload_of_field
        (congrArg Except.ok (decodeOptionalHost_optionHostId accepted))
      cases build <;> rfl
  | outputTargetStatus target =>
      obtain ⟨rfl, selected, active, mask⟩ := accepted
      apply payload_of_field
        (decodeOutputTargetStatus_encode selected active mask)
      rfl
  | mirrorCandidate candidate =>
      obtain ⟨rfl, named⟩ := accepted
      apply payload_of_field
        (congrArg Except.ok (decodeMirrorCandidate_encode named))
      rfl

theorem decodeOf_accepted {response : ManagementResponse}
    (accepted : response.payload.Accepted build) :
    decodeOf build response.encode = .ok response :=
  decodeOf_encode (decodePayload_encode accepted)

theorem decodeOf_refused {requestId : UInt8} {result : ManagementResult}
    (outside : device.nameLen.toNat <
      min 255 (device.nameOffset.toNat + device.nameChunk.toList.length)) :
    decodeOf build (encode ⟨requestId, result, .usbDevice device⟩) =
      .error .invalidArgument := by
  have refused := @decodeUsbDevice_chunk requestId result device
  rw [if_neg (Nat.not_le.mpr outside)] at refused
  have read : decodePayloadOf build
      (encode ⟨requestId, result, .usbDevice device⟩) =
      .error .invalidArgument := by
    have mapped : decodePayloadOf build
        (encode ⟨requestId, result, .usbDevice device⟩) =
        .usbDevice <$> decodeUsbDevice
          (encode ⟨requestId, result, .usbDevice device⟩) := by
      cases build <;> rfl
    rw [mapped, refused]
    rfl
  exact decodeOf_encode read

end ManagementResponse

end HidShift
