import HidShift.ManagementCodec

namespace HidShift

open Lib

@[simp] theorem SettingId.fromU16_wireId (id : SettingId) :
    SettingId.fromU16 id.wireId = some id := by
  cases id <;> rfl

@[simp] theorem InputProfileId.new_get (profile : InputProfileId) :
    InputProfileId.new profile.get = some profile :=
  dif_pos profile.inRange

theorem decodeSettingTarget_encode (target : SettingTarget) :
    decodeSettingTarget (byteAt (encodeSettingTarget target) 0)
      (byteAt (encodeSettingTarget target) 1) = .ok target := by
  cases target with
  | global => rfl
  | input profile =>
      have scope : byteAt (encodeSettingTarget (.input profile)) 0 = 1 := rfl
      have id : byteAt (encodeSettingTarget (.input profile)) 1 =
          profile.get := rfl
      rw [scope, id, decodeSettingTarget, if_neg (by simp), if_pos rfl,
        InputProfileId.new_get]

theorem ManagementHostName.fromParts_encode (name : ManagementHostName) :
    fromParts name.len name.bytes.toList = .ok name := by
  rw [fromParts, readArray_toList, fromParts?,
    dif_pos ⟨name.len_le, name.printable⟩]

def ManagementOutputTarget.Accepted : ManagementOutputTarget → Prop
  | .wired => True
  | .ble host => 1 ≤ host.val ∧ host.val ≤ 4

def ManagementCommand.Accepted {build : Build} :
    ManagementCommand build → Prop
  | .selectOutputTarget target => ManagementOutputTarget.Accepted target
  | .setWiredHostLink bleHost =>
      ∀ host, bleHost = some host → 1 ≤ host.val ∧ host.val ≤ 4
  | _ => True

theorem ManagementOutputTarget.accepted_of_decode {id : UInt8}
    (decoded : decode kind id = .ok target) : Accepted target := by
  rw [decode] at decoded
  split_ifs at decoded with wired ble
  · cases decoded
    trivial
  · cases decoded
    exact ble.2

theorem ManagementOutputTarget.decode_encode (accepted : Accepted target) :
    decode (byteAt (ManagementOutputTarget.encode target) 0)
      (byteAt (ManagementOutputTarget.encode target) 1) = .ok target := by
  cases target with
  | wired => rfl
  | ble host =>
      change decode 1 host.val = _
      rw [decode, if_neg (fun wired => absurd wired.1 (by decide)),
        if_pos ⟨rfl, accepted⟩]

namespace ManagementRequest

section

variable {α : Type} {payload : List UInt8} {holds : α → Prop} {found : α}

theorem ite_ok {ε : Type} {condition : Prop} [Decidable condition]
    {accept reject : Except ε α}
    (decoded : (if condition then accept else reject) = .ok found)
    (whenTrue : accept = .ok found → holds found)
    (whenFalse : reject = .ok found → holds found) : holds found := by
  split at decoded
  · exact whenTrue decoded
  · exact whenFalse decoded

variable {condition : Prop} [Decidable condition]
  {rest : Except ManagementProtocolError α}

theorem noArgument_ok {command : α}
    (decoded : (if condition then noArgument payload command else rest) =
      .ok found) (same : holds command)
    (others : rest = .ok found → holds found) : holds found := by
  refine ite_ok decoded (fun decoded => ?_) others
  rw [noArgument] at decoded
  split_ifs at decoded
  cases decoded
  exact same

theorem byteArgument_ok {command : UInt8 → α}
    (decoded : (if condition then byteArgument payload command else rest) =
      .ok found) (all : ∀ byte, holds (command byte))
    (others : rest = .ok found → holds found) : holds found := by
  refine ite_ok decoded (fun decoded => ?_) others
  rw [byteArgument] at decoded
  split_ifs at decoded
  cases decoded
  exact all _

theorem settingArgument_ok {command : SettingId → SettingTarget → α}
    (decoded : (if condition then settingArgument payload length command
      else rest) = .ok found) (all : ∀ id target, holds (command id target))
    (others : rest = .ok found → holds found) : holds found := by
  refine ite_ok decoded (fun decoded => ?_) others
  rw [settingArgument] at decoded
  split_ifs at decoded
  obtain ⟨id, -, decoded⟩ := bind_eq_ok.mp decoded
  obtain ⟨target, -, decoded⟩ := bind_eq_ok.mp decoded
  cases decoded
  exact all id target

end

theorem decodeHostLink_ok (decoded : decodeHostLink value = .ok link) :
    ∀ host, link = some host → 1 ≤ host.val ∧ host.val ≤ 4 := by
  rw [decodeHostLink] at decoded
  split_ifs at decoded with none small
  · cases decoded
    exact fun _ impossible => nomatch impossible
  · cases decoded
    intro host same
    cases same
    exact ⟨by
      have positive : value.toNat ≠ 0 := fun zero =>
        none (UInt8.toNat_inj.mp zero)
      exact UInt8.le_iff_toNat_le.mpr (Nat.one_le_iff_ne_zero.mpr positive),
      small⟩

theorem decodeHostLink_optionHostId
    (accepted : ∀ host, link = some host → 1 ≤ host.val ∧ host.val ≤ 4) :
    decodeHostLink (optionHostId link) = .ok link := by
  cases link with
  | none => rfl
  | some host =>
      obtain ⟨positive, small⟩ := accepted host rfl
      rw [optionHostId, decodeHostLink, if_neg, if_pos small]
      intro zero
      rw [zero] at positive
      exact absurd positive (by decide)

theorem decodeDualCommand_accepted {command : ManagementCommand .dual}
    (decoded : decodeDualCommand opcode payload = .ok command) :
    command.Accepted := by
  rw [decodeDualCommand] at decoded
  refine ite_ok decoded (fun decoded => ?_) fun decoded => ?_
  · refine ite_ok decoded (fun decoded => ?_) fun impossible => nomatch impossible
    obtain ⟨target, known, decoded⟩ := bind_eq_ok.mp decoded
    cases decoded
    exact ManagementOutputTarget.accepted_of_decode known
  refine noArgument_ok decoded trivial fun decoded => ?_
  refine byteArgument_ok decoded (fun _ => trivial) fun decoded => ?_
  refine byteArgument_ok decoded (fun _ => trivial) fun decoded => ?_
  refine noArgument_ok decoded trivial fun decoded => ?_
  refine ite_ok decoded (fun decoded => ?_) fun impossible => nomatch impossible
  refine ite_ok decoded (fun decoded => ?_) fun impossible => nomatch impossible
  obtain ⟨link, known, decoded⟩ := bind_eq_ok.mp decoded
  cases decoded
  exact decodeHostLink_ok known

theorem decodeCommand_accepted {build : Build} {opcode : UInt8}
    {payload : List UInt8} {command : ManagementCommand build}
    (decoded : decodeCommand build opcode payload = .ok command) :
    command.Accepted := by
  rw [decodeCommand] at decoded
  refine noArgument_ok decoded trivial fun decoded => ?_
  refine byteArgument_ok decoded (fun _ => trivial) fun decoded => ?_
  refine byteArgument_ok decoded (fun _ => trivial) fun decoded => ?_
  refine byteArgument_ok decoded (fun _ => trivial) fun decoded => ?_
  refine byteArgument_ok decoded (fun _ => trivial) fun decoded => ?_
  refine ite_ok decoded (fun decoded => ?_) fun decoded => ?_
  · refine ite_ok decoded (fun decoded => ?_) fun impossible => nomatch impossible
    obtain ⟨name, -, decoded⟩ := bind_eq_ok.mp decoded
    cases decoded
    trivial
  refine noArgument_ok decoded trivial fun decoded => ?_
  refine ite_ok decoded (fun decoded => ?_) fun decoded => ?_
  · refine ite_ok decoded (fun decoded => ?_) fun impossible => nomatch impossible
    cases decoded
    trivial
  refine noArgument_ok decoded trivial fun decoded => ?_
  refine byteArgument_ok decoded (fun _ => trivial) fun decoded => ?_
  refine noArgument_ok decoded trivial fun decoded => ?_
  refine settingArgument_ok decoded (fun _ _ => trivial) fun decoded => ?_
  refine settingArgument_ok decoded (fun _ _ => trivial) fun decoded => ?_
  refine byteArgument_ok decoded (fun _ => trivial) fun decoded => ?_
  refine noArgument_ok decoded trivial fun decoded => ?_
  cases build with
  | single => cases decoded
  | dual => exact decodeDualCommand_accepted decoded

theorem length_encodeSettingTarget (target : SettingTarget) :
    (encodeSettingTarget target).length = 2 := by
  cases target <;> rfl

theorem settingArgument_eq {α : Type} {id : SettingId}
    (command : SettingId → SettingTarget → α)
    (written : payload =
      writeU16 id.wireId ++ (encodeSettingTarget target ++ rest))
    (sized : payload.length = length) :
    settingArgument payload length command = .ok (command id target) := by
  have wireId : slice payload 0 2 = writeU16 id.wireId := by
    rw [written]
    exact slice_front (length_writeU16 _)
  have setting : decodeSettingTarget (byteAt payload 2) (byteAt payload 3) =
      .ok target := by
    rw [← decodeSettingTarget_encode target, written]
    cases target <;> rfl
  rw [settingArgument, if_pos sized, wireId, readU16_writeU16,
    SettingId.fromU16_wireId, setting]
  rfl

theorem decodeCommand_encode {command : ManagementCommand build}
    (accepted : command.Accepted) :
    decodeCommand build command.encode.1 command.encode.2 = .ok command := by
  cases command with
  | setHostName host name =>
      have sized : (host.val :: name.len :: name.bytes.toList).length =
          2 + managementHostNameLen := by
        rw [List.length_cons, List.length_cons, Vector.length_toList]
        omega
      change (if (host.val :: name.len :: name.bytes.toList).length =
          2 + managementHostNameLen then do
            let name ← ManagementHostName.fromParts name.len name.bytes.toList
            return ManagementCommand.setHostName ⟨host.val⟩ name
        else .error ManagementProtocolError.invalidArgument) = _
      rw [if_pos sized, name.fromParts_encode]
      rfl
  | getSetting id target =>
      refine settingArgument_eq _ (congrArg _ (List.append_nil _).symm) ?_
      rw [ManagementCommand.encode, List.length_append, length_writeU16,
        length_encodeSettingTarget]
  | setSetting id target value =>
      have front : (writeU16 id.wireId ++ encodeSettingTarget target).length =
          4 := by
        rw [List.length_append, length_writeU16, length_encodeSettingTarget]
      have held : slice (writeU16 id.wireId ++ encodeSettingTarget target ++
          writeU32 value.toUInt32) 4 4 = writeU32 value.toUInt32 := by
        rw [slice_skip_front front, slice_whole (length_writeU32 _)]
      refine (settingArgument_eq _ (List.append_assoc ..) ?_).trans ?_
      · rw [List.length_append, front, length_writeU32]
      · rw [ManagementCommand.encode, held, readU32_writeU32]
        rfl
  | selectOutputTarget target =>
      have decoded := ManagementOutputTarget.decode_encode accepted
      have sized : (ManagementOutputTarget.encode target).length = 2 := by
        cases target <;> rfl
      change (if (ManagementOutputTarget.encode target).length = 2 then do
          let target ← ManagementOutputTarget.decode
            (byteAt (ManagementOutputTarget.encode target) 0)
            (byteAt (ManagementOutputTarget.encode target) 1)
          return ManagementCommand.selectOutputTarget target
        else .error ManagementProtocolError.invalidArgument) = _
      rw [if_pos sized, decoded]
      rfl
  | setWiredHostLink link =>
      have decoded := decodeHostLink_optionHostId accepted
      change (decodeHostLink (optionHostId link) >>= fun link =>
        .ok (ManagementCommand.setWiredHostLink link)) = _
      rw [decoded]
      rfl
  | _ => rfl

theorem encode_short (command : ManagementCommand build) :
    command.encode.2.length ≤ managementRequestLen - 4 := by
  cases command with
  | setHostName host name =>
      change (host.val :: name.len :: name.bytes.toList).length ≤ 16
      rw [List.length_cons, List.length_cons, Vector.length_toList]
      exact Nat.le_of_ble_eq_true rfl
  | getSetting id target => cases target <;> exact Nat.le_of_ble_eq_true rfl
  | setSetting id target value =>
      cases target <;> exact Nat.le_of_ble_eq_true rfl
  | selectOutputTarget target =>
      cases target <;> exact Nat.le_of_ble_eq_true rfl
  | _ => exact Nat.le_of_ble_eq_true rfl

theorem decode_packet (build : Build) (requestId opcode : UInt8)
    (short : payload.length ≤ managementRequestLen - 4) :
    decode build (padTo managementRequestLen
        ([managementProtocolVersion, requestId, opcode,
          UInt8.ofNat payload.length] ++ payload)) =
      (decodeCommand build opcode payload >>= fun command =>
        .ok ⟨requestId, command⟩) := by
  have small : payload.length ≤ 16 := short
  have length : (UInt8.ofNat payload.length).toNat = payload.length :=
    UInt8.toNat_ofNat_of_lt' (by rw [UInt8.size]; omega)
  generalize packet : padTo managementRequestLen
    ([managementProtocolVersion, requestId, opcode,
      UInt8.ofNat payload.length] ++ payload) = bytes
  have sized : bytes.length = managementRequestLen := by
    rw [← packet, padTo, List.length_append, List.length_replicate,
      List.length_append, managementRequestLen]
    simp only [List.length_cons, List.length_nil]
    omega
  have held : slice bytes 4 payload.length = payload := by
    rw [← packet, padTo, List.append_assoc, slice_skip_front (by rfl),
      slice_front rfl]
  have version : byteAt bytes 0 = managementProtocolVersion := by
    rw [← packet]
    rfl
  have announced : byteAt bytes 3 = UInt8.ofNat payload.length := by
    rw [← packet]
    rfl
  have second : byteAt bytes 2 = opcode := by
    rw [← packet]
    rfl
  have first : byteAt bytes 1 = requestId := by
    rw [← packet]
    rfl
  rw [decode, require_pos sized, require_pos version]
  simp only [announced, length, held, first, second, ok_bind]
  rw [require_pos short]
  rfl

theorem decode_encode (accepted : request.command.Accepted) :
    decode build request.encode = .ok request := by
  refine (decode_packet build request.requestId request.command.encode.1
    (encode_short request.command)).trans ?_
  rw [decodeCommand_encode accepted]
  rfl

theorem decode_accepted (decoded : decode build bytes = .ok request) :
    request.command.Accepted := by
  obtain ⟨_, -, decoded⟩ := bind_eq_ok.mp decoded
  obtain ⟨_, -, decoded⟩ := bind_eq_ok.mp decoded
  obtain ⟨_, -, decoded⟩ := bind_eq_ok.mp decoded
  obtain ⟨command, known, decoded⟩ := bind_eq_ok.mp decoded
  cases decoded
  exact decodeCommand_accepted known

/-- Decoding and encoding again changes no request.  The requests this is about
are exactly those whose values the decoder accepts. -/
theorem requests_survive (build : Build) :
    (∀ bytes (request : ManagementRequest build),
      decode build bytes = .ok request →
        decode build request.encode = .ok request) ∧
    (∀ request : ManagementRequest build, request.command.Accepted →
      request.encode.length = managementRequestLen ∧
        decode build request.encode = .ok request) ∧
    ∀ request : ManagementRequest build, request.command.Accepted ↔
      ∃ bytes, decode build bytes = .ok request := by
  refine ⟨?_, ?_, ?_⟩
  · intro bytes request decoded
    exact decode_encode (decode_accepted decoded)
  · intro request accepted
    have decoded := decode_encode accepted
    obtain ⟨_, length, -⟩ := bind_eq_ok.mp decoded
    exact ⟨require_eq_ok.mp length, decoded⟩
  · intro request
    constructor
    · intro accepted
      exact ⟨request.encode, decode_encode accepted⟩
    · intro decodable
      obtain ⟨bytes, decoded⟩ := decodable
      exact decode_accepted decoded

end ManagementRequest

end HidShift
