import HidShift.Management.Frame

namespace HidShift

open Lib Lib.Checked

namespace Frame

def body (frame : Frame) : List UInt8 :=
  frameMagic ++ [frameVersion, frame.kind.toByte] ++
    writeU16 frame.requestId ++ [frame.node.toByte, frame.flags] ++
      writeU16 (UInt16.ofNat frame.payload.toList.length) ++
        frame.payload.toList

variable (frame : Frame)

theorem length_body :
    frame.body.length = frameHeaderLen + frame.payload.toList.length := by
  simp only [body, List.length_append, length_writeU16, List.length_cons,
    List.length_nil, frameMagic, frameHeaderLen]

theorem toList_encode :
    frame.encode.toList =
      frame.body ++ writeU16 (crc16CcittFalse frame.body) := by
  have fits : frame.payload.toList.length ≤ 512 := frame.payload.length_le
  have covered : ∃ bytes : BoundedVec UInt8 frameCapacity,
      bytes.toList = frame.body ∧
        frame.encode =
          bytes.extended (writeU16 (crc16CcittFalse bytes.toList)) := by
    refine ⟨_, ?_, rfl⟩
    rw [body, List.append_cons frameMagic, List.append_cons _ frame.node.toByte]
    open BoundedVec in
    refine toList_extended_of (toList_extended_of (toList_pushed_of
      (toList_pushed_of (toList_extended_of (toList_pushed_of
        (toList_pushed_of (toList_extended_of toList_empty ?_) ?_) ?_) ?_)
          ?_) ?_) ?_) ?_
    all_goals
      simp only [List.length_append, List.length_cons, List.length_nil,
        length_writeU16, frameMagic, frameCapacity, frameHeaderLen,
        framePayloadCapacity, frameCrcLen]
      omega
  obtain ⟨bytes, held, encoded⟩ := covered
  rw [encoded, BoundedVec.toList_extended_of held, held]
  rw [length_body, length_writeU16]
  simp only [frameCapacity, frameHeaderLen, framePayloadCapacity, frameCrcLen]
  omega

theorem last_two (sized : rest.length = length + frameCrcLen) :
    ∃ payload c0 c1, rest = payload ++ [c0, c1] ∧
      payload.length = length := by
  have two : (rest.drop length).length = 2 := by
    rw [List.length_drop, sized, Nat.add_sub_cancel_left]
    rfl
  obtain ⟨c0, c1, last⟩ := List.length_eq_two.mp two
  refine ⟨rest.take length, c0, c1, ?_, ?_⟩
  · rw [← last, List.take_append_drop]
  · rw [List.length_take, sized]
    omega

theorem decode_header (m0 m1 version kind i0 i1 node flags l0 l1 : UInt8)
    {rest : List UInt8} (room : 2 ≤ rest.length) :
    Yields
      (decode (m0 :: m1 :: version :: kind :: i0 :: i1 :: node :: flags ::
        l0 :: l1 :: rest))
      (if [m0, m1] ≠ frameMagic then .error .invalidMagic
      else if version ≠ frameVersion then .error .unsupportedVersion
      else if framePayloadCapacity < (readU16 [l0, l1]).toNat then
        .error .payloadTooLarge
      else if rest.length ≠ (readU16 [l0, l1]).toNat + frameCrcLen then
        .error .invalidLength
      else if crc16CcittFalse (m0 :: m1 :: version :: kind :: i0 :: i1 ::
            node :: flags :: l0 :: l1 ::
              rest.take (readU16 [l0, l1]).toNat) ≠
          readU16 (rest.drop (readU16 [l0, l1]).toNat) then
        .error .crcMismatch
      else do
        let kind ← FrameKind.fromByte kind
        let node ← NodeId.fromByte node
        new kind (readU16 [i0, i1]) node flags
          (rest.take (readU16 [l0, l1]).toNat)) := by
  rw [decode, if_neg (by
    simp only [List.length_cons, frameHeaderLen, frameCrcLen]
    omega)]
  refine yields_sliced ⟨Nat.zero_le _, by simp⟩
    (yields_ite (fun _ => yields_throw _) fun _ => ?_)
  refine yields_indexed (by simp)
    (yields_ite (fun _ => yields_throw _) fun _ => ?_)
  refine yields_indexed (by simp) (yields_indexed (by simp) ?_)
  refine yields_ite (fun _ => yields_throw _) fun small => ?_
  generalize length : readU16 [l0, l1] = payloadLen at small ⊢
  change Yields (if _ ≠ frameHeaderLen + (readU16 [l0, l1]).toNat +
    frameCrcLen then _ else _) _
  rw [length]
  by_cases sized : rest.length = payloadLen.toNat + frameCrcLen
  · rw [if_neg (not_not_intro (by
        simp only [List.length_cons, sized, frameHeaderLen, frameCrcLen]
        omega)), if_neg (not_not_intro sized)]
    obtain ⟨payload, c0, c1, rfl, covered⟩ := last_two sized
    rw [List.take_left' covered, List.drop_left' covered]
    have bodyEnd : (m0 :: m1 :: version :: kind :: i0 :: i1 :: node ::
        flags :: l0 :: l1 :: (payload ++ [c0, c1])).length - frameCrcLen =
          payload.length + 10 := by
      simp [frameCrcLen]
    simp only [bodyEnd]
    have front : slice (m0 :: m1 :: version :: kind :: i0 :: i1 :: node ::
        flags :: l0 :: l1 :: (payload ++ [c0, c1])) 0
          (payload.length + 10 - 0) =
        m0 :: m1 :: version :: kind :: i0 :: i1 :: node :: flags :: l0 ::
          l1 :: payload := by
      simp [slice]
    have held : slice (m0 :: m1 :: version :: kind :: i0 :: i1 :: node ::
        flags :: l0 :: l1 :: (payload ++ [c0, c1])) frameHeaderLen
          (payload.length + 10 - frameHeaderLen) = payload := by
      simp [slice, frameHeaderLen]
    refine yields_lift (show _ = some c0 by simp) (yields_lift
      (show _ = some c1 by simp) (yields_lift (if_pos (by simp)) ?_))
    rw [front]
    refine yields_ite (fun _ => yields_throw _) fun _ => ?_
    refine yields_indexed (by simp) (yields_bind (yields_result _) fun _ _ => ?_)
    refine yields_indexed (by simp) (yields_indexed (by simp)
      (yields_indexed (by simp) ?_))
    refine yields_bind (yields_result _) fun _ _ => ?_
    refine yields_indexed (by simp) (yields_lift (if_pos ?_) ?_)
    · simp [frameHeaderLen]
    rw [held]
    exact yields_result _
  · rw [if_pos, if_pos sized]
    · exact yields_throw _
    · simp only [List.length_cons, frameHeaderLen, frameCrcLen] at sized ⊢
      omega

theorem header_cases {bytes : List UInt8}
    (long : frameHeaderLen + frameCrcLen ≤ bytes.length) :
    ∃ m0 m1 version kind i0 i1 node flags l0 l1 rest,
      bytes = m0 :: m1 :: version :: kind :: i0 :: i1 :: node :: flags ::
        l0 :: l1 :: rest ∧ 2 ≤ rest.length := by
  have split : ∀ {count : Nat} {tail : List UInt8},
      count + 1 ≤ tail.length →
        ∃ byte rest, tail = byte :: rest ∧ count ≤ rest.length := by
    intro count tail room
    cases tail with
    | nil => exact absurd room (Nat.not_succ_le_zero _)
    | cons byte rest => exact ⟨byte, rest, rfl, Nat.le_of_succ_le_succ room⟩
  change 11 + 1 ≤ bytes.length at long
  obtain ⟨m0, _, rfl, room1⟩ := split long
  obtain ⟨m1, _, rfl, room2⟩ := split room1
  obtain ⟨version, _, rfl, room3⟩ := split room2
  obtain ⟨kind, _, rfl, room4⟩ := split room3
  obtain ⟨i0, _, rfl, room5⟩ := split room4
  obtain ⟨i1, _, rfl, room6⟩ := split room5
  obtain ⟨node, _, rfl, room7⟩ := split room6
  obtain ⟨flags, _, rfl, room8⟩ := split room7
  obtain ⟨l0, _, rfl, room9⟩ := split room8
  obtain ⟨l1, rest, rfl, room⟩ := split room9
  exact ⟨m0, m1, version, kind, i0, i1, node, flags, l0, l1, rest, rfl, room⟩

theorem decode_short {bytes : List UInt8}
    (short : bytes.length < frameHeaderLen + frameCrcLen) :
    Yields (decode bytes) (.error .truncated) := by
  rw [decode, if_pos short]
  exact yields_throw _

theorem decode_finishes (bytes : List UInt8) : Finishes (decode bytes) := by
  by_cases short : bytes.length < frameHeaderLen + frameCrcLen
  · exact (decode_short short).finishes
  · obtain ⟨m0, m1, version, kind, i0, i1, node, flags, l0, l1, rest, rfl,
      room⟩ := header_cases (Nat.le_of_not_lt short)
    exact (decode_header m0 m1 version kind i0 i1 node flags l0 l1
      room).finishes

theorem new_eq_ok {kind : FrameKind} {requestId : UInt16} {node : NodeId}
    {flags : UInt8} {payload : List UInt8} {frame : Frame} :
    new kind requestId node flags payload = .ok frame ↔
      frame.kind = kind ∧ frame.requestId = requestId ∧ frame.node = node ∧
        frame.flags = flags ∧ frame.payload.toList = payload := by
  rw [new]
  constructor
  · intro made
    split at made
    · cases made
    · rename_i owned extended
      cases made
      exact ⟨rfl, rfl, rfl, rfl, BoundedVec.extend?_eq_some.mp extended⟩
  · intro fields
    obtain ⟨rfl, rfl, rfl, rfl, held⟩ := fields
    rw [BoundedVec.extend?_eq_some.mpr held]

theorem decode_iff {bytes : List UInt8} {frame : Frame} :
    Yields (decode bytes) (.ok frame) ↔ bytes = frame.encode.toList := by
  constructor
  · intro accepted
    by_cases short : bytes.length < frameHeaderLen + frameCrcLen
    · cases accepted.symm.trans (decode_short short)
    obtain ⟨m0, m1, version, kind, i0, i1, node, flags, l0, l1, rest, rfl,
      room⟩ := header_cases (Nat.le_of_not_lt short)
    have same := Option.some.inj (accepted.symm.trans
      (decode_header m0 m1 version kind i0 i1 node flags l0 l1 room))
    split_ifs at same with magic current small sized crc
    obtain ⟨knownKind, isKind, same⟩ := bind_eq_ok.mp same.symm
    obtain ⟨knownNode, isNode, same⟩ := bind_eq_ok.mp same
    obtain ⟨rfl, requestId, rfl, rfl, payload⟩ := new_eq_ok.mp same
    rw [ne_eq, not_not] at magic current sized crc
    rw [FrameKind.fromByte_eq_ok] at isKind
    rw [NodeId.fromByte_eq_ok] at isNode
    have length : frame.payload.toList.length = (readU16 [l0, l1]).toNat := by
      rw [payload, List.length_take, sized]
      omega
    have covered : frame.body = m0 :: m1 :: version :: kind :: i0 :: i1 ::
        node :: frame.flags :: l0 :: l1 ::
          rest.take (readU16 [l0, l1]).toNat := by
      rw [body, requestId, length, UInt16.ofNat_toNat, writeU16_readU16 rfl,
        writeU16_readU16 rfl, payload, ← magic, ← current, isKind, isNode]
      rfl
    rw [toList_encode, covered, crc, writeU16_readU16]
    · simp only [List.cons_append, List.take_append_drop]
    · rw [List.length_drop, sized, Nat.add_sub_cancel_left]
      rfl
  · intro same
    obtain ⟨i0, i1, requestId⟩ :=
      List.length_eq_two.mp (length_writeU16 frame.requestId)
    obtain ⟨l0, l1, length⟩ := List.length_eq_two.mp
      (length_writeU16 (UInt16.ofNat frame.payload.toList.length))
    have small : frame.payload.toList.length ≤ 512 := frame.payload.length_le
    have lengthValue : (readU16 [l0, l1]).toNat =
        frame.payload.toList.length := by
      rw [← length, readU16_writeU16]
      exact UInt16.toNat_ofNat_of_lt' (by rw [UInt16.size]; omega)
    have header : frame.body = 0x48 :: 0x53 :: frameVersion ::
        frame.kind.toByte :: i0 :: i1 :: frame.node.toByte :: frame.flags ::
          l0 :: l1 :: frame.payload.toList := by
      rw [body, requestId, length]
      rfl
    generalize checksum : writeU16 (crc16CcittFalse frame.body) = crc
    have two : crc.length = 2 := by rw [← checksum, length_writeU16]
    have decoded := @decode_header 0x48 0x53 frameVersion frame.kind.toByte i0
      i1 frame.node.toByte frame.flags l0 l1 (frame.payload.toList ++ crc)
      (by rw [List.length_append, two]; omega)
    have magic : ¬ [0x48, 0x53] ≠ frameMagic := not_not_intro rfl
    have sized : ¬ (frame.payload.toList ++ crc).length ≠
        frame.payload.toList.length + frameCrcLen :=
      not_not_intro (by rw [List.length_append, two]; rfl)
    have covered : ¬ crc16CcittFalse frame.body ≠ readU16 crc :=
      not_not_intro (by rw [← checksum, readU16_writeU16])
    rw [lengthValue, List.take_left, List.drop_left, ← header, if_neg magic,
      if_neg (not_not_intro rfl),
      if_neg (Nat.not_lt.mpr frame.payload.length_le),
      if_neg sized, if_neg covered, FrameKind.fromByte_eq_ok.mpr rfl,
      NodeId.fromByte_eq_ok.mpr rfl, ok_bind, ok_bind,
      new_eq_ok.mpr ⟨rfl, ?_, rfl, rfl, rfl⟩] at decoded
    · rw [same, toList_encode, checksum, header]
      exact decoded
    · rw [← requestId, readU16_writeU16]

end Frame

namespace StreamEncoder

structure Holds (encoder : StreamEncoder) (blocks : List Cobs.Block)
    (current : Cobs.OpenBlock) : Prop where
  encoded : encoder.encoded.toList = Cobs.stream blocks ++ 0 :: current.bytes
  codeIndex : encoder.codeIndex = (Cobs.stream blocks).length
  code : encoder.code = current.closed.code

variable {encoder : StreamEncoder} {blocks : List Cobs.Block}
  {current : Cobs.OpenBlock}

theorem storeCode_block {block : Cobs.Block}
    (encoded : encoder.encoded.toList = Cobs.stream blocks ++ 0 :: block.bytes)
    (codeIndex : encoder.codeIndex = (Cobs.stream blocks).length)
    (code : encoder.code = block.code) :
    ∃ stored, encoder.storeCode = some stored ∧
      stored.toList = Cobs.stream (blocks ++ [block]) := by
  rw [storeCode, if_pos]
  · refine ⟨_, rfl, ?_⟩
    rw [BoundedVec.toList_set, encoded, codeIndex, code,
      List.set_append_right _ _ (Nat.le_refl _), Nat.sub_self]
    simp
  · rw [encoded, codeIndex, List.length_append, List.length_cons]
    omega

theorem nextBlock_block {block : Cobs.Block}
    (encoded : encoder.encoded.toList = Cobs.stream blocks ++ 0 :: block.bytes)
    (codeIndex : encoder.codeIndex = (Cobs.stream blocks).length)
    (code : encoder.code = block.code)
    (room : (Cobs.stream (blocks ++ [block])).length < streamFrameCapacity) :
    ∃ next, encoder.nextBlock = some next ∧
      next.Holds (blocks ++ [block]) .empty := by
  obtain ⟨stored, storing, held⟩ := storeCode_block encoded codeIndex code
  rw [nextBlock, storing]
  refine ⟨_, rfl, ?_, ?_, rfl⟩
  · exact BoundedVec.toList_pushed_of held room
  · rw [← held]

theorem Holds.add_all (holds : encoder.Holds blocks current)
    (room : (Cobs.stream (blocks ++ Cobs.blocksFrom current data)).length <
      streamFrameCapacity) :
    ∃ finish front last, data.foldlM StreamEncoder.add encoder = some finish ∧
      finish.Holds front last ∧
        front ++ [last.closed] = blocks ++ Cobs.blocksFrom current data := by
  induction data generalizing encoder blocks current with
  | nil => exact ⟨encoder, blocks, current, rfl, holds, rfl⟩
  | cons byte rest ih =>
      have fits : (Cobs.stream blocks ++ 0 :: current.bytes).length <
          streamFrameCapacity := by
        have reach := Cobs.length_le_blocksFrom current (byte :: rest)
        rw [Cobs.stream_append, List.length_append] at room
        rw [List.length_append, List.length_cons]
        omega
      have written : (encoder.encoded.pushed byte).toList =
          Cobs.stream blocks ++ 0 :: (current.bytes ++ [byte]) := by
        rw [BoundedVec.toList_pushed_of holds.encoded fits, List.append_assoc,
          List.cons_append]
      have code : encoder.code + 1 = (current.grown byte).code := by
        rw [current.code_grown, holds.code]
      rw [Cobs.blocksFrom] at room ⊢
      rw [List.foldlM_cons, add]
      by_cases zero : byte = 0
      · rw [if_pos zero, List.append_cons] at room
        rw [if_pos zero, if_pos zero, List.append_cons]
        obtain ⟨next, moved, opened⟩ := @nextBlock_block encoder blocks
          current.closed holds.encoded holds.codeIndex holds.code
          (by rw [Cobs.stream_append, List.length_append] at room; omega)
        rw [moved, Option.bind_eq_bind, Option.bind_some]
        exact ih opened room
      rw [if_neg zero] at room
      rw [if_neg zero, if_neg zero]
      by_cases short : (current.bytes ++ [byte]).length < 254
      · rw [dif_pos short] at room ⊢
        have open' : ¬ encoder.code + 1 = 0xff := by
          rw [code, ← Cobs.Block.full_iff]
          exact Nat.ne_of_lt short
        simp only [if_neg open', Option.bind_eq_bind, Option.bind_some]
        exact ih ⟨written, holds.codeIndex, code⟩ room
      · rw [dif_neg short, List.append_cons] at room
        rw [dif_neg short, List.append_cons]
        have full : encoder.code + 1 = 0xff := by
          rw [code]
          exact (Cobs.Block.full_iff _).mp (Cobs.OpenBlock.full_grown short)
        obtain ⟨next, moved, opened⟩ := @nextBlock_block
          { encoder with
            encoded := encoder.encoded.pushed byte
            code := encoder.code + 1 }
          blocks (current.grown byte) written holds.codeIndex code
          (by rw [Cobs.stream_append, List.length_append] at room; omega)
        simp only [if_pos full, moved, Option.bind_eq_bind, Option.bind_some]
        exact ih opened room

end StreamEncoder

theorem encodeStream_eq (frame : Frame) :
    ∃ wire, encodeStream frame = some wire ∧
      wire.toList = Cobs.encode frame.encode.toList ++ [0] := by
  have length := Cobs.length_encode frame.encode.toList
  have short : frame.encode.toList.length ≤ 524 := frame.encode.length_le
  have room : (Cobs.stream ([] ++
      Cobs.blocksFrom .empty frame.encode.toList)).length <
        streamFrameCapacity := by
    rw [List.nil_append]
    change (Cobs.encode frame.encode.toList).length < 528
    omega
  have begun : StreamEncoder.Holds ⟨BoundedVec.empty.pushed 0, 0, 1⟩ []
      .empty := ⟨rfl, rfl, rfl⟩
  obtain ⟨finish, front, last, added, holds, blocks⟩ := begun.add_all room
  obtain ⟨stored, storing, held⟩ := @StreamEncoder.storeCode_block finish front
    last.closed holds.encoded holds.codeIndex holds.code
  rw [blocks, List.nil_append] at held
  refine ⟨stored.pushed 0, ?_, BoundedVec.toList_pushed_of held room⟩
  simp only [encodeStream, added, storing, Option.bind_eq_bind,
    Option.bind_some, Option.pure_def]

section

variable {front tail rest : List UInt8} {code : UInt8} {block : Cobs.Block}
  {decoded final : BoundedVec UInt8 frameCapacity} {fuel : Nat}

theorem extendDecoded_append (bytes more : List UInt8) :
    extendDecoded decoded (bytes ++ more) =
      extendDecoded decoded bytes >>= fun longer =>
        extendDecoded longer more := by
  have both : decoded.extend? (bytes ++ more) =
      (decoded.extend? bytes).bind fun longer => longer.extend? more := by
    simp only [BoundedVec.extend?, List.foldlM_append]
    rfl
  rw [extendDecoded, both, extendDecoded]
  cases decoded.extend? bytes <;> rfl

theorem decodeBlock_bad (bad : code = 0 ∨ tail.length + 2 < code.toNat) :
    Yields (decodeBlock (front ++ code :: tail) front.length decoded)
      (.error .malformedCobs) := by
  rw [decodeBlock]
  refine yields_lift (show _ = some code by simp) ?_
  rw [if_pos]
  · exact yields_throw _
  · rcases bad with zero | long
    · exact .inl (by rw [zero]; rfl)
    · refine .inr ?_
      rw [List.length_append, List.length_cons]
      omega

theorem indexed_front {ε : Type} :
    Yields (indexed (front ++ code :: tail) front.length : Checked ε UInt8)
      (.ok code) := by
  rw [indexed, List.getElem?_append_right (Nat.le_refl _), Nat.sub_self]
  rfl

theorem decodeBlock_cut (cut : code.toNat = tail.length + 2) :
    ¬ Finishes (decodeBlock (front ++ code :: tail) front.length decoded) := by
  have length : (front ++ code :: tail).length =
      front.length + tail.length + 1 := by
    rw [List.length_append, List.length_cons]
    omega
  rw [decodeBlock, finishes_then indexed_front, if_neg (by omega),
    finishes_bind, not_and_or]
  refine .inl (not_finishes.mpr ?_)
  rw [sliced, if_neg (by omega)]
  rfl

theorem decodeBlock_block :
    Yields (decodeBlock (front ++ block.code :: (block.bytes ++ rest))
        front.length decoded)
      ((extendDecoded decoded
          (if rest = [] then block.bytes else block.spelled)).map
        fun longer =>
          ((front ++ block.code :: block.bytes).length, longer)) := by
  have length : (front ++ block.code :: (block.bytes ++ rest)).length =
      front.length + 1 + block.bytes.length + rest.length := by
    simp only [List.length_append, List.length_cons]
    omega
  have stop : front.length + 1 + (block.bytes.length + 1) - 1 =
      (front ++ block.code :: block.bytes).length := by
    simp only [List.length_append, List.length_cons]
    omega
  have inside : front.length + 1 ≤
      (front ++ block.code :: block.bytes).length ∧
        (front ++ block.code :: block.bytes).length ≤
          (front ++ block.code :: (block.bytes ++ rest)).length := by
    simp only [List.length_append, List.length_cons]
    omega
  have held : slice (front ++ block.code :: (block.bytes ++ rest))
      (front.length + 1)
      ((front ++ block.code :: block.bytes).length - (front.length + 1)) =
        block.bytes := by
    rw [List.append_cons front block.code, slice_skip_front (by simp)]
    exact slice_front (by simp; omega)
  rw [decodeBlock]
  refine yields_then indexed_front ?_
  rw [block.toNat_code, if_neg (by omega)]
  simp only [stop]
  refine yields_sliced inside ?_
  rw [held]
  have last : ∀ extended : Except FrameError
      (BoundedVec UInt8 frameCapacity), Yields
        (result extended >>= fun longer =>
          pure ((front ++ block.code :: block.bytes).length, longer))
        (extended.map fun longer =>
          ((front ++ block.code :: block.bytes).length, longer)) := by
    intro extended
    cases extended <;> rfl
  by_cases more : rest = []
  · have final : ¬ (block.bytes.length + 1 ≠ 0xff ∧
        (front ++ block.code :: block.bytes).length <
          (front ++ block.code :: (block.bytes ++ rest)).length) := by
      rw [more, List.append_nil]
      exact fun between => Nat.lt_irrefl _ between.2
    simp only [if_neg final, if_pos more]
    exact last _
  have positive := List.length_pos_iff.mpr more
  rw [if_neg more, Cobs.Block.spelled]
  by_cases full : block.Full
  · have longest : ¬ (block.bytes.length + 1 ≠ 0xff ∧
        (front ++ block.code :: block.bytes).length <
          (front ++ block.code :: (block.bytes ++ rest)).length) := by
      rw [show block.bytes.length = 254 from full]
      exact fun between => between.1 rfl
    simp only [if_neg longest, if_pos full, List.append_nil]
    exact last _
  · have between : block.bytes.length + 1 ≠ 0xff ∧
        (front ++ block.code :: block.bytes).length <
          (front ++ block.code :: (block.bytes ++ rest)).length := by
      have open' : block.bytes.length ≠ 254 := full
      simp only [List.length_append, List.length_cons]
      omega
    simp only [if_pos between, if_neg full, extendDecoded_append]
    cases extended : extendDecoded decoded block.bytes with
    | error error => rfl
    | ok longer => exact yields_then (yields_result _) (last _)

theorem decodeBlocks_nil : decodeBlocks (front ++ []) (fuel + 1)
    front.length decoded = pure decoded := by
  rw [List.append_nil]
  exact if_neg (Nat.lt_irrefl _)

theorem decodeBlocks_cons :
    decodeBlocks (front ++ code :: tail) (fuel + 1) front.length decoded =
      decodeBlock (front ++ code :: tail) front.length decoded >>= fun next =>
        decodeBlocks (front ++ code :: tail) fuel next.1 next.2 := by
  refine if_pos ?_
  rw [List.length_append, List.length_cons]
  omega

theorem decodeBlocks_block (extended : extendDecoded decoded
      (if rest = [] then block.bytes else block.spelled) = .ok longer) :
    (decodeBlocks (front ++ block.code :: (block.bytes ++ rest)) (fuel + 1)
        front.length decoded).run =
      (decodeBlocks ((front ++ block.code :: block.bytes) ++ rest) fuel
        (front ++ block.code :: block.bytes).length longer).run := by
  have read := @decodeBlock_block front rest block decoded
  rw [extended] at read
  rw [decodeBlocks_cons, ExceptT.run_bind, show (decodeBlock _ _ _).run =
    some (.ok (_, longer)) from read, List.append_assoc, List.cons_append]
  rfl

theorem decodeBlocks_full (full : extendDecoded decoded
      (if rest = [] then block.bytes else block.spelled) = .error error) :
    Yields (decodeBlocks (front ++ block.code :: (block.bytes ++ rest))
      (fuel + 1) front.length decoded) (.error error) := by
  have read := @decodeBlock_block front rest block decoded
  rw [full] at read
  rw [decodeBlocks_cons, Yields, ExceptT.run_bind,
    show (decodeBlock _ _ _).run = some (.error error) from read]
  rfl

theorem decodeBlocks_bad (bad : code = 0 ∨ tail.length + 2 < code.toNat) :
    Yields (decodeBlocks (front ++ code :: tail) (fuel + 1) front.length
      decoded) (.error .malformedCobs) := by
  rw [decodeBlocks_cons, Yields, ExceptT.run_bind,
    show (decodeBlock _ _ _).run = some (.error .malformedCobs) from
      decodeBlock_bad bad]
  rfl

theorem decodeBlocks_cut (cut : code.toNat = tail.length + 2) :
    ¬ Finishes (decodeBlocks (front ++ code :: tail) (fuel + 1) front.length
      decoded) := by
  rw [decodeBlocks_cons, finishes_bind, not_and_or]
  exact .inl (decodeBlock_cut cut)

theorem extendDecoded_eq_ok :
    extendDecoded decoded bytes = .ok final ↔
      final.toList = decoded.toList ++ bytes := by
  rw [extendDecoded, ← BoundedVec.extend?_eq_some]
  cases decoded.extend? bytes <;> simp

theorem extendDecoded_eq_error
    (full : extendDecoded decoded bytes = .error error) :
    frameCapacity < decoded.toList.length + bytes.length := by
  rw [← BoundedVec.extend?_eq_none]
  rw [extendDecoded] at full
  split at full
  · assumption
  · cases full

theorem content_block (block : Cobs.Block) (rest : List Cobs.Block) :
    Cobs.content (block :: rest) =
      (if Cobs.stream rest = [] then block.bytes else block.spelled) ++
        Cobs.content rest := by
  cases rest with
  | nil => exact (List.append_nil _).symm
  | cons next rest => rw [if_neg (by simp)]; rfl

theorem decodeBlocks_accepts {blocks : List Cobs.Block}
    (enough : blocks.length < fuel)
    (fits : final.toList = decoded.toList ++ Cobs.content blocks) :
    Yields (decodeBlocks (front ++ Cobs.stream blocks) fuel front.length
      decoded) (.ok final) := by
  induction blocks generalizing front decoded fuel with
  | nil =>
      obtain ⟨fuel, rfl⟩ : ∃ less, fuel = less + 1 := ⟨fuel - 1, by omega⟩
      rw [Cobs.stream_nil, decodeBlocks_nil]
      rw [Cobs.content, List.append_nil] at fits
      rw [BoundedVec.ext fits]
      exact yields_pure decoded
  | cons block rest ih =>
      obtain ⟨fuel, rfl⟩ : ∃ less, fuel = less + 1 := ⟨fuel - 1, by omega⟩
      rw [content_block, ← List.append_assoc] at fits
      have room := final.length_le
      rw [fits, List.length_append] at room
      obtain ⟨longer, held⟩ : ∃ longer : BoundedVec UInt8 frameCapacity,
          longer.toList = decoded.toList ++
            if Cobs.stream rest = [] then block.bytes else block.spelled :=
        ⟨⟨_, Nat.le_trans (Nat.le_add_right _ _) room⟩, rfl⟩
      rw [← held] at fits
      rw [Cobs.stream_cons, Yields,
        decodeBlocks_block (extendDecoded_eq_ok.mpr held)]
      exact ih (Nat.lt_of_succ_lt_succ enough) fits

theorem decodeBlocks_sound
    (accepted : Yields (decodeBlocks (front ++ rest) fuel front.length decoded)
      (.ok final)) :
    ∃ blocks, rest = Cobs.stream blocks ∧
      final.toList = decoded.toList ++ Cobs.content blocks := by
  induction fuel generalizing front rest decoded with
  | zero => cases accepted
  | succ fuel ih =>
      cases rest with
      | nil =>
          rw [decodeBlocks_nil] at accepted
          cases accepted
          exact ⟨[], rfl, (List.append_nil _).symm⟩
      | cons code tail =>
          rcases Cobs.block_cases code tail with
            bad | cut | ⟨block, rest, rfl, rfl⟩
          · cases accepted.symm.trans (decodeBlocks_bad bad)
          · exact absurd accepted.finishes (decodeBlocks_cut cut)
          cases extended : extendDecoded decoded
            (if rest = [] then block.bytes else block.spelled) with
          | error error =>
              cases accepted.symm.trans (decodeBlocks_full extended)
          | ok longer =>
              rw [Yields, decodeBlocks_block extended] at accepted
              obtain ⟨blocks, rfl, held⟩ := ih accepted
              refine ⟨block :: blocks, rfl, ?_⟩
              rw [held, extendDecoded_eq_ok.mp extended, List.append_assoc,
                content_block]

theorem decodeBlocks_finishes (enough : rest.length < fuel) :
    Finishes (decodeBlocks (front ++ rest) fuel front.length decoded) ↔
      ¬ Cobs.CutShort rest (frameCapacity - decoded.toList.length) := by
  induction fuel generalizing front rest decoded with
  | zero => omega
  | succ fuel ih =>
      cases rest with
      | nil =>
          rw [decodeBlocks_nil]
          exact iff_of_true (finishes_pure _) (Cobs.not_cutShort_nil _)
      | cons code tail =>
          rcases Cobs.block_cases code tail with
            bad | cut | ⟨block, rest, rfl, rfl⟩
          · exact iff_of_true (decodeBlocks_bad bad).finishes
              (Cobs.not_cutShort_bad _ bad)
          · exact iff_of_false (decodeBlocks_cut cut)
              (not_not_intro (Cobs.cutShort_cut _ cut))
          rw [Cobs.cutShort_block]
          cases extended : extendDecoded decoded
            (if rest = [] then block.bytes else block.spelled) with
          | error error =>
              refine iff_of_true (decodeBlocks_full extended).finishes ?_
              intro cut
              have more : rest ≠ [] := by
                intro nothing
                rw [nothing] at cut
                exact Cobs.not_cutShort_nil _ cut.2
              rw [if_neg more] at extended
              have full := extendDecoded_eq_error extended
              have fits := cut.1
              have held := decoded.length_le
              omega
          | ok longer =>
              have short : rest.length < fuel := by
                simp only [List.length_cons, List.length_append] at enough
                omega
              have later := @ih (front ++ block.code :: block.bytes) rest
                longer short
              rw [Finishes] at later ⊢
              simp only [Yields, decodeBlocks_block extended] at later ⊢
              rw [later]
              by_cases more : rest = []
              · rw [more]
                exact iff_of_true (Cobs.not_cutShort_nil _)
                  fun cut => Cobs.not_cutShort_nil _ cut.2
              · rw [if_neg more] at extended
                have room := longer.length_le
                rw [extendDecoded_eq_ok.mp extended,
                  List.length_append] at room ⊢
                rw [← Nat.sub_sub, and_iff_right (by omega)]

end

section

variable {bytes : List UInt8} {frame : Frame}

theorem decodeStream_iff :
    Yields (decodeStream bytes) (.ok frame) ↔
      ∃ blocks, stripDelimiter bytes = Cobs.stream blocks ∧
        Cobs.content blocks = frame.encode.toList := by
  simp only [decodeStream, yields_ok_bind, Frame.decode_iff]
  constructor
  · intro accepted
    obtain ⟨decoded, read, held⟩ := accepted
    obtain ⟨blocks, same, content⟩ :=
      @decodeBlocks_sound [] (stripDelimiter bytes) .empty decoded _ read
    exact ⟨blocks, same, content.symm.trans held⟩
  · intro spelled
    obtain ⟨blocks, same, content⟩ := spelled
    refine ⟨frame.encode, ?_, rfl⟩
    rw [same]
    refine @decodeBlocks_accepts [] .empty frame.encode _ blocks ?_ content.symm
    exact Nat.lt_succ_of_le (Cobs.length_le_stream blocks)

theorem decodeStream_finishes :
    Finishes (decodeStream bytes) ↔
      ¬ Cobs.CutShort (stripDelimiter bytes) frameCapacity := by
  rw [decodeStream, finishes_bind]
  refine (and_iff_left ?_).trans (@decodeBlocks_finishes []
    (stripDelimiter bytes) .empty _ (Nat.lt_succ_self _))
  intro decoded _
  exact Frame.decode_finishes decoded.toList

theorem stripDelimiter_append (encoded : List UInt8) :
    stripDelimiter (encoded ++ [0]) = encoded := by
  rw [stripDelimiter, List.getLast?_concat, if_pos rfl, List.dropLast_concat]

end

/-- Frames come back from their bytes and from a stream, where the only zero is
the delimiter. -/
theorem frames_round_trip (frame : Frame) :
    Yields (Frame.decode frame.encode.toList) (.ok frame) ∧
      ∃ wire encoded, encodeStream frame = some wire ∧
        wire.toList = encoded ++ [0] ∧ (∀ byte ∈ encoded, byte ≠ 0) ∧
        Cobs.Encodes encoded frame.encode.toList ∧
        Yields (decodeStream wire.toList) (.ok frame) := by
  refine ⟨Frame.decode_iff.mpr rfl, ?_⟩
  obtain ⟨wire, encoded, written⟩ := encodeStream_eq frame
  obtain ⟨blocks, strict, same, content⟩ :=
    Cobs.encode_encodes frame.encode.toList
  refine ⟨wire, Cobs.encode frame.encode.toList, encoded, written, ?_,
    ⟨blocks, strict, same, content⟩, ?_⟩
  · rw [← same]
    exact Cobs.nonzero_of_strict strict
  · rw [decodeStream_iff, written, stripDelimiter_append]
    exact ⟨blocks, same.symm, content⟩

/-- Decoding a stream finishes, with a frame only for its encoding. -/
def StreamSound (bytes : List UInt8) : Prop :=
  ∃ outcome, Yields (decodeStream bytes) outcome ∧
    ∀ frame, outcome = .ok frame →
      Cobs.Encodes (stripDelimiter bytes) frame.encode.toList

/-- A stream is treated well exactly when no block misses its last byte, and
blocks that hold zeros do not stand for a frame. -/
theorem streamSound_iff (bytes : List UInt8) :
    StreamSound bytes ↔
      ¬ Cobs.CutShort (stripDelimiter bytes) frameCapacity ∧
        ∀ blocks (frame : Frame), stripDelimiter bytes = Cobs.stream blocks →
          Cobs.content blocks = frame.encode.toList →
            ∀ byte ∈ stripDelimiter bytes, byte ≠ 0 := by
  constructor
  · intro sound
    obtain ⟨outcome, yields, valid⟩ := sound
    refine ⟨decodeStream_finishes.mp yields.finishes, ?_⟩
    intro blocks frame same content
    have accepted := decodeStream_iff.mpr ⟨blocks, same, content⟩
    obtain rfl := Option.some.inj (yields.symm.trans accepted)
    obtain ⟨strictBlocks, strict, spelled, -⟩ := valid frame rfl
    rw [← spelled]
    exact Cobs.nonzero_of_strict strict
  · intro condition
    obtain ⟨whole, zeroFree⟩ := condition
    obtain ⟨outcome, yields⟩ := decodeStream_finishes.mpr whole
    refine ⟨outcome, yields, ?_⟩
    intro frame accepted
    rw [accepted] at yields
    obtain ⟨blocks, same, content⟩ := decodeStream_iff.mp yields
    have nonzero := zeroFree blocks frame same content
    rw [same] at nonzero
    exact ⟨blocks, Cobs.strict_of_nonzero nonzero, same.symm, content⟩

/-- A single byte that announces one more. -/
theorem cut_stream_stops : ¬ StreamSound [2] := by
  intro sound
  obtain ⟨outcome, yields, -⟩ := sound
  exact decodeStream_finishes.mp yields.finishes (Cobs.cutShort_cut _ rfl)

end HidShift
