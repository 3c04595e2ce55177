import HidShift.Interchip.RecordRoundTrip
import HidShift.Lib.Ensures

namespace HidShift

open Lib Lib.Checked

section

variable {bytes : List UInt8}

theorem slice_pair (inside : offset + 2 ≤ bytes.length) :
    [byteAt bytes offset, byteAt bytes (offset + 1)] =
      slice bytes offset 2 := by
  rw [slice, List.drop_eq_getElem_cons (by omega),
    List.drop_eq_getElem_cons (by omega), byteAt, byteAt,
    List.getD_eq_getElem?_getD, List.getD_eq_getElem?_getD,
    List.getElem?_eq_getElem (by omega), List.getElem?_eq_getElem (by omega)]
  rfl

theorem slice_u16 (inside : offset + 2 ≤ bytes.length) :
    writeU16 (readU16 (slice bytes offset 2)) = slice bytes offset 2 :=
  writeU16_readU16 (length_slice inside)

theorem zeros_of_not_any {field : List UInt8}
    (zero : field.any (· ≠ 0) = false) :
    field = List.replicate field.length 0 := by
  refine List.eq_replicate_iff.mpr ⟨rfl, fun byte member => ?_⟩
  simpa using List.any_eq_false.mp zero byte member

theorem take_readArray {size : Nat} (fits : bytes.length ≤ size) :
    (readArray size bytes).toList.take bytes.length = bytes := by
  refine List.ext_getElem? fun index => ?_
  rw [List.getElem?_take]
  split
  · rename_i inside
    rw [List.getElem?_eq_getElem (by rw [Vector.length_toList]; omega),
      List.getElem?_eq_getElem inside, Vector.getElem_toList, readArray,
      Vector.getElem_ofFn, byteAt, List.getD_eq_getElem?_getD,
      List.getElem?_eq_getElem inside]
    rfl
  · exact (List.getElem?_eq_none (by omega)).symm

end

theorem SpiCellHeader.encode_decode (inside : spiCellHeaderLen ≤ bytes.length) :
    (SpiCellHeader.decode bytes).encode = slice bytes 0 spiCellHeaderLen := by
  rw [spiCellHeaderLen] at inside ⊢
  have flags : [byteAt bytes 2, byteAt bytes 3] = slice bytes 2 2 :=
    slice_pair (by omega)
  have window : [byteAt bytes 14, byteAt bytes 15] = slice bytes 14 2 :=
    slice_pair (by omega)
  have session : writeU32 (readU32 (slice bytes 4 4)) = slice bytes 4 4 :=
    writeU32_readU32 (length_slice (by omega))
  simp only [encode, decode]
  rw [slice_u16 (by omega), slice_u16 (by omega), slice_u16 (by omega),
    slice_u16 (by omega), session, flags, window,
    slice_append_slice bytes 0 2 2, slice_append_slice bytes 0 4 4,
    slice_append_slice bytes 0 8 2, slice_append_slice bytes 0 10 2,
    slice_append_slice bytes 0 12 2, slice_append_slice bytes 0 14 2]

namespace SpiCell

variable {wire : Vector UInt8 spiCellLen}

section

variable (accepted : decode wire = .ok cell)

include accepted

theorem decode_ok :
    crc16CcittFalse (slice wire.toList 0 (spiCellLen - 2)) =
        readU16 (slice wire.toList (spiCellLen - 2) 2) ∧
      cell.header = SpiCellHeader.decode wire.toList ∧
      cell.header.payloadLen.toNat ≤ spiCellPayloadLen ∧
      ¬ cell.header.CarriesUnnumbered ∧
      (slice wire.toList (spiCellHeaderLen + cell.header.payloadLen.toNat)
        (spiCellPayloadLen - cell.header.payloadLen.toNat)).any (· ≠ 0) =
          false ∧
      cell.bytes = readArray spiCellPayloadLen
        (slice wire.toList spiCellHeaderLen cell.header.payloadLen.toNat) := by
  simp only [decode] at accepted
  split at accepted
  · cases accepted
  rename_i checksum
  split at accepted
  · cases accepted
  split at accepted
  · cases accepted
  split at accepted
  · cases accepted
  rename_i fits
  split at accepted
  · cases accepted
  rename_i numbered
  split at accepted
  · cases accepted
  rename_i zero
  obtain rfl := Except.ok.inj accepted
  exact ⟨not_not.mp checksum, rfl, Nat.le_of_not_lt fits, numbered,
    Bool.eq_false_of_not_eq_true zero, rfl⟩

theorem body_decode : cell.body = slice wire.toList 0 (spiCellLen - 2) := by
  have length : wire.toList.length = 128 := Vector.length_toList ..
  change _ = slice wire.toList 0 126
  obtain ⟨-, header, fits, -, zero, bytes⟩ := decode_ok accepted
  generalize payloadLen : cell.header.payloadLen.toNat = size at fits zero bytes
  rw [spiCellPayloadLen] at fits zero
  rw [spiCellHeaderLen] at zero bytes
  have content : cell.payload = slice wire.toList 16 size := by
    have sized : (slice wire.toList 16 size).length = size :=
      length_slice (by omega)
    have taken := @take_readArray (slice wire.toList 16 size) spiCellPayloadLen
      (by rw [sized, spiCellPayloadLen]; omega)
    rw [sized] at taken
    rw [payload, bytes, payloadLen, taken]
  have trailing : slice wire.toList (16 + size) (110 - size) =
      List.replicate (110 - size) 0 := by
    have sized : (slice wire.toList (16 + size) (110 - size)).length =
        110 - size := length_slice (by omega)
    have zeros := zeros_of_not_any zero
    rwa [sized] at zeros
  rw [body, header, SpiCellHeader.encode_decode (by rw [length]; decide),
    ← header, content, payloadLen, spiCellPayloadLen, ← trailing,
    spiCellHeaderLen]
  have front := slice_append_slice wire.toList 0 16 size
  have back := slice_append_slice wire.toList 0 (16 + size) (110 - size)
  rw [Nat.zero_add] at front back
  rw [front, back, show 16 + size + (110 - size) = 126 by omega]

theorem encode_decode : cell.encode = .ok wire := by
  obtain ⟨checksum, -, fits, numbered, -⟩ := decode_ok accepted
  have length : wire.toList.length = spiCellLen := Vector.length_toList ..
  have joined : slice wire.toList 0 (spiCellLen - 2) ++
      slice wire.toList (spiCellLen - 2) 2 = wire.toList :=
    (slice_append_slice wire.toList 0 (spiCellLen - 2) 2).trans
      (slice_whole length)
  rw [encode, if_neg (Nat.not_lt.mpr fits), if_neg numbered,
    body_decode accepted, checksum, slice_u16 (by rw [length]; decide),
    joined, readArray_toList]

end

end SpiCell

namespace RecordIter

/-- `next`, with the accesses to the bytes. -/
def nextChecked (iter : RecordIter) :
    Checked Empty (Option (Except RecordCodecError Record) × RecordIter) :=
  if iter.failed ∨ iter.remaining = 0 then return (none, iter)
  else if iter.bytes.length < iter.offset + recordHeaderLen then
    return (some (.error .malformedRecord), { iter with failed := true })
  else do
    let start := iter.offset
    let low ← indexed iter.bytes (start + 2)
    let high ← indexed iter.bytes (start + 3)
    let dataLen := (readU16 [low, high]).toNat
    let rawLen := recordHeaderLen + dataLen
    let paddedLen := align4 rawLen
    if iter.bytes.length < start + paddedLen then
      return (some (.error .malformedRecord), { iter with failed := true })
    else do
      let padding ← sliced iter.bytes (start + rawLen) (start + paddedLen)
      if padding.any (· ≠ 0) then
        return (some (.error .nonZeroPadding), { iter with failed := true })
      else do
        let recordType ← indexed iter.bytes start
        let flags ← indexed iter.bytes (start + 1)
        let data ← sliced iter.bytes (start + recordHeaderLen) (start + rawLen)
        return (some (.ok ⟨recordType, flags, data⟩), { iter with
          offset := start + paddedLen
          remaining := iter.remaining - 1 })

/-- A loop over the iterator, with so many calls of `next` at most. -/
def collect : Nat → RecordIter →
    Checked Empty (List (Except RecordCodecError Record) × RecordIter)
  | 0, _ => endless
  | calls + 1, iter => do
      match ← iter.nextChecked with
      | (none, ended) => return ([], ended)
      | (some item, rest) =>
          let (items, ended) ← collect calls rest
          return (item :: items, ended)

theorem nextChecked_yields (iter : RecordIter) :
    Yields iter.nextChecked (.ok iter.next) := by
  unfold nextChecked next
  by_cases ended : iter.failed ∨ iter.remaining = 0
  · rw [if_pos ended, if_pos ended]
    rfl
  rw [if_neg ended, if_neg ended]
  by_cases short : iter.bytes.length < iter.offset + recordHeaderLen
  · rw [if_pos short, if_pos short]
    rfl
  rw [if_neg short, if_neg short]
  have header : iter.offset + 4 ≤ iter.bytes.length := Nat.le_of_not_lt short
  refine yields_indexed (by omega) ?_
  refine yields_indexed (by omega) ?_
  have length : [iter.bytes.getD (iter.offset + 2) 0,
      iter.bytes.getD (iter.offset + 3) 0] =
        slice iter.bytes (iter.offset + 2) 2 := slice_pair (by omega)
  rw [length]
  dsimp only
  generalize (readU16 (slice iter.bytes (iter.offset + 2) 2)).toNat = dataLen
  have enough := align4_ge (recordHeaderLen + dataLen)
  by_cases beyond : iter.bytes.length <
      iter.offset + align4 (recordHeaderLen + dataLen)
  · rw [if_pos beyond, if_pos beyond]
    rfl
  rw [if_neg beyond, if_neg beyond]
  refine yields_sliced (by omega) ?_
  rw [Nat.add_sub_add_left]
  by_cases nonZero : (slice iter.bytes
      (iter.offset + (recordHeaderLen + dataLen))
      (align4 (recordHeaderLen + dataLen) - (recordHeaderLen + dataLen))).any
        (· ≠ 0)
  · rw [if_pos nonZero, if_pos nonZero]
    rfl
  rw [if_neg nonZero, if_neg nonZero]
  refine yields_indexed (by omega) ?_
  refine yields_indexed (by omega) ?_
  refine yields_sliced (by omega) ?_
  rw [show iter.offset + (recordHeaderLen + dataLen) -
    (iter.offset + recordHeaderLen) = dataLen by omega]
  rfl

structure Stands (iter : RecordIter) (record : Record) : Prop where
  small : record.data.length ≤ 65535
  inside : iter.offset + record.paddedLen ≤ iter.bytes.length
  encoded : slice iter.bytes iter.offset record.paddedLen = record.encode

/-- A call ends the iteration, fails for good, or gives a record that stands
at the offset. -/
inductive Gives (iter : RecordIter) :
    Option (Except RecordCodecError Record) × RecordIter → Prop
  | ended (finished : iter.failed ∨ iter.remaining = 0) : Gives iter (none, iter)
  | failed (error : RecordCodecError) :
      Gives iter (some (.error error), { iter with failed := true })
  | record (record : Record) (more : iter.failed = false ∧ iter.remaining ≠ 0)
      (stands : iter.Stands record) :
      Gives iter (some (.ok record), { iter with
        offset := iter.offset + record.paddedLen
        remaining := iter.remaining - 1 })

theorem gives_next (iter : RecordIter) : iter.Gives iter.next := by
  unfold next
  by_cases ended : iter.failed ∨ iter.remaining = 0
  · rw [if_pos ended]
    exact .ended ended
  rw [if_neg ended]
  rw [not_or, Bool.not_eq_true] at ended
  by_cases short : iter.bytes.length < iter.offset + recordHeaderLen
  · rw [if_pos short]
    exact .failed _
  rw [if_neg short]
  have header : iter.offset + 4 ≤ iter.bytes.length := Nat.le_of_not_lt short
  have low : (readU16 (slice iter.bytes (iter.offset + 2) 2)).toNat < 65536 :=
    UInt16.toNat_lt _
  have dataLen : writeU16 (UInt16.ofNat
      (readU16 (slice iter.bytes (iter.offset + 2) 2)).toNat) =
        slice iter.bytes (iter.offset + 2) 2 := by
    rw [UInt16.ofNat_toNat, slice_u16 (by omega)]
  dsimp only
  generalize (readU16 (slice iter.bytes (iter.offset + 2) 2)).toNat = size
    at low dataLen
  have enough := align4_ge (recordHeaderLen + size)
  by_cases beyond : iter.bytes.length <
      iter.offset + align4 (recordHeaderLen + size)
  · rw [if_pos beyond]
    exact .failed _
  rw [if_neg beyond]
  by_cases nonZero : (slice iter.bytes (iter.offset + (recordHeaderLen + size))
      (align4 (recordHeaderLen + size) - (recordHeaderLen + size))).any (· ≠ 0)
  · rw [if_pos nonZero]
    exact .failed _
  rw [if_neg nonZero]
  have sized : (slice iter.bytes (iter.offset + recordHeaderLen) size).length =
      size := length_slice (by omega)
  have padding : slice iter.bytes (iter.offset + (recordHeaderLen + size))
      (align4 (recordHeaderLen + size) - (recordHeaderLen + size)) =
        List.replicate
          (align4 (recordHeaderLen + size) - (recordHeaderLen + size)) 0 := by
    have zeros := zeros_of_not_any (Bool.eq_false_of_not_eq_true nonZero)
    rwa [length_slice (by omega)] at zeros
  obtain ⟨record, isRecord⟩ : ∃ record : Record, record =
      ⟨byteAt iter.bytes iter.offset, byteAt iter.bytes (iter.offset + 1),
        slice iter.bytes (iter.offset + recordHeaderLen) size⟩ := ⟨_, rfl⟩
  have dataSize : record.data.length = size := by rw [isRecord]; exact sized
  have rawLen : record.rawLen = recordHeaderLen + size := by
    rw [Record.rawLen, dataSize]
  have paddedLen : record.paddedLen = align4 (recordHeaderLen + size) := by
    rw [Record.paddedLen, rawLen]
  have encoded : slice iter.bytes iter.offset record.paddedLen =
      record.encode := by
    have front : [record.recordType, record.flags] =
        slice iter.bytes iter.offset 2 := by
      rw [isRecord]
      exact slice_pair (by omega)
    have data : record.data =
        slice iter.bytes (iter.offset + (2 + 2)) size := by
      rw [isRecord]
      rfl
    rw [Record.encode, dataSize, rawLen, paddedLen, ← padding, dataLen, front,
      data, slice_append_slice, slice_append_slice,
      show 2 + 2 + size = recordHeaderLen + size from rfl,
      slice_append_slice, Nat.add_sub_cancel' enough]
  have gives := Gives.record record ended
    ⟨by omega, by rw [paddedLen]; omega, encoded⟩
  rw [paddedLen, isRecord] at gives
  exact gives

theorem collect_yields (enough : iter.failed ∨ iter.remaining ≤ calls) :
    Yields (collect (calls + 1) iter) (.ok (take calls iter)) := by
  induction calls generalizing iter with
  | zero =>
      have ended : iter.failed ∨ iter.remaining = 0 :=
        enough.imp_right Nat.le_zero.mp
      refine yields_then iter.nextChecked_yields ?_
      rw [next, if_pos ended]
      rfl
  | succ calls ih =>
      rw [collect, take]
      refine yields_then iter.nextChecked_yields ?_
      have gives := iter.gives_next
      generalize iter.next = result at gives ⊢
      cases gives with
      | ended ended => rfl
      | failed error => exact yields_then (ih (.inl rfl)) rfl
      | record record more stands =>
          refine yields_then (ih (.inr ?_)) rfl
          rcases enough with failed | enough
          · rw [more.1] at failed
            cases failed
          · exact Nat.sub_le_of_le_add enough

structure Reads (iter : RecordIter) (records : List Record)
    (ended : RecordIter) : Prop where
  bytes : ended.bytes = iter.bytes
  ordered : iter.offset ≤ ended.offset
  counted : ended.remaining + records.length = iter.remaining
  small : ∀ record ∈ records, record.data.length ≤ 65535
  encoded : slice iter.bytes iter.offset (ended.offset - iter.offset) =
    records.flatMap Record.encode

theorem reads_nothing (iter : RecordIter) : iter.Reads [] iter where
  bytes := rfl
  ordered := Nat.le_refl _
  counted := rfl
  small _ member := (List.not_mem_nil member).elim
  encoded := by
    rw [Nat.sub_self]
    exact List.take_zero

theorem Stands.reads {iter : RecordIter} {record : Record}
    {records : List Record} (stands : iter.Stands record)
    (more : iter.remaining ≠ 0)
    (later : Reads { iter with
      offset := iter.offset + record.paddedLen
      remaining := iter.remaining - 1 } records ended) :
    iter.Reads (record :: records) ended := by
  obtain ⟨bytes, ordered, counted, small, encoded⟩ := later
  dsimp only at bytes ordered counted encoded
  refine ⟨bytes, by omega, ?_, ?_, ?_⟩
  · rw [List.length_cons]
    omega
  · intro other member
    rcases List.mem_cons.mp member with rfl | rest
    · exact stands.small
    · exact small other rest
  · rw [List.flatMap_cons, ← encoded, ← stands.encoded, slice_append_slice]
    congr 1
    omega

theorem take_reads {iter : RecordIter} {records : List Record}
    (taken : take calls iter = (records.map .ok, ended)) :
    iter.Reads records ended := by
  induction calls generalizing iter records with
  | zero =>
      obtain ⟨none, rfl⟩ := Prod.mk.inj taken
      obtain rfl := List.map_eq_nil_iff.mp none.symm
      exact iter.reads_nothing
  | succ calls ih =>
      rw [take] at taken
      have gives := iter.gives_next
      generalize iter.next = result at gives taken
      cases gives with
      | ended ended =>
          obtain ⟨none, rfl⟩ := Prod.mk.inj taken
          obtain rfl := List.map_eq_nil_iff.mp none.symm
          exact iter.reads_nothing
      | failed error =>
          obtain ⟨items, -⟩ := Prod.mk.inj taken
          cases records with
          | nil => cases items
          | cons record rest => cases (List.cons.inj items).1
      | record record more stands =>
          obtain ⟨items, last⟩ := Prod.mk.inj taken
          cases records with
          | nil => cases items
          | cons first rest =>
              obtain ⟨same, rest⟩ := List.cons.inj items
              cases same
              exact stands.reads more.2 (ih (Prod.ext rest last))

theorem encodeRecordsFrom_fits {records : List Record}
    (small : ∀ record ∈ records, record.data.length ≤ 65535)
    (fits : written.length + (records.flatMap Record.encode).length ≤
      spiCellPayloadLen) :
    encodeRecordsFrom records written =
      .ok (written ++ records.flatMap Record.encode) := by
  induction records generalizing written with
  | nil => rw [List.flatMap_nil, List.append_nil, encodeRecordsFrom]
  | cons record rest ih =>
      rw [List.flatMap_cons, List.length_append, Record.length_encode] at fits
      have first := small record List.mem_cons_self
      rw [encodeRecordsFrom, if_neg (by omega), if_neg (by omega),
        ih (fun other member => small other (List.mem_cons_of_mem _ member))
          (by rw [List.length_append, Record.length_encode]; omega),
        List.flatMap_cons, List.append_assoc]

theorem encodeRecords_of_items {bytes : List UInt8} {records : List Record}
    (fits : bytes.length ≤ spiCellPayloadLen)
    (accepted : (new bytes count).items.1 = records.map .ok)
    (finished : (new bytes count).items.2.finish = .ok ()) :
    encodeRecords records = .ok (bytes, count) := by
  obtain ⟨sameBytes, -, counted, small, encoded⟩ :=
    take_reads (Prod.ext accepted rfl)
  rw [items] at finished
  generalize take (new bytes count).remaining (new bytes count) = last
    at sameBytes counted encoded finished
  have none : last.2.remaining = 0 ∧ last.2.offset = last.2.bytes.length := by
    unfold finish at finished
    split at finished
    · cases finished
    · split at finished
      · cases finished
      · rename_i ends
        omega
  obtain ⟨remaining, offset⟩ := none
  have length : records.length = count.toNat := by
    rw [remaining, Nat.zero_add] at counted
    exact counted
  have whole : records.flatMap Record.encode = bytes := by
    rw [← encoded, offset, sameBytes]
    exact slice_whole rfl
  have few : records.length < 256 := by
    rw [length]
    exact count.toNat_lt
  rw [encodeRecords, if_neg (by omega),
    encodeRecordsFrom_fits small
      (by rw [whole]; exact (Nat.zero_add _).le.trans fits),
    length, UInt8.ofNat_toNat, whole]
  rfl

end RecordIter

/-- Both codecs are exact.  A cell without a number carries no records either,
and records are only written to the payload of a cell. -/
theorem cell_and_record_codecs_exact :
    (∀ cell : SpiCell, cell.Valid →
      ∃ wire, cell.encode = .ok wire ∧ SpiCell.decode wire = .ok cell) ∧
    (∀ wire cell, SpiCell.decode wire = .ok cell → cell.encode = .ok wire) ∧
    (∀ records content count, encodeRecords records = .ok (content, count) →
      (RecordIter.new content count).items.1 = records.map .ok ∧
        (RecordIter.new content count).items.2.finish = .ok ()) ∧
    (∀ bytes count, Yields
      (RecordIter.collect (count.toNat + 1) (RecordIter.new bytes count))
      (.ok (RecordIter.new bytes count).items)) ∧
    ∀ bytes count records, bytes.length ≤ spiCellPayloadLen →
      (RecordIter.new bytes count).items.1 = records.map .ok →
      (RecordIter.new bytes count).items.2.finish = .ok () →
      encodeRecords records = .ok (bytes, count) := by
  refine ⟨fun cell valid => SpiCell.decode_encode valid,
    fun wire cell accepted => SpiCell.encode_decode accepted, ?_, ?_,
    fun bytes count records fits accepted finished =>
      RecordIter.encodeRecords_of_items fits accepted finished⟩
  · intro records content count encoded
    obtain ⟨content_eq, count_eq, few, small, -⟩ := encodeRecords_ok encoded
    rw [content_eq, count_eq, RecordIter.items_encode small few]
    refine ⟨rfl, ?_⟩
    rw [RecordIter.finish, if_neg Bool.false_ne_true, if_neg (by simp)]
  · intro bytes count
    exact RecordIter.collect_yields (.inr (Nat.le_refl _))

def SpiCell.countsOne : SpiCell :=
  ⟨{ SpiCellHeader.new 1 with recordCount := 1 },
    Vector.replicate spiCellPayloadLen 0⟩

/-- Such a cell is not encoded, and 28 empty records are read from 112 bytes
but not written. -/
theorem counted_cell_and_long_run_refused :
    (SpiCell.countsOne.header.magic = spiCellMagic ∧
      SpiCell.countsOne.header.version = spiProtocolVersion ∧
      SpiCell.countsOne.header.payloadLen = 0 ∧
      SpiCell.countsOne.bytes =
        readArray spiCellPayloadLen SpiCell.countsOne.payload ∧
      SpiCell.countsOne.encode = .error .sequenceZeroHasPayload) ∧
    (RecordIter.new (List.replicate 112 0) 28).items.1 =
        (List.replicate 28 ⟨0, 0, []⟩).map .ok ∧
      (RecordIter.new (List.replicate 112 0) 28).items.2.finish = .ok () ∧
      encodeRecords (List.replicate 28 ⟨0, 0, []⟩) =
        .error .payloadCapacity := by
  decide +kernel

end HidShift
