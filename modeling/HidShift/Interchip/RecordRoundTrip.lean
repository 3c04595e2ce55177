import HidShift.Interchip.Record
import HidShift.Interchip.SenderWindow

namespace HidShift

open Lib

namespace Record

theorem encode_parts (record : Record) (back : List UInt8) :
    record.encode ++ back =
      [record.recordType, record.flags] ++
        (writeU16 (UInt16.ofNat record.data.length) ++ (record.data ++
          (List.replicate (record.paddedLen - record.rawLen) 0 ++ back))) := by
  rw [encode]
  simp only [List.append_assoc]

variable {record : Record} {front back : List UInt8}

theorem byteAt_recordType :
    byteAt (front ++ (record.encode ++ back)) front.length =
      record.recordType := by
  rw [encode_parts, byteAt, List.getD_eq_getElem?_getD,
    List.getElem?_append_right (Nat.le_refl _), Nat.sub_self]
  rfl

theorem byteAt_flags :
    byteAt (front ++ (record.encode ++ back)) (front.length + 1) =
      record.flags := by
  rw [encode_parts, byteAt, List.getD_eq_getElem?_getD,
    List.getElem?_append_right (Nat.le_add_right _ _), Nat.add_sub_cancel_left]
  rfl

theorem slice_dataLen :
    slice (front ++ (record.encode ++ back)) (front.length + 2) 2 =
      writeU16 (UInt16.ofNat record.data.length) := by
  rw [encode_parts, slice_skip rfl 2 2]
  exact (slice_skip rfl 0 2).trans (slice_front (length_writeU16 _))

theorem slice_data :
    slice (front ++ (record.encode ++ back))
        (front.length + recordHeaderLen) record.data.length =
      record.data := by
  rw [encode_parts, slice_skip rfl, ← List.append_assoc]
  exact (slice_skip (by rw [List.length_append, length_writeU16]; rfl) 0
    _).trans (slice_front rfl)

theorem slice_padding :
    slice (front ++ (record.encode ++ back)) (front.length + record.rawLen)
        (record.paddedLen - record.rawLen) =
      List.replicate (record.paddedLen - record.rawLen) 0 := by
  rw [encode_parts, slice_skip rfl, ← List.append_assoc, ← List.append_assoc]
  refine (@slice_skip _ _ _ record.rawLen ?_ 0 _).trans
    (slice_front (List.length_replicate ..))
  rw [List.length_append, List.length_append, length_writeU16]
  rfl

end Record

namespace RecordIter

theorem next_encode (small : record.data.length ≤ 65535)
    (front back : List UInt8) (remaining : Nat) :
    (RecordIter.mk (front ++ (record.encode ++ back)) front.length
        (remaining + 1) false).next =
      (some (.ok record),
        RecordIter.mk (front ++ (record.encode ++ back))
          (front.length + record.paddedLen) remaining false) := by
  have enough := align4_ge record.rawLen
  have dataLen : (readU16 (writeU16
      (UInt16.ofNat record.data.length))).toNat = record.data.length := by
    rw [readU16_writeU16, UInt16.toNat_ofNat']
    exact Nat.mod_eq_of_lt (by omega)
  have length : (front ++ (record.encode ++ back)).length =
      front.length + (record.paddedLen + back.length) := by
    rw [List.length_append, List.length_append, Record.length_encode]
  have unpadded : (List.replicate (record.paddedLen - record.rawLen)
      (0 : UInt8)).any (· ≠ 0) = false := by
    rw [List.any_replicate]
    split <;> rfl
  have raw : recordHeaderLen + record.data.length = record.rawLen := rfl
  have padded : align4 record.rawLen = record.paddedLen := rfl
  have header : ¬ (front ++ (record.encode ++ back)).length <
      front.length + recordHeaderLen := by
    rw [length]
    unfold Record.paddedLen Record.rawLen at *
    omega
  have whole : ¬ (front ++ (record.encode ++ back)).length <
      front.length + record.paddedLen := by
    rw [length]
    omega
  unfold next
  simp only [Bool.false_eq_true, Nat.succ_ne_zero, or_self, if_false,
    Record.slice_dataLen, dataLen, raw, padded, header, whole,
    Record.slice_padding, unpadded, Record.byteAt_recordType,
    Record.byteAt_flags, Record.slice_data, Nat.add_sub_cancel]

theorem take_encode {records : List Record}
    (small : ∀ record ∈ records, record.data.length ≤ 65535)
    (front : List UInt8) :
    take records.length (RecordIter.mk
        (front ++ records.flatMap Record.encode) front.length records.length
        false) =
      (records.map .ok, RecordIter.mk (front ++ records.flatMap Record.encode)
        (front ++ records.flatMap Record.encode).length 0 false) := by
  induction records generalizing front with
  | nil =>
      simp only [List.flatMap_nil, List.append_nil, List.length_nil,
        List.map_nil]
      rfl
  | cons record rest ih =>
      have following := ih (fun other member =>
        small other (List.mem_cons_of_mem _ member)) (front ++ record.encode)
      rw [List.append_assoc, List.length_append, Record.length_encode]
        at following
      rw [List.flatMap_cons, List.length_cons, take,
        next_encode (small record List.mem_cons_self)]
      simp only [following]
      rfl

theorem items_encode {records : List Record}
    (small : ∀ record ∈ records, record.data.length ≤ 65535)
    (few : records.length ≤ 255) :
    (new (records.flatMap Record.encode) (UInt8.ofNat records.length)).items =
      (records.map .ok, RecordIter.mk (records.flatMap Record.encode)
        (records.flatMap Record.encode).length 0 false) := by
  have counted : (UInt8.ofNat records.length).toNat = records.length := by
    rw [UInt8.toNat_ofNat']
    exact Nat.mod_eq_of_lt (by omega)
  unfold items new
  rw [counted]
  exact take_encode small []

end RecordIter

def SpiCell.CarriesRecords (cell : SpiCell) (records : List Record) : Prop :=
  (RecordIter.ofCell cell).items.1 = records.map .ok ∧
    (RecordIter.ofCell cell).items.2.finish = .ok ()

theorem ReliableSender.queuedCell_carries (sender : ReliableSender)
    {records : List Record}
    (encoded : encodeRecords records = .ok (content, count)) :
    (sender.queuedCell content count).CarriesRecords records := by
  obtain ⟨content_eq, count_eq, few, small, fits⟩ := encodeRecords_ok encoded
  have items : (RecordIter.ofCell (sender.queuedCell content count)).items =
      (records.map .ok, RecordIter.mk (records.flatMap Record.encode)
        (records.flatMap Record.encode).length 0 false) := by
    unfold RecordIter.ofCell
    rw [sender.payload_queuedCell content count fits, content_eq]
    change (RecordIter.new _ count).items = _
    rw [count_eq]
    exact RecordIter.items_encode small few
  unfold SpiCell.CarriesRecords
  rw [items]
  refine ⟨rfl, ?_⟩
  unfold RecordIter.finish
  simp only [Bool.false_eq_true, if_false, ne_eq, not_true_eq_false, or_self]

end HidShift
