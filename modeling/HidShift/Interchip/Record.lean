import HidShift.Interchip.Cell

/-! Records in the payload of a cell (`interchip/record.rs`): a header of four
bytes, the data, and zeros up to a multiple of four. -/

namespace HidShift

open Lib

def recordHeaderLen : Nat := 4

structure Record where
  recordType : UInt8
  flags : UInt8
  data : List UInt8
deriving DecidableEq

inductive RecordCodecError
  | tooManyRecords
  | recordTooLong
  | payloadCapacity
  | malformedRecord
  | nonZeroPadding
  | recordCountMismatch
deriving DecidableEq, Repr

/-- `(value + 3) & !3`. -/
def align4 (value : Nat) : Nat := (value + 3) / 4 * 4

namespace Record

def rawLen (record : Record) : Nat := recordHeaderLen + record.data.length

def paddedLen (record : Record) : Nat := align4 record.rawLen

def encode (record : Record) : List UInt8 :=
  [record.recordType, record.flags] ++
    writeU16 (UInt16.ofNat record.data.length) ++ record.data ++
      List.replicate (record.paddedLen - record.rawLen) 0

end Record

/-- The loop of `encode_records`, after `written` bytes. -/
def encodeRecordsFrom :
    List Record → List UInt8 → Except RecordCodecError (List UInt8)
  | [], written => .ok written
  | record :: rest, written =>
      if 65535 < record.data.length then .error .recordTooLong
      else if spiCellPayloadLen < written.length + record.paddedLen then
        .error .payloadCapacity
      else encodeRecordsFrom rest (written ++ record.encode)

/-- The used part of the payload and the number of records in it. -/
def encodeRecords (records : List Record) :
    Except RecordCodecError (List UInt8 × UInt8) :=
  if 255 < records.length then .error .tooManyRecords
  else do
    let content ← encodeRecordsFrom records []
    return (content, UInt8.ofNat records.length)

structure RecordIter where
  bytes : List UInt8
  offset : Nat
  remaining : Nat
  failed : Bool

namespace RecordIter

def new (bytes : List UInt8) (recordCount : UInt8) : RecordIter where
  bytes
  offset := 0
  remaining := recordCount.toNat
  failed := false

def ofCell (cell : SpiCell) : RecordIter :=
  new cell.payload cell.header.recordCount

def finish (iter : RecordIter) : Except RecordCodecError Unit :=
  if iter.failed then .error .malformedRecord
  else if iter.remaining ≠ 0 ∨ iter.offset ≠ iter.bytes.length then
    .error .recordCountMismatch
  else .ok ()

def next (iter : RecordIter) :
    Option (Except RecordCodecError Record) × RecordIter :=
  if iter.failed ∨ iter.remaining = 0 then (none, iter)
  else if iter.bytes.length < iter.offset + recordHeaderLen then
    (some (.error .malformedRecord), { iter with failed := true })
  else
    let start := iter.offset
    let dataLen := (readU16 (slice iter.bytes (start + 2) 2)).toNat
    let rawLen := recordHeaderLen + dataLen
    let paddedLen := align4 rawLen
    if iter.bytes.length < start + paddedLen then
      (some (.error .malformedRecord), { iter with failed := true })
    else if (slice iter.bytes (start + rawLen) (paddedLen - rawLen)).any
        (· ≠ 0) then
      (some (.error .nonZeroPadding), { iter with failed := true })
    else
      (some (.ok
          { recordType := byteAt iter.bytes start
            flags := byteAt iter.bytes (start + 1)
            data := slice iter.bytes (start + recordHeaderLen) dataLen }),
        { iter with
          offset := start + paddedLen
          remaining := iter.remaining - 1 })

/-- At most `count` more items, and the iterator after them. -/
def take : Nat → RecordIter → List (Except RecordCodecError Record) × RecordIter
  | 0, iter => ([], iter)
  | count + 1, iter =>
      match iter.next with
      | (none, ended) => ([], ended)
      | (some item, rest) =>
          (item :: (take count rest).1, (take count rest).2)

/-- What a loop over the iterator sees.  Every item either uses up one of the
remaining records or is the error the iteration stops after. -/
def items (iter : RecordIter) :
    List (Except RecordCodecError Record) × RecordIter :=
  take iter.remaining iter

/-- `by_ref().any(..)`: stops after the first item that is accepted. -/
def any (accepts : Except RecordCodecError Record → Bool) :
    Nat → RecordIter → Bool × RecordIter
  | 0, iter => (false, iter)
  | count + 1, iter =>
      match iter.next with
      | (none, ended) => (false, ended)
      | (some item, rest) =>
          if accepts item then (true, rest) else any accepts count rest

end RecordIter

theorem align4_ge (value : Nat) : value ≤ align4 value := by
  unfold align4
  omega

namespace Record

variable (record : Record)

@[simp] theorem length_encode : record.encode.length = record.paddedLen := by
  have enough := align4_ge record.rawLen
  rw [encode, List.length_append, List.length_append, List.length_append,
    List.length_replicate, length_writeU16]
  unfold paddedLen rawLen recordHeaderLen at *
  simp only [List.length_cons, List.length_nil]
  omega

end Record

theorem encodeRecordsFrom_ok {records : List Record}
    (encoded : encodeRecordsFrom records written = .ok content) :
    content = written ++ records.flatMap Record.encode ∧
      (∀ record ∈ records, record.data.length ≤ 65535) ∧
        (written.length ≤ spiCellPayloadLen →
          content.length ≤ spiCellPayloadLen) := by
  induction records generalizing written with
  | nil =>
      cases encoded
      refine ⟨(List.append_nil _).symm, fun _ member => ?_, id⟩
      cases member
  | cons record rest ih =>
      rw [encodeRecordsFrom] at encoded
      split at encoded
      · cases encoded
      · rename_i short
        split at encoded
        · cases encoded
        · rename_i fits
          obtain ⟨content_eq, small, bounded⟩ := ih encoded
          refine ⟨?_, ?_, fun _ => bounded ?_⟩
          · rw [content_eq, List.flatMap_cons, List.append_assoc]
          · intro other member
            rcases List.mem_cons.mp member with rfl | later
            · omega
            · exact small other later
          · rw [List.length_append, Record.length_encode]
            omega

theorem encodeRecords_ok {records : List Record}
    (encoded : encodeRecords records = .ok (content, count)) :
    content = records.flatMap Record.encode ∧
      count = UInt8.ofNat records.length ∧ records.length ≤ 255 ∧
        (∀ record ∈ records, record.data.length ≤ 65535) ∧
          content.length ≤ spiCellPayloadLen := by
  rw [encodeRecords] at encoded
  split at encoded
  · cases encoded
  · rename_i few
    obtain ⟨content', from_start, pair⟩ := bind_eq_ok.mp encoded
    cases pair
    obtain ⟨content_eq, small, bounded⟩ := encodeRecordsFrom_ok from_start
    exact ⟨content_eq, rfl, by omega, small, bounded (Nat.zero_le _)⟩

end HidShift
