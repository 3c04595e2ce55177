import HidShift.Interchip.Reliable
import HidShift.Storage.ImageRoundTrip

/-! Cells on the wire (`interchip/cell.rs`): 16 bytes of header, 110 bytes of
payload area and a checksum. -/

namespace HidShift

open Lib

def crc16Bit (crc : UInt16) : UInt16 :=
  if crc &&& 0x8000 ≠ 0 then (crc <<< 1) ^^^ 0x1021 else crc <<< 1

def crc16Byte (crc : UInt16) (byte : UInt8) : UInt16 :=
  Nat.iterate crc16Bit 8 (crc ^^^ (byte.toUInt16 <<< 8))

def crc16CcittFalse (bytes : List UInt8) : UInt16 :=
  bytes.foldl crc16Byte 0xffff

def spiCellLen : Nat := 128

def spiCellHeaderLen : Nat := 16

def spiCellMagic : UInt16 := 0x4853

def spiProtocolVersion : UInt8 := 1

inductive SpiCellError
  | invalidMagic
  | unsupportedVersion
  | payloadTooLong
  | sequenceZeroHasPayload
  | nonZeroTrailingBytes
  | crcMismatch
deriving DecidableEq, Repr

namespace SpiCellHeader

def encode (header : SpiCellHeader) : List UInt8 :=
  writeU16 header.magic ++ [header.version, header.flags] ++
    writeU32 header.sessionId ++ writeU16 header.txSequence ++
      writeU16 header.cumulativeAck ++ writeU16 header.payloadLen ++
        [header.recordCount, header.receiveWindow]

def decode (bytes : List UInt8) : SpiCellHeader where
  magic := readU16 (slice bytes 0 2)
  version := byteAt bytes 2
  flags := byteAt bytes 3
  sessionId := readU32 (slice bytes 4 4)
  txSequence := readU16 (slice bytes 8 2)
  cumulativeAck := readU16 (slice bytes 10 2)
  payloadLen := readU16 (slice bytes 12 2)
  recordCount := byteAt bytes 14
  receiveWindow := byteAt bytes 15

/-- A cell without a sequence number that carries something. -/
def CarriesUnnumbered (header : SpiCellHeader) : Prop :=
  header.txSequence = 0 ∧ (header.payloadLen ≠ 0 ∨ header.recordCount ≠ 0)

instance (header : SpiCellHeader) : Decidable header.CarriesUnnumbered :=
  inferInstanceAs (Decidable (_ ∧ _))

end SpiCellHeader

namespace SpiCell

def body (cell : SpiCell) : List UInt8 :=
  cell.header.encode ++ cell.payload ++
    List.replicate (spiCellPayloadLen - cell.header.payloadLen.toNat) 0

def encode (cell : SpiCell) : Except SpiCellError (Vector UInt8 spiCellLen) :=
  if spiCellPayloadLen < cell.header.payloadLen.toNat then
    .error .payloadTooLong
  else if cell.header.CarriesUnnumbered then
    .error .sequenceZeroHasPayload
  else
    .ok (readArray spiCellLen
      (cell.body ++ writeU16 (crc16CcittFalse cell.body)))

def decode (wire : Vector UInt8 spiCellLen) : Except SpiCellError SpiCell :=
  let bytes := wire.toList
  let header := SpiCellHeader.decode bytes
  let payloadLen := header.payloadLen.toNat
  if crc16CcittFalse (slice bytes 0 (spiCellLen - 2)) ≠
      readU16 (slice bytes (spiCellLen - 2) 2) then
    .error .crcMismatch
  else if header.magic ≠ spiCellMagic then
    .error .invalidMagic
  else if header.version ≠ spiProtocolVersion then
    .error .unsupportedVersion
  else if spiCellPayloadLen < payloadLen then
    .error .payloadTooLong
  else if header.CarriesUnnumbered then
    .error .sequenceZeroHasPayload
  else if (slice bytes (spiCellHeaderLen + payloadLen)
      (spiCellPayloadLen - payloadLen)).any (· ≠ 0) then
    .error .nonZeroTrailingBytes
  else
    .ok ⟨header, readArray spiCellPayloadLen
      (slice bytes spiCellHeaderLen payloadLen)⟩

/-- The cells the link exchanges: the version of the protocol, a payload that
fits and zeros after it. -/
structure Valid (cell : SpiCell) : Prop where
  magic : cell.header.magic = spiCellMagic
  version : cell.header.version = spiProtocolVersion
  fits : cell.header.payloadLen.toNat ≤ spiCellPayloadLen
  numbered : ¬ cell.header.CarriesUnnumbered
  padded : cell.bytes = readArray spiCellPayloadLen cell.payload

end SpiCell

@[simp] theorem SpiCellHeader.length_encode (header : SpiCellHeader) :
    header.encode.length = spiCellHeaderLen := rfl

theorem SpiCellHeader.decode_encode (header : SpiCellHeader)
    (rest : List UInt8) : decode (header.encode ++ rest) = header := by
  have magic : readU16 (slice (header.encode ++ rest) 0 2) = header.magic :=
    readU16_writeU16 _
  have session : readU32 (slice (header.encode ++ rest) 4 4) =
      header.sessionId := readU32_writeU32 _
  have sequence : readU16 (slice (header.encode ++ rest) 8 2) =
      header.txSequence := readU16_writeU16 _
  have ack : readU16 (slice (header.encode ++ rest) 10 2) =
      header.cumulativeAck := readU16_writeU16 _
  have length : readU16 (slice (header.encode ++ rest) 12 2) =
      header.payloadLen := readU16_writeU16 _
  rw [decode, magic, session, sequence, ack, length]
  rfl

namespace SpiCell

variable {cell : SpiCell}

theorem length_payload (fits : cell.header.payloadLen.toNat ≤
    spiCellPayloadLen) :
    cell.payload.length = cell.header.payloadLen.toNat := by
  rw [payload, List.length_take, Vector.length_toList]
  exact Nat.min_eq_left fits

theorem length_body (fits : cell.header.payloadLen.toNat ≤
    spiCellPayloadLen) : cell.body.length = spiCellLen - 2 := by
  rw [body, List.length_append, List.length_append, List.length_replicate,
    SpiCellHeader.length_encode, length_payload fits]
  unfold spiCellHeaderLen spiCellLen spiCellPayloadLen at *
  omega

theorem encode_ok (valid : cell.Valid) :
    cell.encode = .ok (readArray spiCellLen
      (cell.body ++ writeU16 (crc16CcittFalse cell.body))) := by
  rw [encode, if_neg (Nat.not_lt.mpr valid.fits), if_neg valid.numbered]

theorem decode_encode (valid : cell.Valid) :
    ∃ wire, cell.encode = .ok wire ∧ decode wire = .ok cell := by
  refine ⟨_, encode_ok valid, ?_⟩
  have bodyLen := length_body valid.fits
  have payloadLen := length_payload valid.fits
  have sized : (cell.body ++ writeU16 (crc16CcittFalse cell.body)).length =
      spiCellLen := by
    rw [List.length_append, bodyLen, length_writeU16]
    rfl
  have covered : slice (cell.body ++ writeU16 (crc16CcittFalse cell.body)) 0
      (spiCellLen - 2) = cell.body := slice_front bodyLen
  have checksum : slice (cell.body ++ writeU16 (crc16CcittFalse cell.body))
      (spiCellLen - 2) 2 = writeU16 (crc16CcittFalse cell.body) := by
    rw [slice, ← bodyLen, List.drop_left]
    rfl
  have header : SpiCellHeader.decode
      (cell.body ++ writeU16 (crc16CcittFalse cell.body)) = cell.header := by
    rw [body, List.append_assoc, List.append_assoc, SpiCellHeader.decode_encode]
  have content : slice (cell.body ++ writeU16 (crc16CcittFalse cell.body))
      spiCellHeaderLen cell.header.payloadLen.toNat = cell.payload := by
    rw [slice, body, List.append_assoc, List.append_assoc,
      ← SpiCellHeader.length_encode cell.header, List.drop_left,
      ← payloadLen, List.take_left]
  have trailing : slice (cell.body ++ writeU16 (crc16CcittFalse cell.body))
      (spiCellHeaderLen + cell.header.payloadLen.toNat)
      (spiCellPayloadLen - cell.header.payloadLen.toNat) =
      List.replicate (spiCellPayloadLen - cell.header.payloadLen.toNat)
        0 := by
    rw [slice, body, List.append_assoc,
      ← SpiCellHeader.length_encode cell.header, ← payloadLen,
      ← List.length_append, List.drop_left]
    exact List.take_left' (List.length_replicate)
  have zeros : (List.replicate
      (spiCellPayloadLen - cell.header.payloadLen.toNat)
      (0 : UInt8)).any (· ≠ 0) = false := by
    rw [List.any_eq_false]
    intro byte member
    rw [List.eq_of_mem_replicate member]
    decide
  simp only [decode, toList_readArray sized, covered, checksum, header,
    content, trailing, zeros, readU16_writeU16, ne_eq, not_true_eq_false,
    if_false, valid.magic, valid.version, Nat.not_lt.mpr valid.fits,
    valid.numbered, Bool.false_eq_true, ← valid.padded]

end SpiCell

end HidShift
