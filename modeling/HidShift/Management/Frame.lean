import HidShift.Interchip.Cell
import HidShift.Lib.Cobs
import HidShift.Lib.Ensures

/-! The envelope of the management protocol (`management/frame.rs`), on byte
streams with a zero after every frame. -/

namespace HidShift

open Lib Lib.Checked

def frameVersion : UInt8 := 1

def framePayloadCapacity : Nat := 512

def frameHeaderLen : Nat := 10

def frameCrcLen : Nat := 2

def frameCapacity : Nat := frameHeaderLen + framePayloadCapacity + frameCrcLen

def streamFrameCapacity : Nat := frameCapacity + frameCapacity / 254 + 2

/-- `HS` -/
def frameMagic : List UInt8 := [0x48, 0x53]

inductive FrameError
  | truncated
  | invalidMagic
  | unsupportedVersion
  | invalidKind
  | invalidNode
  | invalidLength
  | payloadTooLarge
  | crcMismatch
  | malformedCobs
deriving Repr

inductive FrameKind
  | request
  | response
  | event
  | log
  | update
deriving DecidableEq

namespace FrameKind

def toByte : FrameKind → UInt8
  | .request => 1
  | .response => 2
  | .event => 3
  | .log => 4
  | .update => 5

def fromByte (value : UInt8) : Except FrameError FrameKind :=
  if value = 1 then .ok .request
  else if value = 2 then .ok .response
  else if value = 3 then .ok .event
  else if value = 4 then .ok .log
  else if value = 5 then .ok .update
  else .error .invalidKind

theorem fromByte_eq_ok : fromByte value = .ok kind ↔ value = kind.toByte := by
  constructor
  · intro decoded
    simp only [fromByte] at decoded
    split_ifs at decoded with h1 h2 h3 h4 h5
    all_goals
      cases decoded
      assumption
  · intro same
    rw [same]
    cases kind <;> rfl

end FrameKind

inductive NodeId
  | host
  | device
deriving DecidableEq

namespace NodeId

def toByte : NodeId → UInt8
  | .host => 1
  | .device => 2

def fromByte (value : UInt8) : Except FrameError NodeId :=
  if value = 1 then .ok .host
  else if value = 2 then .ok .device
  else .error .invalidNode

theorem fromByte_eq_ok : fromByte value = .ok node ↔ value = node.toByte := by
  constructor
  · intro decoded
    simp only [fromByte] at decoded
    split_ifs at decoded with h1 h2
    all_goals
      cases decoded
      assumption
  · intro same
    rw [same]
    cases node <;> rfl

end NodeId

structure Frame where
  kind : FrameKind
  requestId : UInt16
  node : NodeId
  flags : UInt8
  payload : BoundedVec UInt8 framePayloadCapacity

namespace Frame

def new (kind : FrameKind) (requestId : UInt16) (node : NodeId)
    (flags : UInt8) (payload : List UInt8) : Except FrameError Frame :=
  match BoundedVec.empty.extend? payload with
  | none => .error .payloadTooLarge
  | some owned => .ok { kind, requestId, node, flags, payload := owned }

def encode (frame : Frame) : BoundedVec UInt8 frameCapacity :=
  let bytes := BoundedVec.empty.extended frameMagic
  let bytes := bytes.pushed frameVersion
  let bytes := bytes.pushed frame.kind.toByte
  let bytes := bytes.extended (writeU16 frame.requestId)
  let bytes := bytes.pushed frame.node.toByte
  let bytes := bytes.pushed frame.flags
  let bytes := bytes.extended
    (writeU16 (UInt16.ofNat frame.payload.toList.length))
  let bytes := bytes.extended frame.payload.toList
  bytes.extended (writeU16 (crc16CcittFalse bytes.toList))

def decode (bytes : List UInt8) : Checked FrameError Frame := do
  if bytes.length < frameHeaderLen + frameCrcLen then throw .truncated
  else
    let magic ← sliced bytes 0 2
    if magic ≠ frameMagic then throw .invalidMagic
    else
      let version ← indexed bytes 2
      if version ≠ frameVersion then throw .unsupportedVersion
      else
        let payloadLen := (readU16 [← indexed bytes 8, ← indexed bytes 9]).toNat
        if framePayloadCapacity < payloadLen then throw .payloadTooLarge
        else if bytes.length ≠ frameHeaderLen + payloadLen + frameCrcLen then
          throw .invalidLength
        else
          let bodyEnd := bytes.length - frameCrcLen
          let expected := readU16
            [← indexed bytes bodyEnd, ← indexed bytes (bodyEnd + 1)]
          let body ← sliced bytes 0 bodyEnd
          if crc16CcittFalse body ≠ expected then throw .crcMismatch
          else
            let kind ← result (FrameKind.fromByte (← indexed bytes 3))
            let requestId := readU16 [← indexed bytes 4, ← indexed bytes 5]
            let node ← result (NodeId.fromByte (← indexed bytes 6))
            let flags ← indexed bytes 7
            let payload ← sliced bytes frameHeaderLen bodyEnd
            result (new kind requestId node flags payload)

end Frame

/-- `encoded` keeps a place open at `codeIndex` for the code of the block. -/
structure StreamEncoder where
  encoded : BoundedVec UInt8 streamFrameCapacity
  codeIndex : Nat
  code : UInt8

namespace StreamEncoder

/-- `encoded[code_index] = code`; nothing when that is out of range. -/
def storeCode (encoder : StreamEncoder) :
    Option (BoundedVec UInt8 streamFrameCapacity) :=
  if encoder.codeIndex < encoder.encoded.toList.length then
    some (encoder.encoded.set encoder.codeIndex encoder.code)
  else none

def nextBlock (encoder : StreamEncoder) : Option StreamEncoder := do
  let encoded ← encoder.storeCode
  return {
    encoded := encoded.pushed 0
    codeIndex := encoded.toList.length
    code := 1 }

def add (encoder : StreamEncoder) (byte : UInt8) : Option StreamEncoder :=
  if byte = 0 then encoder.nextBlock
  else
    let next := { encoder with
      encoded := encoder.encoded.pushed byte
      code := encoder.code + 1 }
    if next.code = 0xff then next.nextBlock else some next

end StreamEncoder

/-- Nothing when an access is out of range. -/
def encodeStream (frame : Frame) :
    Option (BoundedVec UInt8 streamFrameCapacity) := do
  let start : StreamEncoder :=
    { encoded := BoundedVec.empty.pushed 0, codeIndex := 0, code := 1 }
  let encoder ← frame.encode.toList.foldlM StreamEncoder.add start
  let encoded ← encoder.storeCode
  return encoded.pushed 0

def extendDecoded (decoded : BoundedVec UInt8 frameCapacity)
    (bytes : List UInt8) : Except FrameError (BoundedVec UInt8 frameCapacity) :=
  match decoded.extend? bytes with
  | none => .error .payloadTooLarge
  | some longer => .ok longer

def decodeBlock (encoded : List UInt8) (index : Nat)
    (decoded : BoundedVec UInt8 frameCapacity) :
    Checked FrameError (Nat × BoundedVec UInt8 frameCapacity) := do
  let code := (← indexed encoded index).toNat
  if code = 0 ∨ encoded.length + 1 < index + code then throw .malformedCobs
  else
    let stop := index + 1 + code - 1
    let block ← sliced encoded (index + 1) stop
    let decoded ← result (extendDecoded decoded block)
    if code ≠ 0xff ∧ stop < encoded.length then
      return (stop, ← result (extendDecoded decoded [0]))
    else return (stop, decoded)

/-- The loop, at most `fuel` rounds of it. -/
def decodeBlocks (encoded : List UInt8) :
    Nat → Nat → BoundedVec UInt8 frameCapacity →
      Checked FrameError (BoundedVec UInt8 frameCapacity)
  | 0, _, _ => endless
  | fuel + 1, index, decoded =>
      if index < encoded.length then do
        let next ← decodeBlock encoded index decoded
        decodeBlocks encoded fuel next.1 next.2
      else pure decoded

/-- `strip_suffix(&[0])` -/
def stripDelimiter (bytes : List UInt8) : List UInt8 :=
  if bytes.getLast? = some 0 then bytes.dropLast else bytes

def decodeStream (bytes : List UInt8) : Checked FrameError Frame := do
  let encoded := stripDelimiter bytes
  let decoded ← decodeBlocks encoded (encoded.length + 1) 0 .empty
  Frame.decode decoded.toList

end HidShift
