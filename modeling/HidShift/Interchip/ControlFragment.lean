import HidShift.Interchip.Message

/-! Control transfers in pieces that fit one cell
(`interchip/control_fragment.rs`). -/

namespace HidShift

open Lib

def controlFragmentFirst : UInt8 := 1

def controlFragmentLast : UInt8 := 2

def controlFragmentDataMaxLen : Nat := 86

def controlRequestFragmentHeaderLen : Nat := 18

def controlResponseFragmentHeaderLen : Nat := 10

inductive ControlFragmentError
  | malformed
  | outOfOrder
  | tooLarge
deriving DecidableEq

def fragmentBounds (totalLength offset : Nat) :
    Except ControlFragmentError Unit :=
  if controlDataMaxLen < totalLength ∨ totalLength < offset then
    .error .tooLarge
  else if totalLength ≠ 0 ∧ offset = totalLength then .error .outOfOrder
  else .ok ()

def fragmentFlags (offset «end» totalLength : Nat) : UInt8 :=
  (if offset = 0 then controlFragmentFirst else 0) |||
    (if «end» = totalLength then controlFragmentLast else 0)

def isFirstFragment (flags : UInt8) : Bool :=
  flags &&& controlFragmentFirst ≠ 0

def isLastFragment (flags : UInt8) : Bool :=
  flags &&& controlFragmentLast ≠ 0

def validateFragment (flags : UInt8) (offset totalLength : UInt16)
    (dataLength : Nat) : Except ControlFragmentError Unit :=
  if flags &&& 0xfc ≠ 0 ∨ controlDataMaxLen < totalLength.toNat ∨
      totalLength.toNat < offset.toNat + dataLength ∨
        isFirstFragment flags ≠ decide (offset = 0) ∨
          isLastFragment flags ≠
            decide (offset.toNat + dataLength = totalLength.toNat) then
    .error .malformed
  else .ok ()

def fragmentData (bytes : List UInt8) :
    BoundedVec UInt8 controlFragmentDataMaxLen where
  toList := bytes.take controlFragmentDataMaxLen
  length_le := List.length_take_le _ _

structure ControlRequestFragment where
  requestId : UInt32
  setupPacket : Vector UInt8 8
  offset : UInt16
  totalLength : UInt16
  flags : UInt8
  data : BoundedVec UInt8 controlFragmentDataMaxLen

namespace ControlRequestFragment

def fromRequest (request : MirrorControlRequest) (offset : Nat) :
    Except ControlFragmentError ControlRequestFragment := do
  let data := request.data.toList
  fragmentBounds data.length offset
  let last := min data.length (offset + controlFragmentDataMaxLen)
  return {
    requestId := request.requestId
    setupPacket := request.setupPacket
    offset := UInt16.ofNat offset
    totalLength := UInt16.ofNat data.length
    flags := fragmentFlags offset last data.length
    data := fragmentData (data.drop offset) }

def encode (fragment : ControlRequestFragment) : List UInt8 :=
  writeU32 fragment.requestId ++ [fragment.flags, 0] ++
    writeU16 fragment.offset ++ writeU16 fragment.totalLength ++
      fragment.setupPacket.toList ++ fragment.data.toList

def decode (bytes : List UInt8) :
    Except ControlFragmentError ControlRequestFragment :=
  if bytes.length < controlRequestFragmentHeaderLen ∨ byteAt bytes 5 ≠ 0 ∨
      controlFragmentDataMaxLen <
        bytes.length - controlRequestFragmentHeaderLen then
    .error .malformed
  else do
    let offset := readU16 (slice bytes 6 2)
    let totalLength := readU16 (slice bytes 8 2)
    validateFragment (byteAt bytes 4) offset totalLength
      (bytes.length - controlRequestFragmentHeaderLen)
    return {
      requestId := readU32 (slice bytes 0 4)
      setupPacket := readArray 8 (slice bytes 10 8)
      offset
      totalLength
      flags := byteAt bytes 4
      data := fragmentData (bytes.drop controlRequestFragmentHeaderLen) }

end ControlRequestFragment

structure ControlResponseFragment where
  requestId : UInt32
  status : ControlStatus
  offset : UInt16
  totalLength : UInt16
  flags : UInt8
  data : BoundedVec UInt8 controlFragmentDataMaxLen

namespace ControlResponseFragment

def fromResponse (response : MirrorControlResponse) (offset : Nat) :
    Except ControlFragmentError ControlResponseFragment := do
  let data := response.data.toList
  fragmentBounds data.length offset
  let last := min data.length (offset + controlFragmentDataMaxLen)
  return {
    requestId := response.requestId
    status := response.status
    offset := UInt16.ofNat offset
    totalLength := UInt16.ofNat data.length
    flags := fragmentFlags offset last data.length
    data := fragmentData (data.drop offset) }

def encode (fragment : ControlResponseFragment) : List UInt8 :=
  writeU32 fragment.requestId ++ [fragment.status.toByte, fragment.flags] ++
    writeU16 fragment.offset ++ writeU16 fragment.totalLength ++
      fragment.data.toList

def decode (bytes : List UInt8) :
    Except ControlFragmentError ControlResponseFragment :=
  if bytes.length < controlResponseFragmentHeaderLen ∨
      controlFragmentDataMaxLen <
        bytes.length - controlResponseFragmentHeaderLen then
    .error .malformed
  else
    match ControlStatus.ofByte (byteAt bytes 4) with
    | none => .error .malformed
    | some status => do
        let offset := readU16 (slice bytes 6 2)
        let totalLength := readU16 (slice bytes 8 2)
        validateFragment (byteAt bytes 5) offset totalLength
          (bytes.length - controlResponseFragmentHeaderLen)
        return {
          requestId := readU32 (slice bytes 0 4)
          status
          offset
          totalLength
          flags := byteAt bytes 5
          data := fragmentData (bytes.drop controlResponseFragmentHeaderLen) }

end ControlResponseFragment

/-! Putting the pieces together again.  An assembler is updated also by a
fragment it refuses. -/

structure ControlRequestAssembler where
  requestId : Option UInt32
  setupPacket : Vector UInt8 8
  totalLength : UInt16
  nextOffset : UInt16
  data : Vector UInt8 controlDataMaxLen

namespace ControlRequestAssembler

def new : ControlRequestAssembler where
  requestId := none
  setupPacket := Vector.replicate 8 0
  totalLength := 0
  nextOffset := 0
  data := Vector.replicate controlDataMaxLen 0

def reset (assembler : ControlRequestAssembler) : ControlRequestAssembler :=
  { assembler with requestId := none, totalLength := 0, nextOffset := 0 }

def start (assembler : ControlRequestAssembler)
    (fragment : ControlRequestFragment) : ControlRequestAssembler :=
  if isFirstFragment fragment.flags then
    { assembler with
      requestId := some fragment.requestId
      setupPacket := fragment.setupPacket
      totalLength := fragment.totalLength
      nextOffset := 0 }
  else assembler

def push (assembler : ControlRequestAssembler)
    (fragment : ControlRequestFragment) :
    Except ControlFragmentError (Option MirrorControlRequest) ×
      ControlRequestAssembler :=
  let started := assembler.start fragment
  if started.requestId ≠ some fragment.requestId ∨
      started.setupPacket ≠ fragment.setupPacket ∨
        started.totalLength ≠ fragment.totalLength ∨
          started.nextOffset ≠ fragment.offset then
    (.error .outOfOrder, started.reset)
  else
    let last := fragment.offset.toNat + fragment.data.toList.length
    let filled := { started with
      data := readArray controlDataMaxLen
        (overwrite started.data.toList fragment.offset.toNat
          fragment.data.toList)
      nextOffset := UInt16.ofNat last }
    if ¬ isLastFragment fragment.flags then (.ok none, filled)
    else
      match MirrorControlRequest.new fragment.requestId fragment.setupPacket
          (filled.data.toList.take last) with
      | .error _ => (.error .malformed, filled)
      | .ok request => (.ok (some request), filled.reset)

end ControlRequestAssembler

structure ControlResponseAssembler where
  requestId : Option UInt32
  status : ControlStatus
  totalLength : UInt16
  nextOffset : UInt16
  data : Vector UInt8 controlDataMaxLen

namespace ControlResponseAssembler

def new : ControlResponseAssembler where
  requestId := none
  status := .success
  totalLength := 0
  nextOffset := 0
  data := Vector.replicate controlDataMaxLen 0

def reset (assembler : ControlResponseAssembler) :
    ControlResponseAssembler :=
  { assembler with requestId := none, totalLength := 0, nextOffset := 0 }

def start (assembler : ControlResponseAssembler)
    (fragment : ControlResponseFragment) : ControlResponseAssembler :=
  if isFirstFragment fragment.flags then
    { assembler with
      requestId := some fragment.requestId
      status := fragment.status
      totalLength := fragment.totalLength
      nextOffset := 0 }
  else assembler

def push (assembler : ControlResponseAssembler)
    (fragment : ControlResponseFragment) :
    Except ControlFragmentError (Option MirrorControlResponse) ×
      ControlResponseAssembler :=
  let started := assembler.start fragment
  if started.requestId ≠ some fragment.requestId ∨
      started.status ≠ fragment.status ∨
        started.totalLength ≠ fragment.totalLength ∨
          started.nextOffset ≠ fragment.offset then
    (.error .outOfOrder, started.reset)
  else
    let last := fragment.offset.toNat + fragment.data.toList.length
    let filled := { started with
      data := readArray controlDataMaxLen
        (overwrite started.data.toList fragment.offset.toNat
          fragment.data.toList)
      nextOffset := UInt16.ofNat last }
    if ¬ isLastFragment fragment.flags then (.ok none, filled)
    else
      match MirrorControlResponse.new fragment.requestId fragment.status
          (filled.data.toList.take last) with
      | .error _ => (.error .malformed, filled)
      | .ok response => (.ok (some response), filled.reset)

end ControlResponseAssembler

end HidShift
