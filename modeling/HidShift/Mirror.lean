import HidShift.OutputTarget

/-! Messages about mirrored devices (`interchip/message.rs`) and the registry
of mirror candidates (`mirror/candidate.rs`), of the dual-board build. -/

namespace HidShift

open Lib

def rawEndpointMaxDataLen : Nat := 64

def controlDataMaxLen : Nat := 256

def profileChunkMaxDataLen : Nat := 96

structure RawEndpointReport where
  endpointAddress : UInt8
  packetSequence : UInt16
  data : BoundedVec UInt8 rawEndpointMaxDataLen
deriving DecidableEq

structure MirrorControlRequest where
  requestId : UInt32
  setupPacket : Vector UInt8 8
  data : BoundedVec UInt8 controlDataMaxLen
deriving DecidableEq

inductive ControlStatus
  | success
  | stall
  | timeout
  | disconnected
  | unsupported
deriving DecidableEq, Repr

structure MirrorControlResponse where
  requestId : UInt32
  status : ControlStatus
  data : BoundedVec UInt8 controlDataMaxLen
deriving DecidableEq

structure ProfileBegin where
  transferId : UInt32
  totalLength : UInt32
  crc32 : UInt32
  profileHash : UInt32
deriving DecidableEq

structure ProfileChunkData where
  transferId : UInt32
  offset : UInt32
  data : BoundedVec UInt8 profileChunkMaxDataLen
deriving DecidableEq

inductive ProfileResultStatus
  | accepted
  | alreadyStored
  | invalidImage
  | unsupported
  | resourceExhausted
  | storageError
  | busy
deriving DecidableEq, Repr

def ProfileResultStatus.isStored : ProfileResultStatus → Bool
  | .accepted | .alreadyStored => true
  | _ => false

structure ProfileResult where
  transferId : UInt32
  profileHash : UInt32
  status : ProfileResultStatus
  rejectReason : UInt8
  detail : UInt16
deriving DecidableEq

structure ActivateProfile where
  operationId : UInt32
  profileHash : UInt32
deriving DecidableEq

structure UsbState where
  attached : Bool
  configured : Bool
  fallbackActive : Bool
  healthy : Bool
  activeProfileHash : UInt32
  errorCode : UInt16

structure MirrorCandidateId where
  val : UInt8
deriving DecidableEq, Repr

structure MirrorCandidateMetadata where
  candidate : MirrorCandidateId
  stableId : MirrorStableId
  profileHash : UInt32
  synthetic : Bool
  sourceDevice : Option DeviceId
deriving DecidableEq

def mirrorCandidateCapacity : Nat := 4

structure MirrorCandidateRegistry where
  entries : Vector (Option MirrorCandidateMetadata) mirrorCandidateCapacity
deriving DecidableEq

namespace MirrorCandidateRegistry

def new : MirrorCandidateRegistry := ⟨Vector.replicate _ none⟩

def get (registry : MirrorCandidateRegistry)
    (candidate : MirrorCandidateId) : Option MirrorCandidateMetadata :=
  registry.entries.toList[candidate.val.toNat]?.join

/-- Writes the slot of a candidate, or gives nothing for a candidate out of
range. -/
def setEntry (registry : MirrorCandidateRegistry)
    (candidate : MirrorCandidateId)
    (entry : Option MirrorCandidateMetadata) : Option MirrorCandidateRegistry :=
  if candidate.val.toNat < mirrorCandidateCapacity then
    some ⟨registry.entries.setIfInBounds candidate.val.toNat entry⟩
  else
    none

def register (registry : MirrorCandidateRegistry)
    (metadata : MirrorCandidateMetadata) : Option MirrorCandidateRegistry :=
  registry.setEntry metadata.candidate (some metadata)

def clear (registry : MirrorCandidateRegistry)
    (candidate : MirrorCandidateId) : Option MirrorCandidateRegistry :=
  registry.setEntry candidate none

def clearSource (registry : MirrorCandidateRegistry) (deviceId : DeviceId) :
    MirrorCandidateRegistry :=
  ⟨registry.entries.map fun entry =>
    if entry.any fun metadata => metadata.sourceDevice = some deviceId then
      none
    else
      entry⟩

/-- The candidate of a stable identity.  An ambiguous identity is never
guessed: the callers treat the error as no candidate. -/
def resolve (registry : MirrorCandidateRegistry)
    (stableId : MirrorStableId) : Option MirrorCandidateId :=
  match registry.entries.toList.reduceOption.filter (·.stableId = stableId) with
  | [metadata] => some metadata.candidate
  | _ => none

end MirrorCandidateRegistry

end HidShift
