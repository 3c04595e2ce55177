import HidShift.Lib.FlashDevice
import HidShift.Storage.Image

/-! The store of mirror profiles on the device board (`mirror/store.rs`): two
slots, each a sector of metadata and an area for the image. -/

namespace HidShift

open Lib InPlace

structure Crc32 where
  state : UInt32

namespace Crc32

def new : Crc32 := ⟨0xffffffff⟩

def update (crc : Crc32) (bytes : List UInt8) : Crc32 :=
  ⟨bytes.foldl crcByte crc.state⟩

def finalize (crc : Crc32) : UInt32 := ~~~ crc.state

end Crc32

def crc32Ieee (bytes : List UInt8) : UInt32 := (Crc32.new.update bytes).finalize

def hsmiMaxSize : Nat := 16 * 1024

def metadataSectorLen : Nat := 0x1000

def profileSlotLen : Nat := 0x6000

def metadataLen : Nat := 32

/-- The letters `HSPF`. -/
def metadataMagic : List UInt8 := [0x48, 0x53, 0x50, 0x46]

def metadataVersion : UInt16 := 1

def commitMarker : UInt32 := 0x4853434d

inductive ProfileSlot
  | a
  | b
deriving DecidableEq, Repr

namespace ProfileSlot

def other : ProfileSlot → ProfileSlot
  | .a => .b
  | .b => .a

def metadataOffset : ProfileSlot → Nat
  | .a => 0x0000
  | .b => 0x1000

def profileOffset : ProfileSlot → Nat
  | .a => 0x2000
  | .b => 0x8000

end ProfileSlot

structure StoredProfile where
  slot : ProfileSlot
  generation : UInt32
  profileHash : UInt32
  length : Nat
  crc32 : UInt32
deriving DecidableEq

inductive ProfileCommitOutcome
  | stored (profile : StoredProfile)
  | alreadyStored (profile : StoredProfile)
deriving DecidableEq

inductive ProfileStoreError (ε : Type)
  | backend (error : ε)
  | imageTooLarge
  | readBackMismatch
deriving DecidableEq

def metadataFields (profile : StoredProfile) : List UInt8 :=
  metadataMagic ++ writeU16 metadataVersion ++ [0, 0] ++
    writeU32 profile.generation ++ writeU32 profile.profileHash ++
      writeU32 (UInt32.ofNat profile.length) ++ writeU32 profile.crc32

def encodeMetadata (profile : StoredProfile) (marker : UInt32) :
    List UInt8 :=
  metadataFields profile ++ writeU32 (crc32Ieee (metadataFields profile)) ++
    writeU32 marker

def decodeMetadata (slot : ProfileSlot) (bytes : List UInt8) :
    Option StoredProfile :=
  if slice bytes 0 4 ≠ metadataMagic ∨
      readU16 (slice bytes 4 2) ≠ metadataVersion ∨
      slice bytes 6 2 ≠ [0, 0] ∨
      readU32 (slice bytes 28 4) ≠ commitMarker ∨
      readU32 (slice bytes 24 4) ≠ crc32Ieee (slice bytes 0 24) then
    none
  else
    let length := (readU32 (slice bytes 16 4)).toNat
    if length = 0 ∨ hsmiMaxSize < length ∨ profileSlotLen < length then
      none
    else
      some {
        slot
        generation := readU32 (slice bytes 8 4)
        profileHash := readU32 (slice bytes 12 4)
        length
        crc32 := readU32 (slice bytes 20 4) }

namespace ProfileStore

variable {ε : Type}

abbrev StoreM (ε : Type) := InPlace (ProfileStoreError ε) (FlashDevice ε)

def readMetadata (slot : ProfileSlot) : StoreM ε (Option StoredProfile) := do
  let bytes ← FlashDevice.read .backend slot.metadataOffset metadataLen
  return decodeMetadata slot bytes

def generationIsNewerOrEqual (left right : UInt32) : Bool :=
  left - right < 0x80000000

def newestProfile : Option StoredProfile → Option StoredProfile →
    Option StoredProfile
  | some a, some b =>
      some (if generationIsNewerOrEqual a.generation b.generation then a
        else b)
  | some profile, none => some profile
  | none, b => b

def active : StoreM ε (Option StoredProfile) := do
  let a ← readMetadata .a
  let b ← readMetadata .b
  return newestProfile a b

def find (profileHash : UInt32) : StoreM ε (Option StoredProfile) := do
  let a ← readMetadata .a
  let b ← readMetadata .b
  return [a, b].reduceOption.find? fun profile =>
    profile.profileHash = profileHash

/-- Reads into a buffer of `room` bytes. -/
def readProfile (profile : StoredProfile) (room : Nat) :
    StoreM ε (List UInt8) :=
  if room < profile.length then
    throw .imageTooLarge
  else do
    let bytes ← FlashDevice.read .backend profile.slot.profileOffset
      profile.length
    if crc32Ieee bytes ≠ profile.crc32 then
      throw .readBackMismatch
    else
      return bytes

/-- The read-back loop, at most `rounds` more times; every round reads a
byte at least. -/
def readBack (start length : Nat) : Nat → Nat → Crc32 → StoreM ε Crc32
  | 0, _, crc => return crc
  | rounds + 1, offset, crc =>
      if offset < length then do
        let size := min (length - offset) 256
        let bytes ← FlashDevice.read .backend (start + offset) size
        readBack start length rounds (offset + size) (crc.update bytes)
      else
        return crc

def storeImage (slot : ProfileSlot) (image : List UInt8) : StoreM ε Unit := do
  FlashDevice.erase .backend slot.profileOffset profileSlotLen
  FlashDevice.write .backend slot.profileOffset image
  let crc ← readBack slot.profileOffset image.length image.length 0 .new
  if crc.finalize ≠ crc32Ieee image then
    throw .readBackMismatch
  else
    return ()

def storeMetadata (profile : StoredProfile) : StoreM ε Unit := do
  let metadata := encodeMetadata profile 0xffffffff
  FlashDevice.erase .backend profile.slot.metadataOffset metadataSectorLen
  FlashDevice.write .backend profile.slot.metadataOffset (metadata.take 28)
  FlashDevice.write .backend (profile.slot.metadataOffset + 28)
    (writeU32 commitMarker)

def StoredAs (profile : StoredProfile) (image : List UInt8)
    (profileHash : UInt32) : Prop :=
  profile.profileHash = profileHash ∧ profile.length = image.length ∧
    profile.crc32 = crc32Ieee image

instance (profile : StoredProfile) (image : List UInt8)
    (profileHash : UInt32) : Decidable (StoredAs profile image profileHash) :=
  inferInstanceAs (Decidable (_ ∧ _ ∧ _))

/-- The profile that a commit stores next to the active one. -/
def nextProfile (active : Option StoredProfile) (image : List UInt8)
    (profileHash : UInt32) : StoredProfile where
  slot := active.elim .a fun profile => profile.slot.other
  generation := active.elim 1 fun profile => profile.generation + 1
  profileHash := profileHash
  length := image.length
  crc32 := crc32Ieee image

def commit (image : List UInt8) (profileHash : UInt32) :
    StoreM ε ProfileCommitOutcome :=
  if image = [] ∨ hsmiMaxSize < image.length ∨
      profileSlotLen < image.length then
    throw .imageTooLarge
  else do
    let current ← active
    match current.filter (StoredAs · image profileHash) with
    | some profile => return .alreadyStored profile
    | none =>
        let profile := nextProfile current image profileHash
        storeImage profile.slot image
        storeMetadata profile
        return .stored profile

end ProfileStore

end HidShift
