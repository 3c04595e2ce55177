import Mathlib.Tactic.IntervalCases
import HidShift.Mirror.ProfileStore
import HidShift.Storage.ImageRoundTrip

namespace HidShift

open Lib InPlace

section

variable {profile : StoredProfile} {slot : ProfileSlot} {bytes : List UInt8}

@[simp] theorem ProfileSlot.other_other (slot : ProfileSlot) :
    slot.other.other = slot := by
  cases slot <;> rfl

def StoredProfile.Sized (profile : StoredProfile) : Prop :=
  0 < profile.length ∧ profile.length ≤ hsmiMaxSize

theorem hsmiMaxSize_le : hsmiMaxSize ≤ profileSlotLen := by decide

theorem StoredProfile.Sized.fits (sized : profile.Sized) :
    profile.length ≤ profileSlotLen :=
  sized.2.trans hsmiMaxSize_le

theorem decodeMetadata_encode (sized : profile.Sized) :
    decodeMetadata profile.slot (encodeMetadata profile commitMarker) =
      some profile := by
  obtain ⟨nonempty, bounded⟩ := sized
  have magic : slice (encodeMetadata profile commitMarker) 0 4 =
      metadataMagic := rfl
  have version : slice (encodeMetadata profile commitMarker) 4 2 =
      writeU16 metadataVersion := rfl
  have reserved : slice (encodeMetadata profile commitMarker) 6 2 =
      [0, 0] := rfl
  have marker : slice (encodeMetadata profile commitMarker) 28 4 =
      writeU32 commitMarker := rfl
  have crc : slice (encodeMetadata profile commitMarker) 24 4 =
      writeU32 (crc32Ieee (metadataFields profile)) := rfl
  have covered : slice (encodeMetadata profile commitMarker) 0 24 =
      metadataFields profile := rfl
  have generation : slice (encodeMetadata profile commitMarker) 8 4 =
      writeU32 profile.generation := rfl
  have profileHash : slice (encodeMetadata profile commitMarker) 12 4 =
      writeU32 profile.profileHash := rfl
  have length : slice (encodeMetadata profile commitMarker) 16 4 =
      writeU32 (UInt32.ofNat profile.length) := rfl
  have crc32 : slice (encodeMetadata profile commitMarker) 20 4 =
      writeU32 profile.crc32 := rfl
  have small : profile.length < 2 ^ 32 := bounded.trans_lt (by decide)
  have lengthRead : (UInt32.ofNat profile.length).toNat = profile.length := by
    rw [UInt32.toNat_ofNat', Nat.mod_eq_of_lt small]
  unfold decodeMetadata
  rw [magic, version, reserved, marker, crc, covered, generation, profileHash,
    length, crc32]
  simp only [readU16_writeU16, readU32_writeU32, lengthRead]
  rw [if_neg, if_neg]
  · have fits := bounded.trans hsmiMaxSize_le
    omega
  · simp

theorem decodeMetadata_unmarked
    (unmarked : readU32 (slice bytes 28 4) ≠ commitMarker) :
    decodeMetadata slot bytes = none := by
  unfold decodeMetadata
  exact if_pos (.inr (.inr (.inr (.inl unmarked))))

theorem decodeMetadata_some (decoded : decodeMetadata slot bytes =
    some profile) : profile.slot = slot ∧ profile.Sized := by
  unfold decodeMetadata at decoded
  split at decoded
  · cases decoded
  · dsimp only at decoded
    split at decoded
    · cases decoded
    · rename_i valid
      cases decoded
      refine ⟨rfl, ?_, ?_⟩
      · show 0 < (readU32 (slice bytes 16 4)).toNat
        omega
      · show (readU32 (slice bytes 16 4)).toNat ≤ hsmiMaxSize
        omega

theorem cutMarker (cut : written < 4) :
    readU32 ((List.range 4).map fun index =>
      ((writeU32 commitMarker).take written).getD index 0xff) ≠
        commitMarker := by
  interval_cases written <;> decide

end

theorem Crc32.update_append (crc : Crc32) (first second : List UInt8) :
    (crc.update first).update second = crc.update (first ++ second) :=
  congrArg Crc32.mk (List.foldl_append ..).symm

namespace ProfileStore

variable {ε : Type}

def record (flash : Flash) (slot : ProfileSlot) : Option StoredProfile :=
  decodeMetadata slot (flash.read slot.metadataOffset metadataLen)

def current (flash : Flash) : Option StoredProfile :=
  newestProfile (record flash .a) (record flash .b)

def InSlot (slot : ProfileSlot) (address : Nat) : Prop :=
  (slot.metadataOffset ≤ address ∧
    address < slot.metadataOffset + metadataSectorLen) ∨
  (slot.profileOffset ≤ address ∧
    address < slot.profileOffset + profileSlotLen)

def Touches (slot : ProfileSlot) (before after : Flash) : Prop :=
  ∀ address, ¬ InSlot slot address → after address = before address

section

variable {slot : ProfileSlot} {first second third before after : Flash}

theorem Touches.trans (left : Touches slot first second)
    (right : Touches slot second third) : Touches slot first third :=
  fun address outside =>
    (right address outside).trans (left address outside)

theorem touches_fill (content : Flash)
    (inside : ∀ address, offset ≤ address → address < offset + size →
      InSlot slot address) :
    Touches slot before (before.fill offset size content) := by
  intro address outside
  apply if_neg
  rintro ⟨low, high⟩
  exact outside (inside address low high)

theorem touches_program (inside : ∀ address, offset ≤ address →
      address < offset + bytes.length → InSlot slot address) :
    Touches slot before (before.program offset bytes) := by
  intro address outside
  apply Flash.program_outside
  by_contra within
  exact outside (inside address (by omega) (by omega))

structure SameSlot (before after : Flash) (slot : ProfileSlot) : Prop where
  record : record after slot = record before slot
  area : ∀ size ≤ profileSlotLen,
    after.read slot.profileOffset size = before.read slot.profileOffset size

theorem Touches.other (touched : Touches slot before after) :
    SameSlot before after slot.other := by
  constructor
  · apply congrArg (decodeMetadata slot.other)
    apply Flash.read_congr
    intro index inside
    apply touched
    have small : index < 32 := inside
    cases slot <;> simp only [InSlot, ProfileSlot.other,
      ProfileSlot.metadataOffset, ProfileSlot.profileOffset,
      metadataSectorLen, profileSlotLen] <;> omega
  · intro size fits
    apply Flash.read_congr
    intro index inside
    apply touched
    have small : index < 0x6000 := Nat.lt_of_lt_of_le inside fits
    cases slot <;> simp only [InSlot, ProfileSlot.other,
      ProfileSlot.metadataOffset, ProfileSlot.profileOffset,
      metadataSectorLen, profileSlotLen] <;> omega

end

def readBackRounds (length : Nat) : Nat := (length + 255) / 256

theorem triple_readBack {crc : Crc32} {device : FlashDevice ε}
    (enough : length - offset ≤ rounds)
    (stopped : ∀ done < readBackRounds (length - offset), ∀ fault,
      (device.skip done).StopsHere fault → failed (device.skip done)) :
    Triple (· = device) (readBack start length rounds offset crc)
      (fun result after =>
        result = crc.update
          (device.flash.read (start + offset) (length - offset)) ∧
        after = device.skip (readBackRounds (length - offset))) failed := by
  induction rounds generalizing offset crc device with
  | zero =>
      have nothing : length - offset = 0 := by omega
      rw [nothing]
      unfold readBack
      apply triple_pure
      rintro state rfl
      exact ⟨rfl, rfl⟩
  | succ rounds ih =>
      unfold readBack
      apply triple_ite
      · intro more
        have later : length - offset =
            min (length - offset) 256 +
              (length - (offset + min (length - offset) 256)) := by omega
        have count : readBackRounds (length - offset) =
            1 + readBackRounds
              (length - (offset + min (length - offset) 256)) := by
          unfold readBackRounds
          omega
        apply FlashDevice.triple_read_bind
        · intro fault here
          exact stopped 0 (by omega) fault here
        · have rest := @ih (offset + min (length - offset) 256)
            (crc.update (device.flash.read (start + offset)
              (min (length - offset) 256))) device.next (by omega) (by
              intro done bound fault here
              rw [FlashDevice.next, FlashDevice.skip_skip] at here ⊢
              exact stopped (1 + done) (by omega) fault here)
          apply triple_weaken rest (fun _ same => same)
          · rintro result after ⟨rfl, rfl⟩
            constructor
            · rw [Crc32.update_append, ← Nat.add_assoc]
              have whole := device.flash.read_append (start + offset)
                (min (length - offset) 256)
                (length - (offset + min (length - offset) 256))
              rw [← later] at whole
              exact congrArg crc.update whole.symm
            · rw [count, FlashDevice.next, FlashDevice.skip_skip]
          · exact fun _ reached => reached
      · intro done
        have nothing : length - offset = 0 := by omega
        rw [nothing]
        apply triple_pure
        rintro state rfl
        exact ⟨rfl, rfl⟩

def imageArea (flash : Flash) (slot : ProfileSlot) (bytes : List UInt8) :
    Flash :=
  (flash.fill slot.profileOffset profileSlotLen Flash.erased).program
    slot.profileOffset bytes

def metadataArea (flash : Flash) (slot : ProfileSlot) (bytes : List UInt8) :
    Flash :=
  (flash.fill slot.metadataOffset metadataSectorLen Flash.erased).program
    slot.metadataOffset bytes

variable {flash after : Flash} {slot : ProfileSlot} {bytes : List UInt8}

theorem inSlot_profile (low : slot.profileOffset ≤ address)
    (high : address < slot.profileOffset + profileSlotLen) :
    InSlot slot address := .inr ⟨low, high⟩

theorem inSlot_metadata (low : slot.metadataOffset ≤ address)
    (high : address < slot.metadataOffset + metadataSectorLen) :
    InSlot slot address := .inl ⟨low, high⟩

theorem touches_imageArea (fits : bytes.length ≤ profileSlotLen) :
    Touches slot flash (imageArea flash slot bytes) := by
  apply Touches.trans
  · exact touches_fill Flash.erased fun address low high =>
      inSlot_profile low high
  · apply touches_program
    intro address low high
    exact inSlot_profile low (by omega)

theorem touches_metadataArea (fits : bytes.length ≤ metadataSectorLen) :
    Touches slot flash (metadataArea flash slot bytes) := by
  apply Touches.trans
  · exact touches_fill Flash.erased fun address low high =>
      inSlot_metadata low high
  · apply touches_program
    intro address low high
    exact inSlot_metadata low (by omega)

theorem record_of_outside (same : ∀ address < metadataSectorLen * 2,
      after address = flash address) : record after slot = record flash slot := by
  apply congrArg (decodeMetadata slot)
  apply Flash.read_congr
  intro index inside
  apply same
  have small : index < 32 := inside
  cases slot <;> simp only [ProfileSlot.metadataOffset, metadataSectorLen] <;>
    omega

theorem profileOffset_ge : metadataSectorLen * 2 ≤ slot.profileOffset := by
  cases slot <;> decide

theorem record_fill_area (content : Flash) :
    record (flash.fill slot.profileOffset profileSlotLen content) slot =
      record flash slot := by
  apply record_of_outside
  intro address low
  apply if_neg
  rintro ⟨inside, -⟩
  have apart := @profileOffset_ge slot
  omega

theorem record_imageArea :
    record (imageArea flash slot bytes) slot = record flash slot := by
  refine Eq.trans ?_ (record_fill_area Flash.erased)
  apply record_of_outside
  intro address low
  apply Flash.program_outside
  have apart := @profileOffset_ge slot
  omega

theorem imageArea_byte (inside : index < profileSlotLen) :
    imageArea flash slot bytes (slot.profileOffset + index) =
      bytes.getD index 0xff :=
  Flash.program_erased flash inside bytes

theorem marker_read :
    slice (flash.read slot.metadataOffset metadataLen) 28 4 =
      flash.read (slot.metadataOffset + 28) 4 := by
  have cut : flash.read slot.metadataOffset metadataLen =
      flash.read slot.metadataOffset 28 ++
        flash.read (slot.metadataOffset + 28) 4 :=
    flash.read_append slot.metadataOffset 28 4
  rw [cut]
  exact (slice_skip (Flash.length_read ..) 0 4).trans
    (slice_whole (Flash.length_read ..))

section

variable (short : bytes.length ≤ 28)

include short

theorem metadataArea_marker (inside : index < 4) :
    metadataArea flash slot bytes (slot.metadataOffset + 28 + index) =
      0xff := by
  have within : 28 + index < metadataSectorLen := by
    unfold metadataSectorLen
    omega
  rw [Nat.add_assoc, metadataArea, Flash.program_erased flash within,
    List.getD_eq_getElem?_getD, List.getElem?_eq_none (by omega)]
  rfl

theorem record_unmarked :
    record (metadataArea flash slot bytes) slot = none := by
  apply decodeMetadata_unmarked
  have blank : (metadataArea flash slot bytes).read
      (slot.metadataOffset + 28) 4 = [0xff, 0xff, 0xff, 0xff] := by
    apply List.map_congr_left (g := fun _ => 0xff)
    intro index member
    exact metadataArea_marker short (List.mem_range.mp member)
  rw [marker_read, blank]
  decide

theorem marker_programmed (marker : List UInt8) :
    ((metadataArea flash slot bytes).program (slot.metadataOffset + 28)
      marker).read (slot.metadataOffset + 28) 4 =
        (List.range 4).map fun index => marker.getD index 0xff := by
  apply List.map_congr_left
  intro index member
  rw [Flash.program, if_pos (Nat.le_add_right _ _),
    metadataArea_marker short (List.mem_range.mp member),
    Nat.add_sub_cancel_left]
  exact UInt8.neg_one_and

theorem record_cutMarker (cut : written < 4) :
    record ((metadataArea flash slot bytes).program
      (slot.metadataOffset + 28) ((writeU32 commitMarker).take written))
        slot = none := by
  apply decodeMetadata_unmarked
  rw [marker_read, marker_programmed short]
  exact cutMarker cut

end

def unmarkedMetadata (profile : StoredProfile) : List UInt8 :=
  (encodeMetadata profile 0xffffffff).take 28

theorem unmarkedMetadata_eq (profile : StoredProfile) :
    unmarkedMetadata profile = metadataFields profile ++
      writeU32 (crc32Ieee (metadataFields profile)) :=
  List.take_left' rfl

@[simp] theorem length_unmarkedMetadata (profile : StoredProfile) :
    (unmarkedMetadata profile).length = 28 := by
  rw [unmarkedMetadata_eq]
  rfl

theorem record_marked (sized : profile.Sized) :
    record ((metadataArea flash profile.slot (unmarkedMetadata
      profile)).program (profile.slot.metadataOffset + 28)
        (writeU32 commitMarker)) profile.slot = some profile := by
  have first : (metadataArea flash profile.slot (unmarkedMetadata
      profile)).read profile.slot.metadataOffset 28 =
        unmarkedMetadata profile := by
    have fits : (unmarkedMetadata profile).length ≤ metadataSectorLen := by
      rw [length_unmarkedMetadata]
      decide
    have read := @Flash.read_program_erased _ flash
      profile.slot.metadataOffset _ fits
    rw [length_unmarkedMetadata] at read
    exact read
  have whole : ((metadataArea flash profile.slot (unmarkedMetadata
      profile)).program (profile.slot.metadataOffset + 28)
        (writeU32 commitMarker)).read profile.slot.metadataOffset
          metadataLen = encodeMetadata profile commitMarker := by
    rw [show metadataLen = 28 + 4 from rfl, Flash.read_append,
      Flash.read_program_disjoint _ (.inl (Nat.le_refl _)), first,
      marker_programmed (length_unmarkedMetadata profile).le,
      unmarkedMetadata_eq]
    rfl
  rw [record, whole]
  exact decodeMetadata_encode sized

end ProfileStore

end HidShift
