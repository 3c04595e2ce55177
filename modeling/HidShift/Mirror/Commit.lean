import HidShift.Mirror.CommitEffect

namespace HidShift

open Lib InPlace

namespace ProfileStore

variable {ε : Type}

structure CommitCall (ε : Type) where
  image : List UInt8
  profileHash : UInt32
  fault : Option (FlashFault ε)

namespace CommitCall

variable (call : CommitCall ε) (before : Flash)

def next : StoredProfile :=
  nextProfile (current before) call.image call.profileHash

def target : ProfileSlot := (call.next before).slot

/-- The operation that erases the metadata.  Two reads, the erase and the
write of the image area and the read-back come before it. -/
def metadataErase : Nat := 4 + readBackRounds call.image.length

/-- The call stops after it began to erase the image area and before the
metadata is gone. -/
def StopsInArea (fault : FlashFault ε) : Prop :=
  call.fault = some fault ∧ 2 ≤ fault.operation ∧
    (fault.operation < call.metadataErase ∨
      fault.operation = call.metadataErase ∧
        decodeMetadata (call.target before)
          (fault.garbage.read 0 metadataLen) =
            record before (call.target before))

def areaLeft (fault : FlashFault ε) : Flash :=
  if fault.operation = 2 then
    fault.garbage
  else
    fun index => (if fault.operation = 3 then
        call.image.take fault.programmed
      else
        call.image).getD index 0xff

/-- What an interrupted erase of the metadata leaves is no metadata, unless it
left the metadata that was there. -/
def Unforged : Prop :=
  ∀ fault, call.fault = some fault → fault.operation = call.metadataErase →
    decodeMetadata (call.target before)
        (fault.garbage.read 0 metadataLen) = none ∨
      decodeMetadata (call.target before)
        (fault.garbage.read 0 metadataLen) = record before (call.target before)

/-- The call gets past its checks and to the end of the marker. -/
structure Completes : Prop where
  sized : (call.next before).Sized
  fresh : ∀ profile, current before = some profile →
    ¬ StoredAs profile call.image call.profileHash
  written : ∀ fault, call.fault = some fault →
    call.metadataErase + 2 < fault.operation ∨
      fault.operation = call.metadataErase + 2 ∧ 4 ≤ fault.programmed

end CommitCall

def Marked (programs : List (Nat × List UInt8)) : Prop :=
  ∃ slot : ProfileSlot,
    (slot.metadataOffset + 28, writeU32 commitMarker) ∈ programs

theorem marked_append :
    Marked (first ++ second) ↔ Marked first ∨ Marked second := by
  unfold Marked
  rw [← exists_or]
  apply exists_congr
  intro slot
  exact List.mem_append

theorem not_marked_nil : ¬ Marked [] := by
  rintro ⟨slot, member⟩
  cases member

theorem not_marked_image (slot : ProfileSlot) (bytes : List UInt8) :
    ¬ Marked [(slot.profileOffset, bytes)] := by
  rintro ⟨other, member⟩
  have same := congrArg Prod.fst (List.mem_singleton.mp member)
  cases slot <;> cases other <;> cases same

theorem not_marked_metadata (slot : ProfileSlot) (bytes : List UInt8) :
    ¬ Marked [(slot.metadataOffset, bytes)] := by
  rintro ⟨other, member⟩
  have same := congrArg Prod.fst (List.mem_singleton.mp member)
  cases slot <;> cases other <;> cases same

theorem marked_marker (slot : ProfileSlot) (written : Nat) :
    Marked [(slot.metadataOffset + 28,
      (writeU32 commitMarker).take written)] ↔ 4 ≤ written := by
  have length : (writeU32 commitMarker).length = 4 := length_writeU32 _
  constructor
  · rintro ⟨other, member⟩
    have same := congrArg Prod.snd (List.mem_singleton.mp member)
    have sizes := congrArg List.length same
    dsimp only at sizes
    rw [List.length_take, length] at sizes
    omega
  · intro whole
    refine ⟨slot, List.mem_singleton.mpr ?_⟩
    rw [List.take_of_length_le (length.trans_le whole)]

/-- The changes a call makes; the flag tells those with the marker from those
without. -/
inductive CommitEffect (call : CommitCall ε) (before : Flash) :
    Bool → Flash → Prop
  | unchanged : CommitEffect call before false before
  | area {after : Flash} {fault : FlashFault ε}
      (stopped : call.StopsInArea before fault)
      (touched : Touches (call.target before) before after)
      (kept : record after (call.target before) =
        record before (call.target before))
      (bytes : ∀ index < profileSlotLen,
        after ((call.target before).profileOffset + index) =
          call.areaLeft fault index) : CommitEffect call before false after
  | cleared {after : Flash}
      (touched : Touches (call.target before) before after)
      (wiped : record after (call.target before) = none) :
      CommitEffect call before false after
  | stored {after : Flash} (completes : call.Completes before)
      (touched : Touches (call.target before) before after)
      (recorded : record after (call.target before) = some (call.next before))
      (image : after.read (call.target before).profileOffset
        call.image.length = call.image) : CommitEffect call before true after

def Left (call : CommitCall ε) (before : Flash) (device : FlashDevice ε) :
    Prop :=
  ∃ marked, CommitEffect call before marked device.flash ∧
    (Marked device.programs ↔ marked = true)

variable {call : CommitCall ε} {before : Flash}

variable {device : FlashDevice ε}

theorem triple_readMetadata (stopped : failed device) :
    Triple (· = device) (readMetadata slot)
      (fun profile after => profile = record device.flash slot ∧
        after = device.next) failed := by
  apply FlashDevice.triple_read_bind fun _ _ => stopped
  apply triple_pure
  rintro state rfl
  exact ⟨rfl, rfl⟩

theorem triple_active (stopped : failed device)
    (stoppedLater : failed device.next) :
    Triple (· = device) (active : StoreM ε (Option StoredProfile))
      (fun profile after => profile = current device.flash ∧
        after = device.skip 2) failed := by
  apply triple_bind_exact (triple_readMetadata stopped)
  apply triple_bind_exact (triple_readMetadata stoppedLater)
  apply triple_pure
  rintro state rfl
  exact ⟨rfl, FlashDevice.skip_skip _ _ _⟩

def CommitCall.imageStored (call : CommitCall ε) (before : Flash) :
    FlashDevice ε where
  flash := imageArea before (call.target before) call.image
  fault := call.fault
  operations := call.metadataErase
  programs := [((call.target before).profileOffset, call.image)]

theorem left_unmarked (effect : CommitEffect call before false device.flash)
    (unmarked : ¬ Marked device.programs) : Left call before device := by
  refine ⟨false, effect, ?_⟩
  exact ⟨fun marked => absurd marked unmarked, fun impossible => by
    cases impossible⟩

theorem touches_filledArea (slot : ProfileSlot) (content : Flash) :
    Touches slot before
      (before.fill slot.profileOffset profileSlotLen content) :=
  touches_fill content fun _ low high => inSlot_profile low high

theorem left_imageArea (stopped : call.StopsInArea before fault)
    (fits : bytes.length ≤ profileSlotLen)
    (flash : device.flash = imageArea before (call.target before) bytes)
    (left : ∀ index, bytes.getD index 0xff = call.areaLeft fault index)
    (unmarked : ¬ Marked device.programs) : Left call before device := by
  apply left_unmarked _ unmarked
  rw [flash]
  refine .area stopped (touches_imageArea fits) record_imageArea ?_
  intro index inside
  exact (imageArea_byte inside).trans (left index)

theorem triple_storeImage (fits : call.image.length ≤ profileSlotLen) :
    Triple (· = (FlashDevice.start before call.fault).skip 2)
      (storeImage (call.target before) call.image)
      (fun _ after => after = call.imageStored before)
      (Left call before) := by
  have writing : 4 ≤ call.metadataErase := Nat.le_add_right _ _
  unfold storeImage
  apply FlashDevice.triple_erase_bind
  · rintro fault ⟨faulty, here⟩
    have second : fault.operation = 2 := here
    apply left_unmarked _ not_marked_nil
    refine .area ⟨faulty, second.ge, .inl (by omega)⟩ (touches_filledArea _ _)
      (record_fill_area _) ?_
    intro index inside
    rw [CommitCall.areaLeft, if_pos second]
    show (if _ then _ else _) = _
    rw [if_pos (by omega), Nat.add_sub_cancel_left]
  apply FlashDevice.triple_write_bind
  · rintro fault ⟨faulty, here⟩
    have third : fault.operation = 3 := here
    apply left_imageArea ⟨faulty, by omega, .inl (by omega)⟩ _ rfl
    · intro index
      rw [CommitCall.areaLeft, if_neg (by omega), if_pos third]
    · exact not_marked_image _ _
    · rw [List.length_take]
      omega
  apply triple_bind_exact (triple_readBack (Nat.sub_le _ _) ?_)
  · have read : (imageArea before (call.target before) call.image).read
        (call.target before).profileOffset call.image.length =
          call.image := before.read_program_erased fits
    apply triple_ite
    · intro mismatch
      exact absurd (congrArg (fun bytes => (Crc32.new.update
        bytes).finalize) read) mismatch
    · intro matching
      apply triple_pure
      rintro state rfl
      rfl
  · rintro done bound fault ⟨faulty, here⟩
    have later : fault.operation = 4 + done := here
    have early : 4 + done < call.metadataErase :=
      Nat.add_lt_add_left bound 4
    apply left_imageArea ⟨faulty, by omega, .inl (by omega)⟩ fits rfl
    · intro index
      rw [CommitCall.areaLeft, if_neg (by omega), if_neg (by omega)]
    · exact not_marked_image _ _

section

variable {bytes : List UInt8} (fits : call.image.length ≤ profileSlotLen)
    (short : bytes.length ≤ 28)

include fits short

theorem touches_metadata :
    Touches (call.target before) before (metadataArea (call.imageStored
      before).flash (call.target before) bytes) := by
  apply (touches_imageArea fits).trans
  apply touches_metadataArea
  exact short.trans (by decide)

theorem touches_marker (small : marker.length ≤ 4) :
    Touches (call.target before) before ((metadataArea (call.imageStored
      before).flash (call.target before) bytes).program
        ((call.target before).metadataOffset + 28) marker) := by
  apply (touches_metadata fits short).trans
  apply touches_program
  intro address low high
  apply inSlot_metadata
  · omega
  · unfold metadataSectorLen
    omega

theorem image_kept (small : marker.length ≤ 4) :
    ((metadataArea (call.imageStored before).flash (call.target before)
      bytes).program ((call.target before).metadataOffset + 28) marker).read
        (call.target before).profileOffset call.image.length = call.image := by
  have apart := @profileOffset_ge (call.target before)
  have sector : (call.target before).metadataOffset + metadataSectorLen ≤
      metadataSectorLen * 2 := by
    cases call.target before <;> decide
  have room : 32 ≤ metadataSectorLen := by decide
  rw [Flash.read_program_disjoint _ (.inr (by omega)), metadataArea,
    Flash.read_program_disjoint _ (.inr (by omega)),
    Flash.read_fill_disjoint _ _ (.inr (by omega))]
  exact before.read_program_erased fits

end

def CommitCall.metadataStored (call : CommitCall ε) (before : Flash) :
    FlashDevice ε where
  flash := (metadataArea (call.imageStored before).flash
    (call.target before) (unmarkedMetadata (call.next before))).program
      ((call.target before).metadataOffset + 28) (writeU32 commitMarker)
  fault := call.fault
  operations := call.metadataErase + 3
  programs := [((call.target before).profileOffset, call.image)] ++
    [((call.target before).metadataOffset,
      unmarkedMetadata (call.next before))] ++
    [((call.target before).metadataOffset + 28, writeU32 commitMarker)]

theorem effect_marked (completes : call.Completes before) :
    CommitEffect call before true (call.metadataStored before).flash := by
  have fits : call.image.length ≤ profileSlotLen := completes.sized.fits
  have short := (length_unmarkedMetadata (call.next before)).le
  have small : (writeU32 commitMarker).length ≤ 4 := (length_writeU32 _).le
  exact .stored completes (touches_marker fits short small)
    (record_marked completes.sized) (image_kept fits short small)

theorem marked_programs (bytes : List UInt8) :
    Marked ([((call.target before).profileOffset, call.image)] ++
      [((call.target before).metadataOffset,
        unmarkedMetadata (call.next before))] ++
      [((call.target before).metadataOffset + 28, bytes)]) ↔
        Marked [((call.target before).metadataOffset + 28, bytes)] := by
  rw [marked_append, marked_append]
  constructor
  · rintro ((image | metadata) | marker)
    · exact absurd image (not_marked_image _ _)
    · exact absurd metadata (not_marked_metadata _ _)
    · exact marker
  · exact .inr

theorem left_metadataErase (faulty : call.fault = some fault)
    (here : fault.operation = call.metadataErase)
    (fits : call.image.length ≤ profileSlotLen)
    (unforged : call.Unforged before) :
    Left call before ((call.imageStored before).filled
      (call.target before).metadataOffset metadataSectorLen fault.garbage) := by
  have late : 4 ≤ call.metadataErase := Nat.le_add_right _ _
  have touched : Touches (call.target before) before
      ((call.imageStored before).flash.fill
        (call.target before).metadataOffset metadataSectorLen
          fault.garbage) := by
    apply (touches_imageArea fits).trans
    exact touches_fill fault.garbage fun _ low high => inSlot_metadata low high
  have read : record ((call.imageStored before).flash.fill
      (call.target before).metadataOffset metadataSectorLen fault.garbage)
        (call.target before) =
          decodeMetadata (call.target before)
            (fault.garbage.read 0 metadataLen) := by
    rw [record, Flash.read_fill_prefix _ _ _ (by decide)]
  apply left_unmarked _ (not_marked_image _ _)
  rcases unforged fault faulty here with wiped | kept
  · exact .cleared touched (read.trans wiped)
  · refine .area ⟨faulty, by omega, .inr ⟨here, kept⟩⟩ touched
      (read.trans kept) ?_
    intro index inside
    have apart := @profileOffset_ge (call.target before)
    have sector : (call.target before).metadataOffset + metadataSectorLen ≤
        metadataSectorLen * 2 := by
      cases call.target before <;> decide
    rw [CommitCall.areaLeft, if_neg (by omega), if_neg (by omega)]
    refine Eq.trans (if_neg ?_) (imageArea_byte inside)
    rintro ⟨-, below⟩
    omega

theorem triple_storeMetadata (sized : (call.next before).Sized)
    (fresh : ∀ profile, current before = some profile →
      ¬ StoredAs profile call.image call.profileHash)
    (unforged : call.Unforged before) :
    Triple (· = call.imageStored before) (storeMetadata (call.next before))
      (fun _ after => after = call.metadataStored before)
      (Left call before) := by
  have fits : call.image.length ≤ profileSlotLen := sized.fits
  have short := (length_unmarkedMetadata (call.next before)).le
  unfold storeMetadata
  apply FlashDevice.triple_erase_bind
  · rintro fault ⟨faulty, here⟩
    exact left_metadataErase faulty here fits unforged
  apply FlashDevice.triple_write_bind
  · rintro fault -
    have cut : ((unmarkedMetadata (call.next before)).take
        fault.programmed).length ≤ 28 := by
      rw [List.length_take]
      omega
    apply left_unmarked
    · exact .cleared (touches_metadata fits cut) (record_unmarked cut)
    · intro marked
      rcases marked_append.mp marked with image | metadata
      · exact not_marked_image _ _ image
      · exact not_marked_metadata _ _ metadata
  apply FlashDevice.triple_operate
  · rintro fault ⟨faulty, here⟩
    by_cases whole : 4 ≤ fault.programmed
    · have all : (writeU32 commitMarker).take fault.programmed =
          writeU32 commitMarker :=
        List.take_of_length_le ((length_writeU32 _).trans_le whole)
      have written : ∀ other, call.fault = some other →
          call.metadataErase + 2 < other.operation ∨
            other.operation = call.metadataErase + 2 ∧
              4 ≤ other.programmed := by
        intro other same
        cases faulty.symm.trans same
        exact .inr ⟨here, whole⟩
      refine ⟨true, ?_, ?_⟩
      · have marked := effect_marked ⟨sized, fresh, written⟩
        unfold CommitCall.metadataStored at marked
        rw [← all] at marked
        exact marked
      · rw [eq_self, iff_true]
        exact (marked_programs _).mpr ((marked_marker _ _).mpr whole)
    · have cut : fault.programmed < 4 := Nat.not_le.mp whole
      have small : ((writeU32 commitMarker).take fault.programmed).length ≤
          4 := by
        rw [List.length_take]
        omega
      apply left_unmarked
      · exact .cleared (touches_marker fits short small)
          (record_cutMarker short cut)
      · intro marked
        exact whole ((marked_marker _ _).mp ((marked_programs _).mp marked))
  · rfl

def Finished (call : CommitCall ε) (before : Flash)
    (outcome : ProfileCommitOutcome) (device : FlashDevice ε) : Prop :=
  (∃ profile, outcome = .alreadyStored profile ∧
    current before = some profile ∧
    StoredAs profile call.image call.profileHash ∧
    device.flash = before ∧ ¬ Marked device.programs) ∨
  (outcome = .stored (call.next before) ∧
    (call.next before).Sized ∧
    (∀ profile, current before = some profile →
      ¬ StoredAs profile call.image call.profileHash) ∧
    device = call.metadataStored before)

theorem left_unchanged (flash : device.flash = before)
    (programs : device.programs = []) : Left call before device := by
  apply left_unmarked
  · rw [flash]
    exact .unchanged
  · rw [programs]
    exact not_marked_nil

theorem triple_commit (unforged : call.Unforged before) :
    Triple (· = FlashDevice.start before call.fault)
      (commit call.image call.profileHash) (Finished call before)
      (Left call before) := by
  unfold commit
  apply triple_ite
  · intro refused
    apply triple_throw
    rintro state rfl
    exact left_unchanged rfl rfl
  · intro accepted
    apply triple_bind_exact (triple_active (left_unchanged rfl rfl)
      (left_unchanged rfl rfl))
    cases known : (current before).filter
        (StoredAs · call.image call.profileHash) with
    | some profile =>
        obtain ⟨active, stored⟩ := Option.filter_eq_some_iff.mp known
        simp only [FlashDevice.start, known]
        apply triple_pure
        rintro state rfl
        exact .inl ⟨profile, rfl, active, of_decide_eq_true stored, rfl,
          not_marked_nil⟩
    | none =>
        have sized : (call.next before).Sized := by
          constructor
          · show 0 < call.image.length
            apply List.length_pos_of_ne_nil
            exact fun empty => accepted (.inl empty)
          · show call.image.length ≤ hsmiMaxSize
            exact Nat.not_lt.mp fun large => accepted (.inr (.inl large))
        have fresh : ∀ profile, current before = some profile →
            ¬ StoredAs profile call.image call.profileHash := by
          intro profile active stored
          rw [active, Option.filter_some, if_pos (decide_eq_true stored)]
            at known
          cases known
        simp only [FlashDevice.start, known]
        apply triple_bind (triple_storeImage sized.fits)
        intro _
        apply triple_bind (triple_storeMetadata sized fresh unforged)
        intro _
        apply triple_pure
        exact fun state reached => .inr ⟨rfl, sized, fresh, reached⟩

theorem triple_readBack_ahead (start length rounds offset : Nat) (crc : Crc32) :
    Triple FlashDevice.Ahead
      (readBack start length rounds offset crc : StoreM ε Crc32)
      (fun _ => FlashDevice.Ahead) fun _ => True := by
  induction rounds generalizing offset crc with
  | zero => exact triple_pure fun _ ahead => ahead
  | succ rounds ih =>
      unfold readBack
      apply triple_ite
      · intro _
        apply triple_bind (FlashDevice.triple_read_ahead _ _)
        exact fun bytes => ih _ _
      · intro _
        exact triple_pure fun _ ahead => ahead

theorem triple_storeImage_ahead (slot : ProfileSlot) (image : List UInt8) :
    Triple FlashDevice.Ahead (storeImage slot image : StoreM ε Unit)
      (fun _ => FlashDevice.Ahead) fun _ => True := by
  unfold storeImage
  apply triple_bind (FlashDevice.triple_erase_ahead _ _)
  intro _
  apply triple_bind (FlashDevice.triple_write_ahead _ _)
  intro _
  apply triple_bind (triple_readBack_ahead _ _ _ _ _)
  intro crc
  apply triple_ite
  · intro _
    exact triple_throw fun _ _ => trivial
  · intro _
    exact triple_pure fun _ ahead => ahead

theorem triple_storeMetadata_ahead (profile : StoredProfile) :
    Triple FlashDevice.Ahead (storeMetadata profile : StoreM ε Unit)
      (fun _ => FlashDevice.Ahead) fun _ => True := by
  unfold storeMetadata
  apply triple_bind (FlashDevice.triple_erase_ahead _ _)
  intro _
  apply triple_bind (FlashDevice.triple_write_ahead _ _)
  intro _
  exact FlashDevice.triple_write_ahead _ _

theorem triple_readMetadata_ahead (slot : ProfileSlot) :
    Triple FlashDevice.Ahead
      (readMetadata slot : StoreM ε (Option StoredProfile))
      (fun _ => FlashDevice.Ahead) fun _ => True := by
  apply triple_bind (FlashDevice.triple_read_ahead _ _)
  exact fun bytes => triple_pure fun _ ahead => ahead

theorem triple_commit_ahead (image : List UInt8) (profileHash : UInt32) :
    Triple FlashDevice.Ahead
      (commit image profileHash : StoreM ε ProfileCommitOutcome)
      (fun _ => FlashDevice.Ahead) fun _ => True := by
  have activeAhead : Triple FlashDevice.Ahead
      (active : StoreM ε (Option StoredProfile))
      (fun _ => FlashDevice.Ahead) fun _ => True := by
    apply triple_bind (triple_readMetadata_ahead .a)
    intro _
    apply triple_bind (triple_readMetadata_ahead .b)
    exact fun _ => triple_pure fun _ ahead => ahead
  unfold commit
  apply triple_ite
  · intro _
    exact triple_throw fun _ _ => trivial
  · intro _
    apply triple_bind activeAhead
    intro current
    cases known : current.filter (StoredAs · image profileHash) with
    | some profile =>
        dsimp only
        exact triple_pure fun _ ahead => ahead
    | none =>
        dsimp only
        apply triple_bind (triple_storeImage_ahead _ _)
        intro _
        apply triple_bind (triple_storeMetadata_ahead _)
        intro _
        exact triple_pure fun _ ahead => ahead

theorem completes_of_ahead (sized : (call.next before).Sized)
    (fresh : ∀ profile, current before = some profile → ¬ StoredAs profile
      call.image call.profileHash)
    (reached : device = call.metadataStored before) (ahead : device.Ahead) :
    call.Completes before := by
  refine ⟨sized, fresh, fun fault faulty => .inl ?_⟩
  rw [reached] at ahead
  exact ahead fault faulty

end ProfileStore

end HidShift
