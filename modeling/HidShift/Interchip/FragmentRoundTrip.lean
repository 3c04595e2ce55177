import HidShift.Interchip.DeviceRequests
import HidShift.Lib.Reassembly

namespace HidShift

open Lib

theorem validateFragment_eq_ok :
    validateFragment flags offset totalLength dataLength = .ok () ↔
      flags &&& 0xfc = 0 ∧ totalLength.toNat ≤ controlDataMaxLen ∧
        offset.toNat + dataLength ≤ totalLength.toNat ∧
        isFirstFragment flags = decide (offset = 0) ∧
        isLastFragment flags =
          decide (offset.toNat + dataLength = totalLength.toNat) := by
  rw [validateFragment]
  split
  · rename_i bad
    refine iff_of_false (fun impossible => nomatch impossible) ?_
    intro good
    obtain ⟨spare, small, inside, first, last⟩ := good
    rcases bad with bad | bad | bad | bad | bad
    · exact bad spare
    · omega
    · omega
    · exact bad first
    · exact bad last
  · rename_i good
    simp only [not_or, not_not, Nat.not_lt, ne_eq] at good
    exact iff_of_true rfl good

theorem isFirstFragment_fragmentFlags (offset last total : Nat) :
    isFirstFragment (fragmentFlags offset last total) =
      decide (offset = 0) := by
  unfold fragmentFlags
  split
  · rename_i same
    rw [decide_eq_true same]
    split <;> rfl
  · rename_i differs
    rw [decide_eq_false differs]
    split <;> rfl

theorem fragmentFlags_spare (offset last total : Nat) :
    fragmentFlags offset last total &&& 0xfc = 0 := by
  unfold fragmentFlags
  split <;> split <;> rfl

theorem toNat_ofNat_small (small : value ≤ controlDataMaxLen) :
    (UInt16.ofNat value).toNat = value := by
  rw [controlDataMaxLen] at small
  exact UInt16.toNat_ofNat_of_lt' (by rw [UInt16.size]; omega)

theorem validateFragment_fragmentFlags (small : total ≤ controlDataMaxLen)
    (inside : offset + size ≤ total) :
    validateFragment (fragmentFlags offset (offset + size) total)
      (UInt16.ofNat offset) (UInt16.ofNat total) size = .ok () := by
  have place : (UInt16.ofNat offset).toNat = offset :=
    toNat_ofNat_small (by omega)
  have front : UInt16.ofNat offset = 0 ↔ offset = 0 := by
    rw [← UInt16.toNat_inj, place]
    rfl
  rw [validateFragment_eq_ok, place, toNat_ofNat_small small,
    isFirstFragment_fragmentFlags, DeviceLink.isLastFragment_fragmentFlags,
    decide_eq_decide.mpr front]
  exact ⟨fragmentFlags_spare _ _ _, small, inside, rfl, rfl⟩

theorem fragmentBounds_inside
    (bounds : fragmentBounds totalLength offset = .ok ()) :
    offset ≤ totalLength := by
  rw [fragmentBounds] at bounds
  split at bounds
  · cases bounds
  · rename_i good
    omega

theorem fragmentBounds_zero (small : totalLength ≤ controlDataMaxLen) :
    fragmentBounds totalLength 0 = .ok () := by
  rw [fragmentBounds, if_neg (by omega), if_neg (by omega)]

theorem length_take_controlData (data : Vector UInt8 controlDataMaxLen)
    (count : Nat) : (data.toList.take count).length ≤ controlDataMaxLen := by
  rw [List.length_take, Vector.length_toList]
  exact Nat.min_le_right _ _

theorem take_filled {old : Vector UInt8 controlDataMaxLen}
    {held data : List UInt8} (front : old.toList.take held.length = held)
    (room : held.length + data.length ≤ controlDataMaxLen) :
    (readArray controlDataMaxLen (overwrite old.toList held.length
      data)).toList.take (held.length + data.length) = held ++ data := by
  have whole : old.toList = held ++ old.toList.drop held.length := by
    have split := (List.take_append_drop held.length old.toList).symm
    rwa [front] at split
  rw [toList_readArray (by rw [length_overwrite, Vector.length_toList]), whole,
    overwrite_append rfl (by
      rw [List.length_drop, Vector.length_toList]
      omega),
    ← List.append_assoc, ← List.length_append, List.take_left]

structure ControlFragment (κ : Type) where
  requestId : UInt32
  key : κ
  offset : UInt16
  totalLength : UInt16
  flags : UInt8
  data : BoundedVec UInt8 controlFragmentDataMaxLen

namespace ControlFragment

variable {κ : Type}

def cut (requestId : UInt32) (key : κ) (data : List UInt8) (offset : Nat) :
    ControlFragment κ where
  requestId := requestId
  key := key
  offset := UInt16.ofNat offset
  totalLength := UInt16.ofNat data.length
  flags := fragmentFlags offset
    (min data.length (offset + controlFragmentDataMaxLen)) data.length
  data := fragmentData (data.drop offset)

/-- What `decode` checks. -/
def Passes (fragment : ControlFragment κ) : Prop :=
  validateFragment fragment.flags fragment.offset fragment.totalLength
    fragment.data.toList.length = .ok ()

def piece (fragment : ControlFragment κ) : Piece (UInt32 × κ) UInt8 where
  header := (fragment.requestId, fragment.key)
  total := fragment.totalLength.toNat
  offset := fragment.offset.toNat
  first := isFirstFragment fragment.flags
  last := isLastFragment fragment.flags
  data := fragment.data.toList

variable {fragment : ControlFragment κ}

theorem Passes.valid (passes : fragment.Passes) : fragment.piece.Valid := by
  obtain ⟨-, -, inside, first, last⟩ := validateFragment_eq_ok.mp passes
  refine ⟨?_, ?_, inside⟩
  · change isFirstFragment fragment.flags = true ↔ fragment.offset.toNat = 0
    rw [first, decide_eq_true_iff, ← UInt16.toNat_inj]
    rfl
  · change isLastFragment fragment.flags = true ↔ _
    rw [last, decide_eq_true_iff]
    rfl

theorem Passes.room (passes : fragment.Passes) :
    fragment.offset.toNat + fragment.data.toList.length ≤
      controlDataMaxLen := by
  obtain ⟨-, small, inside, -, -⟩ := validateFragment_eq_ok.mp passes
  exact Nat.le_trans inside small

variable {requestId : UInt32} {key : κ} {data : List UInt8} {offset : Nat}

theorem length_cut_data :
    (cut requestId key data offset).data.toList.length =
      min controlFragmentDataMaxLen (data.length - offset) := by
  rw [cut, fragmentData, List.length_take, List.length_drop]

theorem cut_passes (small : data.length ≤ controlDataMaxLen)
    (inside : offset ≤ data.length) :
    (cut requestId key data offset).Passes := by
  have size := @length_cut_data κ requestId key data offset
  have reached : min data.length (offset + controlFragmentDataMaxLen) =
      offset + (cut requestId key data offset).data.toList.length := by
    omega
  rw [Passes, cut, reached]
  exact validateFragment_fragmentFlags small (by omega)

theorem piece_cut (small : data.length ≤ controlDataMaxLen)
    (inside : offset ≤ data.length) :
    (cut requestId key data offset).piece =
      Reassembly.pieceAt controlFragmentDataMaxLen (requestId, key) data
        offset := by
  rw [piece, cut, Reassembly.pieceAt]
  congr 1
  · exact toNat_ofNat_small small
  · exact toNat_ofNat_small (by omega)
  · exact isFirstFragment_fragmentFlags _ _ _
  · exact DeviceLink.isLastFragment_fragmentFlags _ _ _

end ControlFragment

structure ControlAssembler (κ : Type) where
  requestId : Option UInt32
  key : κ
  totalLength : UInt16
  nextOffset : UInt16
  data : Vector UInt8 controlDataMaxLen

namespace ControlAssembler

variable {κ : Type}

def reset (assembler : ControlAssembler κ) : ControlAssembler κ :=
  { assembler with requestId := none, totalLength := 0, nextOffset := 0 }

def start (assembler : ControlAssembler κ) (fragment : ControlFragment κ) :
    ControlAssembler κ :=
  if isFirstFragment fragment.flags then
    { assembler with
      requestId := some fragment.requestId
      key := fragment.key
      totalLength := fragment.totalLength
      nextOffset := 0 }
  else assembler

def fill (started : ControlAssembler κ) (fragment : ControlFragment κ) :
    ControlAssembler κ :=
  { started with
    data := readArray controlDataMaxLen
      (overwrite started.data.toList fragment.offset.toNat fragment.data.toList)
    nextOffset := UInt16.ofNat
      (fragment.offset.toNat + fragment.data.toList.length) }

def Continues (started : ControlAssembler κ) (fragment : ControlFragment κ) :
    Prop :=
  started.requestId = some fragment.requestId ∧ started.key = fragment.key ∧
    started.totalLength = fragment.totalLength ∧
      started.nextOffset = fragment.offset

section

variable [DecidableEq κ]

instance (started : ControlAssembler κ) (fragment : ControlFragment κ) :
    Decidable (started.Continues fragment) :=
  inferInstanceAs (Decidable (_ ∧ _ ∧ _ ∧ _))

def push (assembler : ControlAssembler κ) (fragment : ControlFragment κ) :
    ControlAssembler κ × Except Unit (Option ((UInt32 × κ) × List UInt8)) :=
  let started := assembler.start fragment
  if started.Continues fragment then
    let filled := started.fill fragment
    if isLastFragment fragment.flags then
      (filled.reset, .ok (some ((fragment.requestId, fragment.key),
        filled.data.toList.take
          (fragment.offset.toNat + fragment.data.toList.length))))
    else (filled, .ok none)
  else (started.reset, .error ())

end

def Holds (assembler : ControlAssembler κ) :
    Option (PartialMessage (UInt32 × κ) UInt8) → Prop
  | none => assembler.requestId = none
  | some message =>
      assembler.requestId = some message.header.1 ∧
        assembler.key = message.header.2 ∧
        assembler.totalLength.toNat = message.total ∧
        assembler.nextOffset.toNat = message.data.length ∧
        assembler.data.toList.take message.data.length = message.data

variable {assembler started : ControlAssembler κ}
  {held : Option (PartialMessage (UInt32 × κ) UInt8)}
  {message : PartialMessage (UInt32 × κ) UInt8}
  {fragment : ControlFragment κ}

theorem Holds.start (ready : assembler.Holds held ∨
    fragment.piece.first = true) :
    (assembler.start fragment).Holds
      (Reassembly.started held fragment.piece) := by
  rw [ControlAssembler.start, Reassembly.started]
  cases first : isFirstFragment fragment.flags with
  | true =>
      rw [if_pos rfl, if_pos (show fragment.piece.first = true from first)]
      exact ⟨rfl, rfl, rfl, rfl, List.take_zero⟩
  | false =>
      have later : ¬ fragment.piece.first = true := by
        change ¬ isFirstFragment fragment.flags = true
        rw [first]
        exact Bool.false_ne_true
      rw [if_neg Bool.false_ne_true, if_neg later]
      exact ready.resolve_right later

section

variable (holds : started.Holds (some message))

include holds

theorem Holds.continues :
    started.Continues fragment ↔
      message.header = fragment.piece.header ∧
        message.total = fragment.piece.total ∧
          message.data.length = fragment.piece.offset := by
  obtain ⟨requestId, key, total, reached, -⟩ := holds
  rw [Continues, requestId, key, ← UInt16.toNat_inj, ← UInt16.toNat_inj,
    total, reached, Option.some_inj, Prod.ext_iff, and_assoc]
  exact Iff.rfl

theorem Holds.filled (passes : fragment.Passes)
    (offset : message.data.length = fragment.piece.offset) :
    (started.fill fragment).data.toList.take
        (fragment.offset.toNat + fragment.data.toList.length) =
      message.data ++ fragment.data.toList := by
  obtain ⟨-, -, -, -, front⟩ := holds
  have room := passes.room
  rw [show fragment.offset.toNat = message.data.length from offset.symm]
    at room ⊢
  rw [fill, show fragment.offset.toNat = message.data.length from offset.symm]
  exact take_filled front room

theorem Holds.fill (passes : fragment.Passes)
    (offset : message.data.length = fragment.piece.offset) :
    (started.fill fragment).Holds (some { message with
      data := message.data ++ fragment.data.toList }) := by
  have size : (message.data ++ fragment.data.toList).length =
      fragment.offset.toNat + fragment.data.toList.length := by
    rw [List.length_append, offset]
    rfl
  have filled := holds.filled passes offset
  obtain ⟨requestId, key, total, -, -⟩ := holds
  refine ⟨requestId, key, total, ?_, ?_⟩
  · change (UInt16.ofNat _).toNat =
      (message.data ++ fragment.data.toList).length
    rw [size, toNat_ofNat_small passes.room]
  · change List.take (message.data ++ fragment.data.toList).length _ =
      message.data ++ fragment.data.toList
    rw [size]
    exact filled

end

theorem Holds.push [DecidableEq κ] (passes : fragment.Passes)
    (ready : assembler.Holds held ∨ fragment.piece.first = true) :
    (assembler.push fragment).1.Holds (Reassembly.push held fragment.piece).1 ∧
      (assembler.push fragment).2 =
        (Reassembly.push held fragment.piece).2 := by
  have start := Holds.start ready
  rw [ControlAssembler.push, Reassembly.push]
  generalize assembler.start fragment = started at start ⊢
  generalize Reassembly.started held fragment.piece = message at start ⊢
  cases message with
  | none =>
      have foreign : ¬ started.Continues fragment := by
        intro continues
        have same := start.symm.trans continues.1
        cases same
      rw [if_neg foreign]
      exact ⟨rfl, rfl⟩
  | some message =>
      have continues := @Holds.continues κ started message fragment start
      by_cases fits : started.Continues fragment
      · obtain ⟨header, length, offset⟩ := continues.mp fits
        rw [if_pos fits, Reassembly.extend_continues header length offset]
        cases last : isLastFragment fragment.flags with
        | true =>
            rw [if_pos rfl, if_pos (show fragment.piece.last = true from last)]
            refine ⟨rfl, ?_⟩
            dsimp only
            rw [start.filled passes offset]
            rfl
        | false =>
            have more : ¬ fragment.piece.last = true := by
              change ¬ isLastFragment fragment.flags = true
              rw [last]
              exact Bool.false_ne_true
            rw [if_neg Bool.false_ne_true, if_neg more]
            exact ⟨start.fill passes offset, rfl⟩
      · rw [if_neg fits,
          Reassembly.extend_refuses fun same => fits (continues.mpr same)]
        exact ⟨rfl, rfl⟩

end ControlAssembler

/-- The fragments from an offset on, up to the one that is marked last. -/
inductive Fragments {φ κ : Type} (make : Nat → Except ControlFragmentError φ)
    (general : φ → ControlFragment κ) : Nat → List φ → Prop
  | last {offset : Nat} {fragment : φ} (made : make offset = .ok fragment)
      (ends : isLastFragment (general fragment).flags = true) :
      Fragments make general offset [fragment]
  | more {offset : Nat} {fragment : φ} {rest : List φ}
      (made : make offset = .ok fragment)
      (goesOn : isLastFragment (general fragment).flags = false)
      (later : Fragments make general
        (offset + (general fragment).data.toList.length) rest) :
      Fragments make general offset (fragment :: rest)

structure Cuts {φ κ : Type} (make : Nat → Except ControlFragmentError φ)
    (general : φ → ControlFragment κ) (requestId : UInt32) (key : κ)
    (data : List UInt8) : Prop where
  made : ∀ offset, fragmentBounds data.length offset = .ok () →
    ∃ fragment, make offset = .ok fragment
  cut : ∀ offset fragment, make offset = .ok fragment →
    offset ≤ data.length ∧
      general fragment = ControlFragment.cut requestId key data offset

namespace Cuts

variable {φ κ : Type} {make : Nat → Except ControlFragmentError φ}
  {general : φ → ControlFragment κ} {requestId : UInt32} {key : κ}
  {data : List UInt8} {offset : Nat}

section

variable (cuts : Cuts make general requestId key data)
    (small : data.length ≤ controlDataMaxLen)

include cuts small

theorem piece_eq (made : make offset = .ok fragment) :
    (general fragment).piece =
      Reassembly.pieceAt controlFragmentDataMaxLen (requestId, key) data
        offset := by
  obtain ⟨inside, general⟩ := cuts.cut offset fragment made
  rw [general, ControlFragment.piece_cut small inside]

theorem fragments_exist
    (cut : Reassembly.Cut controlFragmentDataMaxLen (requestId, key) data
      offset pieces) (bounds : fragmentBounds data.length offset = .ok ()) :
    ∃ fragments, Fragments make general offset fragments := by
  induction cut with
  | @last offset ends =>
      obtain ⟨fragment, made⟩ := cuts.made offset bounds
      refine ⟨[fragment], .last made ?_⟩
      rw [← cuts.piece_eq small made] at ends
      exact ends
  | @more offset rest goesOn later ih =>
      obtain ⟨fragment, made⟩ := cuts.made offset bounds
      have more : ¬ data.length ≤ offset + controlFragmentDataMaxLen := by
        rw [← @Reassembly.pieceAt_last _ _ _ (requestId, key), goesOn]
        exact Bool.false_ne_true
      have full := @Reassembly.length_pieceAt _ _ controlFragmentDataMaxLen
        (requestId, key) data offset
      rw [Nat.min_eq_left (by omega)] at full
      obtain ⟨fragments, rest⟩ := ih (by
        rw [full, fragmentBounds, if_neg (by omega), if_neg (by omega)])
      rw [← cuts.piece_eq small made] at goesOn rest
      exact ⟨fragment :: fragments, .more made goesOn rest⟩

theorem exist : ∃ fragments, Fragments make general 0 fragments := by
  obtain ⟨pieces, cut⟩ := @Reassembly.cut_exists _ _
    controlFragmentDataMaxLen (requestId, key) data (by decide) 0
    (Nat.zero_le _)
  exact cuts.fragments_exist small cut (fragmentBounds_zero small)

theorem pieces_cut (sent : Fragments make general offset fragments) :
    Reassembly.Cut controlFragmentDataMaxLen (requestId, key) data offset
        (fragments.map fun fragment => (general fragment).piece) ∧
      ∀ fragment ∈ fragments, (general fragment).Passes := by
  have passes : ∀ {offset fragment}, make offset = .ok fragment →
      (general fragment).Passes := by
    intro offset fragment made
    obtain ⟨inside, general⟩ := cuts.cut offset fragment made
    rw [general]
    exact ControlFragment.cut_passes small inside
  induction sent with
  | last made ends =>
      refine ⟨?_, List.forall_mem_singleton.mpr (passes made)⟩
      rw [List.map_singleton, cuts.piece_eq small made]
      refine .last ?_
      rw [← cuts.piece_eq small made]
      exact ends
  | more made goesOn later ih =>
      obtain ⟨cut, accepted⟩ := ih
      refine ⟨?_, List.forall_mem_cons.mpr ⟨passes made, accepted⟩⟩
      rw [List.map_cons, cuts.piece_eq small made]
      refine .more ?_ ?_
      · rw [← cuts.piece_eq small made]
        exact goesOn
      · rw [← cuts.piece_eq small made]
        exact cut

end

end Cuts

namespace ControlRequestFragment

def general (fragment : ControlRequestFragment) :
    ControlFragment (Vector UInt8 8) :=
  ⟨fragment.requestId, fragment.setupPacket, fragment.offset,
    fragment.totalLength, fragment.flags, fragment.data⟩

variable {fragment : ControlRequestFragment}

theorem decode_encode (passes : fragment.general.Passes) :
    decode fragment.encode = .ok fragment := by
  have fits : fragment.data.toList.length ≤ 86 := fragment.data.length_le
  have wire : fragment.encode = writeU32 fragment.requestId ++
      [fragment.flags, 0] ++ writeU16 fragment.offset ++
        writeU16 fragment.totalLength ++
          (fragment.setupPacket.toList ++ fragment.data.toList) := by
    rw [encode, List.append_assoc]
  have length : fragment.encode.length =
      controlRequestFragmentHeaderLen + fragment.data.toList.length := by
    simp only [wire, List.length_append, Vector.length_toList,
      length_writeU32, length_writeU16, List.length_cons, List.length_nil,
      controlRequestFragmentHeaderLen]
    omega
  have requestId : readU32 (slice fragment.encode 0 4) = fragment.requestId :=
    readU32_writeU32 _
  have offset : readU16 (slice fragment.encode 6 2) = fragment.offset :=
    readU16_writeU16 _
  have total : readU16 (slice fragment.encode 8 2) = fragment.totalLength :=
    readU16_writeU16 _
  have setupPacket : readArray 8 (slice fragment.encode 10 8) =
      fragment.setupPacket := by
    rw [wire, slice_skip_front (by rfl),
      slice_front (Vector.length_toList ..), readArray_toList]
  have data : fragmentData (fragment.encode.drop
      controlRequestFragmentHeaderLen) = fragment.data := by
    apply BoundedVec.ext
    rw [fragmentData, encode, List.drop_left' (by
      rw [List.length_append, Vector.length_toList]
      rfl)]
    exact List.take_of_length_le fits
  have reserved : byteAt fragment.encode 5 = 0 := rfl
  have flags : byteAt fragment.encode 4 = fragment.flags := rfl
  have sized : ¬ (fragment.encode.length < controlRequestFragmentHeaderLen ∨
      byteAt fragment.encode 5 ≠ 0 ∨ controlFragmentDataMaxLen <
        fragment.encode.length - controlRequestFragmentHeaderLen) := by
    rw [length, reserved, Nat.add_sub_cancel_left]
    intro bad
    rcases bad with short | spare | long
    · omega
    · exact spare rfl
    · exact Nat.not_lt.mpr fits long
  rw [decode, if_neg sized]
  simp only [length, Nat.add_sub_cancel_left, requestId, offset, total,
    setupPacket, data, flags]
  rw [show validateFragment fragment.flags fragment.offset
    fragment.totalLength fragment.data.toList.length = _ from passes]
  rfl

theorem passes_of_decode (decoded : decode bytes = .ok fragment) :
    fragment.general.Passes := by
  rw [decode] at decoded
  split at decoded
  · cases decoded
  rename_i sized
  obtain ⟨_, passes, decoded⟩ := bind_eq_ok.mp decoded
  cases decoded
  change validateFragment _ _ _ (fragmentData _).toList.length = _
  rw [show (fragmentData (bytes.drop
    controlRequestFragmentHeaderLen)).toList.length =
      bytes.length - controlRequestFragmentHeaderLen from ?_]
  · exact passes
  · rw [fragmentData, List.length_take, List.length_drop]
    omega

theorem fromRequest_cuts (request : MirrorControlRequest) :
    Cuts (fromRequest request) general request.requestId request.setupPacket
      request.data.toList where
  made := by
    intro offset bounds
    rw [fromRequest, bounds]
    exact ⟨_, rfl⟩
  cut := by
    intro offset fragment made
    rw [fromRequest] at made
    obtain ⟨_, bounds, made⟩ := bind_eq_ok.mp made
    cases made
    exact ⟨fragmentBounds_inside bounds, rfl⟩

end ControlRequestFragment

namespace ControlRequestAssembler

def general (assembler : ControlRequestAssembler) :
    ControlAssembler (Vector UInt8 8) :=
  ⟨assembler.requestId, assembler.setupPacket, assembler.totalLength,
    assembler.nextOffset, assembler.data⟩

def shownRequest (request : MirrorControlRequest) :
    (UInt32 × Vector UInt8 8) × List UInt8 :=
  ((request.requestId, request.setupPacket), request.data.toList)

variable {assembler : ControlRequestAssembler}
  {fragment : ControlRequestFragment}

theorem start_general :
    (assembler.start fragment).general =
      assembler.general.start fragment.general := by
  rw [ControlRequestAssembler.start, ControlAssembler.start]
  exact apply_ite _ _ _ _

theorem push_general :
    ((assembler.push fragment).2.general,
        Reassembly.shown shownRequest (assembler.push fragment).1) =
      assembler.general.push fragment.general := by
  rw [ControlRequestAssembler.push, ControlAssembler.push, ← start_general]
  generalize assembler.start fragment = started
  have refused : (started.requestId ≠ some fragment.requestId ∨
      started.setupPacket ≠ fragment.setupPacket ∨
        started.totalLength ≠ fragment.totalLength ∨
          started.nextOffset ≠ fragment.offset) ↔
      ¬ started.general.Continues fragment.general := by
    simp only [ne_eq, ← not_and_or]
    exact Iff.rfl
  by_cases continues : started.general.Continues fragment.general
  · rw [if_neg fun bad => refused.mp bad continues, if_pos continues]
    cases last : isLastFragment fragment.flags with
    | true =>
        rw [if_neg (not_not_intro rfl), if_pos (show
          isLastFragment fragment.general.flags = true from last),
          MirrorControlRequest.new, dif_pos (length_take_controlData _ _)]
        rfl
    | false =>
        rw [if_pos Bool.false_ne_true, if_neg (by
          change ¬ isLastFragment fragment.flags = true
          rw [last]
          exact Bool.false_ne_true)]
        rfl
  · rw [if_pos (refused.mpr continues), if_neg continues]
    rfl

theorem shownRequest_injective : Function.Injective shownRequest := by
  intro first second same
  obtain ⟨requestId, setupPacket, data⟩ := first
  obtain ⟨otherId, otherSetup, otherData⟩ := second
  obtain ⟨header, bytes⟩ := Prod.mk.inj same
  cases header
  exact congrArg (MirrorControlRequest.mk requestId setupPacket)
    (BoundedVec.ext bytes)

theorem push_follows (assembler : ControlRequestAssembler)
    (held : Option (PartialMessage (UInt32 × Vector UInt8 8) UInt8))
    (fragment : ControlRequestFragment) (passes : fragment.general.Passes)
    (ready : assembler.general.Holds held ∨
      fragment.general.piece.first = true) :
    (assembler.push fragment).2.general.Holds
        (Reassembly.push held fragment.general.piece).1 ∧
      Reassembly.shown shownRequest (assembler.push fragment).1 =
        (Reassembly.push held fragment.general.piece).2 := by
  have follows := ControlAssembler.Holds.push passes ready
  rw [← push_general] at follows
  exact follows

def step (assembler : ControlRequestAssembler)
    (fragment : ControlRequestFragment) :
    ControlRequestAssembler ×
      Except ControlFragmentError (Option MirrorControlRequest) :=
  ((assembler.push fragment).2, (assembler.push fragment).1)

def puttingTogether : Reassembly.Assembler ControlRequestAssembler
    ControlRequestFragment ControlFragmentError MirrorControlRequest
    (UInt32 × Vector UInt8 8) UInt8 where
  step := step
  piece := fun fragment => fragment.general.piece
  key := shownRequest
  accepted := fun fragment => fragment.general.Passes
  holds := fun assembler held => assembler.general.Holds held
  valid := fun _ passes => passes.valid
  push := push_follows

end ControlRequestAssembler

theorem ControlStatus.ofByte_toByte (status : ControlStatus) :
    ControlStatus.ofByte status.toByte = some status := by
  cases status <;> rfl

namespace ControlResponseFragment

def general (fragment : ControlResponseFragment) :
    ControlFragment ControlStatus :=
  ⟨fragment.requestId, fragment.status, fragment.offset,
    fragment.totalLength, fragment.flags, fragment.data⟩

variable {fragment : ControlResponseFragment}

theorem length_encode (fragment : ControlResponseFragment) :
    fragment.encode.length = controlResponseFragmentHeaderLen +
      fragment.data.toList.length := by
  simp only [encode, List.length_append, length_writeU32, length_writeU16,
    List.length_cons, List.length_nil, controlResponseFragmentHeaderLen]

theorem decode_encode (passes : fragment.general.Passes) :
    decode fragment.encode = .ok fragment := by
  have fits : fragment.data.toList.length ≤ 86 := fragment.data.length_le
  have length := fragment.length_encode
  have requestId : readU32 (slice fragment.encode 0 4) = fragment.requestId :=
    readU32_writeU32 _
  have offset : readU16 (slice fragment.encode 6 2) = fragment.offset :=
    readU16_writeU16 _
  have total : readU16 (slice fragment.encode 8 2) = fragment.totalLength :=
    readU16_writeU16 _
  have data : fragmentData (fragment.encode.drop
      controlResponseFragmentHeaderLen) = fragment.data := by
    apply BoundedVec.ext
    rw [fragmentData, encode, List.drop_left' (by rfl)]
    exact List.take_of_length_le fits
  have status : ControlStatus.ofByte (byteAt fragment.encode 4) =
      some fragment.status := ControlStatus.ofByte_toByte _
  have flags : byteAt fragment.encode 5 = fragment.flags := rfl
  have sized : ¬ (fragment.encode.length < controlResponseFragmentHeaderLen ∨
      controlFragmentDataMaxLen <
        fragment.encode.length - controlResponseFragmentHeaderLen) := by
    rw [length, Nat.add_sub_cancel_left]
    intro bad
    rcases bad with short | long
    · omega
    · exact Nat.not_lt.mpr fits long
  rw [decode, if_neg sized, status]
  simp only [length, Nat.add_sub_cancel_left, requestId, offset, total, data,
    flags]
  rw [show validateFragment fragment.flags fragment.offset
    fragment.totalLength fragment.data.toList.length = _ from passes]
  rfl

theorem passes_of_decode (decoded : decode bytes = .ok fragment) :
    fragment.general.Passes := by
  rw [decode] at decoded
  split at decoded
  · cases decoded
  rename_i sized
  cases known : ControlStatus.ofByte (byteAt bytes 4) with
  | none =>
      rw [known] at decoded
      cases decoded
  | some status =>
      rw [known] at decoded
      obtain ⟨_, passes, decoded⟩ := bind_eq_ok.mp decoded
      cases decoded
      change validateFragment _ _ _ (fragmentData _).toList.length = _
      rw [show (fragmentData (bytes.drop
        controlResponseFragmentHeaderLen)).toList.length =
          bytes.length - controlResponseFragmentHeaderLen from ?_]
      · exact passes
      · rw [fragmentData, List.length_take, List.length_drop]
        omega

theorem fromResponse_cuts (response : MirrorControlResponse) :
    Cuts (fromResponse response) general response.requestId response.status
      response.data.toList where
  made := by
    intro offset bounds
    rw [fromResponse, bounds]
    exact ⟨_, rfl⟩
  cut := by
    intro offset fragment made
    rw [fromResponse] at made
    obtain ⟨_, bounds, made⟩ := bind_eq_ok.mp made
    cases made
    exact ⟨fragmentBounds_inside bounds, rfl⟩

theorem fits (fragment : ControlResponseFragment) :
    Record.paddedLen ⟨recordControlResponse, 0, fragment.encode⟩ ≤
      spiCellPayloadLen := by
  have short := fragment.data.length_le
  have length := fragment.length_encode
  unfold Record.paddedLen Record.rawLen align4 recordHeaderLen
    spiCellPayloadLen controlResponseFragmentHeaderLen
    controlFragmentDataMaxLen at *
  simp only at *
  omega

end ControlResponseFragment

namespace ControlResponseAssembler

def general (assembler : ControlResponseAssembler) :
    ControlAssembler ControlStatus :=
  ⟨assembler.requestId, assembler.status, assembler.totalLength,
    assembler.nextOffset, assembler.data⟩

def shownResponse (response : MirrorControlResponse) :
    (UInt32 × ControlStatus) × List UInt8 :=
  ((response.requestId, response.status), response.data.toList)

variable {assembler : ControlResponseAssembler}
  {fragment : ControlResponseFragment}

theorem start_general :
    (assembler.start fragment).general =
      assembler.general.start fragment.general := by
  rw [ControlResponseAssembler.start, ControlAssembler.start]
  exact apply_ite _ _ _ _

theorem push_general :
    ((assembler.push fragment).2.general,
        Reassembly.shown shownResponse (assembler.push fragment).1) =
      assembler.general.push fragment.general := by
  rw [ControlResponseAssembler.push, ControlAssembler.push, ← start_general]
  generalize assembler.start fragment = started
  have refused : (started.requestId ≠ some fragment.requestId ∨
      started.status ≠ fragment.status ∨
        started.totalLength ≠ fragment.totalLength ∨
          started.nextOffset ≠ fragment.offset) ↔
      ¬ started.general.Continues fragment.general := by
    simp only [ne_eq, ← not_and_or]
    exact Iff.rfl
  by_cases continues : started.general.Continues fragment.general
  · rw [if_neg fun bad => refused.mp bad continues, if_pos continues]
    cases last : isLastFragment fragment.flags with
    | true =>
        rw [if_neg (not_not_intro rfl), if_pos (show
          isLastFragment fragment.general.flags = true from last),
          MirrorControlResponse.new, dif_pos (length_take_controlData _ _)]
        rfl
    | false =>
        rw [if_pos Bool.false_ne_true, if_neg (by
          change ¬ isLastFragment fragment.flags = true
          rw [last]
          exact Bool.false_ne_true)]
        rfl
  · rw [if_pos (refused.mpr continues), if_neg continues]
    rfl

theorem shownResponse_injective : Function.Injective shownResponse := by
  intro first second same
  obtain ⟨requestId, status, data⟩ := first
  obtain ⟨otherId, otherStatus, otherData⟩ := second
  obtain ⟨header, bytes⟩ := Prod.mk.inj same
  cases header
  exact congrArg (MirrorControlResponse.mk requestId status)
    (BoundedVec.ext bytes)

theorem push_follows (assembler : ControlResponseAssembler)
    (held : Option (PartialMessage (UInt32 × ControlStatus) UInt8))
    (fragment : ControlResponseFragment) (passes : fragment.general.Passes)
    (ready : assembler.general.Holds held ∨
      fragment.general.piece.first = true) :
    (assembler.push fragment).2.general.Holds
        (Reassembly.push held fragment.general.piece).1 ∧
      Reassembly.shown shownResponse (assembler.push fragment).1 =
        (Reassembly.push held fragment.general.piece).2 := by
  have follows := ControlAssembler.Holds.push passes ready
  rw [← push_general] at follows
  exact follows

def step (assembler : ControlResponseAssembler)
    (fragment : ControlResponseFragment) :
    ControlResponseAssembler ×
      Except ControlFragmentError (Option MirrorControlResponse) :=
  ((assembler.push fragment).2, (assembler.push fragment).1)

def puttingTogether : Reassembly.Assembler ControlResponseAssembler
    ControlResponseFragment ControlFragmentError MirrorControlResponse
    (UInt32 × ControlStatus) UInt8 where
  step := step
  piece := fun fragment => fragment.general.piece
  key := shownResponse
  accepted := fun fragment => fragment.general.Passes
  holds := fun assembler held => assembler.general.Holds held
  valid := fun _ passes => passes.valid
  push := push_follows

end ControlResponseAssembler

/-- Control messages arrive as they were sent, and what is put together came
in since the last first fragment. -/
theorem control_fragments_round_trip :
    (∀ message : MirrorControlRequest,
      (∃ fragments, Fragments (ControlRequestFragment.fromRequest message)
        ControlRequestFragment.general 0 fragments) ∧
      ∀ fragments, Fragments (ControlRequestFragment.fromRequest message)
          ControlRequestFragment.general 0 fragments →
        (∀ fragment ∈ fragments,
          ControlRequestFragment.decode fragment.encode = .ok fragment ∧
            Record.paddedLen ⟨recordControlRequest, 0, fragment.encode⟩ ≤
              spiCellPayloadLen) ∧
        ∀ assembler,
          (Run.trace ControlRequestAssembler.step assembler fragments).map
              Transition.output =
            List.replicate (fragments.length - 1) (.ok none) ++
              [.ok (some message)]) ∧
    (∀ message : MirrorControlResponse,
      (∃ fragments, Fragments (ControlResponseFragment.fromResponse message)
        ControlResponseFragment.general 0 fragments) ∧
      ∀ fragments, Fragments (ControlResponseFragment.fromResponse message)
          ControlResponseFragment.general 0 fragments →
        (∀ fragment ∈ fragments,
          ControlResponseFragment.decode fragment.encode = .ok fragment ∧
            Record.paddedLen ⟨recordControlResponse, 0, fragment.encode⟩ ≤
              spiCellPayloadLen) ∧
        ∀ assembler,
          (Run.trace ControlResponseAssembler.step assembler fragments).map
              Transition.output =
            List.replicate (fragments.length - 1) (.ok none) ++
              [.ok (some message)]) ∧
    (∀ (fragments : List ControlRequestFragment)
      (fragment : ControlRequestFragment),
      (∀ other ∈ fragments ++ [fragment],
        ∃ bytes, ControlRequestFragment.decode bytes = .ok other) →
      ∀ message, ((Run.final ControlRequestAssembler.step
          ControlRequestAssembler.new fragments).push fragment).1 =
            .ok (some message) →
        ∃ earlier first since,
          fragments ++ [fragment] = earlier ++ first :: since ∧
          isFirstFragment first.flags = true ∧
          (∀ other ∈ since, isFirstFragment other.flags = false) ∧
          message.requestId = first.requestId ∧
          message.setupPacket = first.setupPacket ∧
          message.data.toList =
            (first :: since).flatMap (fun other => other.data.toList) ∧
          message.data.toList.length = first.totalLength.toNat) ∧
    (∀ (fragments : List ControlResponseFragment)
      (fragment : ControlResponseFragment),
      (∀ other ∈ fragments ++ [fragment],
        ∃ bytes, ControlResponseFragment.decode bytes = .ok other) →
      ∀ message, ((Run.final ControlResponseAssembler.step
          ControlResponseAssembler.new fragments).push fragment).1 =
            .ok (some message) →
        ∃ earlier first since,
          fragments ++ [fragment] = earlier ++ first :: since ∧
          isFirstFragment first.flags = true ∧
          (∀ other ∈ since, isFirstFragment other.flags = false) ∧
          message.requestId = first.requestId ∧
          message.status = first.status ∧
          message.data.toList =
            (first :: since).flatMap (fun other => other.data.toList) ∧
          message.data.toList.length = first.totalLength.toNat) := by
  refine ⟨?_, ?_, ?_, ?_⟩
  · intro message
    have cuts := ControlRequestFragment.fromRequest_cuts message
    have small := message.data.length_le
    refine ⟨cuts.exist small, fun fragments sent => ?_⟩
    obtain ⟨cut, passes⟩ := cuts.pieces_cut small sent
    refine ⟨fun fragment member => ?_, fun assembler => ?_⟩
    · exact ⟨ControlRequestFragment.decode_encode (passes fragment member),
        DeviceLink.fragment_fits fragment⟩
    · exact ControlRequestAssembler.puttingTogether.outputs_of_cut
        ControlRequestAssembler.shownRequest_injective assembler passes cut
  · intro message
    have cuts := ControlResponseFragment.fromResponse_cuts message
    have small := message.data.length_le
    refine ⟨cuts.exist small, fun fragments sent => ?_⟩
    obtain ⟨cut, passes⟩ := cuts.pieces_cut small sent
    refine ⟨fun fragment member => ?_, fun assembler => ?_⟩
    · exact ⟨ControlResponseFragment.decode_encode (passes fragment member),
        fragment.fits⟩
    · exact ControlResponseAssembler.puttingTogether.outputs_of_cut
        ControlResponseAssembler.shownResponse_injective assembler passes cut
  · intro fragments fragment decoded message whole
    obtain ⟨earlier, first, since, same, isFirst, later, header, rest⟩ :=
      @Reassembly.Assembler.message_of_fragments _ _ _ _ _ _ _
        ControlRequestAssembler.puttingTogether ControlRequestAssembler.new rfl
        fragments fragment (fun other member =>
          (decoded other member).elim fun _ =>
            ControlRequestFragment.passes_of_decode) message whole
    obtain ⟨requestId, setupPacket⟩ := Prod.mk.inj header
    exact ⟨earlier, first, since, same, isFirst, later, requestId,
      setupPacket, rest⟩
  · intro fragments fragment decoded message whole
    obtain ⟨earlier, first, since, same, isFirst, later, header, rest⟩ :=
      @Reassembly.Assembler.message_of_fragments _ _ _ _ _ _ _
        ControlResponseAssembler.puttingTogether ControlResponseAssembler.new
        rfl fragments fragment (fun other member =>
          (decoded other member).elim fun _ =>
            ControlResponseFragment.passes_of_decode) message whole
    obtain ⟨requestId, status⟩ := Prod.mk.inj header
    exact ⟨earlier, first, since, same, isFirst, later, requestId, status, rest⟩

end HidShift
