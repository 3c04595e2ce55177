import Mathlib.Data.List.Basic
import Mathlib.Tactic.Ring

/-! Byte strings with a fixed layout: little-endian numbers, fields at fixed
offsets, and runs of records of one size. -/

namespace HidShift.Lib

def leBytes : Nat → Nat → List UInt8
  | 0, _ => []
  | width + 1, value => UInt8.ofNat value :: leBytes width (value / 256)

def leValue : List UInt8 → Nat
  | [] => 0
  | byte :: rest => byte.toNat + 256 * leValue rest

@[simp] theorem length_leBytes (width value : Nat) :
    (leBytes width value).length = width := by
  induction width generalizing value with
  | zero => rfl
  | succ width ih => rw [leBytes, List.length_cons, ih]

theorem leValue_leBytes (fits : value < 256 ^ width) :
    leValue (leBytes width value) = value := by
  induction width generalizing value with
  | zero =>
      rw [Nat.pow_zero] at fits
      rw [leBytes, leValue]
      omega
  | succ width ih =>
      have rest : value / 256 < 256 ^ width := by
        apply Nat.div_lt_of_lt_mul
        rw [Nat.pow_succ, Nat.mul_comm] at fits
        exact fits
      rw [leBytes, leValue, ih rest, UInt8.toNat_ofNat']
      omega

theorem leValue_lt (bytes : List UInt8) :
    leValue bytes < 256 ^ bytes.length := by
  induction bytes with
  | nil => exact Nat.one_pos
  | cons byte rest ih =>
      have small : byte.toNat < 256 := byte.toNat_lt
      rw [leValue, List.length_cons, Nat.pow_succ]
      omega

theorem leBytes_leValue (bytes : List UInt8) :
    leBytes bytes.length (leValue bytes) = bytes := by
  induction bytes with
  | nil => rfl
  | cons byte rest ih =>
      have small : byte.toNat < 256 := byte.toNat_lt
      have quotient : (byte.toNat + 256 * leValue rest) / 256 =
          leValue rest := by omega
      rw [List.length_cons, leBytes, leValue, quotient, ih]
      congr 1
      apply UInt8.toNat_inj.mp
      rw [UInt8.toNat_ofNat']
      omega

variable {α : Type}

/-- Writes `field` into `image` at `offset`; what would reach past the end is
cut off. -/
def overwrite (image : List α) (offset : Nat) (field : List α) : List α :=
  image.mapIdx fun index old =>
    if offset ≤ index then field.getD (index - offset) old else old

def slice (image : List α) (offset size : Nat) : List α :=
  (image.drop offset).take size

@[simp] theorem length_overwrite (image : List α) (offset : Nat)
    (field : List α) : (overwrite image offset field).length = image.length :=
  List.length_mapIdx

theorem getElem?_overwrite (image : List α) (offset : Nat) (field : List α)
    (index : Nat) :
    (overwrite image offset field)[index]? =
      image[index]?.map fun old =>
        if offset ≤ index then field.getD (index - offset) old else old := by
  rw [overwrite, List.getElem?_mapIdx]

theorem getElem?_slice (image : List α) (offset size index : Nat) :
    (slice image offset size)[index]? =
      if index < size then image[offset + index]? else none := by
  rw [slice, List.getElem?_take, List.getElem?_drop]

theorem slice_overwrite_same (sized : field.length = size)
    (inside : offset + size ≤ image.length) :
    slice (overwrite image offset field) offset size = field := by
  refine List.ext_getElem? fun index => ?_
  rw [getElem?_slice]
  split
  · rename_i within
    have written : offset + index < image.length := by omega
    have present : index < field.length := by omega
    rw [getElem?_overwrite, List.getElem?_eq_getElem written, Option.map_some,
      if_pos (Nat.le_add_right _ _), Nat.add_sub_cancel_left,
      List.getD_eq_getElem?_getD, List.getElem?_eq_getElem present]
    rfl
  · rw [List.getElem?_eq_none]
    omega

theorem slice_overwrite_disjoint
    (apart : start + size ≤ offset ∨ offset + field.length ≤ start) :
    slice (overwrite image offset field) start size =
      slice image start size := by
  refine List.ext_getElem? fun index => ?_
  rw [getElem?_slice, getElem?_slice]
  split
  · rename_i within
    rw [getElem?_overwrite]
    cases image[start + index]? with
    | none => rfl
    | some old =>
        rw [Option.map_some]
        split
        · rw [List.getD_eq_getElem?_getD, List.getElem?_eq_none (by omega)]
          rfl
        · rfl
  · rfl

theorem length_slice (inside : offset + size ≤ image.length) :
    (slice image offset size).length = size := by
  rw [slice, List.length_take, List.length_drop]
  omega

theorem slice_append_slice (image : List α) (offset first second : Nat) :
    slice image offset first ++ slice image (offset + first) second =
      slice image offset (first + second) := by
  rw [slice, slice, slice, List.take_add, List.drop_drop]

theorem slice_append_drop (image : List α) (offset size : Nat) :
    slice image offset size ++ image.drop (offset + size) =
      image.drop offset := by
  rw [slice, ← List.drop_drop, List.take_append_drop]

theorem slice_congr (same : slice image 0 reach = slice other 0 reach)
    (inside : offset + size ≤ reach) :
    slice image offset size = slice other offset size := by
  refine List.ext_getElem? fun index => ?_
  rw [getElem?_slice, getElem?_slice]
  split
  · have agree := congrArg (fun front => front[offset + index]?) same
    simp only [getElem?_slice, Nat.zero_add] at agree
    rwa [if_pos (by omega), if_pos (by omega)] at agree
  · rfl

theorem slice_front (sized : piece.length = size) :
    slice (piece ++ back) 0 size = piece := by
  subst sized
  rw [slice, List.drop_zero, List.take_left]

theorem slice_whole (sized : piece.length = size) :
    slice piece 0 size = piece := by
  subst sized
  rw [slice, List.drop_zero, List.take_length]

theorem slice_skip {front back : List α} {skipped : Nat}
    (before : front.length = skipped) (offset size : Nat) :
    slice (front ++ back) (skipped + offset) size = slice back offset size := by
  subst before
  rw [slice, slice, ← List.drop_drop, List.drop_left]

theorem slice_skip_front (before : front.length = skipped) (size : Nat) :
    slice (front ++ back) skipped size = slice back 0 size :=
  slice_skip before 0 size

theorem overwrite_append (before : done.length = offset)
    (room : field.length ≤ old.length) :
    overwrite (done ++ old) offset field =
      done ++ (field ++ old.drop field.length) := by
  subst before
  refine List.ext_getElem? fun index => ?_
  rw [getElem?_overwrite]
  by_cases early : index < done.length
  · rw [List.getElem?_append_left early, List.getElem?_append_left early]
    simp [Nat.not_le.mpr early]
  · have late : done.length ≤ index := Nat.le_of_not_lt early
    rw [List.getElem?_append_right late, List.getElem?_append_right late]
    by_cases within : index - done.length < field.length
    · rw [List.getElem?_append_left within, List.getElem?_eq_getElem (by omega)]
      simp [late, List.getElem?_eq_getElem within]
    · rw [List.getElem?_append_right (by omega), List.getElem?_drop]
      have same : field.length + (index - done.length - field.length) =
          index - done.length := by omega
      rw [same]
      cases old[index - done.length]? with
      | none => rfl
      | some byte => simp [late, Nat.le_of_not_lt within]

/-- Writes the records one after the other from position `index` of the run
that begins at `base`. -/
def overwriteRecords (base size : Nat) :
    List (List α) → Nat → List α → List α
  | [], _, image => image
  | record :: rest, index, image =>
      overwriteRecords base size rest (index + 1)
        (overwrite image (base + index * size) record)

/-- The records at positions `0 … count - 1` of the run that begins at
`base`. -/
def records (image : List α) (base size count : Nat) : List (List α) :=
  (List.range count).map fun index => slice image (base + index * size) size

@[simp] theorem length_overwriteRecords (base size : Nat)
    (written : List (List α)) (index : Nat) (image : List α) :
    (overwriteRecords base size written index image).length =
      image.length := by
  induction written generalizing index image with
  | nil => rfl
  | cons record rest ih => rw [overwriteRecords, ih, length_overwrite]

theorem slice_overwriteRecords_disjoint {written : List (List α)}
    (sized : ∀ record ∈ written, record.length = size)
    (apart : start + length ≤ base + index * size ∨
      base + (index + written.length) * size ≤ start) :
    slice (overwriteRecords base size written index image) start length =
      slice image start length := by
  induction written generalizing index image with
  | nil => rfl
  | cons record rest ih =>
      have recordSize := sized record List.mem_cons_self
      have bounds :
          (index + (record :: rest).length) * size =
            (index + 1 + rest.length) * size := by
        rw [List.length_cons]
        ring
      have next : (index + 1) * size = index * size + size := by ring
      have last : (index + 1) * size ≤ (index + 1 + rest.length) * size :=
        Nat.mul_le_mul_right size (Nat.le_add_right _ _)
      rw [bounds] at apart
      rw [overwriteRecords,
        ih (fun later member => sized later (List.mem_cons_of_mem _ member))
          (by omega),
        slice_overwrite_disjoint (by omega)]

theorem slice_overwriteRecords {written : List (List α)} {image : List α}
    (sized : ∀ record ∈ written, record.length = size)
    (inside : base + (index + written.length) * size ≤ image.length)
    (present : position < written.length) :
    slice (overwriteRecords base size written index image)
        (base + (index + position) * size) size =
      written.get ⟨position, present⟩ := by
  induction written generalizing index position image with
  | nil => cases present
  | cons record rest ih =>
      have recordSize := sized record List.mem_cons_self
      have restSized : ∀ later ∈ rest, later.length = size :=
        fun later member => sized later (List.mem_cons_of_mem _ member)
      have bounds :
          (index + (record :: rest).length) * size =
            (index + 1 + rest.length) * size := by
        rw [List.length_cons]
        ring
      have next : (index + 1) * size = index * size + size := by ring
      have last : (index + 1) * size ≤ (index + 1 + rest.length) * size :=
        Nat.mul_le_mul_right size (Nat.le_add_right _ _)
      rw [bounds] at inside
      rw [overwriteRecords]
      cases position with
      | zero =>
          change slice _ (base + index * size) size = record
          rw [slice_overwriteRecords_disjoint restSized (by omega),
            slice_overwrite_same recordSize (by omega)]
      | succ position =>
          rw [← Nat.add_assoc, Nat.add_right_comm]
          exact ih restSized (by rw [length_overwrite]; exact inside)
            (Nat.lt_of_succ_lt_succ present)

theorem records_overwriteRecords {written : List (List α)} {image : List α}
    (sized : ∀ record ∈ written, record.length = size)
    (inside : base + written.length * size ≤ image.length) :
    records (overwriteRecords base size written 0 image) base size
        written.length = written := by
  apply List.ext_getElem (by simp [records])
  intro position inRange present
  have read : slice (overwriteRecords base size written 0 image)
      (base + (0 + position) * size) size = written.get ⟨position, present⟩ :=
    slice_overwriteRecords sized (by rw [Nat.zero_add]; exact inside) present
  rw [Nat.zero_add] at read
  simp only [records, List.getElem_map, List.getElem_range]
  exact read

theorem records_congr (same : ∀ index < count,
      slice image (base + index * size) size =
        slice other (base + index * size) size) :
    records image base size count = records other base size count :=
  List.map_congr_left fun index member =>
    same index (List.mem_range.mp member)

end HidShift.Lib
