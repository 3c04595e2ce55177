import HidShift.Lib.Bits
import HidShift.UsbHid.FrameDomains
import HidShift.UsbHid.ReportSafe
import Mathlib.Algebra.Order.Ring.Int
import Mathlib.Data.List.Pairwise

namespace HidShift

open Lib Lib.Checked

section

variable {payload : List UInt8} {start count : Nat}

theorem readBits_bits (inside : start + count ≤ payload.length * 8)
    (small : payload.length * 8 < usizeCount) (narrow : count ≤ 32) :
    EndsIn (readBits payload start count) fun value =>
      ∀ place < 32, value.toBitVec.getLsbD place =
        (decide (place < count) && bitAt payload (start + place)) := by
  induction count with
  | zero =>
      refine endsIn_pure fun place _ => ?_
      rw [decide_eq_false (Nat.not_lt_zero place), Bool.false_and]
      simp
  | succ count ih =>
      refine endsIn_bind (ih (by omega) (by omega)) fun value bits => ?_
      refine endsIn_below (by omega) ?_
      refine endsIn_indexed_at (by omega) (endsIn_pure fun place below => ?_)
      rw [bit_of_byte _ (Nat.mod_lt _ (by decide)),
        getLsbD_or_bit32 _ _ (by omega) below, bits place below,
        show (payload.getD ((start + count) / 8) 0).toBitVec.getLsbD
          ((start + count) % 8) = bitAt payload (start + count) from rfl]
      rcases Nat.lt_trichotomy place count with before | same | after
      · simp [before, Nat.lt_succ_of_lt before, before.ne]
      · simp [same]
      · simp [after.ne', Nat.not_lt.mpr after.le, Nat.not_lt.mpr after]

theorem writeBits_bits (inside : start + count ≤ payload.length * 8)
    (small : payload.length * 8 < usizeCount) (narrow : count ≤ 32) :
    EndsIn (writeBits raw start count payload) fun written =>
      written.length = payload.length ∧ ∀ bit, bitAt written bit =
        if start ≤ bit ∧ bit < start + count then
          raw.toBitVec.getLsbD (bit - start)
        else bitAt payload bit := by
  induction count with
  | zero =>
      refine endsIn_pure ⟨rfl, fun bit => ?_⟩
      rw [if_neg (by omega)]
  | succ count ih =>
      refine endsIn_bind (ih (by omega) (by omega)) fun written done => ?_
      obtain ⟨same, bits⟩ := done
      have byte : (start + count) / 8 < written.length := by omega
      refine endsIn_below (by omega) (endsIn_indexed_at byte ?_)
      refine endsIn_lift (if_pos byte) ⟨by rw [List.length_set, same], ?_⟩
      intro bit
      have set := bitAt_set byte (raw.toBitVec.getLsbD count) bit
      simp only [and_bit32 raw (show count < 32 by omega)] at set ⊢
      rw [set, bits]
      by_cases here : bit = start + count
      · rw [if_pos here, if_pos (by omega), here, Nat.add_sub_cancel_left]
      · rw [if_neg here]
        by_cases before : start ≤ bit ∧ bit < start + count
        · rw [if_pos before, if_pos (by omega)]
        · rw [if_neg before, if_neg (by omega)]

end

theorem shifted_one64 : ∀ size < 33,
    ((1 : Int64) <<< (UInt8.ofNat size).toUInt64.toInt64).toInt = 2 ^ size := by
  decide +kernel

theorem low_mask32 : ∀ size < 32,
    (((1 : UInt32) <<< (UInt8.ofNat size).toUInt32) - 1).toNat =
      2 ^ size - 1 := by
  decide +kernel

theorem high_mask32 : ∀ size < 32,
    (~~~(((1 : UInt32) <<< size.toUInt32) - 1)).toNat =
      2 ^ size * (2 ^ (32 - size) - 1) := by
  decide +kernel

theorem two_pow_cast (size : Nat) : ((2 ^ size : Nat) : Int) = 2 ^ size := by
  push_cast
  rfl

theorem two_pow_half {size : Nat} (positive : 0 < size) :
    2 ^ size = 2 * 2 ^ (size - 1) := by
  rw [← pow_succ', Nat.sub_add_cancel positive]

theorem toNat_fieldBits {value : Int32} {bitSize : UInt8}
    (narrow : bitSize.toNat ≤ 32) (low : -2 ^ bitSize.toNat ≤ value.toInt) :
    ((fieldBits value bitSize).toNat : Int) =
      if value < 0 then value.toInt + 2 ^ bitSize.toNat else value.toInt := by
  have size : bitSize = UInt8.ofNat bitSize.toNat :=
    UInt8.ofNat_toNat.symm
  have bound : (2 : Int) ^ bitSize.toNat ≤ 2 ^ 32 :=
    pow_le_pow_right₀ (by decide) narrow
  have least := Int32.minValue_le_toInt value
  unfold fieldBits
  split
  · rename_i negative
    have below : value.toInt < 0 := Int32.lt_iff_toInt_lt.mp negative
    generalize wrap : value.toInt64 + ((1 : Int64) <<<
      bitSize.toUInt64.toInt64) = wrapped
    have sum : wrapped.toInt = value.toInt + 2 ^ bitSize.toNat := by
      rw [← wrap, Int64.toInt_add, Int32.toInt_toInt64, size,
        shifted_one64 _ (by omega), ← size]
      exact Int.bmod_eq_of_le (by omega) (by omega)
    have whole : (wrapped.toUInt64.toNat : Int) =
        value.toInt + 2 ^ bitSize.toNat := by
      rw [Int64.toNat_toUInt64_of_le (Int64.le_iff_toInt_le.mpr (by
        rw [sum]
        exact Int.le_of_sub_nonneg (by simp; omega))), ← sum]
      exact Int.toNat_of_nonneg (by omega)
    have mask : (if bitSize = 32 then (0xffffffff : UInt32)
        else (1 <<< bitSize.toUInt32) - 1).toNat = 2 ^ bitSize.toNat - 1 := by
      split
      · rename_i full
        rw [full]
        rfl
      · rename_i partly
        rw [size, low_mask32 _ (Nat.lt_of_le_of_ne narrow fun full => partly
          (UInt8.toNat_inj.mp full)), ← size]
    have fits : wrapped.toUInt64.toNat < 2 ^ bitSize.toNat := by
      rw [← two_pow_cast] at whole low
      omega
    dsimp only
    rw [UInt32.toNat_and, mask, Nat.and_two_pow_sub_one_eq_mod,
      UInt64.toNat_toUInt32, Nat.mod_eq_of_lt (Nat.lt_of_lt_of_le fits
        (Nat.pow_le_pow_right (by decide) narrow)), Nat.mod_eq_of_lt fits,
      whole]
  · rename_i positive
    have above : 0 ≤ value := Int32.not_lt.mp positive
    rw [Int32.toNat_toUInt32_of_le above]
    exact Int.toNat_of_nonneg (Int32.le_iff_toInt_le.mp above)

theorem eq_of_bits {raw value : UInt32} (small : raw.toNat < 2 ^ size)
    (bits : ∀ place < 32, value.toBitVec.getLsbD place =
      (decide (place < size) && raw.toBitVec.getLsbD place)) : value = raw := by
  refine UInt32.toBitVec_inj.mp (BitVec.eq_of_getLsbD_eq ?_)
  intro place inside
  rw [bits place inside]
  by_cases low : place < size
  · rw [decide_eq_true low, Bool.true_and]
  · rw [decide_eq_false low, Bool.false_and]
    exact (Nat.testBit_lt_two_pow (Nat.lt_of_lt_of_le small
      (Nat.pow_le_pow_right (by decide) (Nat.not_lt.mp low)))).symm

theorem toInt_toInt32 (word : UInt32) :
    word.toInt32.toInt =
      if 2 * word.toNat < 4294967296 then (word.toNat : Int)
      else (word.toNat : Int) - 4294967296 :=
  BitVec.toInt_eq_toNat_cond word.toBitVec

namespace ReportField

def number (field : ReportField) (raw : UInt32) : Int32 :=
  if field.logicalMin < 0 ∧ field.bitSize < 32 then
    if raw &&& (1 <<< (field.bitSize.toNat - 1).toUInt32) ≠ 0 then
      (raw ||| ~~~((1 <<< field.bitSize.toNat.toUInt32) - 1)).toInt32
    else raw.toInt32
  else raw.toInt32

/-- The logical bounds are in order and fit the bits, in two's complement if
there are negative values. -/
def Representable (field : ReportField) : Prop :=
  field.logicalMin ≤ field.logicalMax ∧
    if field.logicalMin < 0 then
      -2 ^ (field.bitSize.toNat - 1) ≤ field.logicalMin.toInt ∧
        field.logicalMax.toInt < 2 ^ (field.bitSize.toNat - 1)
    else field.logicalMax.toInt < 2 ^ field.bitSize.toNat

variable {field : ReportField} {value : Int32}

theorem signBit_iff (positive : 0 < field.bitSize.toNat)
    (narrow : field.bitSize.toNat ≤ 32)
    (small : raw.toNat < 2 ^ field.bitSize.toNat) :
    raw &&& (1 <<< (field.bitSize.toNat - 1).toUInt32) ≠ 0 ↔
      2 ^ (field.bitSize.toNat - 1) ≤ raw.toNat := by
  have size : (2 : Nat) ^ field.bitSize.toNat =
      2 ^ (field.bitSize.toNat - 1) * 2 := by
    rw [← pow_succ, Nat.sub_add_cancel positive]
  rw [and_bit32 raw (by omega)]
  change raw.toNat.testBit (field.bitSize.toNat - 1) = true ↔ _
  rw [Nat.testBit_eq_decide_div_mod_eq, decide_eq_true_iff]
  have quotient : raw.toNat / 2 ^ (field.bitSize.toNat - 1) < 2 :=
    Nat.div_lt_of_lt_mul (by omega)
  rw [Nat.mod_eq_of_lt quotient]
  have least := @Nat.le_div_iff_mul_le (2 ^ (field.bitSize.toNat - 1)) 1
    raw.toNat (Nat.pow_pos (by decide))
  omega

theorem number_extended (narrow : field.bitSize.toNat < 32)
    (small : raw.toNat < 2 ^ field.bitSize.toNat)
    (high : 2 ^ (field.bitSize.toNat - 1) ≤ raw.toNat)
    (positive : 0 < field.bitSize.toNat) :
    (raw ||| ~~~((1 <<< field.bitSize.toNat.toUInt32) - 1)).toInt32.toInt =
      (raw.toNat : Int) - 2 ^ field.bitSize.toNat := by
  have size := two_pow_half positive
  have word : (2 : Nat) ^ field.bitSize.toNat *
      2 ^ (32 - field.bitSize.toNat) = 4294967296 := by
    rw [← pow_add, Nat.add_sub_cancel' narrow.le]
    rfl
  have bound : (2 : Nat) ^ field.bitSize.toNat ≤ 2 ^ 31 :=
    Nat.pow_le_pow_right (by decide) (by omega)
  have filled : (raw ||| ~~~((1 <<< field.bitSize.toNat.toUInt32) -
      1)).toNat = 4294967296 - 2 ^ field.bitSize.toNat + raw.toNat := by
    rw [UInt32.toNat_or, high_mask32 _ narrow, Nat.or_comm,
      ← Nat.two_pow_add_eq_or_of_lt small, Nat.mul_sub, word, Nat.mul_one]
  rw [toInt_toInt32, filled, if_neg (by omega), ← two_pow_cast]
  omega

theorem fieldBits_lt (positive : 0 < field.bitSize.toNat)
    (narrow : field.bitSize.toNat ≤ 32) (fits : field.Representable)
    (low : field.logicalMin ≤ value) (high : value ≤ field.logicalMax) :
    (fieldBits value field.bitSize).toNat < 2 ^ field.bitSize.toNat := by
  rw [Int32.le_iff_toInt_le] at low high
  have size := two_pow_half positive
  obtain ⟨ordered, range⟩ := fits
  by_cases signed : field.logicalMin < 0
  · rw [if_pos signed, ← two_pow_cast] at range
    have raw := @toNat_fieldBits value field.bitSize narrow (by
      rw [← two_pow_cast]
      omega)
    rw [← two_pow_cast] at raw
    split at raw
    · rename_i negative
      have below : value.toInt < 0 := Int32.lt_iff_toInt_lt.mp negative
      omega
    · omega
  · rw [if_neg signed, ← two_pow_cast] at range
    have above : 0 ≤ field.logicalMin.toInt :=
      Int32.le_iff_toInt_le.mp (Int32.not_lt.mp signed)
    have raw := @toNat_fieldBits value field.bitSize narrow (by
      rw [← two_pow_cast]
      omega)
    rw [if_neg (by
      rw [Int32.lt_iff_toInt_lt]
      exact Int.not_lt.mpr (above.trans low))] at raw
    omega

theorem number_fieldBits (positive : 0 < field.bitSize.toNat)
    (narrow : field.bitSize.toNat ≤ 32) (fits : field.Representable)
    (low : field.logicalMin ≤ value) (high : value ≤ field.logicalMax) :
    field.number (fieldBits value field.bitSize) = value := by
  have small := fieldBits_lt positive narrow fits low high
  rw [Int32.le_iff_toInt_le] at low high
  have size := two_pow_half positive
  have bound : (2 : Nat) ^ field.bitSize.toNat ≤ 4294967296 :=
    Nat.pow_le_pow_right (by decide) narrow
  have top := Int32.toInt_lt value
  have bottom := Int32.le_toInt value
  obtain ⟨ordered, range⟩ := fits
  refine Int32.toInt_inj.mp ?_
  unfold number
  by_cases signed : field.logicalMin < 0
  · rw [if_pos signed, ← two_pow_cast] at range
    have raw := @toNat_fieldBits value field.bitSize narrow (by
      rw [← two_pow_cast]
      omega)
    rw [← two_pow_cast] at raw
    generalize fieldBits value field.bitSize = word at raw small ⊢
    have top := signBit_iff positive narrow small
    by_cases partly : field.bitSize < 32
    · rw [if_pos ⟨signed, partly⟩]
      by_cases negative : value < 0
      · have below : value.toInt < 0 := Int32.lt_iff_toInt_lt.mp negative
        rw [if_pos negative] at raw
        have high : 2 ^ (field.bitSize.toNat - 1) ≤ word.toNat := by omega
        rw [if_pos (top.mpr high), number_extended
          (UInt8.lt_iff_toNat_lt.mp partly) small high positive, ← two_pow_cast]
        omega
      · rw [if_neg negative] at raw
        rw [if_neg fun set => absurd (top.mp set) (by omega), toInt_toInt32]
        split <;> omega
    · have full : field.bitSize.toNat = 32 := by
        rw [UInt8.lt_iff_toNat_lt] at partly
        exact Nat.le_antisymm narrow (Nat.not_lt.mp partly)
      rw [full] at raw size
      rw [if_neg fun both => partly both.2, toInt_toInt32]
      by_cases negative : value < 0
      · have below : value.toInt < 0 := Int32.lt_iff_toInt_lt.mp negative
        rw [if_pos negative] at raw
        split <;> omega
      · have above : 0 ≤ value.toInt :=
          Int32.le_iff_toInt_le.mp (Int32.not_lt.mp negative)
        rw [if_neg negative] at raw
        split <;> omega
  · rw [if_neg signed, ← two_pow_cast] at range
    have above : 0 ≤ field.logicalMin.toInt :=
      Int32.le_iff_toInt_le.mp (Int32.not_lt.mp signed)
    have raw := @toNat_fieldBits value field.bitSize narrow (by
      rw [← two_pow_cast]
      omega)
    rw [if_neg (by
      rw [Int32.lt_iff_toInt_lt]
      exact Int.not_lt.mpr (above.trans low))] at raw
    rw [if_neg fun both => signed both.1, toInt_toInt32]
    split <;> omega

/-- `clamp` -/
def clamp (field : ReportField) (value : Int32) : Int32 :=
  if value < field.logicalMin then field.logicalMin
  else if field.logicalMax < value then field.logicalMax
  else value

def Covers (field : ReportField) (index bit : Nat) : Prop :=
  field.startOf index ≤ bit ∧ bit < field.startOf index + field.bitSize.toNat

instance (field : ReportField) (index bit : Nat) :
    Decidable (field.Covers index bit) :=
  inferInstanceAs (Decidable (_ ∧ _))

def Occupies (field : ReportField) (bit : Nat) : Prop :=
  field.bitOffset.toNat ≤ bit ∧
    bit < field.bitOffset.toNat + field.count.toNat * field.bitSize.toNat

def Long (field : ReportField) (payload : List UInt8) : Prop :=
  field.bitOffset.toNat + field.count.toNat * field.bitSize.toNat ≤
    payload.length * 8

variable {payload : List UInt8} {index : Nat}

theorem clamp_bounds (ordered : field.logicalMin ≤ field.logicalMax) :
    field.logicalMin ≤ field.clamp value ∧
      field.clamp value ≤ field.logicalMax := by
  unfold clamp
  split
  · exact ⟨Int32.le_refl _, ordered⟩
  · rename_i above
    split
    · exact ⟨ordered, Int32.le_refl _⟩
    · rename_i below
      exact ⟨Int32.not_lt.mp above, Int32.not_lt.mp below⟩

theorem toInt_clamp (ordered : field.logicalMin ≤ field.logicalMax) :
    (field.clamp value).toInt =
      max field.logicalMin.toInt (min value.toInt field.logicalMax.toInt) := by
  rw [Int32.le_iff_toInt_le] at ordered
  unfold clamp
  simp only [Int32.lt_iff_toInt_lt]
  split
  · omega
  · split <;> omega

theorem endOf_le (inside : index < field.count.toNat) :
    field.startOf index + field.bitSize.toNat ≤
      field.bitOffset.toNat + field.count.toNat * field.bitSize.toNat := by
  have next := Nat.mul_le_mul_right field.bitSize.toNat
    (show index + 1 ≤ field.count.toNat from inside)
  rw [Nat.add_mul, Nat.one_mul] at next
  rw [startOf]
  omega

theorem Covers.occupies (inside : index < field.count.toNat)
    (covers : field.Covers index bit) : field.Occupies bit := by
  have whole := endOf_le inside
  obtain ⟨first, last⟩ := covers
  refine ⟨?_, by omega⟩
  rw [startOf] at first
  omega

theorem Long.inside (long : field.Long payload) (value : field.HasValue index)
    (below : field.startOf index + field.bitSize.toNat < usizeCount) :
    field.Inside payload index := by
  have whole := endOf_le value.2.2
  unfold Long at long
  exact ⟨value, below, by omega⟩

section

variable (inside : field.Inside payload index)
    (small : payload.length * 8 < usizeCount)

include inside small

theorem position_inside :
    Yields (field.position payload index)
      (.ok (some (field.startOf index))) := by
  have addressable : field.Addressable payload index :=
    fun _ => ⟨by have bits := inside.2.1; omega, fun _ => small⟩
  obtain ⟨start, yields, found⟩ :=
    (field.position_needs payload index).endsIn addressable
  rw [(found _).mpr ⟨inside, rfl⟩] at yields
  exact yields

theorem extractI32_inside (fits : raw.toNat < 2 ^ field.bitSize.toNat)
    (bits : ∀ place < field.bitSize.toNat,
      bitAt payload (field.startOf index + place) =
        raw.toBitVec.getLsbD place) :
    Yields (field.extractI32 payload index)
      (.ok (some (field.number raw))) := by
  obtain ⟨nonzero, narrow, -⟩ := inside.1
  have narrow : field.bitSize.toNat ≤ 32 := UInt8.le_iff_toNat_le.mp narrow
  obtain ⟨word, read, same⟩ := readBits_bits inside.2.2 small narrow
  have word_eq : word = raw := by
    refine eq_of_bits fits fun place below => ?_
    rw [same place below]
    by_cases low : place < field.bitSize.toNat
    · rw [bits place low]
    · rw [decide_eq_false low, Bool.false_and, Bool.false_and]
  rw [word_eq] at read
  unfold extractI32 extractU32
  refine yields_then (yields_then (position_inside inside small)
    (yields_then read (yields_pure _))) ?_
  have positive : 1 ≤ field.bitSize.toNat := by
    by_contra zero
    refine nonzero (UInt8.toNat_inj.mp ?_)
    rw [UInt8.toNat_zero]
    omega
  unfold number
  dsimp only
  split
  · rename_i signed
    have partly : field.bitSize.toNat < 32 :=
      UInt8.lt_iff_toNat_lt.mp signed.2
    refine yields_lift (if_pos positive) (yields_lift (if_pos partly) ?_)
    split
    · exact yields_pure _
    · exact yields_pure _
  · exact yields_pure _

theorem writeI32_inside
    (ordered : field.logicalMin ≤ field.logicalMax) (value : Int32) :
    EndsIn (field.writeI32 payload index value) fun written =>
      written.2 = true ∧ written.1.length = payload.length ∧
        ∀ bit, bitAt written.1 bit =
          if field.Covers index bit then
            (fieldBits (field.clamp value) field.bitSize).toBitVec.getLsbD
              (bit - field.startOf index)
          else bitAt payload bit := by
  obtain ⟨-, narrow, -⟩ := inside.1
  have narrow : field.bitSize.toNat ≤ 32 := UInt8.le_iff_toNat_le.mp narrow
  refine endsIn_bind ⟨_, position_inside inside small, rfl⟩ ?_
  intro start found
  cases found
  have clamps : Yields (field.clamped value) (.ok (field.clamp value)) := by
    unfold clamped clamp
    rw [if_pos ordered]
    rfl
  refine endsIn_bind ⟨_, clamps, rfl⟩ ?_
  intro clamped same
  cases same
  refine endsIn_bind (writeBits_bits inside.2.2 small narrow) ?_
  intro written done
  exact endsIn_pure ⟨rfl, done⟩

end

end ReportField

section

variable {fieldCapacity : Nat}
  {descriptor : HidReportDescriptor fieldCapacity} {reportId : UInt8}
  {payload : List UInt8}

abbrev MotionAxis := UInt16 × UInt16 × Int32

def HidReportDescriptor.axisField
    (descriptor : HidReportDescriptor fieldCapacity) (reportId : UInt8)
    (axis : MotionAxis) : Option FieldRead :=
  descriptor.fieldOf reportId axis.1 axis.2.1

structure Rewritten (descriptor : HidReportDescriptor fieldCapacity)
    (reportId : UInt8) (payload : List UInt8) (done : List MotionAxis)
    (progress : List UInt8 × Bool) : Prop where
  length : progress.1.length = payload.length
  kept : ∀ bit, (∀ axis ∈ done, ∀ read,
      descriptor.axisField reportId axis = some read →
        ¬ read.1.Covers read.2 bit) →
    bitAt progress.1 bit = bitAt payload bit
  written : ∀ axis ∈ done, ∀ read,
    descriptor.axisField reportId axis = some read →
      ∀ place < read.1.bitSize.toNat,
        bitAt progress.1 (read.1.startOf read.2 + place) =
          (fieldBits (read.1.clamp axis.2.2)
            read.1.bitSize).toBitVec.getLsbD place
  wrote : progress.2 = true ↔
    ∃ axis ∈ done, (descriptor.axisField reportId axis).isSome = true

def AxesApart (descriptor : HidReportDescriptor fieldCapacity)
    (reportId : UInt8) (first second : MotionAxis) : Prop :=
  ∀ read other, descriptor.axisField reportId first = some read →
    descriptor.axisField reportId second = some other →
      ∀ bit, ¬ (read.1.Covers read.2 bit ∧ other.1.Covers other.2 bit)

variable {progress : List UInt8 × Bool}

theorem Rewritten.skip
    (rewritten : Rewritten descriptor reportId payload done progress)
    (missing : descriptor.axisField reportId axis = none) :
    Rewritten descriptor reportId payload (done ++ [axis]) progress where
  length := rewritten.length
  kept := by
    intro bit outside
    refine rewritten.kept bit fun other member => ?_
    exact outside other (List.mem_append_left _ member)
  written := by
    intro other member read found
    rcases List.mem_append.mp member with earlier | last
    · exact rewritten.written other earlier read found
    · rw [List.mem_singleton.mp last, missing] at found
      cases found
  wrote := by
    rw [rewritten.wrote]
    simp [missing]

theorem Rewritten.write {done : List MotionAxis}
    (rewritten : Rewritten descriptor reportId payload done progress)
    {axis : MotionAxis} {read : FieldRead}
    (found : descriptor.axisField reportId axis = some read)
    (apart : ∀ other ∈ done, AxesApart descriptor reportId other axis)
    {written : List UInt8} (length : written.length = progress.1.length)
    (bits : ∀ bit, bitAt written bit = if read.1.Covers read.2 bit then
      (fieldBits (read.1.clamp axis.2.2) read.1.bitSize).toBitVec.getLsbD (bit
      - read.1.startOf read.2) else bitAt progress.1 bit) :
    Rewritten descriptor reportId payload (done ++ [axis])
      (written, progress.2 || true) where
  length := length.trans rewritten.length
  kept := by
    intro bit outside
    dsimp only
    rw [bits, if_neg (outside axis List.mem_concat_self read found)]
    refine rewritten.kept bit fun other member => ?_
    exact outside other (List.mem_append_left _ member)
  written := by
    intro other member place foundPlace offset inside
    dsimp only
    rcases List.mem_append.mp member with earlier | last
    · rw [bits, if_neg fun covered => apart other earlier place read
        foundPlace found _ ⟨⟨Nat.le_add_right _ _, by omega⟩, covered⟩]
      exact rewritten.written other earlier place foundPlace offset inside
    · rw [List.mem_singleton.mp last] at foundPlace ⊢
      rw [found] at foundPlace
      cases foundPlace
      rw [bits, if_pos ⟨Nat.le_add_right _ _, by omega⟩,
        Nat.add_sub_cancel_left]
  wrote := by
    rw [Bool.or_true]
    exact iff_of_true rfl ⟨axis, List.mem_concat_self, by rw [found]; rfl⟩

theorem rewriteAxes_ends
    {axes done : List MotionAxis} {progress : List UInt8 × Bool}
    (usable : ∀ axis ∈ axes, ∀ read,
      descriptor.axisField reportId axis = some read →
        payload.length * 8 < usizeCount ∧
          read.1.Inside payload read.2 ∧
          read.1.logicalMin ≤ read.1.logicalMax)
    (apart : (done ++ axes).Pairwise (AxesApart descriptor reportId))
    (rewritten : Rewritten descriptor reportId payload done progress) :
    EndsIn (axes.foldlM (descriptor.rewriteAxis reportId) progress)
      (Rewritten descriptor reportId payload (done ++ axes)) := by
  induction axes generalizing done progress with
  | nil =>
      rw [List.append_nil]
      exact endsIn_pure rewritten
  | cons axis rest ih =>
      obtain ⟨now, later⟩ := List.forall_mem_cons.mp usable
      have before : ∀ other ∈ done,
          AxesApart descriptor reportId other axis := by
        intro other member
        exact (List.pairwise_append.mp apart).2.2 other member axis
          List.mem_cons_self
      rw [List.append_cons] at apart ⊢
      rw [List.foldlM_cons]
      suffices step : EndsIn (descriptor.rewriteAxis reportId progress axis)
          (Rewritten descriptor reportId payload (done ++ [axis])) from
        endsIn_bind step fun next after => ih later apart after
      unfold HidReportDescriptor.rewriteAxis
      cases found : descriptor.axisField reportId axis with
      | none =>
          rw [show descriptor.fieldOf reportId axis.1 axis.2.1 = none
            from found]
          exact endsIn_pure (rewritten.skip found)
      | some read =>
          obtain ⟨small, inside, ordered⟩ := now read found
          have same := rewritten.length
          rw [show descriptor.fieldOf reportId axis.1 axis.2.1 = some read
            from found]
          have inside : read.1.Inside progress.1 read.2 := by
            unfold ReportField.Inside
            rw [same]
            exact inside
          refine endsIn_bind (ReportField.writeI32_inside inside
            (by rw [same]; exact small) ordered axis.2.2) ?_
          intro written done
          obtain ⟨wrote, length, bits⟩ := done
          have after := rewritten.write found before length bits
          rw [← wrote] at after
          exact endsIn_pure after

theorem indexOfUsage_eq_some {field : ReportField}
    (found : field.indexOfUsage usage = some index) :
    index < field.count.toNat ∧ index = (usage - field.usageMin).toNat := by
  unfold ReportField.indexOfUsage at found
  split at found
  · cases found
  · dsimp only at found
    split at found
    · rename_i inside
      cases found
      exact ⟨inside, rfl⟩
    · cases found

theorem covers_apart {field : ReportField} (differ : first ≠ second)
    (bit : Nat) :
    ¬ (field.Covers first bit ∧ field.Covers second bit) := by
  intro both
  obtain ⟨⟨firstLow, firstHigh⟩, secondLow, secondHigh⟩ := both
  unfold ReportField.startOf at firstLow firstHigh secondLow secondHigh
  rcases Nat.lt_or_gt_of_ne differ with before | after
  · have next := Nat.mul_le_mul_right field.bitSize.toNat
      (show first + 1 ≤ second from before)
    rw [Nat.add_mul, Nat.one_mul] at next
    omega
  · have next := Nat.mul_le_mul_right field.bitSize.toNat
      (show second + 1 ≤ first from after)
    rw [Nat.add_mul, Nat.one_mul] at next
    omega

def HidReportDescriptor.FieldsApart
    (descriptor : HidReportDescriptor fieldCapacity) (reportId : UInt8) :
    Prop :=
  (descriptor.fields.toList.filter
    fun field => field.reportId = reportId).Pairwise
      fun first second => ∀ bit, ¬ (first.Occupies bit ∧ second.Occupies bit)

theorem HidReportDescriptor.FieldsApart.axes
    (apart : descriptor.FieldsApart reportId)
    (differ : (first.1, first.2.1) ≠ (second.1, second.2.1)) :
    AxesApart descriptor reportId first second := by
  intro read other found foundOther bit both
  obtain ⟨member, page, -, stands⟩ := fieldOf_found descriptor reportId found
  obtain ⟨otherMember, otherPage, -, otherStands⟩ :=
    fieldOf_found descriptor reportId foundOther
  obtain ⟨inside, index⟩ := indexOfUsage_eq_some stands
  obtain ⟨otherInside, otherIndex⟩ := indexOfUsage_eq_some otherStands
  by_cases same : read.1 = other.1
  · rw [same] at both
    refine covers_apart ?_ bit both
    intro samePlace
    refine differ (Prod.ext ?_ ?_)
    · exact page.symm.trans ((congrArg ReportField.usagePage same).trans
        otherPage)
    · rw [index, otherIndex, UInt16.toNat_inj, same] at samePlace
      exact (UInt16.sub_left_inj _).mp samePlace
  · have fields : ∀ field, field ∈ descriptor.inputFields reportId →
        field ∈ descriptor.fields.toList.filter
          fun field => field.reportId = reportId := by
      intro field active
      rw [HidReportDescriptor.inputFields, List.mem_filter] at active
      simp only [decide_eq_true_eq] at active
      rw [List.mem_filter, decide_eq_true_eq]
      exact ⟨active.1, active.2.1⟩
    have symm : Std.Symm fun first second : ReportField =>
        ∀ bit, ¬ (first.Occupies bit ∧ second.Occupies bit) :=
      ⟨fun _ _ clear bit both => clear bit both.symm⟩
    refine List.Pairwise.forall apart (fields _ member) (fields _ otherMember)
      same bit ?_
    exact ⟨both.1.occupies inside, both.2.occupies otherInside⟩

theorem motionAxes_apart (apart : descriptor.FieldsApart reportId)
    (movement : MouseMovement) :
    (HidReportDescriptor.motionAxes movement).Pairwise
      (AxesApart descriptor reportId) := by
  have pages : (HidReportDescriptor.motionAxes movement).Pairwise
      fun first second => (first.1, first.2.1) ≠ (second.1, second.2.1) := by
    unfold HidReportDescriptor.motionAxes
    simp [usagePageGenericDesktop, usagePageConsumer, usageX, usageY,
      usageWheel]
  exact pages.imp apart.axes

/-- The fields of a report are apart and all there, and those of the axes have
a size and a place the code does not skip and bounds that fit. -/
structure MotionUsable (descriptor : HidReportDescriptor fieldCapacity)
    (reportId : UInt8) (payload : List UInt8) : Prop where
  apart : descriptor.FieldsApart reportId
  long : ∀ field ∈ descriptor.fields.toList, field.reportId = reportId →
    field.Long payload
  sized : ∀ read ∈ descriptor.motionReads reportId,
    read.1.bitSize ≠ 0 ∧ read.1.bitSize ≤ 32 ∧
      read.1.startOf read.2 + read.1.bitSize.toNat < usizeCount
  bounds : ∀ read ∈ descriptor.motionReads reportId, read.1.Representable

variable {movement : MouseMovement} {axis : MotionAxis} {read : FieldRead}

theorem mem_motionReads
    (member : axis ∈ HidReportDescriptor.motionAxes movement)
    (found : descriptor.axisField reportId axis = some read) :
    read ∈ descriptor.motionReads reportId := by
  rw [← motionReads_eq movement, List.mem_flatMap]
  exact ⟨axis, member, Option.mem_toList.mpr found⟩

section

variable (usable : MotionUsable descriptor reportId payload)

include usable

theorem MotionUsable.inside
    (member : axis ∈ HidReportDescriptor.motionAxes movement)
    (found : descriptor.axisField reportId axis = some read) :
    read.1.Inside payload read.2 := by
  obtain ⟨active, -, -, stands⟩ := fieldOf_found descriptor reportId found
  obtain ⟨inside, -⟩ := indexOfUsage_eq_some stands
  obtain ⟨nonzero, narrow, below⟩ := usable.sized read
    (mem_motionReads member found)
  rw [HidReportDescriptor.inputFields, List.mem_filter] at active
  simp only [decide_eq_true_eq] at active
  exact (usable.long read.1 active.1 active.2.1).inside
    ⟨nonzero, narrow, inside⟩ below

theorem MotionUsable.small {report : List UInt8}
    (matched : descriptor.matchingPayload report = .ok (reportId, payload))
    (room : report.length ≤ out.length)
    (finishes : Finishes (descriptor.rewriteRelativeMotion report movement out))
    (member : axis ∈ HidReportDescriptor.motionAxes movement)
    (found : descriptor.axisField reportId axis = some read) :
    payload.length * 8 < usizeCount := by
  have known := mem_motionReads member found
  have writable := (rewriteRelativeMotion_room room movement).mp finishes
    reportId payload matched read known
  have inside := usable.inside member found
  exact (writable.1 inside.1).2 inside.2.1

theorem Rewritten.reads (small : payload.length * 8 < usizeCount)
    (rewritten : Rewritten descriptor reportId payload
      (HidReportDescriptor.motionAxes movement) progress)
    (member : axis ∈ HidReportDescriptor.motionAxes movement)
    (found : descriptor.axisField reportId axis = some read) :
    Yields (descriptor.extractI32 progress.1 reportId axis.1 axis.2.1)
      (.ok (some (read.1.clamp axis.2.2))) := by
  have known := mem_motionReads member found
  obtain ⟨nonzero, narrow, -⟩ := usable.sized read known
  have fits := usable.bounds read known
  have narrow : read.1.bitSize.toNat ≤ 32 := UInt8.le_iff_toNat_le.mp narrow
  have positive : 0 < read.1.bitSize.toNat := by
    refine Nat.pos_of_ne_zero fun zero => nonzero (UInt8.toNat_inj.mp ?_)
    exact zero
  obtain ⟨low, high⟩ := @ReportField.clamp_bounds read.1 axis.2.2 fits.1
  have inside : read.1.Inside progress.1 read.2 := by
    unfold ReportField.Inside
    rw [rewritten.length]
    exact usable.inside member found
  have back := ReportField.extractI32_inside inside
    (by rw [rewritten.length]; exact small)
    (ReportField.fieldBits_lt positive narrow fits low high)
    (rewritten.written axis member read found)
  rw [ReportField.number_fieldBits positive narrow fits low high] at back
  unfold HidReportDescriptor.extractI32
  rw [show descriptor.fieldOf reportId axis.1 axis.2.1 = some read from found]
  exact back

theorem rewriteRelativeMotion_ends {report : List UInt8}
    (matched : descriptor.matchingPayload report = .ok (reportId, payload))
    (room : report.length ≤ out.length)
    (finishes : Finishes
      (descriptor.rewriteRelativeMotion report movement out)) :
    ∃ progress, Rewritten descriptor reportId payload
        (HidReportDescriptor.motionAxes movement) progress ∧
      Yields (descriptor.rewriteRelativeMotion report movement out)
        (if progress.2 then
          .ok (report.length, report.take descriptor.hasReportIds.toNat ++
            progress.1 ++ out.drop report.length)
        else .error .motionFieldMissing) := by
  have start : Rewritten descriptor reportId payload [] (payload, false) := by
    refine ⟨rfl, fun _ _ => rfl, ?_, ?_⟩
    · intro axis impossible
      cases impossible
    · simp
  obtain ⟨progress, yields, rewritten⟩ := rewriteAxes_ends
    (fun axis member read found =>
      ⟨usable.small matched room finishes member found,
        usable.inside member found,
        (usable.bounds read (mem_motionReads member found)).1⟩)
    (motionAxes_apart usable.apart movement) start
  refine ⟨progress, rewritten, ?_⟩
  have offset := (matchingPayload_drop matched).1
  unfold HidReportDescriptor.rewriteRelativeMotion
  rw [if_neg (Nat.not_lt.mpr room), matched]
  refine yields_then (yields_result _) ?_
  refine yields_then (sliced_payload out matched) (yields_then yields ?_)
  dsimp only
  split
  · rw [List.take_append_of_le_length offset, List.drop_left]
    exact yields_pure _
  · exact yields_throw _

end

theorem take_written {report out rewritten : List UInt8} {skipped : Nat}
    (offset : skipped ≤ report.length)
    (length : rewritten.length = report.length - skipped) :
    (report.take skipped ++ rewritten ++ out.drop report.length).take
        report.length = report.take skipped ++ rewritten ∧
      (report.take skipped ++ rewritten ++ out.drop report.length).drop
        report.length = out.drop report.length := by
  have whole : (report.take skipped ++ rewritten).length = report.length := by
    rw [List.length_append, List.length_take, length]
    omega
  exact ⟨List.take_left' whole, List.drop_left' whole⟩

theorem matchingPayload_rewritten {report : List UInt8}
    (matched : descriptor.matchingPayload report = .ok (reportId, payload)) :
    descriptor.matchingPayload
        (report.take descriptor.hasReportIds.toNat ++ rewritten) =
      .ok (reportId, rewritten) := by
  unfold HidReportDescriptor.matchingPayload at matched ⊢
  cases ids : descriptor.hasReportIds with
  | false =>
      rw [ids] at matched
      cases matched
      rfl
  | true =>
      rw [ids] at matched
      cases report with
      | nil => cases matched
      | cons first rest =>
          cases matched
          rfl

/-- The rewrite leaves the length and every other bit of the report alone, and
each axis reads back as the movement clamped to its field.  It misses the
motion fields only where there are none. -/
theorem rewriteRelativeMotion_exact {report : List UInt8}
    (matched : descriptor.matchingPayload report = .ok (reportId, payload))
    (usable : MotionUsable descriptor reportId payload)
    (movement : MouseMovement) (out : List UInt8) :
    (∀ length written,
      Yields (descriptor.rewriteRelativeMotion report movement out)
          (.ok (length, written)) →
        length = report.length ∧ written.length = out.length ∧
        written.drop length = out.drop length ∧
        ∃ rewritten,
          descriptor.matchingPayload (written.take length) =
            .ok (reportId, rewritten) ∧
          rewritten.length = payload.length ∧
          (∀ bit, (∀ read ∈ descriptor.motionReads reportId,
              ¬ read.1.Covers read.2 bit) →
            bitAt rewritten bit = bitAt payload bit) ∧
          ∀ axis ∈ HidReportDescriptor.motionAxes movement, ∀ field index,
            descriptor.fieldOf reportId axis.1 axis.2.1 =
                some (field, index) →
              ∃ value, Yields (descriptor.extractI32 rewritten reportId
                  axis.1 axis.2.1) (.ok (some value)) ∧
                value.toInt = max field.logicalMin.toInt
                  (min axis.2.2.toInt field.logicalMax.toInt)) ∧
    (Yields (descriptor.rewriteRelativeMotion report movement out)
        (.error .motionFieldMissing) →
      descriptor.motionReads reportId = []) := by
  by_cases room : report.length ≤ out.length
  · obtain ⟨offset, rest⟩ := matchingPayload_drop matched
    refine ⟨?_, ?_⟩
    · intro length written yields
      obtain ⟨progress, rewritten, ends⟩ :=
        rewriteRelativeMotion_ends usable matched room yields.finishes
      have size : progress.1.length =
          report.length - descriptor.hasReportIds.toNat := by
        rw [rewritten.length, ← rest, List.length_drop]
      obtain ⟨front, back⟩ := @take_written _ out _ _ offset size
      have same := ends.symm.trans yields
      split at same
      · cases same
        refine ⟨rfl, ?_, back, progress.1, ?_, rewritten.length, ?_, ?_⟩
        · rw [List.length_append, List.length_append, List.length_take,
            List.length_drop, size]
          omega
        · rw [front, matchingPayload_rewritten matched]
        · intro bit outside
          refine rewritten.kept bit fun axis member read found => ?_
          exact outside read (mem_motionReads member found)
        · intro axis member field index found
          have ordered := (usable.bounds (field, index)
            (mem_motionReads member found)).1
          have small := usable.small matched room yields.finishes member found
          exact ⟨_, rewritten.reads usable small member found,
            ReportField.toInt_clamp ordered⟩
      · cases same
    · intro missing
      obtain ⟨progress, rewritten, ends⟩ :=
        rewriteRelativeMotion_ends usable matched room missing.finishes
      have same := ends.symm.trans missing
      split at same
      · cases same
      · rename_i nothing
        rw [rewritten.wrote, not_exists] at nothing
        rw [← motionReads_eq movement, List.flatMap_eq_nil_iff]
        intro axis member
        rw [Option.toList_eq_nil_iff, ← Option.not_isSome_iff_eq_none]
        exact fun some => nothing axis ⟨member, some⟩
  · have tooSmall : Yields
        (descriptor.rewriteRelativeMotion report movement out)
          (.error .outputBufferTooSmall) := by
      unfold HidReportDescriptor.rewriteRelativeMotion
      rw [if_pos (Nat.lt_of_not_le room)]
      exact yields_throw _
    refine ⟨?_, ?_⟩
    · intro length written yields
      have same := tooSmall.symm.trans yields
      cases same
    · intro missing
      have same := tooSmall.symm.trans missing
      cases same

end

def wideField : ReportField :=
  ⟨0, usagePageGenericDesktop, usageX, usageX, 0, 64, 1, fieldFlagVariable,
    -127, 127⟩

def wideAxis : HidReportDescriptor 1 := .ofField wideField

/-- The axis is there and its report is long enough, and it is missed. -/
theorem wide_axis_missed :
    wideAxis.FieldsApart 0 ∧ wideField.Long (List.replicate 8 0) ∧
      wideField.Representable ∧
      wideAxis.motionReads 0 = [(wideField, 0)] ∧
      Yields (wideAxis.rewriteRelativeMotion (List.replicate 8 0) ⟨5, 0, 0, 0⟩
        (List.replicate 8 0)) (.error .motionFieldMissing) := by
  refine ⟨List.pairwise_singleton _ _, by unfold ReportField.Long; decide, ?_,
    by decide, ?_⟩
  · unfold ReportField.Representable
    decide
  · unfold Yields
    decide +kernel

def smallMouse : HidReportDescriptor 1 :=
  .ofField ⟨0, usagePageGenericDesktop, usageX, usageY, 4, 12, 2,
    fieldFlagVariable, -2047, 2047⟩

theorem smallMouse_usable : MotionUsable smallMouse 0 [0, 0, 0, 0] where
  apart := List.pairwise_singleton _ _
  long := by
    unfold ReportField.Long
    decide
  sized := by decide
  bounds := by
    unfold ReportField.Representable
    decide

theorem smallMouse_exact :
    ∃ value, Yields (smallMouse.extractI32 [0x50, 0, 0xfd, 0x0f] 0
        usagePageGenericDesktop usageY) (.ok (some value)) ∧
      value.toInt = max (-2047) (min (-3) 2047) := by
  obtain ⟨-, -, -, rewritten, matched, -, -, reads⟩ :=
    (rewriteRelativeMotion_exact rfl smallMouse_usable ⟨5, -3, 0, 0⟩
      [0, 0, 0, 0]).1 4 [0x50, 0, 0xfd, 0x0f] (by
        unfold Yields
        decide +kernel)
  cases matched
  exact reads (usagePageGenericDesktop, usageY, -3) (by decide) _ 1 rfl

end HidShift
