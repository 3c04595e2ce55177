import HidShift.Lib.Bytes
import Mathlib.Tactic.IntervalCases

/-! The bits of a byte string, the lowest of a byte first, and words that are
put together from some of them. -/

namespace HidShift.Lib

def bitAt (bytes : List UInt8) (bit : Nat) : Bool :=
  (bytes.getD (bit / 8) 0).toBitVec.getLsbD (bit % 8)

theorem bitAt_take (inside : bit < kept * 8) :
    bitAt (bytes.take kept) bit = bitAt bytes bit := by
  unfold bitAt
  rw [List.getD_eq_getElem?_getD, List.getElem?_take_of_lt (by omega),
    ← List.getD_eq_getElem?_getD]

theorem bit_of_byte (byte : UInt8) (small : place < 8) :
    (byte >>> place.toUInt8) &&& 1 =
      if byte.toBitVec.getLsbD place then 1 else 0 := by
  apply UInt8.toNat_inj.mp
  have shift : place.toUInt8.toNat % 8 = place := by
    rw [show place.toUInt8.toNat = place from
      UInt8.toNat_ofNat_of_lt' (by rw [UInt8.size]; omega)]
    omega
  have bit : (byte.toBitVec.getLsbD place).toNat = byte.toNat / 2 ^ place % 2 :=
    Nat.toNat_testBit _ _
  rw [UInt8.toNat_and, UInt8.toNat_shiftRight, shift,
    Nat.shiftRight_eq_div_pow, show (1 : UInt8).toNat = 1 from rfl,
    Nat.and_one_is_mod, ← bit]
  cases byte.toBitVec.getLsbD place <;> rfl

theorem getLsbD_bit8 : ∀ place < 8, ∀ other < 8,
    ((1 : UInt8) <<< place.toUInt8).toBitVec.getLsbD other =
      decide (other = place) := by
  decide +kernel

theorem getLsbD_bit32 : ∀ place < 32, ∀ other < 32,
    ((1 : UInt32) <<< place.toUInt32).toBitVec.getLsbD other =
      decide (other = place) := by
  decide +kernel

theorem getLsbD_written (byte : UInt8) (small : place < 8)
    (otherSmall : other < 8) (bit : Bool) :
    (if bit then byte ||| ((1 : UInt8) <<< place.toUInt8)
      else byte &&& ~~~((1 : UInt8) <<< place.toUInt8)).toBitVec.getLsbD other =
        if other = place then bit else byte.toBitVec.getLsbD other := by
  have mask := getLsbD_bit8 place small other otherSmall
  cases bit with
  | true =>
      rw [if_pos rfl, UInt8.toBitVec_or, BitVec.getLsbD_or, mask]
      by_cases same : other = place <;> simp [same]
  | false =>
      rw [if_neg Bool.false_ne_true, UInt8.toBitVec_and, UInt8.toBitVec_not,
        BitVec.getLsbD_and, BitVec.getLsbD_not, mask]
      by_cases same : other = place <;> simp [same, otherSmall]

theorem bitAt_set (inside : place / 8 < bytes.length) (bit : Bool)
    (other : Nat) :
    bitAt (bytes.set (place / 8)
      (if bit then bytes.getD (place / 8) 0 |||
          ((1 : UInt8) <<< (place % 8).toUInt8)
        else bytes.getD (place / 8) 0 &&&
          ~~~((1 : UInt8) <<< (place % 8).toUInt8))) other =
      if other = place then bit else bitAt bytes other := by
  unfold bitAt
  by_cases sameByte : other / 8 = place / 8
  · rw [List.getD_eq_getElem?_getD, sameByte, List.getElem?_set_self inside,
      Option.getD_some, getLsbD_written _ (by omega) (by omega)]
    by_cases same : other = place
    · rw [if_pos same, if_pos (by rw [same])]
    · rw [if_neg same, if_neg (by omega)]
  · have differs : other ≠ place := by
      intro same
      rw [same] at sameByte
      exact sameByte rfl
    rw [if_neg differs, List.getD_eq_getElem?_getD,
      List.getElem?_set_ne (by omega), ← List.getD_eq_getElem?_getD]

theorem and_bit32 (raw : UInt32) (small : place < 32) :
    raw &&& ((1 : UInt32) <<< place.toUInt32) ≠ 0 ↔
      raw.toBitVec.getLsbD place = true := by
  have bits : ∀ other < 32, (raw &&& ((1 : UInt32) <<<
      place.toUInt32)).toBitVec.getLsbD other =
        (raw.toBitVec.getLsbD other && decide (other = place)) := by
    intro other inside
    rw [UInt32.toBitVec_and, BitVec.getLsbD_and,
      getLsbD_bit32 place small other inside]
  constructor
  · intro nonzero
    by_contra clear
    refine nonzero (UInt32.toBitVec_inj.mp (BitVec.eq_of_getLsbD_eq ?_))
    intro other inside
    rw [bits other inside]
    by_cases same : other = place
    · rw [same, Bool.eq_false_of_not_eq_true clear]
      simp
    · simp [same]
  · intro set zero
    have bit := bits place small
    rw [zero, set] at bit
    simp at bit

theorem getLsbD_or_bit32 (value : UInt32) (bit : Bool) (small : place < 32)
    (inside : other < 32) :
    (value ||| ((if bit then (1 : UInt8) else 0).toUInt32 <<<
      place.toUInt32)).toBitVec.getLsbD other =
        (value.toBitVec.getLsbD other || (bit && decide (other = place))) := by
  rw [UInt32.toBitVec_or, BitVec.getLsbD_or]
  cases bit with
  | true =>
      rw [if_pos rfl, show (1 : UInt8).toUInt32 = 1 from rfl,
        getLsbD_bit32 place small other inside, Bool.true_and]
  | false =>
      rw [if_neg Bool.false_ne_true, show (0 : UInt8).toUInt32 = 0 from rfl,
        UInt32.zero_shiftLeft, Bool.false_and]
      simp

end HidShift.Lib
