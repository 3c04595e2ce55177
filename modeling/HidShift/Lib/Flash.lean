import Mathlib.Data.List.Basic

namespace HidShift.Lib

abbrev Flash := Nat → UInt8

namespace Flash

def read (flash : Flash) (offset size : Nat) : List UInt8 :=
  (List.range size).map fun index => flash (offset + index)

/-- Replaces the bytes of one range. -/
def fill (flash : Flash) (offset size : Nat) (content : Flash) : Flash :=
  fun address =>
    if offset ≤ address ∧ address < offset + size then
      content (address - offset)
    else
      flash address

def erased : Flash := fun _ => 0xff

/-- Programs the given bytes. -/
def ofBytes (bytes : List UInt8) : Flash := fun index => bytes.getD index 0

def program (flash : Flash) (offset : Nat) (bytes : List UInt8) : Flash :=
  fun address =>
    if offset ≤ address then
      flash address &&& bytes.getD (address - offset) 0xff
    else
      flash address

theorem read_fill_same (flash content : Flash) (offset size : Nat) :
    (flash.fill offset size content).read offset size =
      (List.range size).map content := by
  apply List.map_congr_left
  intro index member
  have inside := List.mem_range.mp member
  rw [fill, if_pos ⟨Nat.le_add_right _ _, Nat.add_lt_add_left inside offset⟩,
    Nat.add_sub_cancel_left]

theorem read_fill_disjoint (flash content : Flash)
    (apart : start + length ≤ offset ∨ offset + size ≤ start) :
    (flash.fill offset size content).read start length =
      flash.read start length := by
  apply List.map_congr_left
  intro index member
  have inside := List.mem_range.mp member
  rw [fill, if_neg (by omega)]

variable {bytes : List UInt8}

theorem read_ofBytes (sized : bytes.length = size) :
    (List.range size).map (ofBytes bytes) = bytes := by
  subst sized
  apply List.ext_getElem (by simp)
  intro index _ inside
  rw [List.getElem_map, List.getElem_range, ofBytes,
    List.getD_eq_getElem?_getD, List.getElem?_eq_getElem inside]
  rfl

theorem read_fill_prefix (flash content : Flash) (offset : Nat)
    (fits : length ≤ size) :
    (flash.fill offset size content).read offset length =
      content.read 0 length := by
  apply List.map_congr_left
  intro index member
  have inside := List.mem_range.mp member
  rw [fill, if_pos (by omega), Nat.add_sub_cancel_left, Nat.zero_add]

theorem read_congr {flash other : Flash}
    (same : ∀ index < size, flash (offset + index) = other (offset + index)) :
    flash.read offset size = other.read offset size :=
  List.map_congr_left fun index member =>
    same index (List.mem_range.mp member)

section

variable (flash : Flash)

@[simp] theorem length_read (offset size : Nat) :
    (flash.read offset size).length = size := by
  rw [read, List.length_map, List.length_range]

theorem program_outside
    (outside : address < offset ∨ offset + bytes.length ≤ address) :
    flash.program offset bytes address = flash address := by
  unfold program
  split
  · rw [List.getD_eq_getElem?_getD, List.getElem?_eq_none (by omega)]
    exact UInt8.and_neg_one
  · rfl

theorem read_program_disjoint
    (apart : start + length ≤ offset ∨ offset + bytes.length ≤ start) :
    (flash.program offset bytes).read start length =
      flash.read start length := by
  apply read_congr
  intro index inside
  exact flash.program_outside (by omega)

theorem program_erased (inside : index < size) (bytes : List UInt8) :
    (flash.fill offset size erased).program offset bytes (offset + index) =
      bytes.getD index 0xff := by
  have wiped : flash.fill offset size erased (offset + index) = 0xff :=
    if_pos ⟨Nat.le_add_right _ _, Nat.add_lt_add_left inside offset⟩
  rw [program, if_pos (Nat.le_add_right _ _), wiped, Nat.add_sub_cancel_left]
  exact UInt8.neg_one_and

theorem read_program_erased {offset size : Nat} (fits : bytes.length ≤ size) :
    ((flash.fill offset size erased).program offset bytes).read offset
      bytes.length = bytes := by
  apply List.ext_getElem (length_read _ _ _)
  intro index _ inside
  simp only [read, List.getElem_map, List.getElem_range]
  rw [program_erased flash (Nat.lt_of_lt_of_le inside fits),
    List.getD_eq_getElem?_getD, List.getElem?_eq_getElem inside]
  rfl

theorem read_append (offset first second : Nat) :
    flash.read offset (first + second) =
      flash.read offset first ++ flash.read (offset + first) second := by
  rw [read, List.range_add, List.map_append, List.map_map]
  congr 1
  apply List.map_congr_left
  intro index _
  exact congrArg flash (Nat.add_assoc offset first index).symm

end

end Flash

end HidShift.Lib
