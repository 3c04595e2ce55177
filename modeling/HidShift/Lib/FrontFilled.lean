import Mathlib.Data.List.ReduceOption

/-! Fixed arrays of optional entries filled from the front: the entries come
first, oldest at slot zero, and the free slots after them.  New entries go to
the first free slot and a prefix is released by shifting. -/

namespace HidShift.Lib

variable {α : Type}

def frontFilled (capacity : Nat) (entries : List α) : List (Option α) :=
  entries.map some ++ List.replicate (capacity - entries.length) none

namespace FrontFilled

variable {capacity : Nat} {entries : List α}

theorem nil : frontFilled capacity ([] : List α) =
    List.replicate capacity none := by
  rw [frontFilled, List.map_nil, List.nil_append, List.length_nil, Nat.sub_zero]

theorem reduceOption :
    (frontFilled capacity entries).reduceOption = entries := by
  rw [frontFilled, List.reduceOption_append, List.reduceOption_replicate_none,
    List.append_nil]
  induction entries with
  | nil => rfl
  | cons head tail ih =>
      rw [List.map_cons, List.reduceOption_cons_of_some, ih]

theorem length_le (filled : (frontFilled capacity entries).length = capacity) :
    entries.length ≤ capacity := by
  rw [frontFilled, List.length_append, List.length_map,
    List.length_replicate] at filled
  omega

theorem free_slot
    (found : (frontFilled capacity entries).findIdx? Option.isNone =
      some slot) :
    slot = entries.length ∧ entries.length < capacity := by
  have skipped : entries.findIdx? (Option.isNone ∘ some) = none :=
    List.findIdx?_eq_none_iff.mpr fun _ _ => rfl
  rw [frontFilled, List.findIdx?_append, List.findIdx?_map, skipped,
    List.findIdx?_replicate, List.length_map] at found
  split at found
  · rename_i free
    rw [Option.map_some, Option.none_or, Nat.zero_add] at found
    exact ⟨(Option.some.inj found).symm, by omega⟩
  · cases found

theorem first_free (free : entries.length < capacity) :
    (frontFilled capacity entries).findIdx? Option.isNone =
      some entries.length := by
  have skipped : entries.findIdx? (Option.isNone ∘ some) = none :=
    List.findIdx?_eq_none_iff.mpr fun _ _ => rfl
  rw [frontFilled, List.findIdx?_append, List.findIdx?_map, skipped,
    List.findIdx?_replicate, if_pos ⟨by omega, rfl⟩, List.length_map]
  rw [Option.map_some, Option.none_or, Nat.zero_add]

theorem fill_slot (free : entries.length < capacity) (entry : α) :
    (frontFilled capacity entries).set entries.length (some entry) =
      frontFilled capacity (entries ++ [entry]) := by
  obtain ⟨spare, spareSlots⟩ : ∃ spare, capacity - entries.length = spare + 1 :=
    ⟨capacity - entries.length - 1, by omega⟩
  have used : capacity - (entries ++ [entry]).length = spare := by
    rw [List.length_append, List.length_singleton]
    omega
  rw [frontFilled, frontFilled, spareSlots, used, List.replicate_succ,
    List.set_append_right _ _ (Nat.le_of_eq (List.length_map some)),
    List.length_map, Nat.sub_self, List.set_cons_zero, List.map_append, List.append_assoc]
  rfl

theorem find (accepts : α → Bool) :
    (frontFilled capacity entries).findIdx? (fun slot => slot.any accepts) =
      entries.findIdx? accepts := by
  rw [frontFilled, List.findIdx?_append, List.findIdx?_map,
    List.findIdx?_replicate]
  simp [Function.comp_def]

theorem map (change : α → α) :
    (frontFilled capacity entries).map (Option.map change) =
      frontFilled capacity (entries.map change) := by
  rw [frontFilled, frontFilled, List.map_append, List.map_replicate,
    List.length_map, List.map_map, List.map_map]
  rfl

theorem slot_join (index : Nat) :
    (frontFilled capacity entries)[index]?.join = entries[index]? := by
  rw [frontFilled, List.getElem?_append]
  split
  · rw [List.getElem?_map]
    cases entries[index]? <;> rfl
  · rename_i beyond
    rw [List.length_map, Nat.not_lt] at beyond
    rw [List.getElem?_replicate, List.getElem?_eq_none beyond]
    split <;> rfl

theorem shift (fits : entries.length ≤ capacity) (removed : Nat) :
    (List.ofFn fun destination : Fin capacity =>
        (frontFilled capacity entries)[destination.val + removed]?.join) =
      frontFilled capacity (entries.drop removed) := by
  refine List.ext_getElem? fun index => ?_
  rw [List.getElem?_ofFn]
  split
  · rename_i inside
    rw [slot_join, Nat.add_comm, ← List.getElem?_drop, frontFilled,
      List.getElem?_append, List.length_map]
    split
    · rename_i filled
      rw [List.getElem?_map, List.getElem?_eq_getElem filled]
      rfl
    · rename_i free
      rw [List.getElem?_eq_none (Nat.not_lt.mp free), List.getElem?_replicate,
        if_pos (by omega)]
  · rename_i outside
    rw [List.getElem?_eq_none]
    rw [frontFilled, List.length_append, List.length_map, List.length_replicate,
      List.length_drop]
    omega

theorem first_slot_nil :
    (frontFilled capacity ([] : List α)).findIdx? Option.isSome = none := by
  rw [nil, List.findIdx?_replicate]
  simp

theorem first_slot_cons (head : α) (tail : List α) :
    (frontFilled capacity (head :: tail)).findIdx? Option.isSome = some 0 := by
  rw [frontFilled, List.map_cons, List.cons_append, List.findIdx?_cons]
  rfl

theorem set_first (head changed : α) (tail : List α) :
    (frontFilled capacity (head :: tail)).set 0 (some changed) =
      frontFilled capacity (changed :: tail) := rfl

end FrontFilled

end HidShift.Lib
