import Mathlib.Data.List.Basic
import Mathlib.Data.List.Nodup

namespace HidShift.Lib

structure BoundedVec (α : Type) (capacity : Nat) where
  toList : List α
  length_le : toList.length ≤ capacity
deriving DecidableEq

namespace BoundedVec

variable {α : Type} {capacity : Nat}

theorem ext {left right : BoundedVec α capacity}
    (lists : left.toList = right.toList) : left = right := by
  cases left
  cases right
  cases lists
  rfl

def empty : BoundedVec α capacity := ⟨[], Nat.zero_le _⟩

instance : Membership α (BoundedVec α capacity) where
  mem vec value := value ∈ vec.toList

instance [DecidableEq α] (value : α) (vec : BoundedVec α capacity) :
    Decidable (value ∈ vec) :=
  inferInstanceAs (Decidable (value ∈ vec.toList))

variable {vec : BoundedVec α capacity} {value : α}

theorem mem_toList :
    value ∈ vec ↔ value ∈ vec.toList := Iff.rfl

@[simp] theorem toList_empty :
    (empty : BoundedVec α capacity).toList = [] := rfl

/-- Appends one value, or gives nothing back when the vector is full. -/
def push? (vec : BoundedVec α capacity) (value : α) :
    Option (BoundedVec α capacity) :=
  if room : vec.toList.length < capacity then
    some ⟨vec.toList ++ [value], by
      rw [List.length_append, List.length_singleton]
      omega⟩
  else
    none

theorem push?_eq_some {vec next : BoundedVec α capacity} :
    vec.push? value = some next ↔
      next.toList = vec.toList ++ [value] := by
  simp only [push?]
  constructor
  · intro pushed
    split at pushed
    · cases pushed
      rfl
    · cases pushed
  · intro lists
    have bound := next.length_le
    rw [lists, List.length_append, List.length_singleton] at bound
    rw [dif_pos (by omega)]
    exact congrArg some (ext lists.symm)

theorem push?_eq_none :
    vec.push? value = none ↔ capacity ≤ vec.toList.length := by
  simp only [push?]
  split <;> simp <;> omega

theorem push?_room (value : α) (room : vec.toList.length < capacity) :
    ∃ next, vec.push? value = some next ∧
      next.toList = vec.toList ++ [value] := by
  cases pushed : vec.push? value with
  | none => exact absurd (push?_eq_none.mp pushed) (by omega)
  | some next => exact ⟨next, rfl, push?_eq_some.mp pushed⟩

/-- Appends the values one by one and stops at the first that does not fit. -/
def extend? (vec : BoundedVec α capacity) (values : List α) :
    Option (BoundedVec α capacity) :=
  values.foldlM push? vec

theorem extend?_eq_some {vec next : BoundedVec α capacity} :
    vec.extend? values = some next ↔
      next.toList = vec.toList ++ values := by
  simp only [extend?]
  induction values generalizing vec with
  | nil =>
      rw [List.append_nil]
      exact ⟨fun same => by cases same; rfl,
        fun lists => congrArg some (ext lists.symm)⟩
  | cons head tail ih =>
      rw [List.foldlM_cons]
      constructor
      · intro extended
        obtain ⟨middle, pushed, rest⟩ := Option.bind_eq_some_iff.mp extended
        rw [ih.mp rest, push?_eq_some.mp pushed, List.append_assoc]
        rfl
      · intro lists
        have room : (vec.toList ++ [head]).length ≤ capacity := by
          have bound := next.length_le
          rw [lists, List.length_append, List.length_cons] at bound
          rw [List.length_append, List.length_singleton]
          omega
        refine Option.bind_eq_some_iff.mpr
          ⟨⟨vec.toList ++ [head], room⟩, push?_eq_some.mpr rfl, ih.mpr ?_⟩
        rw [lists, List.append_assoc]
        rfl

/-- Appends one value; an error is dropped. -/
def pushed (vec : BoundedVec α capacity) (value : α) :
    BoundedVec α capacity :=
  (vec.push? value).getD vec

/-- Appends all the values or none; an error is dropped. -/
def extended (vec : BoundedVec α capacity) (values : List α) :
    BoundedVec α capacity :=
  (vec.extend? values).getD vec

theorem toList_pushed (room : vec.toList.length < capacity) :
    (vec.pushed value).toList = vec.toList ++ [value] := by
  obtain ⟨next, pushed, lists⟩ := push?_room value room
  rw [BoundedVec.pushed, pushed, Option.getD_some, lists]

theorem extend?_room (room : vec.toList.length + values.length ≤ capacity) :
    ∃ next, vec.extend? values = some next ∧
      next.toList = vec.toList ++ values := by
  rw [← List.length_append] at room
  exact ⟨⟨_, room⟩, extend?_eq_some.mpr rfl, rfl⟩

theorem extend?_eq_none :
    vec.extend? values = none ↔
      capacity < vec.toList.length + values.length := by
  constructor
  · intro full
    by_contra room
    obtain ⟨next, extended, -⟩ := extend?_room (Nat.le_of_not_lt room)
    rw [full] at extended
    cases extended
  · intro full
    cases extended : vec.extend? values with
    | none => rfl
    | some next =>
        have bound := next.length_le
        rw [extend?_eq_some.mp extended, List.length_append] at bound
        omega

theorem toList_extended (room : vec.toList.length + values.length ≤ capacity) :
    (vec.extended values).toList = vec.toList ++ values := by
  obtain ⟨next, extended, lists⟩ := extend?_room room
  rw [BoundedVec.extended, extended, Option.getD_some, lists]

theorem toList_pushed_of (holds : vec.toList = held)
    (room : held.length < capacity) :
    (vec.pushed value).toList = held ++ [value] := by
  rw [← holds] at room ⊢
  exact toList_pushed room

theorem toList_extended_of (holds : vec.toList = held)
    (room : held.length + values.length ≤ capacity) :
    (vec.extended values).toList = held ++ values := by
  rw [← holds] at room ⊢
  exact toList_extended room

def pushFront? (vec : BoundedVec α capacity) (value : α) :
    Option (BoundedVec α capacity) :=
  if room : vec.toList.length < capacity then
    some ⟨value :: vec.toList, room⟩
  else
    none

theorem pushFront?_eq_some {vec next : BoundedVec α capacity} :
    vec.pushFront? value = some next ↔
      next.toList = value :: vec.toList := by
  simp only [pushFront?]
  constructor
  · intro pushed
    split at pushed
    · cases pushed
      rfl
    · cases pushed
  · intro lists
    have bound := next.length_le
    rw [lists, List.length_cons] at bound
    rw [dif_pos (by omega)]
    exact congrArg some (ext lists.symm)

theorem set_length_le (vec : BoundedVec α capacity) (index : Nat)
    (value : α) : (vec.toList.set index value).length ≤ capacity := by
  rw [List.length_set]
  exact vec.length_le

def set (vec : BoundedVec α capacity) (index : Nat) (value : α) :
    BoundedVec α capacity :=
  ⟨vec.toList.set index value, vec.set_length_le index value⟩

@[simp] theorem toList_set (vec : BoundedVec α capacity) (index : Nat)
    (value : α) : (vec.set index value).toList = vec.toList.set index value :=
  rfl

def drop (vec : BoundedVec α capacity) (count : Nat) :
    BoundedVec α capacity :=
  ⟨vec.toList.drop count, by
    rw [List.length_drop]
    exact Nat.le_trans (Nat.sub_le _ _) vec.length_le⟩

@[simp] theorem toList_drop (vec : BoundedVec α capacity) (count : Nat) :
    (vec.drop count).toList = vec.toList.drop count := rfl

def take (vec : BoundedVec α capacity) (count : Nat) :
    BoundedVec α capacity :=
  ⟨vec.toList.take count, Nat.le_trans (List.length_take_le' _ _) vec.length_le⟩

/-- Keeps the values that satisfy `keep`, in order. -/
def retain (vec : BoundedVec α capacity) (keep : α → Bool) :
    BoundedVec α capacity :=
  ⟨vec.toList.filter keep,
    Nat.le_trans (List.length_filter_le keep vec.toList) vec.length_le⟩

@[simp] theorem toList_retain (vec : BoundedVec α capacity) (keep : α → Bool) :
    (vec.retain keep).toList = vec.toList.filter keep := rfl

def erase [DecidableEq α] (vec : BoundedVec α capacity) (value : α) :
    BoundedVec α capacity :=
  ⟨vec.toList.erase value, Nat.le_trans List.length_erase_le vec.length_le⟩

end BoundedVec

end HidShift.Lib
