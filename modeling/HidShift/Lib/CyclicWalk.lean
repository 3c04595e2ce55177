import Mathlib.Data.List.Rotate
import Mathlib.Data.List.TakeWhile

namespace HidShift.Lib

namespace CyclicWalk

variable {κ : Type} [DecidableEq κ] {items : List κ}

def successor (items : List κ) : Option κ → Option κ
  | none => items.head?
  | some current =>
      (items.dropWhile (· ≠ current)).tail.head?.or items.head?

/-- The items a walk meets in its first steps. -/
def visits (items : List κ) : Nat → Option κ → List κ
  | 0, _ => []
  | count + 1, current =>
      match successor items current with
      | none => []
      | some next => next :: visits items count (some next)

/-- Where a walk stands after some steps. -/
def position (items : List κ) : Nat → Option κ → Option κ
  | 0, current => current
  | count + 1, current =>
      match successor items current with
      | none => current
      | some next => position items count (some next)

theorem successor_isNone : successor items current = none ↔ items = [] := by
  cases current with
  | none => simp [successor]
  | some current =>
      cases items with
      | nil => simp [successor]
      | cons head tail => simp [successor]

theorem successor_absent (absent : current ∉ items) :
    successor items (some current) = items.head? := by
  have passed : items.dropWhile (· ≠ current) = [] := by
    rw [List.dropWhile_eq_nil_iff]
    intro item member
    refine decide_eq_true fun same => ?_
    subst same
    exact absent member
  rw [successor, passed]
  rfl

theorem successor_getElem (distinct : items.Nodup)
    (bound : index < items.length) :
    successor items (some items[index]) =
      items[(index + 1) % items.length]? := by
  have stops : items.dropWhile (· ≠ items[index]) = items.drop index := by
    have earlier : ∀ item ∈ items.take index,
        decide (item ≠ items[index]) = true := by
      intro item member
      obtain ⟨before, small, rfl⟩ := List.mem_iff_getElem.mp member
      rw [List.length_take] at small
      rw [List.getElem_take]
      refine decide_eq_true fun same => ?_
      have indices := (distinct.getElem_inj_iff).mp same
      omega
    calc items.dropWhile (· ≠ items[index])
        = (items.take index ++ items.drop index).dropWhile
            (· ≠ items[index]) := by rw [List.take_append_drop]
      _ = items.drop index := by
        rw [List.dropWhile_append_of_pos earlier,
          List.drop_eq_getElem_cons bound,
          List.dropWhile_cons_of_neg (by simp)]
  rw [successor, stops, List.tail_drop, List.head?_drop, List.head?_eq_getElem?]
  by_cases last : index + 1 < items.length
  · rw [Nat.mod_eq_of_lt last, List.getElem?_eq_getElem last]
    rfl
  · have wraps : index + 1 = items.length := by omega
    rw [wraps, Nat.mod_self, List.getElem?_eq_none (Nat.le_refl _)]
    rfl

theorem rotate_take {start count : Nat} (fits : count < items.length) :
    ∃ bound : start % items.length < items.length,
      (items.rotate start).take (count + 1) =
        items[start % items.length] ::
          (items.rotate (start + 1)).take count := by
  have bound : start % items.length < items.length :=
    Nat.mod_lt _ (by omega)
  refine ⟨bound, ?_⟩
  have length : (items.rotate start).length = items.length :=
    List.length_rotate items start
  cases rotated : items.rotate start with
  | nil =>
      rw [rotated, List.length_nil] at length
      omega
  | cons first rest =>
      have next : items.rotate (start + 1) = rest ++ [first] := by
        rw [← List.rotate_rotate, rotated, List.rotate_cons_succ,
          List.rotate_zero]
      have head : first = items[start % items.length] := by
        have zero := List.getElem_rotate items start 0 (by omega)
        simpa [rotated] using zero
      rw [rotated, List.length_cons] at length
      rw [next, List.take_succ_cons, head,
        List.take_append_of_le_length (by omega)]

theorem visits_getElem (distinct : items.Nodup) (bound : index < items.length)
    (fits : count ≤ items.length) :
    visits items count (some items[index]) =
      (items.rotate (index + 1)).take count := by
  induction count generalizing index with
  | zero => rfl
  | succ count ih =>
      obtain ⟨small, split⟩ := @rotate_take _ _ items (index + 1) count fits
      have around : items.rotate ((index + 1) % items.length + 1) =
          items.rotate (index + 1 + 1) := by
        rw [← List.rotate_mod, Nat.mod_add_mod, List.rotate_mod]
      rw [visits, successor_getElem distinct bound,
        List.getElem?_eq_getElem small, split]
      dsimp only
      rw [ih small (by omega), around]

theorem visits_same_successor
    (same : successor items current = successor items other) (count : Nat) :
    visits items count current = visits items count other := by
  cases count with
  | zero => rfl
  | succ count => rw [visits, visits, same]

/-- One round meets every item once, wherever it starts. -/
theorem visits_perm (distinct : items.Nodup) (current : Option κ) :
    (visits items items.length current).Perm items := by
  have within : ∀ {index : Nat} (bound : index < items.length),
      (visits items items.length (some items[index])).Perm items := by
    intro index bound
    have whole : items.length = (items.rotate (index + 1)).length :=
      (List.length_rotate items _).symm
    rw [visits_getElem distinct bound (Nat.le_refl _), whole, List.take_length]
    exact List.rotate_perm items _
  by_cases nobody : items = []
  · subst nobody
    exact .nil
  · have last : items.length - 1 < items.length :=
      Nat.sub_one_lt fun empty => nobody (List.length_eq_zero_iff.mp empty)
    have outside : successor items current = items.head? →
        (visits items items.length current).Perm items := by
      intro first
      have wraps : items.length - 1 + 1 = items.length := by omega
      rw [visits_same_successor (first.trans _)]
      · exact within last
      · rw [successor_getElem distinct last, wraps, Nat.mod_self,
          List.head?_eq_getElem?]
    cases current with
    | none => exact outside rfl
    | some current =>
        by_cases member : current ∈ items
        · obtain ⟨index, bound, rfl⟩ := List.mem_iff_getElem.mp member
          exact within bound
        · exact outside (successor_absent member)

theorem visits_add (first second : Nat) (current : Option κ) :
    visits items (first + second) current =
      visits items first current ++
        visits items second (position items first current) := by
  induction first generalizing current with
  | zero => rw [Nat.zero_add, visits, position, List.nil_append]
  | succ first ih =>
      rw [Nat.succ_add, visits, visits, position]
      cases moved : successor items current with
      | none =>
          cases second with
          | zero => rfl
          | succ second => simp only [visits, moved, List.append_nil]
      | some next => exact congrArg (List.cons next) (ih (some next))

theorem visits_length (someone : items ≠ []) (count : Nat)
    (current : Option κ) : (visits items count current).length = count := by
  induction count generalizing current with
  | zero => rfl
  | succ count ih =>
      rw [visits]
      cases moved : successor items current with
      | none => exact absurd (successor_isNone.mp moved) someone
      | some next => exact congrArg Nat.succ (ih (some next))

/-- So does every later round. -/
theorem visits_round (distinct : items.Nodup) (before : Nat)
    (current : Option κ) :
    ((visits items (before + items.length) current).drop before).Perm
      items := by
  by_cases nobody : items = []
  · subst nobody
    have nothing : ∀ count, visits ([] : List κ) count current = [] := by
      intro count
      cases count with
      | zero => rfl
      | succ count =>
          rw [visits, successor_isNone.mpr rfl]
    rw [nothing, List.drop_nil]
  · have length := visits_length nobody before current
    rw [visits_add, List.drop_left' length]
    exact visits_perm distinct _

end CyclicWalk

end HidShift.Lib
